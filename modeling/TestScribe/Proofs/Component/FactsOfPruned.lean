import TestScribe.Component.Hooks
import TestScribe.Component.Imports
import TestScribe.Component.Markup
import TestScribe.Component.Name
import TestScribe.Proofs.Syntax.Pruning

/-!
# Names, hooks, markup and imports do not depend on comments

Each of the facts is read off a tree and off what is left of it when comments are taken out, and is
the same: positions are counted among the parts of a node, which are no comments, and fields are
filled by no comment.
-/

namespace TestScribe.Component

open Syntax

variable {s : Source} {c d t t' : Node}

/-! ## Kinds of nodes -/

theorem isFunctionValue_eq (h : Pruned c d) : isFunctionValue c = isFunctionValue d := by
  unfold isFunctionValue
  rw [h.kind]

theorem isClassDeclaration_eq (h : Pruned c d) : isClassDeclaration c = isClassDeclaration d := by
  unfold isClassDeclaration
  rw [h.kind]

theorem isVariableDeclaration_eq (h : Pruned c d) :
    isVariableDeclaration c = isVariableDeclaration d := by
  unfold isVariableDeclaration
  rw [h.kind]

/-! ## Name and form -/

theorem defaultName?_eq (h : Pruned c d) : defaultName? s c = defaultName? s d := by
  refine ((h.child? "declaration").or (h.child? "value")).bind_eq fun x y hxy => ?_
  simp only [hxy.kind, hxy.text s, isClassDeclaration_eq hxy, isFunctionValue_eq hxy,
    hxy.fieldText? s]
  split
  · rfl
  split
  · rfl
  split
  · refine (hxy.child? "arguments").bind_eq fun a b hab => ?_
    refine hab.parts.head?_rel.bind_eq fun e f hef => ?_
    rw [hef.kind, hef.text s, isFunctionValue_eq hef, hef.fieldText? s]
  · rfl

theorem defaultNames_eq (h : Pruned t t') : defaultNames s t = defaultNames s t' :=
  h.parts.filterMap_eq fun x y hxy => by
    rw [hxy.kind, hxy.hasChild "default" (by decide), defaultName?_eq hxy]

theorem topLevel_rel (h : Pruned t t') : List.Forall₂ Pruned (topLevel t) (topLevel t') :=
  List.rel_filterMap (fun x y hxy => by
    simp only [hxy.kind]
    split
    · exact hxy.child? "declaration"
    · exact .some hxy) h.parts

theorem functionNames_eq (h : Pruned t t') : functionNames s t = functionNames s t' :=
  (topLevel_rel h).filterMap_eq fun x y hxy => by rw [hxy.kind, hxy.fieldText? s]

theorem classNames_eq (h : Pruned t t') : classNames s t = classNames s t' :=
  (topLevel_rel h).filterMap_eq fun x y hxy => by
    rw [isClassDeclaration_eq hxy, hxy.fieldText? s]

theorem functionVariable?_eq (h : Pruned c d) : functionVariable? s c = functionVariable? s d :=
  (h.child? "name").bind_eq fun n m hn => (h.child? "value").bind_eq fun v w hv => by
    rw [h.kind, hn.kind, isFunctionValue_eq hv, hn.text s]

theorem variableNames_eq (h : Pruned t t') : variableNames s t = variableNames s t' :=
  (topLevel_rel h).flatMap_eq fun x y hxy => by
    rw [isVariableDeclaration_eq hxy, hxy.parts.filterMap_eq fun _ _ hv => functionVariable?_eq hv]

theorem name?_eq (h : Pruned t t') : name? s t = name? s t' := by
  unfold name?
  rw [defaultNames_eq h, functionNames_eq h, classNames_eq h, variableNames_eq h]

theorem form_eq (h : Pruned t t') (name : String) : form s t name = form s t' name := by
  unfold form
  rw [h.nodes.any_eq (fun x y hxy => by rw [isClassDeclaration_eq hxy, hxy.fieldText? s])
    fun x hx => by simp [isClassDeclaration, hx.kind]]

/-! ## Hooks and state -/

theorem hookName?_eq (h : Pruned c d) : hookName? s c = hookName? s d := by
  unfold hookName?
  rw [h.kind, h.text s, h.fieldText? s]

theorem hookCall?_eq (h : Pruned c d) : hookCall? s c = hookCall? s d := by
  unfold hookCall?
  rw [h.kind, (h.child? "function").bind_eq fun _ _ hxy => hookName?_eq hxy]

theorem hookCall?_comment (h : LooseComment c) : hookCall? s c = none := by
  simp [hookCall?, h.kind]

theorem callArguments_rel (h : Pruned c d) :
    List.Forall₂ Pruned (callArguments c) (callArguments d) :=
  ((h.child? "arguments").map fun _ _ hxy => hxy.parts).getD .nil

theorem dependencies?_eq {xs ys : List Node} (h : List.Forall₂ Pruned xs ys) (hook : String) :
    dependencies? s hook xs = dependencies? s hook ys := by
  unfold dependencies?
  split
  · refine (h.getElem?_rel 1).bind_eq fun x y hxy => ?_
    rw [hxy.kind, hxy.parts.map_eq fun _ _ hz => hz.text s]
  · rfl

theorem hook?_eq {v w : Visit} (h : v.Pruned w) : hook? s v = hook? s w := by
  unfold hook?
  rw [hookCall?_eq h.node]
  simp only [dependencies?_eq (callArguments_rel h.node)]

/-- The items of an array pattern, the bracket and the comments left out. -/
theorem patternItems_rel (h : Pruned c d) :
    List.Forall₂ Pruned (c.children.filter fun n => n.kind != "[" && !n.isComment)
      (d.children.filter fun n => n.kind != "[" && !n.isComment) :=
  h.children.filter (fun x y hxy => by rw [hxy.kind, hxy.isComment]) fun x hx => by
    simp [Node.isComment, hx.kind]

/-- A comment fills no field, so it does not hide that a call is the value of its declaration. -/
theorem noValueBefore_eq {v w : Visit} (h : v.Pruned w) :
    (v.before.all fun n => n.field != some "value") =
      w.before.all fun n => n.field != some "value" :=
  h.before.all_eq (fun x y hxy => by rw [hxy.field]) fun x hx => by rw [hx.field]; rfl

theorem stateName?_eq {v w : Visit} (h : v.Pruned w) : stateName? s v = stateName? s w := by
  refine h.parent.bind_eq fun x y hxy => ?_
  simp only [hxy.kind, h.node.field, noValueBefore_eq h]
  split
  · refine (hxy.child? "name").bind_eq fun p q hpq => ?_
    rw [hpq.kind]
    split
    · refine (patternItems_rel hpq).head?_rel.bind_eq fun e f hef => ?_
      rw [hef.kind, hef.text s]
    · rfl
  · rfl

theorem state?_eq {v w : Visit} (h : v.Pruned w) : state? s v = state? s w := by
  unfold state?
  rw [hookCall?_eq h.node, stateName?_eq h,
    (callArguments_rel h.node).head?_rel.map_eq fun _ _ hxy => hxy.text s]

theorem hooks_eq (h : Pruned t t') : hooks s t = hooks s t' :=
  h.visits.filterMap_eq (fun _ _ hvw => hook?_eq hvw) fun v hv => by
    rw [hook?, hookCall?_comment hv, Option.map_none]

theorem state_eq (h : Pruned t t') : state s t = state s t' :=
  h.visits.filterMap_eq (fun _ _ hvw => state?_eq hvw) fun v hv => by
    rw [state?, hookCall?_comment hv]
    rfl

/-! ## Event handlers and test ids -/

theorem attributeName?_eq (h : Pruned c d) : attributeName? s c = attributeName? s d :=
  (h.parts.head?_rel.filter fun _ _ hxy => by rw [hxy.kind]).map_eq fun _ _ hxy => hxy.text s

theorem attributeValue?_rel (h : Pruned c d) :
    Option.Rel Pruned (attributeValue? c) (attributeValue? d) :=
  h.parts.getElem?_rel 1

theorem elementName?_eq (h : Pruned c d) : elementName? s c = elementName? s d := by
  unfold elementName?
  rw [h.kind]
  split
  · refine (h.child? "name").bind_eq fun x y hxy => ?_
    rw [hxy.kind, hxy.text s, hxy.fieldText? s,
      hxy.parts.getLast?_rel.map_eq fun _ _ hz => hz.text s]
  · rfl

theorem handlerText_eq {a b : Option Node} (h : Option.Rel Pruned a b) :
    handlerText s a = handlerText s b := by
  cases h with
  | none => rfl
  | some hxy =>
    unfold handlerText
    simp only [hxy.kind, hxy.unquoted s, hxy.parts.head?_rel.map_eq fun _ _ hz => hz.text s]

theorem handler?_eq {v w : Visit} (h : v.Pruned w) : handler? s v = handler? s w := by
  unfold handler?
  rw [h.node.kind, attributeName?_eq h.node, handlerText_eq (attributeValue?_rel h.node),
    h.parent.bind_eq fun _ _ hxy => elementName?_eq hxy]

theorem handlers_eq (h : Pruned t t') : handlers s t = handlers s t' :=
  h.visits.filterMap_eq (fun _ _ hvw => handler?_eq hvw) fun v hv => by
    simp [handler?, hv.kind]

theorem testId?_eq (h : Pruned c d) : testId? s c = testId? s d := by
  unfold testId?
  rw [h.kind, attributeName?_eq h]
  split
  · refine (attributeValue?_rel h).bind_eq fun x y hxy => ?_
    rw [hxy.kind, hxy.unquoted s]
  · rfl

theorem testIds_eq (h : Pruned t t') : testIds s t = testIds s t' := by
  unfold testIds
  rw [h.nodes.filterMap_eq (fun _ _ hxy => testId?_eq hxy) fun x hx => by
    simp [testId?, hx.kind]]

/-! ## Imports -/

theorem importedName?_eq (h : Pruned c d) : importedName? s c = importedName? s d := by
  unfold importedName?
  rw [h.isNamed, h.kind]
  split
  · refine (h.child? "name").bind_eq fun x y hxy => ?_
    rw [hxy.kind, hxy.unquoted s, hxy.text s]
  · rfl

theorem importParts_rel (h : Pruned c d) :
    List.Forall₂ Pruned (importParts c) (importParts d) :=
  List.rel_flatMap (h.namedOfKind "import_clause" (by decide)) fun _ _ hxy => hxy.parts

/-- The imported names of a group: a comment among the specifiers imports nothing. -/
theorem specifierNames_eq (h : Pruned c d) :
    c.children.filterMap (importedName? s) = d.children.filterMap (importedName? s) :=
  h.children.filterMap_eq (fun _ _ hxy => importedName?_eq hxy) fun x hx => by
    simp [importedName?, hx.kind]

theorem import?_eq (h : Pruned c d) : import? s c = import? s d := by
  have ofKind (kind : String) : List.Forall₂ Pruned
      ((importParts c).filter fun p => p.kind == kind)
      ((importParts d).filter fun p => p.kind == kind) :=
    (importParts_rel h).filter_rel fun _ _ hxy => by rw [hxy.kind]
  unfold import?
  rw [h.kind]
  split
  · refine (h.child? "source").bind_eq fun x y hxy => ?_
    dsimp only
    rw [hxy.unquoted s, (ofKind "identifier").getLast?_rel.map_eq fun _ _ hz => hz.text s,
      (ofKind "named_imports").flatMap_eq fun _ _ hz => specifierNames_eq hz,
      (ofKind "namespace_import").getLast?_rel.bind_eq fun _ _ hz =>
        (hz.findNamed? "identifier" (by decide)).map_eq fun _ _ he => he.text s]
  · rfl

theorem imports_eq (h : Pruned t t') : imports s t = imports s t' :=
  h.nodes.filterMap_eq (fun _ _ hxy => import?_eq hxy) fun x hx => by
    simp [import?, hx.kind]

end TestScribe.Component
