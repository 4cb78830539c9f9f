import TestScribe.Component.Analyzer
import TestScribe.Proofs.Component.Naming
import TestScribe.Proofs.Component.PropsOfPruned
import TestScribe.Proofs.Component.Statements

/-!
# An export around a declaration changes nothing

`Exported t t'` says that `t'` is the program `t` with exports put around some of its declarations.
An export is a plain node whose other children are marks, so every reading passes through it to the
declaration (`Reading.exported`); a function that is read there differs from itself in the field
that it fills, which nothing looks at (`Mention.bare`).  With the precedence of candidates this is
`name_resolution`.
-/

namespace TestScribe.Component

open Syntax

variable {s : Source} {c d e p q t t' : Node}

/-! ## Exports -/

/-- The kinds of declarations that an export may hold. -/
def declarationKinds : List String :=
  ["function_declaration", "class_declaration", "abstract_class_declaration",
    "lexical_declaration", "variable_declaration", "interface_declaration",
    "type_alias_declaration"]

/-- A token or a comment that says nothing: it has no children and is not the token `default`. -/
structure Mark (n : Node) : Prop where
  plain : Plain n
  children : n.children = []
  field : n.field = none
  kind : n.kind ≠ "default"

/-- `e` is an export statement, and no default export, that holds the declaration `d`. -/
structure Exports (d e : Node) : Prop where
  isDeclaration : d.kind ∈ declarationKinds
  isNamed : d.isNamed = true
  kind : e.kind = "export_statement"
  isStatement : e.isNamed = true
  children : ∃ front back, e.children = front ++ d.inField "declaration" :: back ∧
    ∀ m ∈ front ++ back, Mark m

/-- A statement as it is or with an export around it. -/
inductive Wrapped : Node → Node → Prop
  | kept (c : Node) : Wrapped c c
  | exported {d e : Node} : Exports d e → Wrapped d e

/-- A program with exports put around some of its declarations. -/
structure Exported (t t' : Node) : Prop where
  plain : Plain t
  plain' : Plain t'
  statements : List.Forall₂ Wrapped t.children t'.children

namespace Exports

theorem plain (h : Exports d e) : Plain e := by
  unfold Plain
  rw [h.kind]
  decide

theorem ne (h : Exports d e) {kind : String} (hk : kind ∉ declarationKinds) : d.kind ≠ kind := by
  rintro rfl
  exact hk h.isDeclaration

theorem child? (h : Exports d e) : e.child? "declaration" = some (d.inField "declaration") := by
  obtain ⟨front, back, hchildren, hmarks⟩ := h.children
  have hfront : front.find? (fun c => c.field == some "declaration") = none := by
    rw [List.find?_eq_none]
    intro m hm
    rw [(hmarks m (List.mem_append_left _ hm)).field]
    decide
  have hd : ((d.inField "declaration").field == some "declaration") = true := by cases d; rfl
  unfold Node.child?
  rw [hchildren, List.find?_append, hfront, Option.none_or]
  exact List.find?_cons_of_pos hd

theorem not_default (h : Exports d e) : e.hasChild "default" = false := by
  obtain ⟨front, back, hchildren, hmarks⟩ := h.children
  have hd : (d.inField "declaration").kind ≠ "default" := by
    have hk : (d.inField "declaration").kind = d.kind := by cases d; rfl
    rw [hk]
    exact h.ne (by decide)
  unfold Node.hasChild
  rw [hchildren, List.any_eq_false]
  intro m hm
  rw [beq_iff_eq]
  simp only [List.mem_append, List.mem_cons] at hm
  rcases hm with hm | rfl | hm
  · exact (hmarks m (List.mem_append_left _ hm)).kind
  · exact hd
  · exact (hmarks m (List.mem_append_right _ hm)).kind

end Exports

/-! ## The name -/

theorem Wrapped.isPart (h : Wrapped c d) :
    (c.isNamed && !c.isComment) = (d.isNamed && !d.isComment) := by
  cases h with
  | kept => rfl
  | exported h =>
    have hc : c.kind ≠ "comment" := h.ne (by decide)
    simp [h.isNamed, h.isStatement, Node.isComment, hc, h.kind]

theorem Exported.parts (h : Exported t t') : List.Forall₂ Wrapped t.parts t'.parts :=
  h.statements.filter_rel fun _ _ hcd => hcd.isPart

theorem Exports.not_exported (h : Exports d e) : d.kind ≠ "export_statement" :=
  h.ne (by decide)

theorem defaultNames_exported (h : Exported t t') : defaultNames s t = defaultNames s t' := by
  refine h.parts.filterMap_eq fun c d hcd => ?_
  cases hcd with
  | kept => rfl
  | exported h => simp [h.not_exported, h.not_default]

theorem topLevel_exported (h : Exported t t') :
    List.Forall₂ Refiled (topLevel t) (topLevel t') := by
  refine List.rel_filterMap (R := Wrapped) (fun c d hcd => ?_) h.parts
  cases hcd with
  | kept =>
    cases (if c.kind == "export_statement" then c.child? "declaration" else some c) with
    | none => exact .none
    | some d => exact .some (refiled_refl d)
  | exported h =>
    rw [if_neg (by simpa using h.not_exported), if_pos (beq_iff_eq.2 h.kind), h.child?]
    exact .some (refiled_inField _ c)

theorem name?_exported (h : Exported t t') : name? s t = name? s t' := by
  have hfunctions : functionNames s t = functionNames s t' :=
    (topLevel_exported h).filterMap_eq fun _ _ hcd => by cases hcd; rfl
  have hclasses : classNames s t = classNames s t' :=
    (topLevel_exported h).filterMap_eq fun _ _ hcd => by cases hcd; rfl
  have hvariables : variableNames s t = variableNames s t' :=
    (topLevel_exported h).flatMap_eq fun _ _ hcd => by cases hcd; rfl
  unfold name?
  rw [defaultNames_exported h, hfunctions, hclasses, hvariables]

/-! ## Readings -/

namespace Reading

variable {α : Type} {f : Visit → List α}

theorem row_of_refiled (hf : Reading s f) (h : Refiled p q) (before cs : List Node) :
    (Node.visitsAll p before cs).flatMap f = (Node.visitsAll q before cs).flatMap f := by
  induction cs generalizing before with
  | nil => rfl
  | cons c cs ih =>
    have hhead := hf.alike _ _ (alike_of_refiled (s := s) (n := c) h before)
    rw [Node.visitsAll, Node.visitsAll, List.flatMap_append, List.flatMap_append, ih,
      visitsIn_eq_cons, visitsIn_eq_cons, List.flatMap_cons, List.flatMap_cons, hhead]

theorem refiled (hf : Reading s f) (h : Refiled p q) :
    p.visits.flatMap f = q.visits.flatMap f := by
  have hhead := hf.alike { node := p, parent := none, before := [] }
    { node := q, parent := none, before := [] } ⟨h, rfl, rfl⟩
  unfold Node.visits
  rw [visitsIn_eq_cons, visitsIn_eq_cons, List.flatMap_cons, List.flatMap_cons, hhead, h.children,
    hf.row_of_refiled h]

theorem mark (hf : Reading s f) (h : Mark p) : p.visits.flatMap f = [] := by
  rw [hf.program h.plain, h.children, List.flatMap_nil]

theorem wrapped (hf : Reading s f) (h : Wrapped c d) :
    c.visits.flatMap f = d.visits.flatMap f := by
  cases h with
  | kept => rfl
  | exported h =>
    obtain ⟨front, back, hchildren, hmarks⟩ := h.children
    have hnone (ms : List Node) (hms : ∀ m ∈ ms, Mark m) :
        (ms.flatMap fun m => m.visits.flatMap f) = [] :=
      List.flatMap_eq_nil_iff.2 fun m hm => hf.mark (hms m hm)
    rw [hf.program h.plain, hchildren, List.flatMap_append, List.flatMap_cons,
      hnone front fun m hm => hmarks m (List.mem_append_left _ hm),
      hnone back fun m hm => hmarks m (List.mem_append_right _ hm), List.nil_append,
      List.append_nil]
    exact hf.refiled (refiled_inField _ c)

/-- Every reading passes through the exports. -/
theorem exported (hf : Reading s f) (h : Exported t t') :
    t.visits.flatMap f = t'.visits.flatMap f := by
  rw [hf.program h.plain, hf.program h.plain']
  exact h.statements.flatMap_eq fun _ _ hcd => hf.wrapped hcd

end Reading

/-! ## Form and props -/

/-- The name of a declared class. -/
def className? (s : Source) (n : Node) : Option String :=
  if isClassDeclaration n then s.fieldText? n "name" else none

theorem form_eq_ite (s : Source) (t : Node) (name : String) :
    form s t name = if name ∈ t.nodes.filterMap (className? s) then .classBased
      else .functional := by
  have hany : (t.nodes.any fun n => isClassDeclaration n && s.fieldText? n "name" == some name) =
      decide (name ∈ t.nodes.filterMap (className? s)) := by
    rw [Bool.eq_iff_iff, decide_eq_true_iff, List.any_eq_true, List.mem_filterMap]
    refine exists_congr fun n => and_congr_right fun _ => ?_
    unfold className?
    rw [Bool.and_eq_true, beq_iff_eq]
    by_cases h : isClassDeclaration n = true <;> simp [h]
  unfold form
  rw [hany]
  simp only [decide_eq_true_eq]

theorem reading_className (s : Source) : Reading s fun v => (className? s v.node).toList :=
  reading_of_node (fun p q h => by cases h; rfl) fun n h => by
    have hclass : n.kind ≠ "class_declaration" := h.ne (by decide)
    have habstract : n.kind ≠ "abstract_class_declaration" := h.ne (by decide)
    simp [className?, isClassDeclaration, hclass, habstract]

theorem reading_typeDeclaration (s : Source) :
    Reading s fun v => (typeDeclaration? s v.node).toList :=
  reading_of_node (fun p q h => by cases h; rfl) fun n h => by
    have hinterface : n.kind ≠ "interface_declaration" := h.ne (by decide)
    have halias : n.kind ≠ "type_alias_declaration" := h.ne (by decide)
    simp [typeDeclaration?, hinterface, halias]

/-- The node, whichever field it fills. -/
def unfiled : Node → Node
  | .mk k n _ m e sp cs => .mk k n none m e sp cs

/-- The mention, whichever field its function fills. -/
def Mention.bare : Mention → Mention
  | .function n => .function (unfiled n)
  | .type name => .type name

theorem Mention.props_bare (m : Mention) : m.bare.props s = m.props s := by
  cases m with
  | function n => cases n; rfl
  | type name => rfl

theorem Mention.types_bare (m : Mention) : m.bare.types s = m.types s := by
  cases m with
  | function n => cases n; rfl
  | type name => rfl

theorem readOnce_bare (seen : List (Nat × Nat)) (ms : List Mention) :
    (readOnce seen ms).map Mention.bare = readOnce seen (ms.map Mention.bare) := by
  induction ms generalizing seen with
  | nil => rfl
  | cons m ms ih =>
    cases m with
    | type name => exact congrArg _ (ih seen)
    | function n =>
      have hspan : (unfiled n).span = n.span := by cases n; rfl
      simp only [List.map_cons, Mention.bare, readOnce, hspan]
      split
      · exact ih seen
      · exact congrArg _ (ih _)

theorem reading_mentions (s : Source) (name : String) :
    Reading s fun v => (mentions s name v.node).map Mention.bare where
  alike v w h := by
    obtain ⟨hnode, -, -⟩ := h
    generalize v.node = p, w.node = q at hnode
    cases hnode
    unfold mentions
    simp only [apply_ite (List.map Mention.bare)]
    rfl
  plain v h := by
    have hfunction : v.node.kind ≠ "function_declaration" := h.ne (by decide)
    have hvalue : isFunctionValue v.node = false := by
      have harrow : v.node.kind ≠ "arrow_function" := h.ne (by decide)
      have hexpression : v.node.kind ≠ "function_expression" := h.ne (by decide)
      have hold : v.node.kind ≠ "function" := h.ne (by decide)
      simp [isFunctionValue, harrow, hexpression, hold]
    have hdeclarator : v.node.kind ≠ "variable_declarator" := h.ne (by decide)
    have hclass : isClassDeclaration v.node = false := by
      have hplain : v.node.kind ≠ "class_declaration" := h.ne (by decide)
      have habstract : v.node.kind ≠ "abstract_class_declaration" := h.ne (by decide)
      simp [isClassDeclaration, hplain, habstract]
    simp [mentions, hfunction, hvalue, hdeclarator, hclass]

theorem said_exported (h : Exported t t') (name : String) :
    (said s t name).map Mention.bare = (said s t' name).map Mention.bare := by
  have hall (t : Node) : (t.nodes.flatMap (mentions s name)).map Mention.bare =
      t.visits.flatMap fun v => (mentions s name v.node).map Mention.bare := by
    unfold Node.nodes
    rw [List.flatMap_map, List.map_flatMap]
  unfold said
  rw [readOnce_bare, readOnce_bare, hall, hall, (reading_mentions s name).exported h]

theorem declaredType?_exported (h : Exported t t') (name : String) :
    declaredType? s t name = declaredType? s t' name := by
  unfold declaredType?
  rw [filterMap_nodes, filterMap_nodes, (reading_typeDeclaration s).exported h]

theorem props_exported (h : Exported t t') (name : String) : props s t name = props s t' name := by
  have hread {α : Type} {g : Mention → List α} (hg : ∀ m, g m.bare = g m) :
      (said s t name).flatMap g = (said s t' name).flatMap g := by
    have hbare (ms : List Mention) : (ms.map Mention.bare).flatMap g = ms.flatMap g := by
      rw [List.flatMap_map]
      exact List.flatMap_congr fun m _ => hg m
    rw [← hbare, said_exported h, hbare]
  rw [props_eq_append, props_eq_append]
  unfold takenProps typedProps
  rw [hread Mention.props_bare, hread Mention.types_bare]
  simp only [declaredType?_exported h]

/-! ## The whole extraction -/

theorem analysisOf_exported (h : Exported t t') (name : String) (metadata : Members) :
    analysisOf s t name metadata = analysisOf s t' name metadata := by
  have hhooks : hooks s t = hooks s t' := by
    rw [hooks_eq_flatMap, hooks_eq_flatMap, (reading_hook s).exported h]
  have hstate : state s t = state s t' := by
    rw [state_eq_flatMap, state_eq_flatMap, (reading_state s).exported h]
  have hhandlers : handlers s t = handlers s t' := by
    rw [handlers_eq_flatMap, handlers_eq_flatMap, (reading_handler s).exported h]
  have himports : imports s t = imports s t' := by
    rw [imports_eq_flatMap, imports_eq_flatMap, (reading_import s).exported h]
  have htestIds : testIds s t = testIds s t' := by
    rw [testIds_eq_flatMap, testIds_eq_flatMap, (reading_testId s).exported h]
  have hform : form s t name = form s t' name := by
    rw [form_eq_ite, form_eq_ite, filterMap_nodes, filterMap_nodes,
      (reading_className s).exported h]
  unfold analysisOf
  rw [hhooks, hstate, hhandlers, himports, htestIds, hform, props_exported h]

/-- The name of a component is the first of the candidates in their order, and neither it nor
anything else that is read off a program depends on which declarations are exported. -/
theorem name_resolution (s : Source) :
    (∀ root, ∃ ds D F C V, Candidates s root ds D F C V) ∧
      (∀ root ds D F C V, Candidates s root ds D F C V →
        name? s root = (D ++ F ++ C ++ V).head?) ∧
      ∀ t t', Exported t t' → name? s t' = name? s t ∧
        ∀ name metadata, analysisOf s t' name metadata = analysisOf s t name metadata :=
  ⟨fun root => ⟨_, _, _, _, _, candidates_of_tree s root⟩,
    fun _ _ _ _ _ _ h => name?_of_candidates h,
    fun _ _ h => ⟨(name?_exported h).symm, fun name metadata =>
      (analysisOf_exported h name metadata).symm⟩⟩

/-- The tree of `function Box() {}` and `export default Box` on two lines, the first statement
changed by `wrap`. -/
def boxTree (wrap : Node → Node) : Node :=
  let span (i j : Nat) : Span := ⟨i, j, ⟨0, i⟩, ⟨0, j⟩⟩
  .mk "program" true none false false (span 0 37) [
    wrap (.mk "function_declaration" true none false false (span 0 17) [
      .mk "function" false none false false (span 0 8) [],
      .mk "identifier" true (some "name") false false (span 9 12) [],
      .mk "formal_parameters" true (some "parameters") false false (span 12 14) [],
      .mk "statement_block" true (some "body") false false (span 15 17) []]),
    .mk "export_statement" true none false false (span 18 36) [
      .mk "export" false none false false (span 18 24) [],
      .mk "default" false none false false (span 25 32) [],
      .mk "identifier" true (some "value") false false (span 33 36) []]]

/-- An export around a declaration, whose offsets stay; its token takes no room. -/
def exportOf (d : Node) : Node :=
  .mk "export_statement" true none false false d.span [
    .mk "export" false none false false ⟨0, 0, ⟨0, 0⟩, ⟨0, 0⟩⟩ [], d.inField "declaration"]

theorem name_resolution_box :
    let s := Source.ofText "function Box() \x7b\x7d\nexport default Box"
    Exported (boxTree id) (boxTree exportOf) ∧ name? s (boxTree id) = some "Box" ∧
      name? s (boxTree exportOf) = some "Box" ∧
      (∃ ds D F C V, Candidates s (boxTree exportOf) ds D F C V ∧
        (D ++ F ++ C ++ V).head? = some "Box" ∧ D = ["Box"] ∧ F = ["Box"]) ∧
      ∀ name metadata,
        analysisOf s (boxTree exportOf) name metadata =
          analysisOf s (boxTree id) name metadata := by
  intro s
  obtain ⟨-, hfirst, htransparent⟩ := name_resolution s
  have hmark : Mark (.mk "export" false none false false ⟨0, 0, ⟨0, 0⟩, ⟨0, 0⟩⟩ []) :=
    ⟨by decide, rfl, rfl, by decide⟩
  have hexported : Exported (boxTree id) (boxTree exportOf) := by
    refine ⟨plain_of_program rfl, plain_of_program rfl, .cons (.exported ?_) (.cons (.kept _) .nil)⟩
    refine ⟨by decide, rfl, rfl, rfl, [_], [], rfl, fun m hm => ?_⟩
    rw [List.append_nil, List.mem_singleton] at hm
    rw [hm]
    exact hmark
  have hname : name? s (boxTree id) = some "Box" := by decide +kernel
  have hcandidates := candidates_of_tree s (boxTree exportOf)
  obtain ⟨hsame, hanalysis⟩ := htransparent _ _ hexported
  refine ⟨hexported, hname, hsame.trans hname, ⟨_, _, _, _, _, hcandidates, ?_, ?_, ?_⟩, hanalysis⟩
  · exact (hfirst _ _ _ _ _ _ hcandidates).symm.trans (hsame.trans hname)
  · decide +kernel
  · decide +kernel

end TestScribe.Component
