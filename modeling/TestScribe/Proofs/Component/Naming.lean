import TestScribe.Component.Name
import TestScribe.Proofs.Syntax.Walks

/-!
# Where the name of a component comes from

Four lists of candidates are read off the top-level statements: what the default exports resolve to,
and the capitalized names of functions, of classes and of variables that are bound to functions.
Each list is described by what its entries are (`Candidates`), and the name is the first of all
candidates (`name?_of_candidates`).
-/

namespace TestScribe.Component

open Syntax

variable {s : Source} {n root statement : Node} {name : String}

/-! ## Kinds -/

/-- The kinds of functions that are values. -/
def functionValueKinds : List String := ["arrow_function", "function_expression", "function"]

/-- The kinds of class declarations. -/
def classKinds : List String := ["class_declaration", "abstract_class_declaration"]

/-- The kinds of declarations of variables. -/
def variableKinds : List String := ["lexical_declaration", "variable_declaration"]

theorem isFunctionValue_iff : isFunctionValue n = true ↔ n.kind ∈ functionValueKinds := by
  simp [isFunctionValue, functionValueKinds, or_assoc]

theorem isClassDeclaration_iff : isClassDeclaration n = true ↔ n.kind ∈ classKinds := by
  simp [isClassDeclaration, classKinds]

theorem isVariableDeclaration_iff : isVariableDeclaration n = true ↔ n.kind ∈ variableKinds := by
  simp [isVariableDeclaration, variableKinds]

/-- A name that begins with a capital letter. -/
def Capitalized (name : String) : Prop :=
  ∃ c rest, name.toList = c :: rest ∧ 'A' ≤ c ∧ c ≤ 'Z'

theorem isComponentName_iff : isComponentName name = true ↔ Capitalized name := by
  unfold isComponentName Capitalized
  cases hname : name.toList with
  | nil => simp
  | cons c rest => simp

/-! ## Default exports -/

/-- The name that stands for an exported value: an identifier, the own name of a class or a
function, or the first argument of a call if that is an identifier or a function with a name. -/
inductive ResolvesTo (s : Source) : Node → String → Prop
  | identifier {n : Node} : n.kind = "identifier" → ResolvesTo s n (s.text n)
  | named {n : Node} {name : String} :
      n.kind ∈ "function_declaration" :: "class" :: classKinds ++ functionValueKinds →
      s.fieldText? n "name" = some name → ResolvesTo s n name
  | wrapped {call arguments first : Node} {name : String} : call.kind = "call_expression" →
      call.child? "arguments" = some arguments → arguments.parts.head? = some first →
      first.kind ∈ "identifier" :: functionValueKinds → ResolvesTo s first name →
      ResolvesTo s call name

/-- A default export that resolves to a name which is not empty. -/
structure DefaultExport (s : Source) (statement : Node) (name : String) : Prop where
  kind : statement.kind = "export_statement"
  isDefault : statement.hasChild "default" = true
  ne_empty : name ≠ ""
  resolves : ∃ target,
    (statement.child? "declaration").or (statement.child? "value") = some target ∧
      ResolvesTo s target name

theorem resolvesTo_of_identifier (h : n.kind = "identifier") :
    ResolvesTo s n name ↔ s.text n = name := by
  constructor
  · intro hn
    cases hn with
    | identifier => rfl
    | named hk => rw [h] at hk; simp [classKinds, functionValueKinds] at hk
    | wrapped hk => rw [h] at hk; simp at hk
  · rintro rfl
    exact .identifier h

theorem resolvesTo_of_named
    (h : n.kind ∈ "function_declaration" :: "class" :: classKinds ++ functionValueKinds) :
    ResolvesTo s n name ↔ s.fieldText? n "name" = some name := by
  constructor
  · intro hn
    cases hn with
    | identifier hk => rw [hk] at h; simp [classKinds, functionValueKinds] at h
    | named _ hname => exact hname
    | wrapped hk => rw [hk] at h; simp [classKinds, functionValueKinds] at h
  · exact .named h

theorem resolvesTo_of_call (h : n.kind = "call_expression") :
    ResolvesTo s n name ↔ ∃ arguments, n.child? "arguments" = some arguments ∧
      ∃ first, arguments.parts.head? = some first ∧
        first.kind ∈ "identifier" :: functionValueKinds ∧ ResolvesTo s first name := by
  constructor
  · intro hn
    cases hn with
    | identifier hk => rw [hk] at h; simp at h
    | named hk => rw [h] at hk; simp [classKinds, functionValueKinds] at hk
    | wrapped _ hargs hfirst hk hname => exact ⟨_, hargs, _, hfirst, hk, hname⟩
  · rintro ⟨arguments, hargs, first, hfirst, hk, hname⟩
    exact .wrapped h hargs hfirst hk hname

theorem not_resolvesTo (hid : n.kind ≠ "identifier")
    (hnamed : n.kind ∉ "function_declaration" :: "class" :: classKinds ++ functionValueKinds)
    (hcall : n.kind ≠ "call_expression") : ¬ ResolvesTo s n name := by
  rintro (hk | ⟨hk, -⟩ | ⟨hk, -⟩)
  · exact hid hk
  · exact hnamed hk
  · exact hcall hk

/-- The argument of a call counts only if it is an identifier or a function. -/
theorem argumentName_eq_some_iff :
    (if n.kind == "identifier" then some (s.text n)
      else if isFunctionValue n then s.fieldText? n "name" else none) = some name ↔
      n.kind ∈ "identifier" :: functionValueKinds ∧ ResolvesTo s n name := by
  by_cases hid : n.kind = "identifier"
  · rw [if_pos (beq_iff_eq.2 hid), resolvesTo_of_identifier hid, Option.some.injEq]
    simp [hid]
  · rw [if_neg (by simpa using hid), List.mem_cons, or_iff_right hid]
    by_cases hfun : n.kind ∈ functionValueKinds
    · have hnamed := List.mem_append_right ("function_declaration" :: "class" :: classKinds) hfun
      rw [if_pos (isFunctionValue_iff.2 hfun), resolvesTo_of_named hnamed]
      exact (and_iff_right hfun).symm
    · rw [if_neg (fun h => hfun (isFunctionValue_iff.1 h))]
      exact iff_of_false (by simp) fun h => hfun h.1

theorem defaultName?_eq_some_iff : defaultName? s statement = some name ↔
    ∃ target, (statement.child? "declaration").or (statement.child? "value") = some target ∧
      ResolvesTo s target name := by
  refine Option.bind_eq_some_iff.trans (exists_congr fun target => and_congr_right fun _ => ?_)
  by_cases hid : target.kind = "identifier"
  · rw [if_pos (beq_iff_eq.2 hid), resolvesTo_of_identifier hid, Option.some.injEq]
  rw [if_neg (by simpa using hid)]
  have hkinds : (isClassDeclaration target || target.kind == "function_declaration" ||
      isFunctionValue target || target.kind == "class") = true ↔
      target.kind ∈ "function_declaration" :: "class" :: classKinds ++ functionValueKinds := by
    simp only [Bool.or_eq_true, isClassDeclaration_iff, isFunctionValue_iff, beq_iff_eq,
      List.cons_append, List.mem_cons, List.mem_append]
    tauto
  by_cases hnamed :
    target.kind ∈ "function_declaration" :: "class" :: classKinds ++ functionValueKinds
  · rw [if_pos (hkinds.2 hnamed), resolvesTo_of_named hnamed]
  rw [if_neg (fun h => hnamed (hkinds.1 h))]
  by_cases hcall : target.kind = "call_expression"
  · rw [if_pos (beq_iff_eq.2 hcall), resolvesTo_of_call hcall]
    refine Option.bind_eq_some_iff.trans (exists_congr fun arguments => and_congr_right fun _ => ?_)
    refine Option.bind_eq_some_iff.trans (exists_congr fun first => and_congr_right fun _ => ?_)
    exact argumentName_eq_some_iff
  · rw [if_neg (by simpa using hcall)]
    exact iff_of_false (by simp) (not_resolvesTo hid hnamed hcall)

theorem nonempty?_eq_some_iff {o : Option String} :
    nonempty? o = some name ↔ o = some name ∧ name ≠ "" := by
  unfold nonempty?
  rw [Option.filter_eq_some_iff, bne_iff_ne]

theorem defaultExport_iff :
    (if statement.kind == "export_statement" && statement.hasChild "default" then
      nonempty? (defaultName? s statement) else none) = some name ↔
      DefaultExport s statement name := by
  by_cases h : statement.kind = "export_statement" ∧ statement.hasChild "default" = true
  · rw [if_pos (by simpa using h), nonempty?_eq_some_iff, defaultName?_eq_some_iff]
    constructor
    · rintro ⟨hresolves, hne⟩
      exact ⟨h.1, h.2, hne, hresolves⟩
    · intro hexport
      exact ⟨hexport.resolves, hexport.ne_empty⟩
  · rw [if_neg (by simpa using h)]
    exact iff_of_false (by simp) fun hexport => h ⟨hexport.kind, hexport.isDefault⟩

/-! ## Top-level declarations -/

/-- What a top-level statement declares: an export what it holds, and any other statement itself. -/
inductive Declares : Node → Node → Prop
  | exported {statement d : Node} : statement.kind = "export_statement" →
      statement.child? "declaration" = some d → Declares statement d
  | bare {statement : Node} : statement.kind ≠ "export_statement" → Declares statement statement

/-- A declaration of one of some kinds that has a capitalized name. -/
structure Names (s : Source) (kinds : List String) (d : Node) (name : String) : Prop where
  kind : d.kind ∈ kinds
  text : s.fieldText? d "name" = some name
  capitalized : Capitalized name

/-- A variable with a capitalized name that is bound to a function. -/
structure NamesFunction (s : Source) (d : Node) (name : String) : Prop where
  kind : d.kind = "variable_declarator"
  identifier : ∃ n, d.child? "name" = some n ∧ n.kind = "identifier" ∧ s.text n = name
  value : ∃ v, d.child? "value" = some v ∧ v.kind ∈ functionValueKinds
  capitalized : Capitalized name

/-- The declarators of a declaration of variables. -/
def declarators (d : Node) : List Node :=
  if d.kind ∈ variableKinds then d.parts else []

theorem declares_iff {d : Node} :
    (if statement.kind == "export_statement" then statement.child? "declaration"
      else some statement) = some d ↔ Declares statement d := by
  by_cases h : statement.kind = "export_statement"
  · rw [if_pos (beq_iff_eq.2 h)]
    constructor
    · exact .exported h
    · rintro (⟨-, hd⟩ | hne)
      · exact hd
      · exact absurd h hne
  · rw [if_neg (by simpa using h), Option.some.injEq]
    constructor
    · rintro rfl
      exact .bare h
    · rintro (⟨hk, -⟩ | -)
      · exact absurd hk h
      · rfl

theorem beq_iff_mem_singleton {kind : String} : (n.kind == kind) = true ↔ n.kind ∈ [kind] := by
  rw [beq_iff_eq, List.mem_singleton]

theorem names_iff {p : Prop} [Decidable p] {kinds : List String} (hp : p ↔ n.kind ∈ kinds) :
    (if p then (s.fieldText? n "name").filter isComponentName else none) = some name ↔
      Names s kinds n name := by
  by_cases h : p
  · rw [if_pos h, Option.filter_eq_some_iff, isComponentName_iff]
    exact ⟨fun ⟨htext, hcap⟩ => ⟨hp.1 h, htext, hcap⟩, fun hn => ⟨hn.text, hn.capitalized⟩⟩
  · rw [if_neg h]
    exact iff_of_false (by simp) fun hn => h (hp.2 hn.kind)

theorem functionVariable?_eq_some_iff :
    functionVariable? s n = some name ↔ NamesFunction s n name := by
  unfold functionVariable?
  constructor
  · intro h
    obtain ⟨m, hm, h⟩ := Option.bind_eq_some_iff.1 h
    obtain ⟨v, hv, h⟩ := Option.bind_eq_some_iff.1 h
    split at h
    case isTrue hall =>
      cases h
      simp only [Bool.and_eq_true, beq_iff_eq, isFunctionValue_iff, isComponentName_iff] at hall
      obtain ⟨⟨⟨hk, hid⟩, hfun⟩, hcap⟩ := hall
      exact ⟨hk, ⟨m, hm, hid, rfl⟩, ⟨v, hv, hfun⟩, hcap⟩
    case isFalse => cases h
  · rintro ⟨hk, ⟨m, hm, hid, rfl⟩, ⟨v, hv, hfun⟩, hcap⟩
    rw [hm, hv]
    simp [hk, hid, isFunctionValue_iff.2 hfun, isComponentName_iff.2 hcap]

theorem variableNames_eq_filterMap (s : Source) (root : Node) :
    variableNames s root =
      ((topLevel root).flatMap declarators).filterMap (functionVariable? s) := by
  rw [List.filterMap_flatMap]
  refine List.flatMap_congr fun d _ => ?_
  unfold declarators
  simp only [isVariableDeclaration_iff]
  split <;> rfl

/-! ## The name -/

/-- The top-level declarations of a tree and the four lists of candidates for the name of its
component, each in the order of the statements. -/
structure Candidates (s : Source) (root : Node) (ds : List Node) (D F C V : List String) :
    Prop where
  declarations : Lists Declares root.parts ds
  defaults : Lists (DefaultExport s) root.parts D
  functions : Lists (Names s ["function_declaration"]) ds F
  classes : Lists (Names s classKinds) ds C
  bindings : Lists (NamesFunction s) (ds.flatMap declarators) V

theorem candidates_of_tree (s : Source) (root : Node) : Candidates s root (topLevel root)
    (defaultNames s root) (functionNames s root) (classNames s root) (variableNames s root) where
  declarations := lists_filterMap (fun _ _ => declares_iff) _
  defaults := lists_filterMap (fun _ _ => defaultExport_iff) _
  functions := lists_filterMap (fun _ _ => names_iff beq_iff_mem_singleton) _
  classes := lists_filterMap (fun _ _ => names_iff isClassDeclaration_iff) _
  bindings := by
    rw [variableNames_eq_filterMap]
    exact lists_filterMap (fun _ _ => functionVariable?_eq_some_iff) _

/-- The name is the first candidate: a default export goes before a function, a function before a
class and a class before a variable, and among its like the first statement decides. -/
theorem name?_of_candidates {ds : List Node} {D F C V : List String}
    (h : Candidates s root ds D F C V) : name? s root = (D ++ F ++ C ++ V).head? := by
  have hds : ds = topLevel root := Lists.eq_filterMap (fun _ _ => declares_iff) h.declarations
  have hD : D = defaultNames s root := Lists.eq_filterMap (fun _ _ => defaultExport_iff) h.defaults
  have hF : F = functionNames s root := by
    rw [hds] at h
    exact Lists.eq_filterMap (fun _ _ => names_iff beq_iff_mem_singleton) h.functions
  have hC : C = classNames s root := by
    rw [hds] at h
    exact Lists.eq_filterMap (fun _ _ => names_iff isClassDeclaration_iff) h.classes
  have hV : V = variableNames s root := by
    rw [hds] at h
    rw [variableNames_eq_filterMap]
    exact Lists.eq_filterMap (fun _ _ => functionVariable?_eq_some_iff) h.bindings
  rw [hD, hF, hC, hV]
  rfl

end TestScribe.Component
