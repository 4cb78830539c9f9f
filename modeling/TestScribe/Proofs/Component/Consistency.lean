import Mathlib.Data.List.Basic
import Mathlib.Data.List.Forall2
import Mathlib.Data.List.Nodup
import TestScribe.Component.Analyzer
import TestScribe.Proofs.FirstSeen
import TestScribe.Proofs.Journal.FlowRules

/-!
# The parts of an analysis agree with each other

Facts come from walks of their own, and complexity and advice are worked out from the facts. What
must hold between the parts of every analysis is `Consistent`; it is shown part by part for the
analysis of any tree (`consistent_analysisOf`), and an analysis that is returned for a source is the
analysis of its tree (`run_analyze_eq_ok_iff`).
-/

namespace TestScribe.Component

open Syntax

variable {s : Source} {root : Node}

/-! ## Advice in terms of an analysis -/

/-- What calls for advice on testing, in the order in which advice is given. -/
inductive Concern
  | callbacks
  | asynchrony
  | stateUpdates
  | testIds
  | routing
  | store
  deriving DecidableEq

namespace Concern

/-- All concerns in order. -/
def all : List Concern := [callbacks, asynchrony, stateUpdates, testIds, routing, store]

/-- The advice that is given. -/
def advice : Concern → String
  | callbacks => "Use fireEvent or userEvent to trigger component callbacks."
  | asynchrony => "Wrap asynchronous updates in waitFor or findBy queries."
  | stateUpdates => "Leverage act utilities when asserting stateful updates."
  | testIds => "Prefer getByTestId or within queries for elements with data-testid attributes."
  | routing => "Wrap component with MemoryRouter when rendering in tests."
  | store => "Provide Redux store context (Provider) when rendering tests."

/-- When a concern arises from what an analysis says. -/
def Arises (a : Analysis) : Concern → Prop
  | callbacks => a.handlers ≠ []
  | asynchrony => ∃ h ∈ a.hooks, h.name = "useEffect" ∨ h.name = "useLayoutEffect"
  | stateUpdates => ∃ h ∈ a.hooks, h.name = "useState" ∨ h.name = "useReducer"
  | testIds => a.testIds ≠ []
  | routing => ∃ i ∈ a.imports, "react-router".toList <:+: i.source.toList
  | store => ∃ i ∈ a.imports, "react-redux".toList <:+: i.source.toList

instance (a : Analysis) : DecidablePred (Arises a)
  | callbacks => inferInstanceAs (Decidable (a.handlers ≠ []))
  | asynchrony => inferInstanceAs (Decidable (∃ h ∈ a.hooks, _ ∨ _))
  | stateUpdates => inferInstanceAs (Decidable (∃ h ∈ a.hooks, _ ∨ _))
  | testIds => inferInstanceAs (Decidable (a.testIds ≠ []))
  | routing => inferInstanceAs (Decidable (∃ i ∈ a.imports, _ <:+: _))
  | store => inferInstanceAs (Decidable (∃ i ∈ a.imports, _ <:+: _))

end Concern

/-! ## What must hold between the parts -/

/-- A state variable and a hook call that are read off one and the same call. -/
def SameCall (s : Source) (root : Node) (v : StateFact) (h : HookFact) : Prop :=
  ∃ visit ∈ root.visits, state? s visit = some v ∧ hook? s visit = some h

/-- What holds between the parts of an analysis of a tree. -/
structure Consistent (s : Source) (root : Node) (a : Analysis) : Prop where
  complexity : a.complexity =
    max 1 (a.props.length + 2 * a.hooks.length + 2 * a.handlers.length + min a.imports.length 10)
  hooks_known : ∀ h ∈ a.hooks, h.name ∈ hookNames
  dependencies : ∀ h ∈ a.hooks, h.dependencies ≠ none →
    h.name ∈ ["useEffect", "useLayoutEffect", "useMemo", "useCallback"]
  state : ∃ calls : List HookFact,
    calls.Sublist (a.hooks.filter fun h => h.name ∈ ["useState", "useReducer"]) ∧
      List.Forall₂ (SameCall s root) a.state calls
  handlers_named : ∀ h ∈ a.handlers, ∃ c rest,
    h.name.toList = 'o' :: 'n' :: c :: rest ∧ 'A' ≤ c ∧ c ≤ 'Z'
  testIds_nodup : a.testIds.Nodup
  imported_nodup : ∀ i ∈ a.imports, i.names.Nodup
  recommendations : a.recommendations =
    (Concern.all.filter fun c => c.Arises a).map Concern.advice
  recommendations_nodup : a.recommendations.Nodup

/-! ## Entries without repetition -/

theorem names_nodup {n : Node} {i : ImportFact} (h : import? s n = some i) : i.names.Nodup := by
  unfold import? at h
  split at h
  · obtain ⟨source, -, hi⟩ := Option.bind_eq_some_iff.1 h
    cases hi
    exact List.nodup_eraseDups _
  · cases h

/-! ## Hook calls -/

theorem mem_hookNames_of_hookCall? {n : Node} {name : String} (h : hookCall? s n = some name) :
    name ∈ hookNames := by
  unfold hookCall? at h
  split at h
  · obtain ⟨function, -, hfunction⟩ := Option.bind_eq_some_iff.1 h
    exact List.contains_iff_mem.1 (Option.filter_eq_some_iff.1 hfunction).2
  · cases h

theorem mem_hookNames_of_hook? {v : Visit} {h : HookFact} (hv : hook? s v = some h) :
    h.name ∈ hookNames := by
  obtain ⟨name, hname, rfl⟩ := Option.map_eq_some_iff.1 hv
  exact mem_hookNames_of_hookCall? hname

theorem mem_dependencyHooks_of_hook? {v : Visit} {h : HookFact} (hv : hook? s v = some h)
    (hdependencies : h.dependencies ≠ none) : h.name ∈ dependencyHooks := by
  obtain ⟨name, -, rfl⟩ := Option.map_eq_some_iff.1 hv
  by_contra hname
  apply hdependencies
  show dependencies? s name (callArguments v.node) = none
  unfold dependencies?
  rw [if_neg fun hcontains => hname (List.contains_iff_mem.1 hcontains)]

/-! ## State -/

/-- Where a call gives a state variable, it is the call of a hook that holds state. -/
theorem hook?_of_state? {v : Visit} {x : StateFact} (hx : state? s v = some x) :
    ∃ h, hook? s v = some h ∧ h.name ∈ stateHooks := by
  obtain ⟨name, hname, hstate⟩ := Option.bind_eq_some_iff.1 hx
  split at hstate
  case isTrue hcontains =>
    exact ⟨_, Option.map_eq_some_iff.2 ⟨name, hname, rfl⟩, List.contains_iff_mem.1 hcontains⟩
  case isFalse => cases hstate

/-- By induction on the walk: a call that gives a state variable gives a hook call too, and the
other calls are left out of the sublist. -/
theorem exists_stateCalls (visits : List Visit) :
    ∃ calls : List HookFact,
      calls.Sublist ((visits.filterMap (hook? s)).filter fun h => h.name ∈ stateHooks) ∧
        List.Forall₂ (fun v h => ∃ visit ∈ visits, state? s visit = some v ∧ hook? s visit = some h)
          (visits.filterMap (state? s)) calls := by
  induction visits with
  | nil => exact ⟨[], List.Sublist.refl _, .nil⟩
  | cons v visits ih =>
    obtain ⟨calls, hsub, hrel⟩ := ih
    have hrel' := hrel.imp fun x h ⟨visit, hvisit, hboth⟩ =>
      (⟨visit, List.mem_cons_of_mem v hvisit, hboth⟩ :
        ∃ visit ∈ v :: visits, state? s visit = some x ∧ hook? s visit = some h)
    cases hx : state? s v with
    | none =>
      refine ⟨calls, hsub.trans ?_, ?_⟩
      · exact ((List.sublist_cons_self v visits).filterMap _).filter _
      · rw [List.filterMap_cons_none hx]
        exact hrel'
    | some x =>
      obtain ⟨h, hh, hname⟩ := hook?_of_state? hx
      refine ⟨h :: calls, ?_, ?_⟩
      · rw [List.filterMap_cons_some hh, List.filter_cons, if_pos (decide_eq_true hname)]
        exact hsub.cons_cons h
      · rw [List.filterMap_cons_some hx]
        exact .cons ⟨v, List.mem_cons_self, hx, hh⟩ hrel'

/-! ## Event handlers -/

theorem isEventName_iff (name : String) :
    isEventName name = true ↔
      ∃ c rest, name.toList = 'o' :: 'n' :: c :: rest ∧ 'A' ≤ c ∧ c ≤ 'Z' := by
  unfold isEventName
  constructor
  · intro h
    split at h
    case h_1 c rest hname => exact ⟨c, rest, hname, by simpa using h⟩
    case h_2 => cases h
  · rintro ⟨c, rest, hname, hlow, hhigh⟩
    rw [hname]
    simp [hlow, hhigh]

theorem isEventName_of_handler? {v : Visit} {h : HandlerFact} (hv : handler? s v = some h) :
    isEventName h.name = true := by
  unfold handler? at hv
  split at hv
  case isTrue =>
    obtain ⟨name, -, hname⟩ := Option.bind_eq_some_iff.1 hv
    split at hname
    case isTrue hevent =>
      cases hname
      exact hevent
    case isFalse => cases hname
  case isFalse => cases hv

/-! ## Advice -/

/-- A search finds exactly the parts of a text. -/
theorem contains_iff_infix (part : List Char) (text : List Char) :
    Text.contains part text = true ↔ part <:+: text := by
  induction text with
  | nil => rw [Text.contains, List.isEmpty_iff, List.infix_nil]
  | cons c text ih =>
    rw [Text.contains, Bool.or_eq_true, List.isPrefixOf_iff_prefix, ih, List.infix_cons_iff]

theorem importsFrom_iff (imports : List ImportFact) (part : String) :
    importsFrom imports part = true ↔ ∃ i ∈ imports, part.toList <:+: i.source.toList := by
  simp only [importsFrom, List.any_eq_true, contains_iff_infix]

theorem callsHook_pair_iff (hooks : List HookFact) (x y : String) :
    callsHook hooks [x, y] = true ↔ ∃ h ∈ hooks, h.name = x ∨ h.name = y := by
  simp only [callsHook, List.any_eq_true, List.contains_iff_mem, List.mem_cons, List.not_mem_nil,
    or_false]

/-- Each check of the table of advice is the concern of its advice. -/
theorem advice_eq (a : Analysis) :
    advice a.hooks a.handlers a.testIds a.imports =
      Concern.all.map fun c => (decide (c.Arises a), c.advice) := by
  have hcallbacks : (!a.handlers.isEmpty) = decide (Concern.callbacks.Arises a) := by
    rw [Bool.eq_iff_iff, decide_eq_true_iff, Bool.not_eq_true', List.isEmpty_eq_false_iff]
    rfl
  have htestIds : (!a.testIds.isEmpty) = decide (Concern.testIds.Arises a) := by
    rw [Bool.eq_iff_iff, decide_eq_true_iff, Bool.not_eq_true', List.isEmpty_eq_false_iff]
    rfl
  have hasynchrony : callsHook a.hooks ["useEffect", "useLayoutEffect"] =
      decide (Concern.asynchrony.Arises a) := by
    rw [Bool.eq_iff_iff, decide_eq_true_iff, callsHook_pair_iff]
    rfl
  have hstate : callsHook a.hooks ["useState", "useReducer"] =
      decide (Concern.stateUpdates.Arises a) := by
    rw [Bool.eq_iff_iff, decide_eq_true_iff, callsHook_pair_iff]
    rfl
  have hrouting : importsFrom a.imports "react-router" = decide (Concern.routing.Arises a) := by
    rw [Bool.eq_iff_iff, decide_eq_true_iff, importsFrom_iff]
    rfl
  have hstore : importsFrom a.imports "react-redux" = decide (Concern.store.Arises a) := by
    rw [Bool.eq_iff_iff, decide_eq_true_iff, importsFrom_iff]
    rfl
  unfold advice
  rw [hcallbacks, hasynchrony, hstate, htestIds, hrouting, hstore]
  rfl

theorem recommendations_eq (a : Analysis) :
    recommendations a.hooks a.handlers a.testIds a.imports =
      (Concern.all.filter fun c => c.Arises a).map Concern.advice := by
  unfold recommendations
  rw [advice_eq, List.filter_map, List.map_map]
  rfl

theorem recommended_nodup (p : Concern → Bool) :
    ((Concern.all.filter p).map Concern.advice).Nodup := by
  have hall : (Concern.all.map Concern.advice).Nodup := by decide
  exact hall.sublist (List.filter_sublist.map Concern.advice)

/-! ## Analyses of trees and of sources -/

/-- The parts of the analysis of any tree agree, whichever name and notes are given. -/
theorem consistent_analysisOf (s : Source) (root : Node) (name : String) (metadata : Members) :
    Consistent s root (analysisOf s root name metadata) where
  complexity := by
    show ((complexity _ _ _ _ : Nat) : Int) = _
    unfold complexity importLimit
    rfl
  hooks_known := by
    intro h hh
    obtain ⟨v, -, hv⟩ := List.mem_filterMap.1 hh
    exact mem_hookNames_of_hook? hv
  dependencies := by
    intro h hh hdependencies
    obtain ⟨v, -, hv⟩ := List.mem_filterMap.1 hh
    exact mem_dependencyHooks_of_hook? hv hdependencies
  state := exists_stateCalls root.visits
  handlers_named := by
    intro h hh
    obtain ⟨v, -, hv⟩ := List.mem_filterMap.1 hh
    exact (isEventName_iff h.name).1 (isEventName_of_handler? hv)
  testIds_nodup := List.nodup_eraseDups _
  imported_nodup := by
    intro i hi
    obtain ⟨n, -, hn⟩ := List.mem_filterMap.1 hi
    exact names_nodup hn
  recommendations := recommendations_eq (analysisOf s root name metadata)
  recommendations_nodup := by
    have heq : (analysisOf s root name metadata).recommendations = _ :=
      recommendations_eq (analysisOf s root name metadata)
    rw [heq]
    exact recommended_nodup _

open TestScribe.Flow

theorem run_parsed_of_none {d : Grammar.Dialect} {code : String}
    (h : Grammar.parse? d code = none) (es : Events) :
    ∃ f es', run (parsed d code) es = (.error (.failure f), es') := by
  unfold parsed
  rw [h]
  exact ⟨_, _, rfl⟩

theorem run_parsed_of_some {d : Grammar.Dialect} {code : String} {root : Node}
    (h : Grammar.parse? d code = some root) (es : Events) :
    run (parsed d code) es = (.ok root, es) := by
  unfold parsed
  rw [h]
  rfl

/-- An analysis is returned for a source exactly when the source has a tree in which a component is
named, and it is the analysis of that component. -/
theorem run_analyze_eq_ok_iff (r : Request) (correlation : Json) (es : Events) (a : Analysis) :
    (run (analyze r correlation) es).1 = .ok a ↔
      ∃ root name, Grammar.parse? .tsx r.code = some root ∧
        chosenName? (Source.ofText r.code) root r.name = some name ∧
        a = analysisOf (Source.ofText r.code) root name (notes r) := by
  unfold analyze
  cases hparse : Grammar.parse? .tsx r.code with
  | none =>
    obtain ⟨f, es', hrun⟩ := run_parsed_of_none hparse es
    rw [run_bind_of_error hrun]
    simp
  | some root =>
    rw [run_bind_of_ok (run_parsed_of_some hparse es)]
    cases hname : chosenName? (Source.ofText r.code) root r.name with
    | none =>
      dsimp only
      rw [hname]
      simp [hname]
    | some name =>
      dsimp only
      rw [hname]
      constructor
      · intro ha
        exact ⟨root, name, rfl, hname, (Except.ok.inj ha).symm⟩
      · rintro ⟨root', name', hroot, hname', rfl⟩
        cases hroot
        cases hname.symm.trans hname'
        rfl

/-- Every analysis is consistent: that of any tree under any name and notes, and so each one that is
returned for a source. -/
theorem every_analysis_consistent :
    (∀ s root name metadata, Consistent s root (analysisOf s root name metadata)) ∧
      ∀ (r : Request) (correlation : Json) (es : Events) (a : Analysis),
        (run (analyze r correlation) es).1 = .ok a →
          ∃ root, Grammar.parse? .tsx r.code = some root ∧
            Consistent (Source.ofText r.code) root a := by
  refine ⟨consistent_analysisOf, fun r correlation es a ha => ?_⟩
  obtain ⟨root, name, hparse, -, rfl⟩ := (run_analyze_eq_ok_iff r correlation es a).1 ha
  exact ⟨root, hparse, consistent_analysisOf _ _ _ _⟩

/-- A component with a state variable and a handler, under the name that it has. -/
def counterRequest : Request :=
  { code := "export function Counter() \x7b\n" ++
      "  const [n, setN] = useState(0);\n" ++
      "  return <b onClick=\x7bgo\x7d>0</b>;\n" ++
      "\x7d"
    filePath := none
    name := none
    metadata := none }

theorem counter_analysis_consistent :
    ∃ a root, (run (analyze counterRequest .null) []).1 = .ok a ∧
      Grammar.parse? .tsx counterRequest.code = some root ∧
      (a.complexity = 4 ∧ a.state.length = 1 ∧ a.recommendations.length = 2) ∧
      Consistent (Source.ofText counterRequest.code) root a := by
  have hparts : (Grammar.parse? .tsx counterRequest.code).map (fun root =>
      let a := analysisOf (Source.ofText counterRequest.code) root "Counter" (notes counterRequest)
      (chosenName? (Source.ofText counterRequest.code) root none, a.complexity, a.state.length,
        a.recommendations.length)) = some (some "Counter", 4, 1, 2) := by
    decide +kernel
  obtain ⟨root, hroot, hparts⟩ := Option.map_eq_some_iff.1 hparts
  simp only [Prod.mk.injEq] at hparts
  obtain ⟨hname, hcounts⟩ := hparts
  have ha := (run_analyze_eq_ok_iff counterRequest .null [] _).2
    ⟨root, "Counter", hroot, hname, rfl⟩
  obtain ⟨root', hroot', hconsistent⟩ := every_analysis_consistent.2 _ _ _ _ ha
  cases hroot.symm.trans hroot'
  exact ⟨_, root, ha, hroot, hcounts, hconsistent⟩

end TestScribe.Component
