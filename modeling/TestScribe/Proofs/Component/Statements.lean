import Mathlib.Data.List.Flatten
import TestScribe.Component.Hooks
import TestScribe.Component.Imports
import TestScribe.Component.Markup
import TestScribe.Component.Name
import TestScribe.Proofs.FirstSeen
import TestScribe.Proofs.Syntax.Walks

/-!
# What is read off a program is read off its statements

Hooks, state, handlers, imports and test ids are readings: they are taken from the visits of a walk,
and a visit gives the same whatever stands around the statement in which it lies (`Reading`).  So a
reading of a program is the concatenation of the readings of its statements, each taken as a tree of
its own (`Reading.program`), and everything else here follows from that one rule.
-/

namespace TestScribe.Component

open Syntax

/-! ## Plain nodes -/

/-- The kinds of nodes at which something is read. -/
def tellingKinds : List String :=
  ["function_declaration", "arrow_function", "function_expression", "function",
    "class_declaration", "abstract_class_declaration", "variable_declarator",
    "interface_declaration", "type_alias_declaration", "call_expression", "jsx_attribute",
    "jsx_opening_element", "jsx_self_closing_element", "import_statement"]

/-- A node of a kind at which nothing is read, such as a program, a block or an export. -/
def Plain (n : Node) : Prop :=
  n.kind ∉ tellingKinds

instance : DecidablePred Plain := fun n => inferInstanceAs (Decidable (n.kind ∉ tellingKinds))

variable {s : Source} {n p q t : Node}

theorem plain_of_program (h : n.kind = "program") : Plain n := by
  unfold Plain
  rw [h]
  decide

theorem Plain.ne (h : Plain n) {kind : String} (hk : kind ∈ tellingKinds) : n.kind ≠ kind := by
  rintro rfl
  exact h hk

/-! ## Refiled nodes -/

/-- The same node, but that it may fill another field of its parent. -/
inductive Refiled : Node → Node → Prop
  | mk (kind : String) (isNamed : Bool) (field field' : Option String) (missing hasError : Bool)
      (span : Span) (children : List Node) :
      Refiled (.mk kind isNamed field missing hasError span children)
        (.mk kind isNamed field' missing hasError span children)

theorem refiled_refl (n : Node) : Refiled n n := by
  cases n
  exact .mk _ _ _ _ _ _ _ _

theorem refiled_inField (name : String) (n : Node) : Refiled n (n.inField name) := by
  cases n
  exact .mk _ _ _ _ _ _ _ _

theorem Refiled.children (h : Refiled p q) : p.children = q.children := by cases h; rfl

theorem Refiled.kind (h : Refiled p q) : p.kind = q.kind := by cases h; rfl

theorem Refiled.fieldText? (h : Refiled p q) (s : Source) (name : String) :
    s.fieldText? p name = s.fieldText? q name := by
  cases h; rfl

/-! ## Readings -/

/-- Visits that say the same: the node is the same but for its field, and so is what the
surroundings add, the state variable that a call is bound to and the element of an attribute. -/
structure Visit.Alike (s : Source) (v w : Visit) : Prop where
  node : Refiled v.node w.node
  state : stateName? s v = stateName? s w
  element : v.parent.bind (elementName? s) = w.parent.bind (elementName? s)

/-- What is taken from a visit is the same for alike visits, and nothing at plain nodes. -/
structure Reading {α : Type} (s : Source) (f : Visit → List α) : Prop where
  alike : ∀ v w, Visit.Alike s v w → f v = f w
  plain : ∀ v, Plain v.node → f v = []

theorem stateName?_of_plain (hp : Plain p) (before : List Node) :
    stateName? s { node := n, parent := some p, before } = none := by
  have hkind : p.kind ≠ "variable_declarator" := hp.ne (by decide)
  simp [stateName?, hkind]

theorem elementName?_of_plain (hp : Plain p) : elementName? s p = none := by
  have hopening : p.kind ≠ "jsx_opening_element" := hp.ne (by decide)
  have hclosing : p.kind ≠ "jsx_self_closing_element" := hp.ne (by decide)
  simp [elementName?, hopening, hclosing]

/-- Directly under a plain node the surroundings add nothing, as if there were none. -/
theorem alike_of_plain (hp : Plain p) (before : List Node) :
    Visit.Alike s { node := n, parent := some p, before }
      { node := n, parent := none, before := [] } where
  node := refiled_refl n
  state := stateName?_of_plain hp before
  element := elementName?_of_plain hp

/-- Surroundings are looked at through the kind and the children of the parent. -/
theorem alike_of_refiled (h : Refiled p q) (before : List Node) :
    Visit.Alike s { node := n, parent := some p, before }
      { node := n, parent := some q, before } where
  node := refiled_refl n
  state := by cases h; rfl
  element := by cases h; rfl

theorem visitsIn_eq_cons (parent : Option Node) (before : List Node) (n : Node) :
    n.visitsIn parent before = { node := n, parent, before } :: Node.visitsAll n [] n.children := by
  cases n
  rfl

namespace Reading

variable {α : Type} {f : Visit → List α}

/-- The statements of a program are read as if each were a tree of its own. -/
theorem row (hf : Reading s f) (hp : Plain p) (before : List Node) (cs : List Node) :
    (Node.visitsAll p before cs).flatMap f = cs.flatMap fun c => c.visits.flatMap f := by
  induction cs generalizing before with
  | nil => rfl
  | cons c cs ih =>
    have hhead := hf.alike _ _ (alike_of_plain (s := s) (n := c) hp before)
    have hc : (Node.visitsIn (some p) before c).flatMap f = c.visits.flatMap f := by
      unfold Node.visits
      rw [visitsIn_eq_cons, visitsIn_eq_cons, List.flatMap_cons, List.flatMap_cons, hhead]
    rw [Node.visitsAll, List.flatMap_append, List.flatMap_cons, hc, ih]

theorem program (hf : Reading s f) (ht : Plain t) :
    t.visits.flatMap f = t.children.flatMap fun c => c.visits.flatMap f := by
  unfold Node.visits
  rw [visitsIn_eq_cons, List.flatMap_cons, hf.plain _ ht, List.nil_append]
  exact hf.row ht [] t.children

end Reading

/-! ## The readings of an extraction -/

theorem hookCall?_refiled (h : Refiled p q) : hookCall? s p = hookCall? s q := by
  cases h; rfl

theorem callArguments_refiled (h : Refiled p q) : callArguments p = callArguments q := by
  unfold callArguments Node.child?
  rw [h.children]

theorem hookCall?_of_plain (h : Plain n) : hookCall? s n = none := by
  unfold hookCall?
  rw [if_neg (by simpa using h.ne (by decide))]

theorem reading_hook (s : Source) : Reading s fun v => (hook? s v).toList where
  alike v w h := by
    unfold hook?
    rw [hookCall?_refiled h.node, callArguments_refiled h.node]
  plain v h := by
    unfold hook?
    rw [hookCall?_of_plain h]
    rfl

theorem reading_state (s : Source) : Reading s fun v => (state? s v).toList where
  alike v w h := by
    unfold state?
    rw [hookCall?_refiled h.node, h.state, callArguments_refiled h.node]
  plain v h := by
    unfold state?
    rw [hookCall?_of_plain h]
    rfl

theorem reading_handler (s : Source) : Reading s fun v => (handler? s v).toList where
  alike v w h := by
    have hparts : v.node.parts = w.node.parts := by
      unfold Node.parts
      rw [h.node.children]
    unfold handler? attributeName? attributeValue?
    rw [h.node.kind, hparts, h.element]
  plain v h := by
    unfold handler?
    rw [if_neg (by simpa using h.ne (by decide))]
    rfl

/-- What is taken from the nodes alone. -/
theorem reading_of_node {α : Type} {g : Node → Option α} (hg : ∀ p q, Refiled p q → g p = g q)
    (hplain : ∀ n, Plain n → g n = none) : Reading s fun v => (g v.node).toList where
  alike v w h := by rw [hg _ _ h.node]
  plain v h := by rw [hplain _ h]; rfl

theorem reading_import (s : Source) : Reading s fun v => (import? s v.node).toList :=
  reading_of_node (fun p q h => by cases h; rfl) fun n h => by
    unfold import?
    rw [if_neg (by simpa using h.ne (by decide))]

theorem reading_testId (s : Source) : Reading s fun v => (testId? s v.node).toList :=
  reading_of_node (fun p q h => by cases h; rfl) fun n h => by
    unfold testId?
    have hkind : n.kind ≠ "jsx_attribute" := h.ne (by decide)
    rw [if_neg (by simp [hkind])]

theorem filterMap_nodes {α : Type} (g : Node → Option α) (t : Node) :
    t.nodes.filterMap g = t.visits.flatMap fun v => (g v.node).toList := by
  unfold Node.nodes
  rw [List.filterMap_map, List.filterMap_eq_flatMap_toList]
  rfl

theorem hooks_eq_flatMap (s : Source) (t : Node) :
    hooks s t = t.visits.flatMap fun v => (hook? s v).toList :=
  List.filterMap_eq_flatMap_toList _ _

theorem state_eq_flatMap (s : Source) (t : Node) :
    state s t = t.visits.flatMap fun v => (state? s v).toList :=
  List.filterMap_eq_flatMap_toList _ _

theorem handlers_eq_flatMap (s : Source) (t : Node) :
    handlers s t = t.visits.flatMap fun v => (handler? s v).toList :=
  List.filterMap_eq_flatMap_toList _ _

theorem imports_eq_flatMap (s : Source) (t : Node) :
    imports s t = t.visits.flatMap fun v => (import? s v.node).toList :=
  filterMap_nodes _ t

theorem testIds_eq_flatMap (s : Source) (t : Node) :
    testIds s t = (t.visits.flatMap fun v => (testId? s v.node).toList).eraseDups :=
  congrArg List.eraseDups (filterMap_nodes _ t)

/-! ## Programs put together -/

namespace Reading

variable {α : Type} {f : Visit → List α} {a b less more : Node}

theorem append (hf : Reading s f) (ht : Plain t) (ha : Plain a) (hb : Plain b)
    (h : t.children = a.children ++ b.children) :
    t.visits.flatMap f = a.visits.flatMap f ++ b.visits.flatMap f := by
  rw [hf.program ht, hf.program ha, hf.program hb, h, List.flatMap_append]

theorem sublist (hf : Reading s f) (hless : Plain less) (hmore : Plain more)
    (h : less.children.Sublist more.children) :
    (less.visits.flatMap f).Sublist (more.visits.flatMap f) := by
  rw [hf.program hless, hf.program hmore]
  exact h.flatMap _

end Reading

/-- The facts of a tree are those of two trees whose statements it joins.  Of test ids that come
again the first ones are left, so those of the first tree stay in front as they are. -/
structure Joined (s : Source) (t a b : Node) : Prop where
  hooks : hooks s t = hooks s a ++ hooks s b
  state : state s t = state s a ++ state s b
  handlers : handlers s t = handlers s a ++ handlers s b
  imports : imports s t = imports s a ++ imports s b
  testIds_first : testIds s a <+: testIds s t
  testIds : testIds s t = (testIds s a ++ testIds s b).eraseDups

/-- The facts of a tree stay, in their order, among those of a tree with more statements.  Test ids
stay so as they are read, and each is listed once. -/
structure Kept (s : Source) (less more : Node) : Prop where
  hooks : (hooks s less).Sublist (hooks s more)
  state : (state s less).Sublist (state s more)
  handlers : (handlers s less).Sublist (handlers s more)
  imports : (imports s less).Sublist (imports s more)
  ids : (less.nodes.filterMap (testId? s)).Sublist (more.nodes.filterMap (testId? s))
  testIds : ∀ id ∈ testIds s less, (testIds s more).count id = 1

/-- Each fact of a tree is given by one place, and the facts come in the order of the places. -/
structure Reported (s : Source) (root : Node) (placed : List (List Nat × Visit)) : Prop where
  order : InDocumentOrder root placed
  hooks : hooks s root = placed.filterMap fun x => hook? s x.2
  state : state s root = placed.filterMap fun x => state? s x.2
  handlers : handlers s root = placed.filterMap fun x => handler? s x.2
  imports : imports s root = placed.filterMap fun x => import? s x.2.node
  testIds : testIds s root = (placed.filterMap fun x => testId? s x.2.node).eraseDups

theorem joined_of_children {t a b : Node} (ht : Plain t) (ha : Plain a) (hb : Plain b)
    (h : t.children = a.children ++ b.children) : Joined s t a b := by
  have hids : testIds s t = ((a.visits.flatMap fun v => (testId? s v.node).toList) ++
      b.visits.flatMap fun v => (testId? s v.node).toList).eraseDups := by
    rw [testIds_eq_flatMap, (reading_testId s).append ht ha hb h]
  constructor
  · simp only [hooks_eq_flatMap, (reading_hook s).append ht ha hb h]
  · simp only [state_eq_flatMap, (reading_state s).append ht ha hb h]
  · simp only [handlers_eq_flatMap, (reading_handler s).append ht ha hb h]
  · simp only [imports_eq_flatMap, (reading_import s).append ht ha hb h]
  · rw [hids, testIds_eq_flatMap s a]
    exact List.prefix_eraseDups_append _ _
  · rw [hids, testIds_eq_flatMap s a, testIds_eq_flatMap s b, List.eraseDups_append_eraseDups]

theorem kept_of_sublist {less more : Node} (hless : Plain less) (hmore : Plain more)
    (h : less.children.Sublist more.children) : Kept s less more := by
  have hids : (less.nodes.filterMap (testId? s)).Sublist (more.nodes.filterMap (testId? s)) := by
    rw [filterMap_nodes, filterMap_nodes]
    exact (reading_testId s).sublist hless hmore h
  constructor
  · simp only [hooks_eq_flatMap]
    exact (reading_hook s).sublist hless hmore h
  · simp only [state_eq_flatMap]
    exact (reading_state s).sublist hless hmore h
  · simp only [handlers_eq_flatMap]
    exact (reading_handler s).sublist hless hmore h
  · simp only [imports_eq_flatMap]
    exact (reading_import s).sublist hless hmore h
  · exact hids
  · intro id hid
    have hmem : id ∈ testIds s more :=
      List.mem_eraseDups.2 (hids.subset (List.mem_eraseDups.1 hid))
    exact List.count_eq_one_of_mem (List.nodup_eraseDups _) hmem

theorem exists_reported (s : Source) (root : Node) : ∃ placed, Reported s root placed := by
  obtain ⟨placed, hplaced, hvisits⟩ := exists_inDocumentOrder root
  have hread {α : Type} (f : Visit → Option α) :
      root.visits.filterMap f = placed.filterMap fun x => f x.2 := by
    rw [hvisits, List.filterMap_map]
    rfl
  have hnodes {α : Type} (g : Node → Option α) :
      root.nodes.filterMap g = placed.filterMap fun x => g x.2.node := by
    rw [nodes_eq_map hvisits, List.filterMap_map]
    rfl
  refine ⟨placed, hplaced, hread _, hread _, hread _, hnodes _, ?_⟩
  exact congrArg List.eraseDups (hnodes _)

/-- What is read off a tree is given by its places one by one, in the order of the document; that of
a program is put together from its statements, and further statements leave it as it is. -/
theorem extraction_by_statements (s : Source) :
    (∀ root, ∃ placed, Reported s root placed) ∧
      (∀ t a b, Plain t → Plain a → Plain b → t.children = a.children ++ b.children →
        Joined s t a b) ∧
      ∀ less more, Plain less → Plain more → less.children.Sublist more.children →
        Kept s less more :=
  ⟨exists_reported s, fun _ _ _ ht ha hb h => joined_of_children ht ha hb h,
    fun _ _ hless hmore h => kept_of_sublist hless hmore h⟩

/-- A tag with a test id, written from the byte `start` on. -/
def tagAt (start : Nat) : Node :=
  let span (i j : Nat) : Span := ⟨start + i, start + j, ⟨0, start + i⟩, ⟨0, start + j⟩⟩
  .mk "expression_statement" true none false false (span 0 20) [
    .mk "jsx_self_closing_element" true none false false (span 0 20) [
      .mk "jsx_attribute" true (some "attribute") false false (span 3 18) [
        .mk "property_identifier" true none false false (span 3 14) [],
        .mk "=" false none false false (span 14 15) [],
        .mk "string" true none false false (span 15 18) []]]]

/-- The tags from some bytes on, as a program. -/
def tags (starts : List Nat) : Node :=
  .mk "program" true none false false ⟨0, 40, ⟨0, 0⟩, ⟨0, 40⟩⟩ (starts.map tagAt)

theorem extraction_by_statements_tags :
    let s := Source.ofText "<a data-testid=\"x\"/><b data-testid=\"x\"/>"
    Plain (tags [0, 20]) ∧ testIds s (tags [0]) = ["x"] ∧ testIds s (tags [0, 20]) = ["x"] ∧
      Joined s (tags [0, 20]) (tags [0]) (tags [20]) ∧ Kept s (tags [20]) (tags [0, 20]) := by
  have hplain (starts : List Nat) : Plain (tags starts) := plain_of_program rfl
  obtain ⟨-, hjoined, hkept⟩ := extraction_by_statements
    (Source.ofText "<a data-testid=\"x\"/><b data-testid=\"x\"/>")
  refine ⟨hplain _, by decide +kernel, by decide +kernel, ?_, ?_⟩
  · exact hjoined _ _ _ (hplain _) (hplain _) (hplain _) rfl
  · exact hkept _ _ (hplain _) (hplain _) (.cons _ (List.Sublist.refl _))

end TestScribe.Component
