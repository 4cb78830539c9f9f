import Mathlib.Algebra.BigOperators.Group.List.Basic
import Mathlib.Logic.Function.Iterate
import TestScribe.Proofs.Syntax.Walks
import TestScribe.Syntax.Fault

/-!
# The first fault of a tree

The first faulty node is searched with a stack: the node on top is taken, and if it is marked as
erroneous its children are put there in its place.  Whatever the marks are, the search comes to an
end with the first fault in the order of the document that stands under marked nodes only
(`firstFault?_eq_find?`).  Where the nodes with a fault at or under them are the marked ones, this
is the first fault of all (`Marked.firstFault?_eq`), and the syntax error of a tree is that fault.
-/

namespace TestScribe.Syntax

namespace Node

/-! ## Nodes and what is above them -/

theorem map_node_visitsIn (p q : Option Node) (b e : List Node) (n : Node) :
    (n.visitsIn p b).map Visit.node = (n.visitsIn q e).map Visit.node := by
  cases n
  rfl

theorem map_node_visitsAll (p : Node) (b : List Node) (cs : List Node) :
    (visitsAll p b cs).map Visit.node = cs.flatMap nodes := by
  induction cs generalizing b with
  | nil => rfl
  | cons c cs ih =>
    rw [visitsAll, List.map_append, ih, List.flatMap_cons, map_node_visitsIn (some p) none b []]
    rfl

/-- A walk begins with the root, and goes on through its children. -/
theorem nodes_eq_cons (n : Node) : n.nodes = n :: n.children.flatMap nodes := by
  cases n
  exact congrArg _ (map_node_visitsAll _ _ _)

theorem self_mem_nodes (n : Node) : n ∈ n.nodes := by
  rw [nodes_eq_cons]
  exact List.mem_cons_self

theorem nodes_subset_of_mem_children {c n : Node} (h : c ∈ n.children) : c.nodes ⊆ n.nodes := by
  rw [nodes_eq_cons n]
  exact fun m hm => List.mem_cons_of_mem _ (List.mem_flatMap.2 ⟨c, h, hm⟩)

mutual

/-- A node and everything under it in the order of the document, each with the nodes above it, the
nearest first. -/
def lineagesUnder (above : List Node) : Node → List (List Node × Node)
  | mk k n f m e s cs =>
    (above, mk k n f m e s cs) :: lineagesUnderAll (mk k n f m e s cs :: above) cs

/-- The same for a row of siblings. -/
def lineagesUnderAll (above : List Node) : List Node → List (List Node × Node)
  | [] => []
  | c :: cs => lineagesUnder above c ++ lineagesUnderAll above cs

end

/-- The nodes of a tree in the order of the document, each with the nodes above it. -/
def lineages (root : Node) : List (List Node × Node) :=
  root.lineagesUnder []

mutual

theorem map_snd_lineagesUnder (above : List Node) :
    (n : Node) → (n.lineagesUnder above).map Prod.snd = n.nodes
  | mk _ _ _ _ _ _ cs => by
    rw [lineagesUnder, List.map_cons, map_snd_lineagesUnderAll _ cs, nodes_eq_cons]
    rfl

theorem map_snd_lineagesUnderAll (above : List Node) :
    (cs : List Node) → (lineagesUnderAll above cs).map Prod.snd = cs.flatMap nodes
  | [] => rfl
  | c :: cs => by
    rw [lineagesUnderAll, List.map_append, map_snd_lineagesUnder above c,
      map_snd_lineagesUnderAll above cs, List.flatMap_cons]

end

theorem map_snd_lineages (root : Node) : root.lineages.map Prod.snd = root.nodes :=
  root.map_snd_lineagesUnder []

/-! ## Search with a stack -/

/-- A search that goes on with what is pending, or has come to an end. -/
inductive Search
  | going (pending : List Node)
  | ended (result : Option Node)

namespace Search

/-- One turn of the search: the node on top is taken, and unless it is a fault its children take its
place, if it is marked. -/
def step : Search → Search
  | going [] => ended none
  | going (n :: pending) =>
    if n.isFault then ended (some n)
    else if n.hasError then going (n.children ++ pending)
    else going pending
  | ended result => ended result

theorem step_going_cons (n : Node) (pending : List Node) :
    step (going (n :: pending)) =
      if n.isFault then ended (some n)
      else if n.hasError then going (n.children ++ pending)
      else going pending := rfl

/-- What a search will find. -/
def answer : Search → Option Node
  | going pending => firstFaultIn? pending
  | ended result => result

/-- How many turns are left at most. -/
def work : Search → Nat
  | going pending => (pending.flatMap nodes).length + 1
  | ended _ => 0

end Search

theorem firstFaultIn?_append (ns ms : List Node) :
    firstFaultIn? (ns ++ ms) = (firstFaultIn? ns).or (firstFaultIn? ms) := by
  induction ns with
  | nil => rfl
  | cons n ns ih =>
    rw [List.cons_append, firstFaultIn?, firstFaultIn?]
    cases firstFault? n with
    | some m => rfl
    | none => exact ih

theorem firstFault?_eq (n : Node) :
    n.firstFault? =
      if n.isFault then some n else if n.hasError then firstFaultIn? n.children else none := by
  cases n
  rfl

namespace Search

/-- A turn does not change what will be found. -/
theorem answer_step (x : Search) : x.step.answer = x.answer := by
  match x with
  | ended result => rfl
  | going [] => rfl
  | going (n :: pending) =>
    have hnext : firstFaultIn? (n :: pending) =
        (firstFault? n).or (firstFaultIn? pending) := by
      rw [firstFaultIn?]
      cases firstFault? n <;> rfl
    rw [step_going_cons]
    split_ifs with hfault herror
    · simp [answer, hnext, firstFault?_eq, hfault]
    · simp [answer, hnext, firstFault?_eq, hfault, herror, firstFaultIn?_append]
    · simp [answer, hnext, firstFault?_eq, hfault, herror]

/-- A turn leaves less to do. -/
theorem work_step_lt (x : Search) (h : x.work ≠ 0) : x.step.work < x.work := by
  match x with
  | ended result => exact absurd rfl h
  | going [] => exact Nat.zero_lt_succ _
  | going (n :: pending) =>
    have hnodes : ((n :: pending).flatMap nodes).length =
        (n.children.flatMap nodes).length + 1 + (pending.flatMap nodes).length := by
      rw [List.flatMap_cons, nodes_eq_cons, List.length_append, List.length_cons]
    rw [step_going_cons]
    split_ifs
    · exact Nat.zero_lt_succ _
    · simp only [work, hnodes, List.flatMap_append, List.length_append]
      omega
    · simp only [work, hnodes]
      omega

theorem eq_ended_of_work_eq_zero {x : Search} (h : x.work = 0) : x = ended x.answer := by
  cases x with
  | going pending => cases h
  | ended result => rfl

/-- A search ends with what it was to find. -/
theorem iterate_step {turns : Nat} {x : Search} (h : x.work ≤ turns) :
    step^[turns] x = ended x.answer := by
  induction turns generalizing x with
  | zero => exact eq_ended_of_work_eq_zero (Nat.le_zero.1 h)
  | succ turns ih =>
    have hle : x.step.work ≤ turns := by
      by_cases hwork : x.work = 0
      · rw [eq_ended_of_work_eq_zero hwork]
        exact Nat.zero_le _
      · have hlt := work_step_lt x hwork
        omega
    rw [Function.iterate_succ_apply, ih hle, answer_step]

end Search

/-! ## Faults under marked nodes -/

/-- A fault that stands under marked nodes only. -/
def isExposed (x : List Node × Node) : Bool :=
  x.2.isFault && x.1.all hasError

mutual

theorem find?_lineagesUnder (above : List Node) : (n : Node) →
    ((n.lineagesUnder above).find? isExposed).map Prod.snd =
      if above.all hasError then n.firstFault? else none
  | mk k nm f m e s cs => by
    have hall := find?_lineagesUnderAll (mk k nm f m e s cs :: above) cs
    rw [List.all_cons] at hall
    rw [lineagesUnder, firstFault?_eq]
    by_cases habove : above.all hasError = true
    · rw [if_pos habove]
      rw [habove, Bool.and_true] at hall
      by_cases hfault : (mk k nm f m e s cs).isFault = true
      · rw [List.find?_cons_of_pos (by simp [isExposed, hfault, habove]), if_pos hfault]
        rfl
      · rw [List.find?_cons_of_neg (by simp [isExposed, hfault]), if_neg hfault]
        exact hall
    · -- nothing under an unmarked node is exposed, nor is that node
      have hunmarked : ¬ ((mk k nm f m e s cs).hasError && above.all hasError) = true := by
        simp [habove]
      rw [if_neg habove, List.find?_cons_of_neg (by simp [isExposed, habove])]
      rwa [if_neg hunmarked] at hall

theorem find?_lineagesUnderAll (above : List Node) : (cs : List Node) →
    ((lineagesUnderAll above cs).find? isExposed).map Prod.snd =
      if above.all hasError then firstFaultIn? cs else none
  | [] => by
    cases above.all hasError <;> rfl
  | c :: cs => by
    have hc := find?_lineagesUnder above c
    have hall := find?_lineagesUnderAll above cs
    rw [lineagesUnderAll, List.find?_append, Option.map_or, hc, hall, firstFaultIn?]
    cases above.all hasError
    · rfl
    · cases firstFault? c <;> rfl

end

/-- The search finds the first fault in the order of the document that stands under marked nodes
only. -/
theorem firstFault?_eq_find? (root : Node) :
    root.firstFault? = (root.lineages.find? isExposed).map Prod.snd :=
  (root.find?_lineagesUnder []).symm

/-! ## Trees that are marked where they have faults -/

/-- The marked nodes are those that have a fault at or under them. -/
def Marked (root : Node) : Prop :=
  ∀ n ∈ root.nodes, n.hasError = true ↔ ∃ m ∈ n.nodes, m.isFault = true

instance (root : Node) : Decidable root.Marked :=
  inferInstanceAs (Decidable (∀ n ∈ root.nodes, _ ↔ ∃ m ∈ n.nodes, _))

theorem Marked.of_mem_children {c n : Node} (h : n.Marked) (hc : c ∈ n.children) : c.Marked :=
  fun m hm => h m (nodes_subset_of_mem_children hc hm)

mutual

theorem Marked.firstFault?_eq : (n : Node) → n.Marked → n.firstFault? = n.nodes.find? isFault
  | mk k nm f m e s cs, h => by
    have hall := firstFaultIn?_eq_of_marked cs fun c hc => h.of_mem_children hc
    rw [nodes_eq_cons, Node.firstFault?_eq]
    by_cases hfault : (mk k nm f m e s cs).isFault = true
    · rw [if_pos hfault, List.find?_cons_of_pos hfault]
    · rw [if_neg hfault, List.find?_cons_of_neg hfault]
      by_cases herror : (mk k nm f m e s cs).hasError = true
      · rw [if_pos herror]
        exact hall
      · rw [if_neg herror, eq_comm, List.find?_eq_none]
        exact fun d hd hd' => herror ((h _ (self_mem_nodes _)).2
          ⟨d, nodes_eq_cons (mk k nm f m e s cs) ▸ List.mem_cons_of_mem _ hd, hd'⟩)

theorem firstFaultIn?_eq_of_marked : (cs : List Node) → (∀ c ∈ cs, c.Marked) →
    firstFaultIn? cs = (cs.flatMap nodes).find? isFault
  | [], _ => rfl
  | c :: cs, h => by
    have hc := Marked.firstFault?_eq c (h c List.mem_cons_self)
    have hall := firstFaultIn?_eq_of_marked cs fun d hd => h d (List.mem_cons_of_mem _ hd)
    rw [List.flatMap_cons, List.find?_append, ← hc, ← hall, firstFaultIn?]
    cases firstFault? c <;> rfl

end

theorem Marked.find?_eq_none_iff {root : Node} (h : root.Marked) :
    root.nodes.find? isFault = none ↔ root.hasError = false := by
  rw [List.find?_eq_none, ← Bool.not_eq_true, h root root.self_mem_nodes, not_exists]
  exact forall_congr' fun m => not_and.symm

end Node

/-! ## The syntax error of a tree -/

/-- The syntax error of a tree that is marked where it has faults is its first fault. -/
theorem Source.fault?_eq (s : Source) {root : Node} (h : root.Marked) :
    s.fault? root = (root.nodes.find? Node.isFault).map fun n =>
      { description := s.describe n, line := n.span.startPoint.row + 1
        column := n.span.startPoint.column } := by
  have hnone := h.find?_eq_none_iff
  unfold fault?
  rw [h.firstFault?_eq]
  by_cases herror : root.hasError = true
  · rw [if_pos herror]
    cases hfind : root.nodes.find? Node.isFault with
    | none => exact absurd (hnone.1 hfind) (by rw [herror]; decide)
    | some n => rfl
  · rw [if_neg herror, hnone.2 (by simpa using herror)]
    rfl

/-- The search for the first fault of a tree.  Every node of a walk is looked at with the nodes
above it.  With a stack, the search comes to an end within as many turns as the tree has nodes, and
one more; it finds the first node in the order of the document that is faulty and under marked nodes
only, if there is one.  In a tree that is marked where it has faults this is the first faulty node
of all; there is none just if the root is not marked, and the syntax error is described by that node
and the place at which it begins. -/
theorem first_fault (s : Source) (root : Node) :
    root.lineages.map Prod.snd = root.nodes ∧
    (∀ turns, root.nodes.length < turns →
      Node.Search.step^[turns] (.going [root]) = .ended root.firstFault?) ∧
    root.firstFault? = (root.lineages.find? Node.isExposed).map Prod.snd ∧
    (root.firstFault? = none ↔ ∀ x ∈ root.lineages, x.2.isFault = true →
      ∃ a ∈ x.1, a.hasError = false) ∧
    (root.Marked →
      root.firstFault? = root.nodes.find? Node.isFault ∧
      (root.firstFault? = none ↔ root.hasError = false) ∧
      (s.fault? root = none ↔ root.hasError = false) ∧
      (s.fault? root).map Fault.message = (root.nodes.find? Node.isFault).map fun n =>
        s.describe n ++ " (" ++ toString (n.span.startPoint.row + 1) ++ ":" ++
          toString n.span.startPoint.column ++ ")") := by
  refine ⟨root.map_snd_lineages, fun turns hturns => ?_, root.firstFault?_eq_find?, ?_, fun h => ?_⟩
  · have hwork : (Node.Search.going [root]).work ≤ turns := by
      simpa [Node.Search.work] using Nat.succ_le_of_lt hturns
    rw [Node.Search.iterate_step hwork]
    cases hfound : root.firstFault? <;> simp [Node.Search.answer, Node.firstFaultIn?, hfound]
  · rw [root.firstFault?_eq_find?, Option.map_eq_none_iff, List.find?_eq_none]
    simp [Node.isExposed]
  · rw [s.fault?_eq h, h.firstFault?_eq]
    refine ⟨rfl, h.find?_eq_none_iff, ?_, ?_⟩
    · rw [Option.map_eq_none_iff, h.find?_eq_none_iff]
    · rw [Option.map_map]
      rfl

/-- A brace that is missing on the second line. -/
def missingBrace : Node :=
  .mk "\x7d" false none true true ⟨12, 12, ⟨1, 4⟩, ⟨1, 4⟩⟩ []

/-- A block without its brace, in front of something that is no program. -/
def brokenTree : Node :=
  .mk "program" true none false true ⟨0, 20, ⟨0, 0⟩, ⟨3, 2⟩⟩ [
    .mk "comment" true none false false ⟨0, 7, ⟨0, 0⟩, ⟨0, 7⟩⟩ [],
    .mk "statement_block" true none false true ⟨8, 12, ⟨1, 0⟩, ⟨1, 4⟩⟩ [missingBrace],
    .mk "ERROR" true none false true ⟨18, 20, ⟨3, 0⟩, ⟨3, 2⟩⟩ []]

/-- Of the two faults the missing brace comes first. -/
theorem first_fault_missingBrace :
    brokenTree.Marked ∧ brokenTree.firstFault? = some missingBrace ∧
      (Source.fault? ⟨[]⟩ brokenTree).map Fault.message = some "Missing '\x7d' (2:4)" := by
  have hmarked : brokenTree.Marked := by decide +kernel
  obtain ⟨-, -, -, -, hfirst⟩ := first_fault ⟨[]⟩ brokenTree
  obtain ⟨hfirst, -, -, hmessage⟩ := hfirst hmarked
  refine ⟨hmarked, hfirst, hmessage.trans ?_⟩
  decide +kernel

end TestScribe.Syntax
