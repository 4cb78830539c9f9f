import Mathlib.Data.List.Basic
import TestScribe.Proofs.Syntax.Pruning

/-!
# What a walk lists

A place is the way down to a node: the indexes of the children that are taken.  A walk meets every
place of a tree once, and the places come in lexicographic order, which is the order of the document
(`exists_inDocumentOrder`).  What is read off a walk in order, with nothing at some of the items, is
described by `Lists`.
-/

namespace TestScribe.Syntax

/-! ## Lists of what is given -/

section Lists

variable {α β : Type} {R : α → β → Prop}

/-- `ys` lists in order what `R` gives for the items of `xs`, one entry for each item for which it
gives any; the others are passed over. -/
abbrev Lists (R : α → β → Prop) : List α → List β → Prop :=
  Thinned R fun x => ∀ y, ¬ R x y

theorem lists_filterMap {f : α → Option β} (h : ∀ x y, f x = some y ↔ R x y) (xs : List α) :
    Lists R xs (xs.filterMap f) := by
  induction xs with
  | nil => exact .nil
  | cons x xs ih =>
    cases hx : f x with
    | none =>
      rw [List.filterMap_cons_none hx]
      refine .drop (fun y hy => ?_) ih
      have hsome : f x = some y := (h x y).2 hy
      rw [hx] at hsome
      cases hsome
    | some y =>
      rw [List.filterMap_cons_some hx]
      exact .keep ((h x y).1 hx) ih

/-- What gives at most one entry for an item is listed in one way only. -/
theorem Lists.eq_filterMap {f : α → Option β} (h : ∀ x y, f x = some y ↔ R x y) {xs : List α}
    {ys : List β} (hlists : Lists R xs ys) : ys = xs.filterMap f := by
  induction hlists with
  | nil => rfl
  | keep hxy _ ih => rw [List.filterMap_cons_some ((h _ _).2 hxy), ih]
  | @drop x _ _ hx _ ih =>
    have hnone : f x = none := Option.eq_none_iff_forall_ne_some.2 fun y hy => hx y ((h x y).1 hy)
    rw [List.filterMap_cons_none hnone, ih]

end Lists

/-! ## Places -/

namespace Node

/-- The visit at a place under a node that is met with these surroundings. -/
def visitFrom? (parent : Option Node) (before : List Node) (n : Node) : List Nat → Option Visit
  | [] => some { node := n, parent, before }
  | i :: place =>
    n.children[i]?.bind fun c => visitFrom? (some n) (n.children.take i).reverse c place

/-- The visit at a place of a tree. -/
def visit? (root : Node) (place : List Nat) : Option Visit :=
  root.visitFrom? none [] place

mutual

/-- The visits of a node and of everything under it, each with its place. -/
def placedIn (parent : Option Node) (before : List Node) : Node → List (List Nat × Visit)
  | mk k n f m e s cs =>
    ([], { node := mk k n f m e s cs, parent, before }) :: placedAll (mk k n f m e s cs) [] cs

/-- The same for a row of siblings; the first of them has as many in front as stand in `before`. -/
def placedAll (parent : Node) (before : List Node) : List Node → List (List Nat × Visit)
  | [] => []
  | c :: cs =>
    (placedIn (some parent) before c).map (fun x => (before.length :: x.1, x.2)) ++
      placedAll parent (c :: before) cs

end

mutual

theorem map_snd_placedIn (p : Option Node) (b : List Node) :
    (n : Node) → (placedIn p b n).map Prod.snd = visitsIn p b n
  | mk _ _ _ _ _ _ cs => by
    rw [placedIn, visitsIn, List.map_cons, map_snd_placedAll _ [] cs]

theorem map_snd_placedAll (p : Node) (b : List Node) :
    (cs : List Node) → (placedAll p b cs).map Prod.snd = visitsAll p b cs
  | [] => rfl
  | c :: cs => by
    have hc : ((placedIn (some p) b c).map fun x => (b.length :: x.1, x.2)).map Prod.snd =
        (placedIn (some p) b c).map Prod.snd := by
      rw [List.map_map]
      rfl
    rw [placedAll, visitsAll, List.map_append, hc, map_snd_placedIn _ _ c,
      map_snd_placedAll p (c :: b) cs]

end

theorem exists_of_mem_placedAll {p : Node} {x : List Nat × Visit} :
    ∀ {cs : List Node} {b : List Node}, x ∈ placedAll p b cs →
      ∃ i place, x.1 = i :: place ∧ b.length ≤ i
  | [], _, h => by cases h
  | c :: cs, b, h => by
    rw [placedAll, List.mem_append, List.mem_map] at h
    rcases h with ⟨y, -, rfl⟩ | h
    · exact ⟨b.length, y.1, rfl, Nat.le_refl _⟩
    · obtain ⟨i, place, hx, hi⟩ := exists_of_mem_placedAll h
      exact ⟨i, place, hx, by simp only [List.length_cons] at hi; omega⟩

mutual

/-- A node comes before everything under it. -/
theorem pairwise_placedIn (p : Option Node) (b : List Node) :
    (n : Node) → (placedIn p b n).Pairwise fun x y => x.1 < y.1
  | mk _ _ _ _ _ _ cs => by
    rw [placedIn, List.pairwise_cons]
    refine ⟨fun x hx => ?_, pairwise_placedAll _ [] cs⟩
    obtain ⟨i, place, hplace, -⟩ := exists_of_mem_placedAll hx
    rw [hplace]
    exact List.nil_lt_cons i place

/-- What stands under a node comes before the siblings behind it. -/
theorem pairwise_placedAll (p : Node) (b : List Node) :
    (cs : List Node) → (placedAll p b cs).Pairwise fun x y => x.1 < y.1
  | [] => .nil
  | c :: cs => by
    rw [placedAll, List.pairwise_append, List.pairwise_map]
    refine ⟨?_, pairwise_placedAll p (c :: b) cs, ?_⟩
    · exact (pairwise_placedIn (some p) b c).imp fun h => List.cons_lt_cons_self.2 h
    · intro x hx y hy
      obtain ⟨z, -, rfl⟩ := List.mem_map.1 hx
      obtain ⟨i, place, hplace, hi⟩ := exists_of_mem_placedAll hy
      rw [hplace]
      rw [List.length_cons] at hi
      exact List.cons_lt_cons_iff.2 (.inl (by omega))

end

mutual

theorem mem_placedIn_iff {place : List Nat} {v : Visit} (p : Option Node) (b : List Node) :
    (n : Node) → ((place, v) ∈ placedIn p b n ↔ n.visitFrom? p b place = some v)
  | mk k nm f m e s cs => by
    rw [placedIn, List.mem_cons, mem_placedAll_iff _ [] cs]
    cases place with
    | nil => simp [visitFrom?, eq_comm]
    | cons i place =>
      simp [visitFrom?, children, Option.bind_eq_some_iff]

/-- The `i`th of the siblings stands behind those in `before` and the `i` in front of it. -/
theorem mem_placedAll_iff {place : List Nat} {v : Visit} (p : Node) (b : List Node) :
    (cs : List Node) → ((place, v) ∈ placedAll p b cs ↔
      ∃ i rest c, place = (b.length + i) :: rest ∧ cs[i]? = some c ∧
        c.visitFrom? (some p) ((cs.take i).reverse ++ b) rest = some v)
  | [] => by simp [placedAll]
  | c :: cs => by
    rw [placedAll, List.mem_append, List.mem_map, mem_placedAll_iff p (c :: b) cs]
    constructor
    · rintro (⟨⟨rest, w⟩, hmem, heq⟩ | ⟨i, rest, d, rfl, hd, hv⟩)
      · obtain ⟨rfl, rfl⟩ := Prod.mk.inj heq
        exact ⟨0, rest, c, rfl, rfl, (mem_placedIn_iff (some p) b c).1 hmem⟩
      · refine ⟨i + 1, rest, d, ?_, hd, ?_⟩
        · rw [List.length_cons]
          congr 1
          omega
        · rwa [List.take_succ_cons, List.reverse_cons, List.append_assoc, List.singleton_append]
    · rintro ⟨i, rest, d, rfl, hd, hv⟩
      cases i with
      | zero =>
        cases hd
        exact .inl ⟨(rest, v), (mem_placedIn_iff (some p) b c).2 hv, rfl⟩
      | succ i =>
        refine .inr ⟨i, rest, d, ?_, hd, ?_⟩
        · rw [List.length_cons]
          congr 1
          omega
        · rwa [List.take_succ_cons, List.reverse_cons, List.append_assoc,
            List.singleton_append] at hv

end

end Node

/-- All visits of a tree, each with its place, are in the order of the document: a node stands
before everything under it, and that before the siblings behind the node.  So no place comes
twice. -/
structure InDocumentOrder (root : Node) (placed : List (List Nat × Visit)) : Prop where
  ordered : placed.Pairwise fun x y => x.1 < y.1
  complete : ∀ place v, (place, v) ∈ placed ↔ root.visit? place = some v

/-- A walk meets every place of a tree exactly once, in the order of the document. -/
theorem exists_inDocumentOrder (root : Node) :
    ∃ placed, InDocumentOrder root placed ∧ root.visits = placed.map Prod.snd :=
  ⟨root.placedIn none [],
    ⟨root.pairwise_placedIn none [], fun _ _ => root.mem_placedIn_iff none []⟩,
    (root.map_snd_placedIn none []).symm⟩

theorem nodes_eq_map {root : Node} {placed : List (List Nat × Visit)}
    (h : root.visits = placed.map Prod.snd) : root.nodes = placed.map fun x => x.2.node := by
  rw [Node.nodes, h, List.map_map]
  rfl

end TestScribe.Syntax
