import Mathlib.Data.List.Nodup

/-!
# Lists without repetition

`eraseDups` leaves the first of equal items.  It can be exchanged with a filter, so it may be
applied to the parts of a list before it is applied to the whole
(`List.eraseDups_append_eraseDups`).

`eraseDupsBy` leaves the first of the items that a relation takes for the same.  If they are the
same by a key, the keys of what is left are without repetition (`List.map_eraseDupsBy`).
-/

namespace List

section Equal

variable {α : Type} [BEq α] [LawfulBEq α]

/-- By recursion on the length: what is left behind an item is shorter. -/
theorem eraseDups_filter (p : α → Bool) :
    ∀ xs : List α, (xs.filter p).eraseDups = xs.eraseDups.filter p
  | [] => rfl
  | x :: xs => by
    have ih := eraseDups_filter p (xs.filter fun y => !y == x)
    have hswap :
        ((xs.filter p).filter fun y => !y == x) = (xs.filter fun y => !y == x).filter p := by
      simp only [filter_filter, Bool.and_comm]
    rw [eraseDups_cons, filter_cons, filter_cons]
    by_cases hx : p x = true
    · rw [if_pos hx, if_pos hx, eraseDups_cons, hswap, ih]
    · rw [if_neg hx, if_neg hx, ← ih, ← hswap]
      have hne : ∀ y ∈ xs.filter p, (!y == x) = true := by
        intro y hy
        rw [Bool.not_eq_true', beq_eq_false_iff_ne]
        rintro rfl
        exact hx (mem_filter.1 hy).2
      rw [filter_eq_self.2 hne]
termination_by xs => xs.length
decreasing_by exact Nat.lt_succ_of_le (length_filter_le _ _)

theorem nodup_eraseDups : ∀ xs : List α, xs.eraseDups.Nodup
  | [] => nodup_nil
  | x :: xs => by
    rw [eraseDups_cons, nodup_cons]
    constructor
    · intro hx
      have habsent := (mem_filter.1 (mem_eraseDups.1 hx)).2
      simp at habsent
    · exact nodup_eraseDups (xs.filter fun y => !y == x)
termination_by xs => xs.length
decreasing_by exact Nat.lt_succ_of_le (length_filter_le _ _)

theorem eraseDups_eq_self : ∀ {xs : List α}, xs.Nodup → xs.eraseDups = xs
  | [], _ => rfl
  | x :: xs, h => by
    obtain ⟨hx, hxs⟩ := nodup_cons.1 h
    have hne : ∀ y ∈ xs, (!y == x) = true := by
      intro y hy
      rw [Bool.not_eq_true', beq_eq_false_iff_ne]
      rintro rfl
      exact hx hy
    rw [eraseDups_cons, filter_eq_self.2 hne, eraseDups_eq_self hxs]

theorem eraseDups_eraseDups (xs : List α) : xs.eraseDups.eraseDups = xs.eraseDups :=
  eraseDups_eq_self (nodup_eraseDups xs)

/-- What is first seen in a list is first seen in its parts. -/
theorem eraseDups_append_eraseDups (xs ys : List α) :
    (xs.eraseDups ++ ys.eraseDups).eraseDups = (xs ++ ys).eraseDups := by
  have habsent : ys.eraseDups.removeAll xs.eraseDups = (ys.removeAll xs).eraseDups := by
    unfold removeAll
    rw [eraseDups_filter]
    refine filter_congr fun y _ => ?_
    rw [Bool.eq_iff_iff]
    simp
  rw [eraseDups_append, eraseDups_append, eraseDups_eraseDups, habsent, eraseDups_eraseDups]

theorem prefix_eraseDups_append (xs ys : List α) : xs.eraseDups <+: (xs ++ ys).eraseDups := by
  rw [eraseDups_append]
  exact prefix_append _ _

end Equal

section Same

variable {α β : Type}

theorem map_eraseDupsBy [BEq β] (key : α → β) : ∀ xs : List α,
    (xs.eraseDupsBy fun a b => key a == key b).map key = (xs.map key).eraseDups
  | [] => rfl
  | x :: xs => by
    have hrest : (xs.filter fun b => (key b == key x) = false).map key =
        (xs.map key).filter fun b => !b == key x := by
      rw [filter_map]
      exact congrArg (map key) (filter_congr fun b _ => by simp)
    rw [eraseDupsBy_cons, map_cons, map_cons, eraseDups_cons, map_eraseDupsBy key, hrest]
termination_by xs => xs.length
decreasing_by exact Nat.lt_succ_of_le (length_filter_le _ _)

/-- The same may be left out before or after `f` picks some of the items, if items are the same only
where `f` picks both. -/
theorem filterMap_eraseDupsBy {f : α → Option β} {r : α → α → Bool} {q : β → β → Bool}
    (h : ∀ x y, r x y = ((f x).any fun a => (f y).any fun b => q a b)) : ∀ xs : List α,
    (xs.eraseDupsBy r).filterMap f = (xs.filterMap f).eraseDupsBy q
  | [] => rfl
  | x :: xs => by
    rw [eraseDupsBy_cons]
    cases hx : f x with
    | none =>
      have hself : (xs.filter fun b => r b x = false) = xs :=
        filter_eq_self.2 fun b _ => by simp [h, hx]
      rw [filterMap_cons_none hx, filterMap_cons_none hx, hself, filterMap_eraseDupsBy h]
    | some a =>
      have hrest : (xs.filter fun b => r b x = false).filterMap f =
          (xs.filterMap f).filter fun b => q b a = false := by
        rw [filterMap_filter, filter_filterMap]
        refine filterMap_congr fun b _ => ?_
        cases hb : f b <;> simp [h, hx, hb, Option.filter_some]
      rw [filterMap_cons_some hx, filterMap_cons_some hx, eraseDupsBy_cons,
        filterMap_eraseDupsBy h, hrest]
termination_by xs => xs.length
decreasing_by
  · exact Nat.lt_succ_self _
  · exact Nat.lt_succ_of_le (length_filter_le _ _)

/-- What is the same as nothing stays. -/
theorem mem_eraseDupsBy_iff {r : α → α → Bool} {x : α} (h : ∀ y, r x y = false) :
    ∀ xs : List α, x ∈ xs.eraseDupsBy r ↔ x ∈ xs
  | [] => Iff.rfl
  | y :: xs => by
    rw [eraseDupsBy_cons, mem_cons, mem_cons, mem_eraseDupsBy_iff h, mem_filter]
    simp [h]
termination_by xs => xs.length
decreasing_by exact Nat.lt_succ_of_le (length_filter_le _ _)

end Same

end List
