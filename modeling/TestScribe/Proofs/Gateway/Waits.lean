import Mathlib.Algebra.Order.Group.Basic
import Mathlib.Algebra.Order.Group.Int
import TestScribe.Proofs.Gateway.SlidingWindow

/-!
# How long a refused call has to wait

A limiter never holds more calls than its quota has, so one that refuses a call is full.  A full
limiter stays as it is until its oldest call has left the window, however often it is asked
(`IsFull.after`), and then allows the next call.  So where times are subtracted exactly, the wait
that a limiter tells is the time until then (`wait_is_exact`).
-/

namespace TestScribe.Gateway.Limiter

variable {τ : Type}

/-! ## Full limiters -/

section Full

variable [Sub τ] [LE τ] [DecidableLE τ] {q : Quota τ} {l : Limiter τ} {oldest now w : τ}

/-- A limiter holds as many calls as its quota has, the first of them at `oldest`. -/
structure IsFull (q : Quota τ) (oldest : τ) (l : Limiter τ) : Prop where
  head : l.head? = some oldest
  length : (l.length : Int) = q.calls

theorem mem_of_mem_recent {t : τ} (h : t ∈ l.recent q now) : t ∈ l :=
  (List.dropWhile_sublist _).subset h

theorem length_recent_le (q : Quota τ) (l : Limiter τ) (now : τ) :
    (l.recent q now).length ≤ l.length :=
  (List.dropWhile_sublist _).length_le

/-- A call that is told to wait finds a call in the window, the oldest of which fixes the wait. -/
theorem exists_oldest_of_wait (h : (acquire q l now).1 = .wait w) :
    ∃ oldest rest, l.recent q now = oldest :: rest ∧ w = q.window - (now - oldest) := by
  unfold acquire at h
  dsimp only at h
  split at h
  · split at h
    · cases h
    · next oldest rest hrecent => exact ⟨oldest, rest, hrecent, (Admission.wait.inj h).symm⟩
  · cases h

/-- The oldest call in the window has not left it. -/
theorem not_le_of_recent {rest : List τ} (h : l.recent q now = oldest :: rest) :
    ¬ oldest ≤ now - q.window := by
  have hne : l.recent q now ≠ [] := h ▸ List.cons_ne_nil _ _
  have hhead : (l.recent q now).head hne = oldest := by simp [h]
  have hkept : decide ((l.recent q now).head hne ≤ now - q.window) = false :=
    List.head_dropWhile_not (fun t => decide (t ≤ now - q.window)) hne
  rw [hhead] at hkept
  exact of_decide_eq_false hkept

/-- A limiter that holds no more calls than its quota has goes on to do so. -/
theorem length_acquire_le (h : l.length ≤ q.calls.toNat) (now : τ) :
    (acquire q l now).2.length ≤ q.calls.toNat := by
  have hrecent := length_recent_le q l now
  rcases acquire_cases q l now with ⟨-, -, hstate⟩ | ⟨hroom, hallowed⟩
  · rw [hstate]
    omega
  · rw [hallowed, List.length_append, List.length_singleton]
    omega

/-- A limiter adds no time but the one at which it is asked. -/
theorem mem_or_eq_of_mem_acquire {t : τ} (h : t ∈ (acquire q l now).2) : t ∈ l ∨ t = now := by
  rcases acquire_cases q l now with ⟨-, -, hstate⟩ | ⟨-, hallowed⟩
  · rw [hstate] at h
    exact .inl (mem_of_mem_recent h)
  · rw [hallowed, List.mem_append] at h
    exact h.imp mem_of_mem_recent List.mem_singleton.1

/-- A limiter that refuses a call is full after it. -/
theorem isFull_of_wait (hle : l.length ≤ q.calls.toNat) (h : (acquire q l now).1 = .wait w) :
    ∃ oldest ∈ l, IsFull q oldest (acquire q l now).2 ∧ ¬ oldest ≤ now - q.window ∧
      w = q.window - (now - oldest) := by
  obtain ⟨oldest, rest, hrecent, hw⟩ := exists_oldest_of_wait h
  have hmem : oldest ∈ l := mem_of_mem_recent (hrecent ▸ List.mem_cons_self)
  refine ⟨oldest, hmem, ?_, not_le_of_recent hrecent, hw⟩
  rcases acquire_cases q l now with ⟨hfull, -, hstate⟩ | ⟨-, hallowed⟩
  · have hlength := length_recent_le q l now
    have hpos : 0 < l.length := List.length_pos_of_mem hmem
    rw [hstate]
    exact ⟨by rw [hrecent]; rfl, by omega⟩
  · rw [hallowed] at h
    cases h

namespace IsFull

variable (h : IsFull q oldest l)
include h

/-- While its oldest call is in the window a full limiter forgets nothing. -/
theorem recent_eq (hin : ¬ oldest ≤ now - q.window) : l.recent q now = l := by
  obtain ⟨rest, rfl⟩ := List.head?_eq_some_iff.1 h.head
  exact List.dropWhile_cons_of_neg (by simpa using hin)

/-- Once its oldest call has left the window a full limiter has room. -/
theorem length_recent_lt (hout : oldest ≤ now - q.window) :
    ((l.recent q now).length : Int) < q.calls := by
  obtain ⟨rest, rfl⟩ := List.head?_eq_some_iff.1 h.head
  have hrecent : Limiter.recent q (oldest :: rest) now = Limiter.recent q rest now :=
    List.dropWhile_cons_of_pos (decide_eq_true hout)
  have hrest := length_recent_le q rest now
  have hlength := h.length
  rw [List.length_cons] at hlength
  rw [hrecent]
  omega

/-- A full limiter allows a call when its oldest call has left the window. -/
theorem acquire_allowed_iff : (acquire q l now).1 = .allowed ↔ oldest ≤ now - q.window := by
  constructor
  · intro hallowed
    by_contra hin
    rcases acquire_cases q l now with ⟨-, hrefused, -⟩ | ⟨hroom, -⟩
    · exact hrefused hallowed
    · rw [h.recent_eq hin, h.length] at hroom
      exact absurd hroom (Int.lt_irrefl _)
  · intro hout
    rcases acquire_cases q l now with ⟨hfull, -, -⟩ | ⟨-, hallowed⟩
    · exact absurd (h.length_recent_lt hout) (Int.not_lt.2 hfull)
    · rw [hallowed]

/-- A full limiter that refuses a call stays as it is. -/
theorem acquire_of_refused (hrefused : (acquire q l now).1 ≠ .allowed) :
    (acquire q l now).2 = l := by
  have hin : ¬ oldest ≤ now - q.window := fun hout =>
    hrefused (h.acquire_allowed_iff.2 hout)
  rcases acquire_cases q l now with ⟨-, -, hstate⟩ | ⟨-, hallowed⟩
  · rw [hstate, h.recent_eq hin]
  · exact absurd (by rw [hallowed]) hrefused

end IsFull

end Full

/-! ## Calls one after another -/

section Runs

variable [Sub τ] [LE τ] [DecidableLE τ] {q : Quota τ} {l : Limiter τ} {oldest : τ}

/-- The limiter after calls at some times. -/
def after (q : Quota τ) (l : Limiter τ) (ts : List τ) : Limiter τ :=
  ts.foldl (fun l t => (acquire q l t).2) l

@[simp] theorem after_nil (q : Quota τ) (l : Limiter τ) : after q l [] = l := rfl

@[simp] theorem after_cons (q : Quota τ) (l : Limiter τ) (t : τ) (ts : List τ) :
    after q l (t :: ts) = after q (acquire q l t).2 ts := rfl

theorem after_append (q : Quota τ) (l : Limiter τ) (ts us : List τ) :
    after q l (ts ++ us) = after q (after q l ts) us :=
  List.foldl_append

theorem length_after_le (q : Quota τ) (ts : List τ) :
    (after q [] ts).length ≤ q.calls.toNat := by
  induction ts using List.reverseRecOn with
  | nil => exact Nat.zero_le _
  | append_singleton ts t ih =>
    rw [after_append]
    exact length_acquire_le ih t

/-- A limiter holds only times at which it was asked. -/
theorem mem_of_mem_after {ts : List τ} {t : τ} (h : t ∈ after q [] ts) : t ∈ ts := by
  induction ts using List.reverseRecOn with
  | nil => exact absurd h List.not_mem_nil
  | append_singleton ts u ih =>
    rw [after_append] at h
    rcases mem_or_eq_of_mem_acquire h with h | rfl
    · exact List.mem_append_left _ (ih h)
    · exact List.mem_append_right _ (List.mem_singleton_self _)

/-- A full limiter that refuses call after call stays as it is. -/
theorem IsFull.after (h : IsFull q oldest l) {ts : List τ}
    (hrefused : ∀ a ∈ admissions q l ts, a ≠ .allowed) : Limiter.after q l ts = l := by
  induction ts with
  | nil => rfl
  | cons t ts ih =>
    obtain ⟨hfirst, hrest⟩ := List.forall_mem_cons.1 hrefused
    have hstate := h.acquire_of_refused hfirst
    rw [hstate] at hrest
    rw [after_cons, hstate]
    exact ih hrest

end Runs

/-! ## The wait -/

section Exact

variable [AddCommGroup τ] [LinearOrder τ] [IsOrderedAddMonoid τ] {q : Quota τ}

/-- The wait that a limiter tells is exact.  On a clock that does not go back it is positive and no
longer than the window; and however often the limiter is asked and refuses in between, it allows
the next call exactly if the wait is over. -/
theorem wait_is_exact {ts : List τ} {t w : τ}
    (hclock : (ts ++ [t]).Pairwise (· ≤ ·)) (hwait : (acquire q (after q [] ts) t).1 = .wait w) :
    0 < w ∧ w ≤ q.window ∧
    ∀ us u, (∀ a ∈ admissions q (after q [] (ts ++ [t])) us, a ≠ .allowed) →
      ((acquire q (after q [] (ts ++ t :: us)) u).1 = .allowed ↔ t + w ≤ u) := by
  obtain ⟨oldest, hmem, hfull, hin, rfl⟩ := isFull_of_wait (length_after_le q ts) hwait
  have hpast : oldest ≤ t :=
    (List.pairwise_append.1 hclock).2.2 oldest (mem_of_mem_after hmem) t (List.mem_singleton_self t)
  refine ⟨?_, ?_, fun us u hrefused => ?_⟩
  · rw [sub_pos, sub_lt_comm]
    exact not_le.1 hin
  · exact sub_le_self _ (sub_nonneg.2 hpast)
  · rw [after_append] at hrefused
    have hstate : after q [] (ts ++ t :: us) = (acquire q (after q [] ts) t).2 := by
      rw [after_append, after_cons]
      exact hfull.after hrefused
    have hend : t + (q.window - (t - oldest)) = oldest + q.window := by
      rw [sub_sub_eq_add_sub, add_sub_cancel, add_comm]
    rw [hstate, hfull.acquire_allowed_iff, hend, le_sub_iff_add_le]

/-- Two calls in ten seconds, at zero and four: a call at five has to wait five seconds, and after
two more that are refused the call at ten is allowed. -/
theorem wait_is_exact_two_calls :
    ([0, 4] ++ [5] : List Int).Pairwise (· ≤ ·) ∧
    (acquire ⟨2, 10⟩ (after ⟨2, 10⟩ [] [0, 4]) (5 : Int)).1 = .wait 5 ∧
    (0 : Int) < 5 ∧ (5 : Int) ≤ 10 ∧
    (∀ a ∈ admissions ⟨2, 10⟩ (after ⟨2, 10⟩ [] [0, 4, 5]) ([7, 9] : List Int), a ≠ .allowed) ∧
    (acquire ⟨2, 10⟩ (after ⟨2, 10⟩ [] [0, 4, 5, 7, 9]) (10 : Int)).1 = .allowed := by
  have hclock : ([0, 4] ++ [5] : List Int).Pairwise (· ≤ ·) := by decide
  have hwait : (acquire ⟨2, 10⟩ (after ⟨2, 10⟩ [] [0, 4]) (5 : Int)).1 = .wait 5 := by decide
  have hrefused : ∀ a ∈ admissions ⟨2, 10⟩ (after ⟨2, 10⟩ [] [0, 4, 5]) ([7, 9] : List Int),
      a ≠ .allowed := by decide
  obtain ⟨hpos, hle, hnext⟩ := wait_is_exact (q := (⟨2, 10⟩ : Quota Int)) hclock hwait
  exact ⟨hclock, hwait, hpos, hle, hrefused,
    (hnext [7, 9] 10 hrefused).2 (by decide)⟩

end Exact

end TestScribe.Gateway.Limiter
