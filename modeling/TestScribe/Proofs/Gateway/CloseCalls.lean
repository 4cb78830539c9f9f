import Mathlib.Algebra.Order.Monoid.WithTop
import Mathlib.Algebra.Order.Ring.Rat
import TestScribe.Decimal.Binary
import TestScribe.Proofs.Gateway.SlidingWindow

/-!
# Calls that are close together

The law of the sliding window is about times that are subtracted exactly.  A limiter on
floating-point times rounds, and may so forget a call before it has left the window.  As long as it
takes no earlier call of a client for a whole window older than a later one, it remembers all that
it has allowed (`suffix_limiterOf_after`), and so allows no more calls than its quota has
(`length_allowedTimes_le`).  Nothing is asked of the times here, nor of what the limiters held
before.
-/

namespace TestScribe

/-! ## Exact times -/

namespace Decimal

/-- The value of a finite number. -/
def Binary.value (b : Binary) : ℚ :=
  (if b.negative then -1 else 1) * (b.ratio.1 / b.ratio.2)

/-- The exact value of a floating-point number, 0 if it has none. -/
def exactValue (x : Float) : WithTop ℚ :=
  match Reading.ofFloat x with
  | .finite b => (b.value : ℚ)
  | .infinite false => ⊤
  | _ => (0 : ℚ)

end Decimal

namespace Gateway

/-- On a clock that does not go back, what lies between two times lies in one stretch. -/
theorem exists_stretch {α κ : Type} [LinearOrder κ] (time : α → κ) {l : List α}
    (h : l.Pairwise fun a b => time a ≤ time b) (start stop : κ) :
    ∃ earlier inside later, l = earlier ++ (inside ++ later) ∧ (∀ a ∈ earlier, time a < start) ∧
      (∀ a ∈ inside, start ≤ time a ∧ time a < stop) ∧ ∀ a ∈ later, stop ≤ time a := by
  induction l with
  | nil => exact ⟨[], [], [], rfl, by simp, by simp, by simp⟩
  | cons a l ih =>
    obtain ⟨hle, hsorted⟩ := List.pairwise_cons.1 h
    obtain ⟨earlier, inside, later, rfl, hearlier, hinside, hlater⟩ := ih hsorted
    rcases lt_or_ge (time a) start with hbefore | hstart
    · exact ⟨a :: earlier, inside, later, rfl, List.forall_mem_cons.2 ⟨hbefore, hearlier⟩,
        hinside, hlater⟩
    · have hnone : earlier = [] := List.eq_nil_iff_forall_not_mem.2 fun b hb =>
        absurd (hearlier b hb) (not_lt.2 (hstart.trans (hle b (List.mem_append_left _ hb))))
      subst hnone
      rcases lt_or_ge (time a) stop with hin | hstop
      · exact ⟨[], a :: inside, later, rfl, by simp,
          List.forall_mem_cons.2 ⟨⟨hstart, hin⟩, hinside⟩, hlater⟩
      · exact ⟨[], [], a :: (inside ++ later), rfl, by simp, by simp,
          List.forall_mem_cons.2 ⟨hstop, fun b hb => hstop.trans (hle b hb)⟩⟩

/-! ## Limiters that forget too early -/

variable {τ : Type} [Sub τ] [LE τ] [DecidableLE τ] {q : Quota τ}

/-- A limiter keeps its last calls if it takes none of them for a whole window old. -/
theorem Limiter.suffix_recent {l ts : List τ} {now : τ} (h : ts <:+ l)
    (hkept : ∀ t ∈ ts, ¬ t ≤ now - q.window) : ts <:+ Limiter.recent q l now := by
  obtain ⟨front, rfl⟩ := h
  induction front with
  | nil =>
    cases ts with
    | nil => exact List.nil_suffix
    | cons t ts =>
      have hfirst : ¬ t ≤ now - q.window := hkept t List.mem_cons_self
      simp [recent, hfirst]
  | cons u front ih =>
    by_cases hu : u ≤ now - q.window
    · simpa [recent, hu] using ih
    · have hall : recent q (u :: front ++ ts) now = u :: front ++ ts := by
        simp [recent, hu]
      rw [hall]
      exact List.suffix_append _ _

namespace ClientLimiters

variable {client : String} {ls : ClientLimiters τ} {xs : List (Arrival τ)}

/-- No earlier call of the client is a whole window older than a later one, as far as a limiter can
tell. -/
def Close (q : Quota τ) (client : String) (xs : List (Arrival τ)) : Prop :=
  xs.Pairwise fun x y => x.client = client → y.client = client → ¬ x.time ≤ y.time - q.window

theorem exists_arrival_of_mem_allowedTimes {t : τ}
    (h : t ∈ allowedTimes client (rulings q ls xs)) :
    ∃ x ∈ xs, x.client = client ∧ x.time = t := by
  obtain ⟨r, hr, rfl⟩ := List.mem_map.1 h
  obtain ⟨hmem, hkept⟩ := List.mem_filter.1 hr
  refine ⟨r.toArrival, ?_, beq_iff_eq.1 (Bool.and_eq_true_iff.1 hkept).1, rfl⟩
  rw [← map_toArrival_rulings q ls xs]
  exact List.mem_map_of_mem hmem

/-- While the calls of a client are close together its limiter forgets none that it has allowed, and
allows no more than the quota has. -/
theorem suffix_limiterOf_after (ls : ClientLimiters τ) (h : Close q client xs) :
    allowedTimes client (rulings q ls xs) <:+ limiterOf client (after q ls xs) ∧
      (allowedTimes client (rulings q ls xs)).length ≤ q.calls.toNat := by
  induction xs using List.reverseRecOn with
  | nil => exact ⟨List.nil_suffix, Nat.zero_le _⟩
  | append_singleton xs x ih =>
    obtain ⟨hclose, -, hlast⟩ := List.pairwise_append.1 h
    obtain ⟨hsuffix, hlength⟩ := ih hclose
    have hafter : after q ls (xs ++ [x]) =
        (ClientLimiters.acquire q x.client x.time (after q ls xs)).2 := by
      simp [after]
    rw [rulings_append, hafter, rulings, rulings_nil]
    by_cases hclient : x.client = client
    · -- what the client was allowed here stands last in its limiter, so it is forgotten last
      subst hclient
      have hkept : allowedTimes x.client (rulings q ls xs) <:+
          Limiter.recent q (limiterOf x.client (after q ls xs)) x.time := by
        refine Limiter.suffix_recent hsuffix fun t ht => ?_
        obtain ⟨y, hy, hyclient, rfl⟩ := exists_arrival_of_mem_allowedTimes ht
        exact hlast y hy x (List.mem_singleton_self x) hyclient rfl
      rw [limiterOf_acquire_self, acquire_fst]
      rcases Limiter.acquire_cases q (limiterOf x.client (after q ls xs)) x.time with
        ⟨-, hrefused, hstate⟩ | ⟨hroom, hallowed⟩
      · rw [allowedTimes_append_of_refused _ hrefused, hstate]
        exact ⟨hkept, hlength⟩
      · have hadded : allowedTimes x.client
              (rulings q ls xs ++ [{ x with admission := .allowed }]) =
            allowedTimes x.client (rulings q ls xs) ++ [x.time] :=
          allowedTimes_append_of_allowed _ rfl rfl
        rw [hallowed, hadded]
        obtain ⟨front, hfront⟩ := hkept
        refine ⟨⟨front, by rw [← List.append_assoc, hfront]⟩, ?_⟩
        have hle := congrArg List.length hfront
        rw [List.length_append] at hle ⊢
        rw [List.length_singleton]
        omega
    · rw [limiterOf_acquire_of_ne q hclient, allowedTimes_append_of_ne_client _ hclient]
      exact ⟨hsuffix, hlength⟩

/-- Of calls of a client that are close together no more are allowed than the quota has. -/
theorem length_allowedTimes_le (ls : ClientLimiters τ) (h : Close q client xs) :
    (allowedTimes client (rulings q ls xs)).length ≤ q.calls.toNat :=
  (suffix_limiterOf_after ls h).2

end ClientLimiters

end Gateway

end TestScribe
