import Mathlib.Algebra.Order.Group.Basic
import Mathlib.Algebra.Order.Group.Int
import Mathlib.Data.List.Induction
import TestScribe.Gateway.Limiter

/-!
# The sliding window of a limiter

Clients ask their limiters in any order, on a clock that does not go back.  A limiter forgets
lazily, and only from its old end; still what it keeps at any time is exactly what it allowed in the
window that ends there (`Remembers`).  From this one invariant the law of the window follows
(`sliding_window_law`): when a call is allowed, how many calls are allowed in any window, that a
refused call leaves no trace, and that clients do not see each other.
-/

namespace TestScribe.Gateway

variable {τ : Type}

/-- A call of a client. -/
structure Arrival (τ : Type) where
  client : String
  time : τ

/-- A call of a client and what was said to it. -/
structure Ruling (τ : Type) extends Arrival τ where
  admission : Admission τ

/-- Whether the call was allowed. -/
def Ruling.isAllowed (r : Ruling τ) : Bool :=
  match r.admission with
  | .allowed => true
  | _ => false

theorem Ruling.isAllowed_iff {r : Ruling τ} : r.isAllowed = true ↔ r.admission = .allowed := by
  unfold isAllowed
  split <;> simp_all

/-- The times at which a client was allowed a call. -/
def allowedTimes (client : String) (rs : List (Ruling τ)) : List τ :=
  (rs.filter fun r => r.client == client && r.isAllowed).map fun r => r.time

section AllowedTimes

variable {client : String} (rs : List (Ruling τ)) {r : Ruling τ}

theorem allowedTimes_append (rs' : List (Ruling τ)) :
    allowedTimes client (rs ++ rs') = allowedTimes client rs ++ allowedTimes client rs' := by
  simp [allowedTimes, List.filter_append]

theorem allowedTimes_append_of_allowed (hclient : r.client = client)
    (hallowed : r.admission = .allowed) :
    allowedTimes client (rs ++ [r]) = allowedTimes client rs ++ [r.time] := by
  have hkept : (r.client == client && r.isAllowed) = true := by
    simp [hclient, Ruling.isAllowed_iff.2 hallowed]
  simp [allowedTimes, List.filter_append, hkept]

theorem allowedTimes_append_of_ne_client (h : r.client ≠ client) :
    allowedTimes client (rs ++ [r]) = allowedTimes client rs := by
  simp [allowedTimes, List.filter_append, h]

theorem allowedTimes_append_of_refused (h : r.admission ≠ .allowed) :
    allowedTimes client (rs ++ [r]) = allowedTimes client rs := by
  have hrefused : r.isAllowed = false := by
    rw [← Bool.not_eq_true, Ruling.isAllowed_iff]
    exact h
  simp [allowedTimes, List.filter_append, hrefused]

theorem mem_allowedTimes {t : τ} (h : t ∈ allowedTimes client rs) : ∃ r ∈ rs, r.time = t := by
  obtain ⟨r, hr, rfl⟩ := List.mem_map.1 h
  exact ⟨r, (List.mem_filter.1 hr).1, rfl⟩

end AllowedTimes

/-! ## Runs -/

section Runs

variable [Sub τ] [LE τ] [DecidableLE τ] (q : Quota τ)

/-- What a limiter says to calls at some times. -/
def Limiter.admissions : Limiter τ → List τ → List (Admission τ)
  | _, [] => []
  | l, t :: ts => (acquire q l t).1 :: admissions (acquire q l t).2 ts

namespace ClientLimiters

/-- What is said to calls of clients. -/
def rulings : ClientLimiters τ → List (Arrival τ) → List (Ruling τ)
  | _, [] => []
  | ls, x :: xs =>
    { x with admission := (acquire q x.client x.time ls).1 } ::
      rulings (acquire q x.client x.time ls).2 xs

/-- The limiters after calls of clients. -/
def after (ls : ClientLimiters τ) (xs : List (Arrival τ)) : ClientLimiters τ :=
  xs.foldl (fun ls x => (acquire q x.client x.time ls).2) ls

/-- The limiter of a client, a new one if the client has not called. -/
def limiterOf (client : String) : ClientLimiters τ → Limiter τ
  | [] => []
  | (name, l) :: rest => if name = client then l else limiterOf client rest

theorem acquire_fst (client : String) (now : τ) (ls : ClientLimiters τ) :
    (acquire q client now ls).1 = (Limiter.acquire q (limiterOf client ls) now).1 := by
  induction ls with
  | nil => rfl
  | cons entry rest ih =>
    obtain ⟨name, l⟩ := entry
    by_cases h : name = client <;> simp [acquire, limiterOf, h, ih]

theorem limiterOf_acquire_self (client : String) (now : τ) (ls : ClientLimiters τ) :
    limiterOf client (acquire q client now ls).2 =
      (Limiter.acquire q (limiterOf client ls) now).2 := by
  induction ls with
  | nil => simp [acquire, limiterOf]
  | cons entry rest ih =>
    obtain ⟨name, l⟩ := entry
    by_cases h : name = client <;> simp [acquire, limiterOf, h, ih]

theorem limiterOf_acquire_of_ne {client other : String} (h : client ≠ other) (now : τ)
    (ls : ClientLimiters τ) :
    limiterOf other (acquire q client now ls).2 = limiterOf other ls := by
  induction ls with
  | nil => simp [acquire, limiterOf, h]
  | cons entry rest ih =>
    obtain ⟨name, l⟩ := entry
    by_cases hname : name = client
    · simp [acquire, limiterOf, hname, h]
    · simp [acquire, limiterOf, hname, ih]

@[simp] theorem rulings_nil (ls : ClientLimiters τ) : rulings q ls [] = [] := rfl

@[simp] theorem after_nil (ls : ClientLimiters τ) : after q ls [] = ls := rfl

@[simp] theorem length_rulings (ls : ClientLimiters τ) (xs : List (Arrival τ)) :
    (rulings q ls xs).length = xs.length := by
  induction xs generalizing ls with
  | nil => rfl
  | cons x xs ih => simp [rulings, ih]

/-- Every call has its ruling. -/
theorem map_toArrival_rulings (ls : ClientLimiters τ) (xs : List (Arrival τ)) :
    (rulings q ls xs).map Ruling.toArrival = xs := by
  induction xs generalizing ls with
  | nil => rfl
  | cons x xs ih => simp [rulings, ih]

theorem map_time_rulings (ls : ClientLimiters τ) (xs : List (Arrival τ)) :
    (rulings q ls xs).map (fun r => r.time) = xs.map Arrival.time := by
  conv_rhs => rw [← map_toArrival_rulings q ls xs, List.map_map]
  rfl

theorem rulings_append (ls : ClientLimiters τ) (xs ys : List (Arrival τ)) :
    rulings q ls (xs ++ ys) = rulings q ls xs ++ rulings q (after q ls xs) ys := by
  induction xs generalizing ls with
  | nil => rfl
  | cons x xs ih => simp [rulings, after, ih]

/-- A ruling of a run is that of the limiters after the calls before it. -/
theorem exists_of_rulings_eq {ls : ClientLimiters τ} {xs : List (Arrival τ)}
    {before later : List (Ruling τ)} {r : Ruling τ} (h : rulings q ls xs = before ++ r :: later) :
    ∃ ys x zs, xs = ys ++ x :: zs ∧ before = rulings q ls ys ∧
      r = { x with admission := (acquire q x.client x.time (after q ls ys)).1 } ∧
      later = rulings q (acquire q x.client x.time (after q ls ys)).2 zs := by
  have hxs := map_toArrival_rulings q ls xs
  rw [h, List.map_append, List.map_cons] at hxs
  rw [← hxs, rulings_append] at h
  obtain ⟨hbefore, hrest⟩ := List.append_inj h (by simp)
  obtain ⟨hr, hlater⟩ := List.cons.inj hrest
  exact ⟨_, _, _, hxs.symm, hbefore.symm, hr.symm, hlater.symm⟩

/-- What is said to the calls of one client is what its limiter alone says to them. -/
theorem admissions_of_client (client : String) (ls : ClientLimiters τ) (xs : List (Arrival τ)) :
    ((rulings q ls xs).filter fun r => r.client = client).map Ruling.admission =
      Limiter.admissions q (limiterOf client ls)
        ((xs.filter fun x => x.client = client).map Arrival.time) := by
  induction xs generalizing ls with
  | nil => rfl
  | cons x xs ih =>
    by_cases h : x.client = client
    · subst h
      simp [rulings, Limiter.admissions, acquire_fst, ih, limiterOf_acquire_self]
    · simp [rulings, ih, h, limiterOf_acquire_of_ne q h]

end ClientLimiters

end Runs

/-! ## What a limiter says -/

namespace Limiter

variable [Sub τ] [LE τ] [DecidableLE τ] {q : Quota τ}

/-- A call is refused when the window is full, and then nothing is added to it; else it is allowed
and its time is added. -/
theorem acquire_cases (q : Quota τ) (l : Limiter τ) (now : τ) :
    (q.calls ≤ (l.recent q now).length ∧ (acquire q l now).1 ≠ .allowed ∧
        (acquire q l now).2 = l.recent q now) ∨
      ((l.recent q now).length < q.calls ∧
        acquire q l now = (.allowed, l.recent q now ++ [now])) := by
  by_cases h : q.calls ≤ (l.recent q now).length
  · left
    simp only [acquire, h, if_true]
    cases l.recent q now <;> simp
  · right
    exact ⟨Int.not_le.1 h, by simp [acquire, h]⟩

/-- A limiter that allows calls at all never says never. -/
theorem acquire_ne_never (hcalls : 1 ≤ q.calls) (l : Limiter τ) (now : τ) :
    (acquire q l now).1 ≠ .never := by
  unfold acquire
  cases h : l.recent q now with
  | nil =>
    have hroom : ¬ q.calls ≤ 0 := by omega
    simp [hroom]
  | cons oldest rest =>
    simp only
    split <;> simp

end Limiter

/-! ## What a limiter counts -/

section Counting

variable [LinearOrder τ]

/-- Cutting the old end off times in order leaves those after the cut. -/
theorem dropWhile_le_eq_filter {ts : List τ} (h : ts.Pairwise (· ≤ ·)) (cut : τ) :
    (ts.dropWhile fun t => decide (t ≤ cut)) = ts.filter fun t => decide (cut < t) := by
  induction ts with
  | nil => rfl
  | cons t ts ih =>
    obtain ⟨hle, hsorted⟩ := List.pairwise_cons.1 h
    by_cases ht : t ≤ cut
    · simp [ht, ih hsorted]
    · have hall : ∀ u ∈ ts, cut < u := fun u hu => lt_of_lt_of_le (not_le.1 ht) (hle u hu)
      have hfilter : (ts.filter fun t => decide (cut < t)) = ts :=
        List.filter_eq_self.2 fun u hu => decide_eq_true (hall u hu)
      simp [ht, not_le.1 ht, hfilter]

/-- The times that a client was allowed are in the order of the clock. -/
theorem pairwise_allowedTimes {rs : List (Ruling τ)} (client : String)
    (h : (rs.map fun r => r.time).Pairwise (· ≤ ·)) :
    (allowedTimes client rs).Pairwise (· ≤ ·) :=
  h.sublist (List.Sublist.map _ List.filter_sublist)

end Counting

namespace Limiter

variable [AddCommGroup τ] [LinearOrder τ] {q : Quota τ}

theorem recent_eq_filter {l : Limiter τ} (h : l.Pairwise (· ≤ ·)) (now : τ) :
    l.recent q now = l.filter fun t => decide (now - q.window < t) :=
  dropWhile_le_eq_filter h _

/-- What was forgotten earlier would be forgotten later. -/
theorem recent_recent [IsOrderedAddMonoid τ] (l : Limiter τ) {earlier now : τ}
    (h : earlier ≤ now) : Limiter.recent q (l.recent q earlier) now = l.recent q now := by
  induction l with
  | nil => rfl
  | cons t l ih =>
    by_cases ht : t ≤ earlier - q.window
    · have ht' : t ≤ now - q.window := ht.trans (sub_le_sub_right h _)
      simpa [recent, ht, ht'] using ih
    · simp [recent, ht]

/-- What a limiter says depends only on the calls that are in the window. -/
theorem acquire_fst_congr {l l' : Limiter τ} {now : τ} (h : l.recent q now = l'.recent q now) :
    (acquire q l now).1 = (acquire q l' now).1 := by
  unfold acquire
  rw [h]

end Limiter

/-! ## What limiters remember -/

namespace ClientLimiters

variable [AddCommGroup τ] [LinearOrder τ]

/-- The limiters go back to the rulings: what the limiter of a client still counts at a later time
is what the client was allowed in the window that ends there. -/
def Remembers (q : Quota τ) (ls : ClientLimiters τ) (rs : List (Ruling τ)) : Prop :=
  ∀ client now, (∀ r ∈ rs, r.time ≤ now) →
    (limiterOf client ls).recent q now =
      (allowedTimes client rs).filter fun t => decide (now - q.window < t)

variable {q : Quota τ} {ls : ClientLimiters τ} {rs : List (Ruling τ)} {x : Arrival τ}

theorem remembers_nil : Remembers q [] ([] : List (Ruling τ)) := fun _ _ _ => rfl

variable [IsOrderedAddMonoid τ]

/-- One call keeps the memory of the limiters. -/
theorem Remembers.acquire (h : Remembers q ls rs)
    (hsorted : (rs.map fun r => r.time).Pairwise (· ≤ ·)) (hlast : ∀ r ∈ rs, r.time ≤ x.time) :
    Remembers q (ClientLimiters.acquire q x.client x.time ls).2
      (rs ++ [{ x with admission := (ClientLimiters.acquire q x.client x.time ls).1 }]) := by
  intro client now hnow
  have hx : x.time ≤ now := hnow _ (List.mem_append_right _ (List.mem_singleton_self _))
  have hrs : ∀ r ∈ rs, r.time ≤ now := fun r hr => hnow r (List.mem_append_left _ hr)
  by_cases hclient : x.client = client
  · subst hclient
    have hordered := pairwise_allowedTimes x.client hsorted
    rw [limiterOf_acquire_self, acquire_fst]
    rcases Limiter.acquire_cases q (limiterOf x.client ls) x.time with
      ⟨-, hrefused, hstate⟩ | ⟨-, hallowed⟩
    · rw [hstate, allowedTimes_append_of_refused rs hrefused, Limiter.recent_recent _ hx]
      exact h x.client now hrs
    · have hkept := h x.client x.time hlast
      have hall : (allowedTimes x.client rs ++ [x.time]).Pairwise (· ≤ ·) := by
        refine List.pairwise_append.2 ⟨hordered, List.pairwise_singleton _ _, ?_⟩
        intro t ht u hu
        obtain ⟨r, hr, rfl⟩ := mem_allowedTimes rs ht
        rw [List.mem_singleton.1 hu]
        exact hlast r hr
      have hsplit := hall.sublist ((List.filter_sublist
        (p := fun t => decide (x.time - q.window < t))).append_right [x.time])
      rw [← hkept] at hsplit
      have hadded : allowedTimes x.client (rs ++ [{ x with admission := .allowed }]) =
          allowedTimes x.client rs ++ [x.time] := allowedTimes_append_of_allowed rs rfl rfl
      rw [hallowed, hadded, Limiter.recent_eq_filter hsplit, List.filter_append, List.filter_append,
        ← Limiter.recent_eq_filter (hsplit.sublist (List.sublist_append_left _ _)),
        Limiter.recent_recent _ hx, h x.client now hrs]
  · rw [limiterOf_acquire_of_ne q hclient, allowedTimes_append_of_ne_client rs hclient]
    exact h client now hrs

omit [AddCommGroup τ] [IsOrderedAddMonoid τ] in
/-- On a clock that does not go back, what was ruled before a call lies in its past. -/
theorem time_le_of_mem_rulings [Sub τ] {ys zs : List (Arrival τ)}
    (hclock : ((ys ++ x :: zs).map Arrival.time).Pairwise (· ≤ ·)) :
    ∀ r ∈ rulings q ls ys, r.time ≤ x.time := by
  intro r hr
  rw [List.map_append, List.pairwise_append] at hclock
  refine hclock.2.2 r.time ?_ x.time List.mem_cons_self
  rw [← map_time_rulings q ls ys]
  exact List.mem_map_of_mem hr

/-- The limiters of a run remember its rulings. -/
theorem remembers_after {xs : List (Arrival τ)} (hclock : (xs.map Arrival.time).Pairwise (· ≤ ·)) :
    Remembers q (after q [] xs) (rulings q [] xs) := by
  induction xs using List.reverseRecOn with
  | nil => exact remembers_nil
  | append_singleton xs x ih =>
    have hsorted : (xs.map Arrival.time).Pairwise (· ≤ ·) :=
      hclock.sublist ((List.sublist_append_left _ _).map _)
    have hstep := (ih hsorted).acquire (x := x) (by rwa [map_time_rulings])
      (time_le_of_mem_rulings hclock)
    rw [rulings_append]
    simpa [after, rulings] using hstep

omit [IsOrderedAddMonoid τ] in
/-- The next call is ruled by what its client was allowed in the window. -/
theorem acquire_allowed_iff (h : Remembers q ls rs) (hlast : ∀ r ∈ rs, r.time ≤ x.time) :
    (ClientLimiters.acquire q x.client x.time ls).1 = .allowed ↔
      ((allowedTimes x.client rs).countP fun t => decide (x.time - q.window < t) : Int) <
        q.calls := by
  rw [acquire_fst, List.countP_eq_length_filter, ← h x.client x.time hlast]
  rcases Limiter.acquire_cases q (limiterOf x.client ls) x.time with
    ⟨hfull, hrefused, -⟩ | ⟨hroom, hallowed⟩
  · exact ⟨fun hallowed => absurd hallowed hrefused, fun hroom => absurd hfull (Int.not_le.2 hroom)⟩
  · exact ⟨fun _ => hroom, fun _ => by rw [hallowed]⟩

/-- Limiters that remember the same allowed calls say the same from then on. -/
theorem rulings_congr {ls' : ClientLimiters τ} {rs' : List (Ruling τ)} {xs : List (Arrival τ)}
    (h : Remembers q ls rs) (h' : Remembers q ls' rs')
    (heq : ∀ client, allowedTimes client rs = allowedTimes client rs')
    (hsorted : (rs.map (fun r => r.time) ++ xs.map Arrival.time).Pairwise (· ≤ ·))
    (hsorted' : (rs'.map (fun r => r.time) ++ xs.map Arrival.time).Pairwise (· ≤ ·)) :
    rulings q ls xs = rulings q ls' xs := by
  induction xs generalizing ls ls' rs rs' with
  | nil => rfl
  | cons x xs ih =>
    have hbefore := List.pairwise_append.1 hsorted
    have hbefore' := List.pairwise_append.1 hsorted'
    have hlast : ∀ r ∈ rs, r.time ≤ x.time := fun r hr =>
      hbefore.2.2 _ (List.mem_map_of_mem hr) _ List.mem_cons_self
    have hlast' : ∀ r ∈ rs', r.time ≤ x.time := fun r hr =>
      hbefore'.2.2 _ (List.mem_map_of_mem hr) _ List.mem_cons_self
    have hsame : (ClientLimiters.acquire q x.client x.time ls).1 =
        (ClientLimiters.acquire q x.client x.time ls').1 := by
      rw [acquire_fst, acquire_fst]
      refine Limiter.acquire_fst_congr ?_
      rw [h _ _ hlast, h' _ _ hlast', heq]
    have hnext := h.acquire hbefore.1 hlast
    have hnext' := h'.acquire hbefore'.1 hlast'
    rw [rulings, rulings, hsame]
    refine congrArg _ (ih hnext hnext' (fun client => ?_) (by simpa using hsorted)
      (by simpa using hsorted'))
    rw [hsame, allowedTimes_append, allowedTimes_append, heq client]

/-! ## The law of the window -/

section Law

variable {xs : List (Arrival τ)} {before later : List (Ruling τ)} {r : Ruling τ}

/-- A call is allowed when its client was allowed fewer calls in the window that ends with it. -/
theorem isAllowed_iff_of_rulings (hclock : (xs.map Arrival.time).Pairwise (· ≤ ·))
    (h : rulings q [] xs = before ++ r :: later) :
    r.admission = .allowed ↔
      ((allowedTimes r.client before).countP fun t =>
        decide (r.time - q.window < t ∧ t ≤ r.time) : Int) < q.calls := by
  obtain ⟨ys, x, zs, rfl, rfl, rfl, -⟩ := exists_of_rulings_eq q h
  have hsorted : (ys.map Arrival.time).Pairwise (· ≤ ·) :=
    hclock.sublist ((List.sublist_append_left _ _).map _)
  have hlast : ∀ r ∈ rulings q [] ys, r.time ≤ x.time := time_le_of_mem_rulings hclock
  rw [acquire_allowed_iff (remembers_after hsorted) hlast]
  have hcount : (allowedTimes x.client (rulings q [] ys)).countP
        (fun t => decide (x.time - q.window < t)) =
      (allowedTimes x.client (rulings q [] ys)).countP
        fun t => decide (x.time - q.window < t ∧ t ≤ x.time) := by
    refine List.countP_congr fun t ht => ?_
    obtain ⟨r, hr, rfl⟩ := mem_allowedTimes _ ht
    simp [hlast r hr]
  rw [hcount]

omit [IsOrderedAddMonoid τ] in
/-- A limiter that allows calls at all has an answer to every call. -/
theorem ne_never_of_rulings (hcalls : 1 ≤ q.calls) (h : rulings q [] xs = before ++ r :: later) :
    r.admission ≠ .never := by
  obtain ⟨ys, x, zs, -, -, rfl, -⟩ := exists_of_rulings_eq q h
  simp only
  rw [acquire_fst]
  exact Limiter.acquire_ne_never hcalls _ _

/-- Of times that lie closer together than the window is long, no more are allowed than the quota
has calls. -/
theorem countP_allowedTimes_le (hcalls : 1 ≤ q.calls)
    (hclock : (xs.map Arrival.time).Pairwise (· ≤ ·)) (client : String) (p : τ → Bool)
    (hclose : ∀ s t, p s → p t → t - q.window < s) :
    ((allowedTimes client (rulings q [] xs)).countP p : Int) ≤ q.calls := by
  induction xs using List.reverseRecOn with
  | nil =>
    have hzero : (allowedTimes client (rulings q [] ([] : List (Arrival τ)))).countP p = 0 := rfl
    omega
  | append_singleton xs x ih =>
    have hsorted : (xs.map Arrival.time).Pairwise (· ≤ ·) :=
      hclock.sublist ((List.sublist_append_left _ _).map _)
    have hle := ih hsorted
    rw [rulings_append]
    simp only [rulings]
    by_cases hallowed : (ClientLimiters.acquire q x.client x.time (after q [] xs)).1 = .allowed
    · by_cases hclient : x.client = client
      · rw [allowedTimes_append_of_allowed _ hclient hallowed, List.countP_append,
          List.countP_singleton]
        by_cases hp : p x.time
        · -- the allowed calls that `p` holds of are in the window of this one, which has room
          rw [acquire_allowed_iff (remembers_after hsorted) (time_le_of_mem_rulings hclock)]
            at hallowed
          have hsub : (allowedTimes client (rulings q [] xs)).countP p ≤
              (allowedTimes client (rulings q [] xs)).countP
                fun t => decide (x.time - q.window < t) :=
            List.countP_mono_left fun t _ ht => decide_eq_true (hclose t x.time ht hp)
          rw [hclient] at hallowed
          simp only [hp, if_true]
          omega
        · simpa [hp] using hle
      · rw [allowedTimes_append_of_ne_client _ hclient]
        exact hle
    · rw [allowedTimes_append_of_refused _ hallowed]
      exact hle

/-- Without a call that is refused all others are ruled as with it. -/
theorem rulings_without_refused (hclock : (xs.map Arrival.time).Pairwise (· ≤ ·))
    (h : rulings q [] xs = before ++ r :: later) (hrefused : r.admission ≠ .allowed) :
    rulings q [] ((before ++ later).map Ruling.toArrival) = before ++ later := by
  obtain ⟨ys, x, zs, rfl, rfl, rfl, rfl⟩ := exists_of_rulings_eq q h
  have hsorted : (ys.map Arrival.time).Pairwise (· ≤ ·) :=
    hclock.sublist ((List.sublist_append_left _ _).map _)
  have hremembers := remembers_after (q := q) hsorted
  have hnext := hremembers.acquire (x := x) (by rwa [map_time_rulings])
    (time_le_of_mem_rulings hclock)
  have hshorter : ((ys ++ zs).map Arrival.time).Pairwise (· ≤ ·) :=
    hclock.sublist (((List.sublist_cons_self x zs).append_left ys).map _)
  rw [List.map_append, map_toArrival_rulings, map_toArrival_rulings, rulings_append]
  refine congrArg _ (rulings_congr hremembers hnext (fun client => ?_) ?_ ?_)
  · rw [allowedTimes_append_of_refused _ hrefused]
  · rwa [map_time_rulings, ← List.map_append]
  · rw [List.map_append, map_time_rulings]
    simpa using hclock

end Law

/-- The law of the sliding window.  On a clock that does not go back, every call is ruled on: it is
allowed exactly if its client was allowed fewer calls than the quota has in the window that ends
with it, and it never goes without an answer.  So no window holds more allowed calls of a client
than the quota has, calls that are refused may as well not have been made, and each client is ruled
on as by a limiter that it has for itself. -/
theorem sliding_window_law {q : Quota τ} (hcalls : 1 ≤ q.calls) {xs : List (Arrival τ)}
    (hclock : (xs.map Arrival.time).Pairwise (· ≤ ·)) :
    (rulings q [] xs).map Ruling.toArrival = xs ∧
    (∀ before r later, rulings q [] xs = before ++ r :: later →
      (r.admission = .allowed ↔
        ((allowedTimes r.client before).countP fun t =>
          decide (r.time - q.window < t ∧ t ≤ r.time) : Int) < q.calls) ∧
      r.admission ≠ .never) ∧
    (∀ client start,
      ((allowedTimes client (rulings q [] xs)).countP fun t =>
        decide (start < t ∧ t ≤ start + q.window) : Int) ≤ q.calls ∧
      ((allowedTimes client (rulings q [] xs)).countP fun t =>
        decide (start ≤ t ∧ t < start + q.window) : Int) ≤ q.calls) ∧
    (∀ before r later, rulings q [] xs = before ++ r :: later → r.admission ≠ .allowed →
      rulings q [] ((before ++ later).map Ruling.toArrival) = before ++ later) ∧
    (∀ client, ((rulings q [] xs).filter fun r => r.client = client).map Ruling.admission =
      Limiter.admissions q []
        ((xs.filter fun x => x.client = client).map Arrival.time)) := by
  refine ⟨map_toArrival_rulings q [] xs, fun before r later h => ⟨?_, ?_⟩,
    fun client start => ⟨?_, ?_⟩,
    fun before r later h hrefused => rulings_without_refused hclock h hrefused,
    fun client => admissions_of_client q client [] xs⟩
  · exact isAllowed_iff_of_rulings hclock h
  · exact ne_never_of_rulings hcalls h
  · refine countP_allowedTimes_le hcalls hclock client _ fun s t hs ht => ?_
    simp only [decide_eq_true_eq] at hs ht
    exact lt_of_le_of_lt (sub_le_iff_le_add.2 ht.2) hs.1
  · refine countP_allowedTimes_le hcalls hclock client _ fun s t hs ht => ?_
    simp only [decide_eq_true_eq] at hs ht
    exact lt_of_lt_of_le (sub_lt_iff_lt_add.2 ht.2) hs.1

/-- Two calls in ten seconds: a call of the first client is refused at nine seconds, and allowed at
ten, when its first call has just left the window. -/
theorem sliding_window_law_two_clients :
    (1 : Int) ≤ 2 ∧
    (([⟨"a", 0⟩, ⟨"b", 3⟩, ⟨"a", 4⟩, ⟨"a", 9⟩, ⟨"a", 10⟩] : List (Arrival Int)).map
      Arrival.time).Pairwise (· ≤ ·) ∧
    ((rulings ⟨2, 10⟩ [] ([⟨"a", 0⟩, ⟨"b", 3⟩, ⟨"a", 4⟩, ⟨"a", 9⟩, ⟨"a", 10⟩] :
        List (Arrival Int))).filter fun r => r.client = "a").map Ruling.admission =
      [.allowed, .allowed, .wait 1, .allowed] ∧
    rulings ⟨2, 10⟩ [] ([⟨"a", 0⟩, ⟨"b", 3⟩, ⟨"a", 4⟩, ⟨"a", 10⟩] : List (Arrival Int)) =
      [⟨⟨"a", 0⟩, .allowed⟩, ⟨⟨"b", 3⟩, .allowed⟩, ⟨⟨"a", 4⟩, .allowed⟩,
        ⟨⟨"a", 10⟩, .allowed⟩] := by
  have hcalls : (1 : Int) ≤ 2 := by decide
  have hclock : (([⟨"a", 0⟩, ⟨"b", 3⟩, ⟨"a", 4⟩, ⟨"a", 9⟩, ⟨"a", 10⟩] : List (Arrival Int)).map
      Arrival.time).Pairwise (· ≤ ·) := by decide
  obtain ⟨-, -, -, hwithout, halone⟩ :=
    sliding_window_law (q := (⟨2, 10⟩ : Quota Int)) hcalls hclock
  refine ⟨hcalls, hclock, (halone "a").trans rfl, ?_⟩
  exact hwithout [⟨⟨"a", 0⟩, .allowed⟩, ⟨⟨"b", 3⟩, .allowed⟩, ⟨⟨"a", 4⟩, .allowed⟩]
    ⟨⟨"a", 9⟩, .wait 1⟩ [⟨⟨"a", 10⟩, .allowed⟩] rfl (by decide)

end ClientLimiters

end TestScribe.Gateway
