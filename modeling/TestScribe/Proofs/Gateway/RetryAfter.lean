import TestScribe.Proofs.Decimal.Order
import TestScribe.Proofs.Gateway.VisitRuns
import TestScribe.Proofs.Gateway.Waits

/-!
# Coming back when told to

A visit that comes too early is told to wait.  The limiter of its client is full then, and stays as
it is until the client is let in again (`limiterOf_before`), so the wait that it fixes is the time
until then.  But what the client is told is that wait rounded to tenths of a second, to the nearest
one (`admitted_after_wait`).  Where this is less than the wait, a client that comes back when told
to may be refused once more (`refused_after_wait`).
-/

namespace TestScribe

/-! ## The end of a wait -/

namespace Decimal

/-- Where times are subtracted without rounding, the wait that is left at `t` until a window after
`oldest` ends then. -/
theorem le_sub_iff {oldest t u window : Float} (hpast : IsExactSub t oldest)
    (hleft : IsExactSub window (t - oldest)) (hstart : IsExactSub u window) :
    oldest ≤ u - window ↔
      exactValue t + exactValue (window - (t - oldest)) ≤ exactValue u := by
  rw [le_iff_exactValue_le hpast.right hstart.difference]
  obtain ⟨a, b, ht, holdest, hpast⟩ := hpast.exists_values
  obtain ⟨c, b', hwindow, hsub, hleft⟩ := hleft.exists_values
  obtain ⟨e, c', hu, hwindow', hstart⟩ := hstart.exists_values
  obtain rfl : a - b = b' := WithTop.coe_inj.1 (hpast.symm.trans hsub)
  obtain rfl : c = c' := WithTop.coe_inj.1 (hwindow.symm.trans hwindow')
  rw [holdest, hstart, ht, hleft, hu, ← WithTop.coe_add, WithTop.coe_le_coe, WithTop.coe_le_coe]
  constructor <;> intro h <;> linarith

end Decimal

namespace Gateway.Desk

open Transport TestScribe.Flow Service

/-! ## One visit and the limiter of a client -/

section Limiters

variable {s : Settings} {d : Desk} {p : Posting} {client : String}

/-- The limiter of a client. -/
def limiterOf (client : String) (d : Desk) : Limiter Float :=
  ClientLimiters.limiterOf client d.limiters

theorem admission_eq (s : Settings) (client : String) (d : Desk) :
    d.admission s client =
      (Limiter.acquire (quota s) (d.limiterOf client) d.client.askedAt).1 :=
  ClientLimiters.acquire_fst _ _ _ _

/-- A visit whose body is JSON asks the limiter of its client. -/
theorem limiterOf_after_self (h : d.Networked) {value : Option Json}
    (hvalue : valueOf p.request = .ok value) :
    (visitOf s d p).after.limiterOf p.client =
      (Limiter.acquire (quota s) (d.limiterOf p.client) d.client.askedAt).2 := by
  obtain ⟨scripts, hscripts⟩ := h.exists_scripts
  obtain ⟨-, -, hfollows⟩ := run_visitOf (s := s) (p := p) hscripts
  have hlimiters := hfollows.limiters
  rw [hvalue] at hlimiters
  rw [limiterOf, hlimiters]
  exact ClientLimiters.limiterOf_acquire_self _ _ _ _

/-- A visit asks the limiter of its client or none. -/
theorem limiterOf_after_cases (h : d.Networked) (client : String) :
    (visitOf s d p).after.limiterOf client = d.limiterOf client ∨
      (p.client = client ∧ (visitOf s d p).after.limiterOf client =
        (Limiter.acquire (quota s) (d.limiterOf client) d.client.askedAt).2) := by
  obtain ⟨scripts, hscripts⟩ := h.exists_scripts
  obtain ⟨-, -, hfollows⟩ := run_visitOf (s := s) (p := p) hscripts
  have hlimiters := hfollows.limiters
  cases hvalue : valueOf p.request with
  | error f =>
    rw [hvalue] at hlimiters
    left
    rw [limiterOf, hlimiters]
    rfl
  | ok value =>
    by_cases hclient : p.client = client
    · subst hclient
      exact .inr ⟨rfl, limiterOf_after_self h hvalue⟩
    · rw [hvalue] at hlimiters
      left
      rw [limiterOf, hlimiters]
      exact ClientLimiters.limiterOf_acquire_of_ne _ hclient _ _

/-- The limiter of a client holds no more calls than are allowed, all of them at visits of the
client. -/
structure Recalls (s : Settings) (client : String) (vs : List Visit) (d : Desk) : Prop where
  length_le : (d.limiterOf client).length ≤ s.rateLimitMax.toNat
  exists_visit : ∀ t ∈ d.limiterOf client, ∃ v ∈ vs, v.posting.client = client ∧ v.time = t

theorem Recalls.step {vs : List Visit} (h : d.Networked) (hd : Recalls s client vs d)
    (p : Posting) : Recalls s client (vs ++ [visitOf s d p]) (visitOf s d p).after := by
  have hkept : ∀ t ∈ d.limiterOf client, ∃ v ∈ vs ++ [visitOf s d p],
      v.posting.client = client ∧ v.time = t := fun t ht =>
    let ⟨v, hv, hvisit⟩ := hd.exists_visit t ht
    ⟨v, List.mem_append_left _ hv, hvisit⟩
  rcases limiterOf_after_cases (s := s) (p := p) h client with hsame | ⟨hclient, hasked⟩
  · exact ⟨hsame ▸ hd.length_le, hsame ▸ hkept⟩
  · refine ⟨hasked ▸ Limiter.length_acquire_le hd.length_le _, fun t ht => ?_⟩
    rcases Limiter.mem_or_eq_of_mem_acquire (hasked ▸ ht) with hmem | rfl
    · exact hkept t hmem
    · exact ⟨_, List.mem_append_right _ (List.mem_singleton_self _), hclient, rfl⟩

/-- A visit that is refused leaves a limiter that is full as it is. -/
theorem limiterOf_after_of_refused (h : d.Networked) {oldest : Float}
    (hfull : Limiter.IsFull (quota s) oldest (d.limiterOf client))
    (hrefused : p.client = client → d.admission s client ≠ .allowed) :
    (visitOf s d p).after.limiterOf client = d.limiterOf client := by
  rcases limiterOf_after_cases (s := s) (p := p) h client with hsame | ⟨hclient, hasked⟩
  · exact hsame
  · have hnot := hrefused hclient
    rw [admission_eq] at hnot
    rw [hasked, hfull.acquire_of_refused hnot]

end Limiters

/-! ## Visits and the limiter of a client -/

section Runs

variable {s : Settings} {d : Desk} {ps : List Posting} {earlier later : List Visit} {v : Visit}

/-- A visit of a run is one to the desk before it, and the run goes on from the desk after it. -/
theorem exists_of_visits_eq (h : d.Networked) (heq : visits s d ps = earlier ++ v :: later) :
    v.before.Networked ∧ v = visitOf s v.before v.posting ∧
      ∃ ps', later = visits s v.after ps' := by
  induction earlier generalizing d ps with
  | nil =>
    cases ps with
    | nil => cases heq
    | cons p ps =>
      obtain ⟨rfl, rfl⟩ := List.cons.inj heq
      exact ⟨h, rfl, ps, rfl⟩
  | cons u earlier ih =>
    cases ps with
    | nil => cases heq
    | cons p ps => exact ih (h.visitOf p) (List.cons.inj heq).2

/-- What every visit preserves holds before each visit of a run. -/
theorem before_of_visits {P : List Visit → Desk → Prop}
    (hstep : ∀ (d : Desk) vs p, d.Networked → P vs d →
      P (vs ++ [visitOf s d p]) (visitOf s d p).after)
    (h : d.Networked) (hstart : P [] d) (heq : visits s d ps = earlier ++ v :: later) :
    P earlier v.before := by
  suffices ∀ vs, P vs d → P (vs ++ earlier) v.before from this [] hstart
  clear hstart
  induction earlier generalizing d ps with
  | nil =>
    cases ps with
    | nil => cases heq
    | cons p ps =>
      obtain ⟨rfl, -⟩ := List.cons.inj heq
      intro vs hvs
      rwa [List.append_nil]
  | cons u earlier ih =>
    cases ps with
    | nil => cases heq
    | cons p ps =>
      obtain ⟨rfl, hrest⟩ := List.cons.inj heq
      intro vs hvs
      rw [List.append_cons]
      exact ih (h.visitOf p) hrest _ (hstep d vs p h hvs)

theorem recalls_before (h : d.Networked) (hnew : d.limiters = [])
    (heq : visits s d ps = earlier ++ v :: later) (client : String) :
    Recalls s client earlier v.before := by
  have hempty : d.limiterOf client = [] := by rw [limiterOf, hnew]; rfl
  refine before_of_visits (fun d vs p hd hvs => hvs.step hd p) h ?_ heq
  exact ⟨hempty ▸ Nat.zero_le _, hempty ▸ fun t ht => absurd ht List.not_mem_nil⟩

/-- A limiter that is full stays as it is until its client is let in. -/
theorem limiterOf_before (h : d.Networked) {client : String} {oldest : Float}
    (hfull : Limiter.IsFull (quota s) oldest (d.limiterOf client))
    (heq : visits s d ps = earlier ++ v :: later)
    (hrefused : ∀ u ∈ earlier, u.posting.client = client →
      u.before.admission s client ≠ .allowed) :
    v.before.limiterOf client = d.limiterOf client := by
  refine before_of_visits (P := fun vs d' => (∀ u ∈ vs, u.posting.client = client →
    u.before.admission s client ≠ .allowed) → d'.limiterOf client = d.limiterOf client)
    (fun d' vs p hd' hvs hall => ?_) h (fun _ => rfl) heq hrefused
  have hsame := hvs fun u hu => hall u (List.mem_append_left _ hu)
  have hlast : p.client = client → d'.admission s client ≠ .allowed :=
    hall _ (List.mem_append_right _ (List.mem_singleton_self (visitOf s d' p)))
  rw [limiterOf_after_of_refused hd' (hsame ▸ hfull) hlast, hsame]

/-- A visit is told by the limiter of its client to wait. -/
structure Visit.HasToWait (s : Settings) (v : Visit) (wait : Float) : Prop where
  isJson : ∃ value, valueOf v.posting.request = .ok value
  admission_eq : v.before.admission s v.posting.client = .wait wait

/-- A visit that has to wait finds a full limiter, the oldest call of which fixes the wait. -/
theorem isFull_after (h : d.Networked) (hnew : d.limiters = [])
    (heq : visits s d ps = earlier ++ v :: later) {wait : Float} (hwait : v.HasToWait s wait) :
    ∃ o ∈ earlier, o.posting.client = v.posting.client ∧
      Limiter.IsFull (quota s) o.time (v.after.limiterOf v.posting.client) ∧
      wait = s.rateLimitWindow - (v.time - o.time) := by
  obtain ⟨hbefore, hv, -⟩ := exists_of_visits_eq h heq
  obtain ⟨value, hvalue⟩ := hwait.isJson
  have hrecalls := recalls_before h hnew heq v.posting.client
  have hadmission := hwait.admission_eq
  rw [admission_eq] at hadmission
  obtain ⟨oldest, hmem, hfull, -, hfixed⟩ := Limiter.isFull_of_wait hrecalls.length_le hadmission
  obtain ⟨o, ho, hclient, rfl⟩ := hrecalls.exists_visit oldest hmem
  have hafter := limiterOf_after_self (s := s) hbefore hvalue
  rw [← hv] at hafter
  exact ⟨o, ho, hclient, hafter ▸ hfull, hfixed⟩

/-- A visit that has to wait is told so, in tenths of a second. -/
theorem reports_of_hasToWait (h : d.Networked)
    (heq : visits s d ps = earlier ++ v :: later) {wait : Float} (hwait : v.HasToWait s wait)
    (hfinite : Decimal.isFinite (Decimal.roundTo 1 wait) = true) :
    v.Reports 429 "rate_limited" (.str "Too many requests. Please try again later.")
      (.obj [("retryAfter", .float (Decimal.roundTo 1 wait))]) := by
  obtain ⟨hbefore, hv, -⟩ := exists_of_visits_eq h heq
  obtain ⟨scripts, hscripts⟩ := hbefore.exists_scripts
  obtain ⟨value, hvalue⟩ := hwait.isJson
  obtain ⟨hresult, -, -⟩ := run_visitOf (s := s) (p := v.posting) hscripts
  have houtcome : (v.posting.reception s scripts v.before).outcome = _ :=
    outcome_of_wait hvalue hwait.admission_eq
  rw [houtcome, ← hv] at hresult
  exact Visit.reports_of_result hresult (isFinite_tooMany hfinite _)

/-- The times that fix when a client is let in again are subtracted without rounding: that of its
visit `v` and the oldest visit `o` of which its limiter knows, what is left of the window, and that
of its next visit `v'` and the window. -/
structure Visit.IsExact (s : Settings) (o v v' : Visit) : Prop where
  past : Decimal.IsExactSub v.time o.time
  left : Decimal.IsExactSub s.rateLimitWindow (v.time - o.time)
  start : Decimal.IsExactSub v'.time s.rateLimitWindow

/-- A client that has to wait at its visit `v` comes back with `v'`.  The wait was fixed by its
visit `o`, and the client is told the wait rounded to tenths of a second.  It is let in just when
`o` is a whole window old.  Where times are subtracted without rounding, this is when the wait is
over: a client that is told no less than the wait, and comes back when told to, is let in. -/
structure Visit.ComesBack (s : Settings) (o v v' : Visit) (wait : Float) : Prop where
  client : o.posting.client = v.posting.client
  fixed : wait = s.rateLimitWindow - (v.time - o.time)
  told : Decimal.isFinite (Decimal.roundTo 1 wait) = true →
    v.Reports 429 "rate_limited" (.str "Too many requests. Please try again later.")
      (.obj [("retryAfter", .float (Decimal.roundTo 1 wait))])
  admitted_iff : v'.before.admission s v'.posting.client = .allowed ↔
    o.time ≤ v'.time - s.rateLimitWindow
  admitted_iff_over : Visit.IsExact s o v v' →
    (v'.before.admission s v'.posting.client = .allowed ↔
      Decimal.exactValue v.time + Decimal.exactValue wait ≤ Decimal.exactValue v'.time)
  admitted : Visit.IsExact s o v v' →
    Decimal.exactValue wait ≤ Decimal.exactValue (Decimal.roundTo 1 wait) →
    Decimal.exactValue v.time + Decimal.exactValue (Decimal.roundTo 1 wait) ≤
      Decimal.exactValue v'.time →
    v'.before.admission s v'.posting.client = .allowed

/-- A client that has to wait, and is not let in before, is let in when it comes back after the
wait: the visit that has fixed the wait is a whole window old then. -/
theorem admitted_after_wait (h : d.Networked) (hnew : d.limiters = []) {between : List Visit}
    {v' : Visit} (heq : visits s d ps = earlier ++ v :: (between ++ v' :: later)) {wait : Float}
    (hwait : v.HasToWait s wait) (hclient : v'.posting.client = v.posting.client)
    (hrefused : ∀ u ∈ between, u.posting.client = v.posting.client →
      u.before.admission s u.posting.client ≠ .allowed) :
    ∃ o ∈ earlier, Visit.ComesBack s o v v' wait := by
  obtain ⟨o, ho, hoclient, hfull, hfixed⟩ := isFull_after h hnew heq hwait
  obtain ⟨hbefore, hv, ps', hlater⟩ := exists_of_visits_eq h heq
  have hafter : v.after.Networked := hv ▸ hbefore.visitOf v.posting
  have hsame := limiterOf_before hafter hfull hlater.symm fun u hu hu' =>
    hu' ▸ hrefused u hu hu'
  have hadmitted : v'.before.admission s v'.posting.client = .allowed ↔
      o.time ≤ v'.time - s.rateLimitWindow := by
    rw [hclient, admission_eq, hsame]
    exact hfull.acquire_allowed_iff
  have hover : Visit.IsExact s o v v' → (v'.before.admission s v'.posting.client = .allowed ↔
      Decimal.exactValue v.time + Decimal.exactValue wait ≤ Decimal.exactValue v'.time) := by
    intro hexact
    rw [hadmitted, hfixed]
    exact Decimal.le_sub_iff hexact.past hexact.left hexact.start
  exact ⟨o, ho,
    { client := hoclient
      fixed := hfixed
      told := reports_of_hasToWait h heq hwait
      admitted_iff := hadmitted
      admitted_iff_over := hover
      admitted := fun hexact hrounded hback =>
        (hover hexact).2 (le_trans (by gcongr) hback) }⟩

end Runs

/-! ## Half a minute, and a bit less than two thirds of one -/

theorem exists_valueOf_somePosting : ∃ value, valueOf somePosting.request = .ok value := by
  have hsome : (valueOf somePosting.request).toOption.isSome = true := by decide +kernel
  obtain ⟨value, hvalue⟩ := Option.isSome_iff_exists.1 hsome
  exact ⟨value, eq_ok_of_toOption hvalue⟩

/-- A client that has to wait for half a minute is let in half a minute later. -/
theorem admitted_after_wait_halfMinute :
    ∃ o v v', threeVisits = [o, v, v'] ∧ v.HasToWait sparing 30.0 ∧
      Visit.IsExact sparing o v v' ∧
      Decimal.exactValue 30.0 ≤ Decimal.exactValue (Decimal.roundTo 1 30.0) ∧
      Decimal.exactValue v.time + Decimal.exactValue (Decimal.roundTo 1 30.0) ≤
        Decimal.exactValue v'.time ∧
      v.Reports 429 "rate_limited" (.str "Too many requests. Please try again later.")
        (.obj [("retryAfter", .float (Decimal.roundTo 1 30.0))]) ∧
      v'.before.admission sparing v'.posting.client = .allowed := by
  let o := visitOf sparing (deskOn halfMinutes succeeding) somePosting
  let v := visitOf sparing o.after somePosting
  let v' := visitOf sparing v.after somePosting
  obtain ⟨htold, hpast, hleft, hstart, hrounded, hback⟩ :
      v.before.admission sparing v.posting.client = .wait 30.0 ∧
      Decimal.IsExactSub v.time o.time ∧
      Decimal.IsExactSub sparing.rateLimitWindow (v.time - o.time) ∧
      Decimal.IsExactSub v'.time sparing.rateLimitWindow ∧
      Decimal.exactValue 30.0 ≤ Decimal.exactValue (Decimal.roundTo 1 30.0) ∧
      Decimal.exactValue v.time + Decimal.exactValue (Decimal.roundTo 1 30.0) ≤
        Decimal.exactValue v'.time := by
    decide +kernel
  have hwait : v.HasToWait sparing 30.0 := ⟨exists_valueOf_somePosting, htold⟩
  have heq : threeVisits = [o] ++ v :: ([] ++ v' :: []) := rfl
  have hexact : Visit.IsExact sparing o v v' := ⟨hpast, hleft, hstart⟩
  obtain ⟨o', ho', hcomes⟩ :=
    admitted_after_wait (networked_deskOn halfMinutes succeeding) rfl heq hwait rfl
      fun u hu => absurd hu List.not_mem_nil
  obtain rfl := List.mem_singleton.1 ho'
  exact ⟨_, _, _, rfl, hwait, hexact, hrounded, hback, hcomes.told (by decide +kernel),
    hcomes.admitted hexact hrounded hback⟩

/-- The first request is rejected and takes two readings of the clock, and a request that is refused
takes one. -/
def hurrying (n : Nat) : Float :=
  if n < 2 then 1000.0 else if n < 3 then 1019.75 else 1059.96875

/-- A client that has to wait for 40.25 seconds is told to wait for 40.2 of them, and is refused
again when it has done so. -/
theorem refused_after_wait :
    ∃ o v v',
      visits sparing (deskOn hurrying (rejecting "null"))
        [somePosting, somePosting, somePosting] = [o, v, v'] ∧
      Decimal.exactValue o.time ≤ Decimal.exactValue v.time ∧
      v.Reports 429 "rate_limited" (.str "Too many requests. Please try again later.")
        (.obj [("retryAfter", .float 40.2)]) ∧
      v'.posting.client = v.posting.client ∧
      Decimal.exactValue v.time + Decimal.exactValue 40.2 ≤ Decimal.exactValue v'.time ∧
      v'.before.admission sparing v'.posting.client ≠ .allowed ∧ v'.status? = some 429 := by
  let o := visitOf sparing (deskOn hurrying (rejecting "null")) somePosting
  let v := visitOf sparing o.after somePosting
  let v' := visitOf sparing v.after somePosting
  obtain ⟨hclock, htold, hback, hrefused, hstatus⟩ :
      Decimal.exactValue o.time ≤ Decimal.exactValue v.time ∧
      v.before.admission sparing v.posting.client = .wait 40.25 ∧
      Decimal.exactValue v.time + Decimal.exactValue 40.2 ≤ Decimal.exactValue v'.time ∧
      v'.before.admission sparing v'.posting.client ≠ .allowed ∧ v'.status? = some 429 := by
    decide +kernel
  have hrounded : Decimal.roundTo 1 40.25 = 40.2 := by decide +kernel
  have heq : visits sparing (deskOn hurrying (rejecting "null")) [somePosting, somePosting] =
      [o] ++ v :: [] := rfl
  have hreports := reports_of_hasToWait (networked_deskOn hurrying (rejecting "null")) heq
    ⟨exists_valueOf_somePosting, htold⟩ (by decide +kernel)
  rw [hrounded] at hreports
  exact ⟨o, v, v', rfl, hclock, hreports, rfl, hback, hrefused, hstatus⟩

end Gateway.Desk

end TestScribe
