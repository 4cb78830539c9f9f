import TestScribe.Proofs.Gateway.CloseCalls
import TestScribe.Proofs.Gateway.Visits

/-!
# Visits, one after another

Clients ask the gateway for tests in any order.  What the limiters say to their visits are the
rulings of a run of limiters (`rulings_visits`), and a visit reaches the analysis only if it was
allowed.  So no window of time holds more visits of one client that reach the analysis than the
settings allow, as long as rounding does not cut the window short (`every_visit_lawful`).
-/

namespace TestScribe.Gateway.Desk

open Transport TestScribe.Flow Service

/-! ## Runs of visits -/

/-- The visits of postings, one after another. -/
def visits (s : Settings) : Desk → List Posting → List Visit
  | _, [] => []
  | d, p :: ps => visitOf s d p :: visits s (visitOf s d p).after ps

/-- All services are reached over the network. -/
def Networked (d : Desk) : Prop :=
  ∀ p, ∃ script, d.client.links p = .remote script

theorem Networked.exists_scripts {d : Desk} (h : d.Networked) :
    ∃ scripts : Peer → Script, ∀ p, d.client.links p = .remote (scripts p) :=
  ⟨fun p => (h p).choose, fun p => (h p).choose_spec⟩

section Runs

variable {s : Settings} {d : Desk} {ps : List Posting}

theorem Networked.visitOf (h : d.Networked) (p : Posting) : (visitOf s d p).after.Networked := by
  obtain ⟨scripts, hscripts⟩ := h.exists_scripts
  obtain ⟨-, -, hfollows⟩ := run_visitOf (s := s) (p := p) hscripts
  intro peer
  rw [← Client.isRemote_iff, hfollows.isRemote]
  exact Client.isRemote_iff.2 (h peer)

/-- Every visit of a run is lawful, under the replies that are left at its time. -/
theorem lawful_of_mem_visits (h : d.Networked) {v : Visit} (hv : v ∈ visits s d ps) :
    ∃ scripts, (∀ p, v.before.client.links p = .remote (scripts p)) ∧ v.Lawful s scripts := by
  induction ps generalizing d with
  | nil => exact absurd hv List.not_mem_nil
  | cons p ps ih =>
    rcases List.mem_cons.1 hv with rfl | hlater
    · obtain ⟨scripts, hscripts⟩ := h.exists_scripts
      exact ⟨scripts, hscripts, lawful_visitOf hscripts⟩
    · exact ih (h.visitOf p) hlater

/-- What comes first in a run is a run, and so is what follows. -/
theorem exists_visits_of_append (h : d.Networked) {earlier later : List Visit}
    (heq : visits s d ps = earlier ++ later) :
    (∃ ps', earlier = visits s d ps') ∧ ∃ d' ps', d'.Networked ∧ later = visits s d' ps' := by
  induction earlier generalizing d ps with
  | nil => exact ⟨⟨[], rfl⟩, d, ps, h, heq.symm⟩
  | cons v earlier ih =>
    cases ps with
    | nil => cases heq
    | cons p ps =>
      obtain ⟨hv, hrest⟩ := List.cons.inj heq
      obtain ⟨⟨ps', hps'⟩, hlater⟩ := ih (h.visitOf p) hrest
      exact ⟨⟨p :: ps', by rw [visits, ← hps', hv]⟩, hlater⟩

/-! ## Visits as calls of limiters -/

/-- The call of a limiter that a visit makes: a body that is no JSON is rejected before. -/
def Visit.arrival? (v : Visit) : Option (Arrival Float) :=
  match valueOf v.posting.request with
  | .error _ => none
  | .ok _ => some { client := v.posting.client, time := v.time }

/-- The call of a limiter that a visit makes, and what was said to it. -/
def Visit.ruling? (s : Settings) (v : Visit) : Option (Ruling Float) :=
  v.arrival?.map fun x =>
    { x with admission := v.before.admission s v.posting.client }

/-- What is said to visits is what limiters say that are called as the visits call them. -/
theorem rulings_visits (h : d.Networked) :
    ClientLimiters.rulings (quota s) d.limiters ((visits s d ps).filterMap Visit.arrival?) =
      (visits s d ps).filterMap (Visit.ruling? s) := by
  induction ps generalizing d with
  | nil => rfl
  | cons p ps ih =>
    obtain ⟨scripts, hscripts⟩ := h.exists_scripts
    obtain ⟨-, -, hfollows⟩ := run_visitOf (s := s) (p := p) hscripts
    have hlimiters := hfollows.limiters
    have hrest := ih (h.visitOf (s := s) p)
    rw [visits, List.filterMap_cons, List.filterMap_cons]
    cases hvalue : valueOf p.request with
    | error f =>
      have hnone : (visitOf s d p).arrival? = none := by
        simp [Visit.arrival?, visitOf, hvalue]
      rw [hvalue] at hlimiters
      rw [hlimiters] at hrest
      rw [Visit.ruling?, hnone]
      exact hrest
    | ok value =>
      have hsome : (visitOf s d p).arrival? =
          some { client := p.client, time := d.client.askedAt } := by
        simp [Visit.arrival?, Visit.time, visitOf, hvalue]
      rw [hvalue] at hlimiters
      rw [hlimiters] at hrest
      rw [Visit.ruling?, hsome]
      exact congrArg _ hrest

/-! ## How many visits reach the analysis -/

/-- Whether something was sent to the analysis for a visit. -/
def Visit.reaches (v : Visit) : Bool :=
  v.sent.any fun call => call.service == Peer.analysis.name

/-- A visit that reaches the analysis was allowed by the limiter of its client. -/
theorem ruling_of_reaches (h : d.Networked) {v : Visit} (hv : v ∈ visits s d ps)
    (hreaches : v.reaches = true) :
    v.ruling? s = some { client := v.posting.client, time := v.time, admission := .allowed } := by
  obtain ⟨scripts, -, hlawful⟩ := lawful_of_mem_visits h hv
  obtain ⟨call, hcall, -⟩ := List.any_eq_true.1 hreaches
  obtain ⟨q, hallowed, value, hvalue, -⟩ := hlawful.admitted (List.ne_nil_of_mem hcall)
  change v.before.admission s v.posting.client = .allowed at hallowed
  unfold Visit.ruling? Visit.arrival?
  rw [hvalue, hallowed]
  rfl

/-- Visits of a client that are close together call its limiter close together. -/
theorem close_arrivals {client : String} {vs : List Visit}
    (h : vs.Pairwise fun v v' => v.posting.client = client → v'.posting.client = client →
      ¬ v.time ≤ v'.time - s.rateLimitWindow) :
    ClientLimiters.Close (quota s) client (vs.filterMap Visit.arrival?) := by
  refine List.pairwise_filterMap.2 (h.imp fun {v v'} hvv' x hx y hy => ?_)
  unfold Visit.arrival? at hx hy
  split at hx
  · cases hx
  · split at hy
    · cases hy
    · obtain rfl := Option.some.inj hx
      obtain rfl := Option.some.inj hy
      exact hvv'

/-- Visits of a client, no earlier of which is a whole window older than a later one as far as a
limiter can tell, reach the analysis no more often than the settings allow. -/
theorem countP_reaches_le (h : d.Networked) (client : String)
    (hclose : (visits s d ps).Pairwise fun v v' => v.posting.client = client →
      v'.posting.client = client → ¬ v.time ≤ v'.time - s.rateLimitWindow) :
    ((visits s d ps).countP fun v => v.posting.client == client && v.reaches) ≤
      s.rateLimitMax.toNat := by
  refine le_trans ?_ (ClientLimiters.length_allowedTimes_le d.limiters (close_arrivals hclose))
  rw [rulings_visits h, allowedTimes, List.length_map, ← List.countP_eq_length_filter,
    List.countP_filterMap]
  refine List.countP_mono_left fun v hv hreaches => ?_
  obtain ⟨hclient, hreaches⟩ := Bool.and_eq_true_iff.1 hreaches
  rw [ruling_of_reaches h hv hreaches]
  simpa [Ruling.isAllowed] using hclient

/-- A visit of a client lies in the window that begins at `start`. -/
def Visit.InWindow (s : Settings) (client : String) (start : WithTop ℚ) (v : Visit) : Prop :=
  v.posting.client = client ∧ start ≤ Decimal.exactValue v.time ∧
    Decimal.exactValue v.time < start + Decimal.exactValue s.rateLimitWindow

instance (s : Settings) (client : String) (start : WithTop ℚ) (v : Visit) :
    Decidable (v.InWindow s client start) :=
  inferInstanceAs (Decidable (_ ∧ _ ∧ _))

theorem countP_eq_zero_of_not_inWindow (s : Settings) (client : String) (start : WithTop ℚ)
    {vs : List Visit} (h : ∀ v ∈ vs, ¬ v.InWindow s client start) :
    (vs.countP fun v => decide (v.InWindow s client start) && v.reaches) = 0 :=
  List.countP_eq_zero.2 fun v hv hboth =>
    h v hv (of_decide_eq_true (Bool.and_eq_true_iff.1 hboth).1)

/-- On a clock that does not go back, no window holds more visits of a client that reach the
analysis than the settings allow, unless rounding takes an earlier of its visits for a whole window
older than a later one. -/
theorem countP_inWindow_le (h : d.Networked) {client : String} {start : WithTop ℚ}
    (hclock : (visits s d ps).Pairwise fun v v' =>
      Decimal.exactValue v.time ≤ Decimal.exactValue v'.time)
    (hclose : (visits s d ps).Pairwise fun v v' => v.InWindow s client start →
      v'.InWindow s client start → ¬ v.time ≤ v'.time - s.rateLimitWindow) :
    ((visits s d ps).countP fun v => decide (v.InWindow s client start) && v.reaches) ≤
      s.rateLimitMax.toNat := by
  obtain ⟨earlier, inside, later, heq, hearlier, hinside, hlater⟩ :=
    exists_stretch (fun v : Visit => Decimal.exactValue v.time) hclock start
      (start + Decimal.exactValue s.rateLimitWindow)
  -- the visits in the window are a run of their own, from the desk that the first of them finds
  obtain ⟨-, d', ps', hd', hrest⟩ := exists_visits_of_append h heq
  obtain ⟨⟨ps'', hps''⟩, -⟩ := exists_visits_of_append hd' hrest.symm
  rw [heq] at hclose ⊢
  have hstretch := (hclose.sublist (List.sublist_append_right _ _)).sublist
    (List.sublist_append_left _ _)
  have hnone := countP_eq_zero_of_not_inWindow s client start fun v hv hin =>
    absurd (hearlier v hv) (not_lt.2 hin.2.1)
  have hnone' := countP_eq_zero_of_not_inWindow s client start fun v hv hin =>
    absurd (hlater v hv) (not_le.2 hin.2.2)
  rw [List.countP_append, List.countP_append, hnone, hnone', Nat.zero_add, Nat.add_zero]
  have hwithin : ∀ v ∈ inside, v.posting.client = client → v.InWindow s client start :=
    fun v hv hclient => ⟨hclient, hinside v hv⟩
  subst hps''
  have hreaching := countP_reaches_le hd' client <|
    hstretch.imp_of_mem fun hv hv' hvv' hclient hclient' =>
      hvv' (hwithin _ hv hclient) (hwithin _ hv' hclient')
  refine le_trans (List.countP_mono_left fun v _ hboth => ?_) hreaching
  obtain ⟨hin, hreaches⟩ := Bool.and_eq_true_iff.1 hboth
  exact Bool.and_eq_true_iff.2 ⟨beq_iff_eq.2 (of_decide_eq_true hin).1, hreaches⟩

/-- Whatever is asked of a gateway whose services are reached over the network, and whatever they
reply: every visit is lawful.  And on a clock that does not go back, at most as many visits of a
client reach the analysis in a window of time as the settings allow, unless rounding takes an
earlier of its visits in the window for a whole window older than a later one. -/
theorem every_visit_lawful (s : Settings) (d : Desk) (h : d.Networked) (ps : List Posting) :
    (∀ v ∈ visits s d ps, ∃ scripts, (∀ p, v.before.client.links p = .remote (scripts p)) ∧
      v.Lawful s scripts) ∧
    ((visits s d ps).Pairwise (fun v v' =>
        Decimal.exactValue v.time ≤ Decimal.exactValue v'.time) →
      ∀ client start,
        (visits s d ps).Pairwise (fun v v' => v.InWindow s client start →
          v'.InWindow s client start → ¬ v.time ≤ v'.time - s.rateLimitWindow) →
        ((visits s d ps).countP fun v => decide (v.InWindow s client start) && v.reaches) ≤
          s.rateLimitMax.toNat) :=
  ⟨fun _ hv => lawful_of_mem_visits h hv,
    fun hclock _ _ hclose => countP_inWindow_le h hclock hclose⟩

end Runs

/-! ## A minute between two tests -/

/-- A posting of a source. -/
def somePosting : Posting :=
  { freshId := "fresh", now := someSurroundings.now, correlation := some "c7"
    contentType := some "application/json"
    body := "\x7b\"code\":\"const Greeting = () => null\"\x7d", client := "10.0.0.1" }

/-- A desk that was not asked yet, with a clock of these readings. -/
def deskOn (reading : Nat → Float) (scripts : Peer → Script) : Desk :=
  { client := { newClient.over scripts with clock := { reading, used := 0 } }, limiters := [] }

theorem networked_deskOn (reading : Nat → Float) (scripts : Peer → Script) :
    (deskOn reading scripts).Networked :=
  fun p => ⟨scripts p, rfl⟩

/-- A service that gives one answer to all requests. -/
def saying (status : Int) (text : String) : Script :=
  { first := .answer { status, text, ending := .complete }, rest := [] }

/-- For every source a valid test is made. -/
def succeeding : Peer → Script
  | .analysis =>
    saying 200 "\x7b\"data\":\x7b\"name\":\"Greeting\",\"type\":\"functional\"\x7d\x7d"
  | .generation => saying 200 "\x7b\"data\":\x7b\"content\":\"test()\"\x7d\x7d"
  | .validation =>
    saying 200 ("\x7b\"data\":\x7b\"valid\":true," ++
      "\"generatedTest\":\x7b\"content\":\"test()\"\x7d\x7d\x7d")

/-- Settings that allow one request in a minute. -/
def sparing : Settings :=
  { persistent with rateLimitMax := 1 }

/-- The first test takes four readings of the clock, and a request that is refused takes one. -/
def halfMinutes (n : Nat) : Float :=
  if n < 4 then 1000.0 else if n < 5 then 1030.0 else 1060.0

/-- Three visits of a client that may ask once in a minute, half a minute apart. -/
def threeVisits : List Visit :=
  visits sparing (deskOn halfMinutes succeeding) [somePosting, somePosting, somePosting]

/-- Of three visits half a minute apart, the second is told to wait. -/
theorem every_visit_lawful_sparing :
    (deskOn halfMinutes succeeding).Networked ∧
    (∀ v ∈ threeVisits, ∃ scripts, (∀ p, v.before.client.links p = .remote (scripts p)) ∧
      v.Lawful sparing scripts) ∧
    threeVisits.map Visit.status? = [some 200, some 429, some 200] ∧
    threeVisits.Pairwise (fun v v' =>
      Decimal.exactValue v.time ≤ Decimal.exactValue v'.time) ∧
    threeVisits.Pairwise (fun v v' =>
      v.InWindow sparing "10.0.0.1" (Decimal.exactValue 1000.0) →
      v'.InWindow sparing "10.0.0.1" (Decimal.exactValue 1000.0) →
      ¬ v.time ≤ v'.time - sparing.rateLimitWindow) ∧
    (threeVisits.countP fun v =>
      decide (v.InWindow sparing "10.0.0.1" (Decimal.exactValue 1000.0)) && v.reaches) ≤ 1 := by
  have hnetworked : (deskOn halfMinutes succeeding).Networked := networked_deskOn _ _
  have hclock : threeVisits.Pairwise fun v v' =>
      Decimal.exactValue v.time ≤ Decimal.exactValue v'.time := by
    decide +kernel
  have hclose : threeVisits.Pairwise fun v v' =>
      v.InWindow sparing "10.0.0.1" (Decimal.exactValue 1000.0) →
      v'.InWindow sparing "10.0.0.1" (Decimal.exactValue 1000.0) →
      ¬ v.time ≤ v'.time - sparing.rateLimitWindow := by
    decide +kernel
  obtain ⟨hlawful, hwindow⟩ := every_visit_lawful sparing (deskOn halfMinutes succeeding)
    hnetworked [somePosting, somePosting, somePosting]
  exact ⟨hnetworked, hlawful, by decide +kernel, hclock, hclose, hwindow hclock _ _ hclose⟩

/-! ## A report that cannot be written, and a window that is cut short -/

/-- The analysis rejects every source, with the given details. -/
def rejecting (details : String) : Peer → Script
  | .analysis =>
    saying 422 ("\x7b\"error\":\x7b\"code\":\"parse_error\",\"message\":\"No.\",\"details\":" ++
      details ++ "\x7d\x7d")
  | _ => refused

/-- Settings that allow one request in a bit more than a second. -/
def hasty : Settings :=
  { persistent with rateLimitMax := 1, rateLimitWindow := 1.000000000000341 }

/-- A rejected request takes two readings of the clock.  The difference of the two times is less
than the window of `hasty`, but the later one less the window is rounded to the earlier one. -/
def aboutOneSecond (n : Nat) : Float :=
  if n < 2 then 1026.0 else 1027.0000000000002

/-- The cause of the failure of the analysis in a run. -/
def causeOfAnalysis? (x : Course) : Option Cause :=
  match x.analysis with
  | .error (.failure f) => some f.cause
  | _ => none

theorem exists_of_causeOfAnalysis? {x : Course} {c : Cause} (h : causeOfAnalysis? x = some c) :
    ∃ f, x.Fails f ∧ f.cause = c := by
  unfold causeOfAnalysis? at h
  split at h
  · next f hf => exact ⟨f, .inl hf, Option.some.inj h⟩
  · cases h

/-- A visit whose source the analysis rejects with details that JSON has no notation for. -/
def unwritableVisit : Visit :=
  visitOf persistent (deskOn (fun _ => 0.0) (rejecting "NaN")) somePosting

/-- Two visits of a client whose window has room for one. -/
def twoVisits : List Visit :=
  visits hasty (deskOn aboutOneSecond (rejecting "null")) [somePosting, somePosting]

/-- A failure of the analysis that cannot be written is not reported as it is; and a limiter may
allow two requests in a window that has room for one. -/
theorem unwritable_report_and_short_window :
    (∃ q f, unwritableVisit.Admits persistent q ∧
      (unwritableVisit.course persistent (rejecting "NaN") q).Fails f ∧
      f.cause.status = 422 ∧ f.cause.code = "parse_error" ∧
      unwritableVisit.status? = some 500) ∧
    hasty.rateLimitMax = 1 ∧
    twoVisits.Pairwise (fun v v' => Decimal.exactValue v.time ≤ Decimal.exactValue v'.time) ∧
    (twoVisits.countP fun v =>
      decide (v.InWindow hasty "10.0.0.1" (Decimal.exactValue 1026.0)) && v.reaches) = 2 := by
  have hallowed : (deskOn (fun _ => 0.0) (rejecting "NaN")).admission persistent
      somePosting.client = .allowed := by
    decide +kernel
  have hcause : (((valueOf somePosting.request).toOption.bind fun value =>
      (readValue Request.read value).toOption).bind fun q =>
        causeOfAnalysis? (unwritableVisit.course persistent (rejecting "NaN") q)) =
      some .unparsable := by
    decide +kernel
  obtain ⟨q, hq, hcause⟩ := Option.bind_eq_some_iff.1 hcause
  obtain ⟨value, hvalue, hread⟩ := Option.bind_eq_some_iff.1 hq
  obtain ⟨f, hfails, hf⟩ := exists_of_causeOfAnalysis? hcause
  have hadmits : unwritableVisit.Admits persistent q :=
    ⟨hallowed, value, eq_ok_of_toOption hvalue, eq_ok_of_toOption hread⟩
  refine ⟨⟨q, f, hadmits, hfails, ?_, ?_, by decide +kernel⟩, rfl, by decide +kernel,
    by decide +kernel⟩
  · rw [hf]
    rfl
  · rw [hf]
    rfl

end TestScribe.Gateway.Desk
