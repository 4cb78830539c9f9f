import TestScribe.Launch.Start
import TestScribe.Proofs.Launch.CommandLine
import TestScribe.Proofs.Launch.Variables

/-!
# The service that is started

What a service is called and where it listens is asked for by the command line and by the
environment, in which a blank variable asks for nothing (`nameTold`, `portTold?`).  A service that
is started has its settings from the environment less all blank variables.  It is called as it is
told unless the variable for its name is blank, and listens where it is told unless it is given port
zero on the command line (`started_as_told`).
-/

namespace TestScribe.Launch

open Settings Wire

variable {words : List String} {env : Environment} {service : Service} {a : Arguments}
  {s : Settings} {p : Plan}

/-! ## What is asked for -/

/-- A variable is set, but to blanks. -/
def IsBlank (env : Environment) (name : String) : Prop :=
  ∃ value, env.get? name = some value ∧ Text.trimmed value = ""

/-- The name that is asked for: that of the environment, else the service's own. -/
def nameTold (service : Service) (env : Environment) : String :=
  ((env.filled? nameVariable).map Text.trimmed).getD service.name

/-- The port that is asked for: the one that is given, else that of the environment, else the
service's own. -/
def portTold? (service : Service) (env : Environment) : Option Int → Option Int
  | some n => some n
  | none =>
    match env.filled? "PORT" with
    | some text => wholeOf? text
    | none => some service.port

theorem filled?_of_isBlank {name : String} (h : IsBlank env name) : env.filled? name = none := by
  obtain ⟨value, hget, hblank⟩ := h
  rw [Environment.filled?, hget, Option.filter_some, hblank]
  rfl

theorem filled?_of_not_isBlank {name : String} (h : ¬ IsBlank env name) :
    env.filled? name = env.get? name := by
  rw [Environment.filled?]
  cases hget : env.get? name with
  | none => rfl
  | some value =>
    have hvalue : Text.trimmed value ≠ "" := fun hblank => h ⟨value, hget, hblank⟩
    rw [Option.filter_some, if_pos (bne_iff_ne.2 hvalue)]

/-! ## What a start does -/

/-- A service is started just if the command line is accepted, the environment holds settings, and
they make a plan. -/
theorem start_eq_run_iff :
    start words env = .ok (.run p) ↔
      ∃ a s, Arguments.read ((env.get? "HOST").getD everyAddress) words = .ok a ∧
        ofVariables env = .ok s ∧ planFor a env s = .ok p := by
  unfold start
  cases hread : Arguments.read ((env.get? "HOST").getD everyAddress) words with
  | error stop => cases stop <;> simp
  | ok a =>
    cases hs : ofVariables env with
    | bad issues => simp
    | ok s => cases hplan : planFor a env s <;> simp [Except.map, hplan]

/-- A plan is made just if the log can be set up and there is a port. -/
theorem planFor_eq_ok_iff :
    planFor a env s = .ok p ↔
      ∃ setup port, Journal.configure s.logLevel (s.logFile.any (· != "")) true = .ok setup ∧
        portFor a.service env a.port = .ok port ∧
        p = { service := a.service, settings := settingsFor a.service env s, level := setup.level,
              host := a.host, port } := by
  constructor
  · intro h
    obtain ⟨setup, hsetup, h⟩ := Json.bind_eq_ok h
    obtain ⟨port, hport, h⟩ := Json.bind_eq_ok h
    exact ⟨setup, port, hsetup, hport, (Except.ok.inj h).symm⟩
  · rintro ⟨setup, port, hsetup, hport, rfl⟩
    rw [planFor, hsetup, hport]
    rfl

theorem levelNamed_info : Journal.levelNamed "INFO" = .ok Journal.defaultLevel := by
  have hupper : "INFO".map Journal.upperChar = "INFO" := by
    rw [← String.toList_inj, String.toList_map]
    rfl
  rw [Journal.levelNamed, Journal.naming?, hupper]
  rfl

/-- A log that is not told otherwise can be set up, so that a plan needs no more than a port. -/
theorem planFor_of_defaultLog {port : Int} (hlevel : s.logLevel = "INFO") (hfile : s.logFile = none)
    (hport : portFor a.service env a.port = .ok port) :
    planFor a env s = .ok
      { service := a.service, settings := settingsFor a.service env s,
        level := Journal.defaultLevel, host := a.host, port } := by
  have hsetup : Journal.configure s.logLevel (s.logFile.any (· != "")) true =
      .ok { level := Journal.defaultLevel, sinks := [.console] } := by
    rw [hlevel, hfile, Journal.configure, levelNamed_info]
    rfl
  exact planFor_eq_ok_iff.2 ⟨_, port, hsetup, hport, rfl⟩

/-! ## Settings and name -/

/-- The name is the only setting that a service may set for itself. -/
theorem settingsFor_eq (service : Service) (env : Environment) (s : Settings) :
    settingsFor service env s =
      { s with serviceName := (settingsFor service env s).serviceName } := by
  unfold settingsFor
  split <;> rfl

theorem serviceName_of_isBlank (hs : ofVariables env = .ok s) (h : IsBlank env nameVariable) :
    (settingsFor service env s).serviceName = "rtlgen" := by
  obtain ⟨value, hget, -⟩ := id h
  rw [settingsFor, hget, Option.isSome_some, if_pos rfl, serviceName_of_ofVariables hs,
    filled?_of_isBlank h]
  rfl

theorem serviceName_of_not_isBlank (hs : ofVariables env = .ok s) (h : ¬ IsBlank env nameVariable) :
    (settingsFor service env s).serviceName = nameTold service env := by
  have hname := serviceName_of_ofVariables hs
  rw [filled?_of_not_isBlank h] at hname
  rw [settingsFor, nameTold, filled?_of_not_isBlank h]
  cases hget : env.get? nameVariable with
  | none => rfl
  | some value =>
    rw [hget] at hname
    exact hname

theorem nameTold_of_isBlank (h : IsBlank env nameVariable) : nameTold service env ≠ "rtlgen" := by
  rw [nameTold, filled?_of_isBlank h]
  cases service <;> decide

/-! ## Port -/

/-- A blank text stands for no integer. -/
theorem wholeOf?_blank {text : String} (h : Text.trimmed text = "") : wholeOf? text = none := by
  have hnil : Text.trim text.toList = [] := by
    simpa [Text.trimmed] using h
  rw [wholeOf?, hnil]
  rfl

theorem filled?_of_wholeOf? {name text : String} {n : Int} (hget : env.get? name = some text)
    (hn : wholeOf? text = some n) : env.filled? name = some text := by
  have hblank : Text.trimmed text ≠ "" := fun h => by
    rw [wholeOf?_blank h] at hn
    cases hn
  rw [Environment.filled?, hget, Option.filter_some, if_pos (bne_iff_ne.2 hblank)]

/-- A service listens where it is told, with port zero counted as none. -/
theorem portTold?_of_portFor {given : Option Int} {port : Int}
    (h : portFor service env given = .ok port) :
    portTold? service env (given.filter (· != 0)) = some port := by
  unfold portFor at h
  cases hgiven : given.filter (· != 0) with
  | some n =>
    rw [hgiven] at h
    exact congrArg some (Except.ok.inj h)
  | none =>
    rw [hgiven] at h
    dsimp only [portTold?] at h ⊢
    cases hget : env.get? "PORT" with
    | none =>
      have hfilled : env.filled? "PORT" = none := by rw [Environment.filled?, hget]; rfl
      rw [hget] at h
      rw [hfilled]
      exact congrArg some (Except.ok.inj h)
    | some text =>
      rw [hget] at h
      dsimp only [portOf] at h
      split at h
      case h_1 n hn =>
        rw [filled?_of_wholeOf? hget hn]
        exact hn.trans (congrArg some (Except.ok.inj h))
      case h_2 => cases h

theorem portTold?_eq_iff {given : Option Int} {port : Int}
    (h : portTold? service env (given.filter (· != 0)) = some port) :
    portTold? service env given = some port ↔
      (given = some 0 → portTold? service env none = some 0) := by
  by_cases hzero : given = some 0
  · subst hzero
    have hnone : portTold? service env none = some port := h
    rw [hnone]
    simp [portTold?, eq_comm]
  · have hkept : given.filter (· != 0) = given := by
      cases given with
      | none => rfl
      | some n => exact if_pos (bne_iff_ne.2 fun h0 => hzero (congrArg some h0))
    rw [hkept] at h
    exact iff_of_true h fun h0 => absurd h0 hzero

/-! ## Services that are started -/

/-- A service that is started is the one that the command line names, and has the settings of the
environment without its blank variables and without those that hold no setting, but for its name. It
is called as it is told just if the variable for its name is not blank, and `rtlgen` if it is; it
listens where it is told just if it is not given port zero or would listen there in any case, and
otherwise where it would if none was given. -/
theorem started_as_told (h : start words env = .ok (.run p)) :
    ∃ ws, readWords words = .ok ws ∧ textsFor none (given ws) = [p.service.word] ∧
      (∃ s, ofEnvironment env.told = .ok s ∧
        p.settings = { s with serviceName := p.settings.serviceName }) ∧
      (p.settings.serviceName = nameTold p.service env ↔ ¬ IsBlank env nameVariable) ∧
      (IsBlank env nameVariable → p.settings.serviceName = "rtlgen") ∧
      (portTold? p.service env (portGiven? (given ws)) = some p.port ↔
        (portGiven? (given ws) = some 0 → portTold? p.service env none = some 0)) ∧
      (portGiven? (given ws) = some 0 → portTold? p.service env none = some p.port) := by
  obtain ⟨a, s, ha, hs, hplan⟩ := start_eq_run_iff.1 h
  obtain ⟨setup, port, -, hport, rfl⟩ := planFor_eq_ok_iff.1 hplan
  obtain ⟨ws, hws, hservice, hgiven⟩ := Arguments.read_eq_ok ha
  have htold := portTold?_of_portFor hport
  rw [hgiven] at htold
  refine ⟨ws, hws, hservice, ⟨s, ?_, settingsFor_eq _ env s⟩, ⟨fun hname hblank => ?_, ?_⟩,
    serviceName_of_isBlank hs, portTold?_eq_iff htold, fun hzero => ?_⟩
  · rw [ofEnvironment, ofVariables_told, hs]
    rfl
  · exact nameTold_of_isBlank hblank (hname.symm.trans (serviceName_of_isBlank hs hblank))
  · exact serviceName_of_not_isBlank hs
  · rw [hzero] at htold
    exact htold

/-- The last port that is given counts, and a switch may be shortened. -/
theorem started_as_told_again :
    ∃ p ws, start ["analysis", "--po", "4001", "--port=4002"]
        [("RTLGEN_SERVICE_NAME", " main\n"), ("MODEL_NAME", "  "), ("PORT", "x")] = .ok (.run p) ∧
      readWords ["analysis", "--po", "4001", "--port=4002"] = .ok ws ∧
      p.service = .analysis ∧ p.settings.serviceName = "main" ∧ p.port = 4002 ∧
      portTold? p.service [("RTLGEN_SERVICE_NAME", " main\n"), ("MODEL_NAME", "  "), ("PORT", "x")]
        (portGiven? (given ws)) = some p.port := by
  obtain ⟨s, hs, hlevel, hfile⟩ : ∃ s, ofVariables [("RTLGEN_SERVICE_NAME", " main\n"),
      ("MODEL_NAME", "  "), ("PORT", "x")] = .ok s ∧ s.logLevel = "INFO" ∧ s.logFile = none :=
    ⟨_, rfl, rfl, rfl⟩
  have hread : Arguments.read "0.0.0.0" ["analysis", "--po", "4001", "--port=4002"] =
      .ok ⟨.analysis, "0.0.0.0", some 4002⟩ := rfl
  have hstart : start ["analysis", "--po", "4001", "--port=4002"]
      [("RTLGEN_SERVICE_NAME", " main\n"), ("MODEL_NAME", "  "), ("PORT", "x")] = .ok (.run _) :=
    start_eq_run_iff.2 ⟨_, s, hread, hs, planFor_of_defaultLog hlevel hfile rfl⟩
  obtain ⟨ws, hws, -, -, hname, -, hport, -⟩ := started_as_told hstart
  have hgiven : portGiven? (given ws) = some 4002 := by
    have hwords : readWords ["analysis", "--po", "4001", "--port=4002"] = .ok [.plain "analysis",
      .switch .port none, .plain "4001", .switch .port (some "4002")] := rfl
    obtain rfl := Except.ok.inj (hwords.symm.trans hws)
    decide
  have hnotBlank : ¬ IsBlank [("RTLGEN_SERVICE_NAME", " main\n"), ("MODEL_NAME", "  "),
      ("PORT", "x")] nameVariable := by
    rintro ⟨value, hvalue, hblank⟩
    obtain rfl := Option.some.inj hvalue
    revert hblank
    decide
  refine ⟨_, ws, hstart, hws, rfl, (hname.2 hnotBlank).trans ?_, rfl,
    hport.2 (by rw [hgiven]; nofun)⟩
  show nameTold .analysis _ = _
  decide

/-- A service whose name is blank is not called by its own name, and one that is given port zero
does not listen on it. -/
theorem not_started_as_told :
    ∃ p ws, start ["gateway", "--port", "0"] [("RTLGEN_SERVICE_NAME", " ")] = .ok (.run p) ∧
      readWords ["gateway", "--port", "0"] = .ok ws ∧
      p.settings.serviceName = "rtlgen" ∧
      nameTold p.service [("RTLGEN_SERVICE_NAME", " ")] = "api-gateway" ∧
      p.port = 3000 ∧
      portTold? p.service [("RTLGEN_SERVICE_NAME", " ")] (portGiven? (given ws)) = some 0 := by
  obtain ⟨s, hs, hlevel, hfile⟩ : ∃ s, ofVariables [("RTLGEN_SERVICE_NAME", " ")] = .ok s ∧
      s.logLevel = "INFO" ∧ s.logFile = none := ⟨_, rfl, rfl, rfl⟩
  have hread : Arguments.read "0.0.0.0" ["gateway", "--port", "0"] =
      .ok ⟨.gateway, "0.0.0.0", some 0⟩ := rfl
  have hblank : IsBlank [("RTLGEN_SERVICE_NAME", " ")] nameVariable := ⟨" ", rfl, by decide⟩
  refine ⟨_, [.plain "gateway", .switch .port none, .plain "0"],
    start_eq_run_iff.2 ⟨_, s, hread, hs, planFor_of_defaultLog hlevel hfile rfl⟩,
    rfl, serviceName_of_isBlank hs hblank, ?_, rfl, ?_⟩
  · show nameTold .gateway _ = _
    decide
  · show portTold? .gateway _ _ = _
    decide

end TestScribe.Launch
