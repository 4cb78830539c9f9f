import TestScribe.Journal.Setup
import TestScribe.Launch.Arguments
import TestScribe.Settings

/-!
# Starting a service

A service is started by a command line in an environment. The variables of the environment hold its
settings, among them its name, and may set the address and the port on which it listens, over which
the command line goes.
-/

namespace TestScribe.Launch

open Wire

/-- A service that is to be started, with the level of its log. -/
structure Plan where
  service : Service
  settings : Settings
  level : Nat
  host : String
  port : Int

/-- What comes of a command line: a service is started, or the program says something and ends with
a code. -/
inductive Answer
  | run (p : Plan)
  | quit (code : Nat) (out err : String)

/-! ## Settings -/

/-- An issue with a setting in one line. -/
def issueLine (i : Issue) : String :=
  let steps := match i.place with
    | .arr [v] => Json.literal v ++ ","
    | .arr vs => Json.literalItems vs
    | _ => ""
  "  \x7b'type': " ++ Text.quoted i.complaint.code ++ ", 'loc': (" ++ steps ++ "), 'msg': " ++
    Text.quoted i.complaint.message ++ ", 'input': " ++ Json.literal i.input ++ "\x7d\n"

/-- What the program says when the environment holds wrong values. -/
def issuesText (issues : List Issue) : String :=
  "Configuration error: " ++ Settings.misconfiguredMessage ++ "\n" ++
    String.join (issues.map issueLine)

/-- The settings of a service: where the environment has no name at all, it is called by its own. -/
def settingsFor (service : Service) (env : Settings.Environment) (s : Settings) : Settings :=
  if (env.get? Settings.nameVariable).isSome then s
  else { s with serviceName := service.name }

/-! ## Ports -/

/-- How much of a value is shown in a defect. -/
def shownLength : Nat := 200

/-- The port that a text stands for. -/
def portOf (text : String) : Except Defect Int :=
  match wholeOf? text with
  | some n => .ok n
  | none =>
    .error (.badValue ("invalid literal for int() with base 10: " ++
      String.ofList ((Text.quoted text).toList.take shownLength)))

/-- The port on which a service listens: that of the command line, unless it is zero, else that of
the environment, else its own. -/
def portFor (service : Service) (env : Settings.Environment) (given : Option Int) :
    Except Defect Int :=
  match given.filter (· != 0) with
  | some n => .ok n
  | none =>
    match env.get? "PORT" with
    | some text => portOf text
    | none => .ok service.port

/-! ## Starting -/

/-- The address on which services listen unless told otherwise. -/
def everyAddress : String := "0.0.0.0"

/-- The plan for a service with its settings. -/
def planFor (a : Arguments) (env : Settings.Environment) (s : Settings) : Except Defect Plan := do
  let setup ← Journal.configure s.logLevel (s.logFile.any (· != "")) true
  let port ← portFor a.service env a.port
  return { service := a.service, settings := settingsFor a.service env s, level := setup.level,
           host := a.host, port }

/-- Start a service. -/
def start (words : List String) (env : Settings.Environment) : Except Defect Answer :=
  match Arguments.read ((env.get? "HOST").getD everyAddress) words with
  | .error .help => .ok (.quit 0 helpText "")
  | .error (.refused r) => .ok (.quit 2 "" (refusalText r))
  | .ok a =>
    match Settings.ofVariables env with
    | .bad issues => .ok (.quit 2 "" (issuesText issues))
    | .ok s => (planFor a env s).map .run

end TestScribe.Launch
