import TestScribe.Launch.Start

/-!
# The program

The program reads its command line and its environment, and says which service it starts, on which
address, and how its log is set up; or it says why it starts none.
-/

namespace TestScribe.Launch

/-- The values that the variables named `names` have in the environment of the process. -/
def variablesOf (names : List String) : IO Settings.Environment :=
  names.filterMapM fun name => do
    return (← IO.getEnv name).map fun value => (name, value)

/-- The line that announces a service. -/
def announcement (p : Plan) : String :=
  p.service.title ++ " as " ++ p.settings.serviceName ++ " on " ++ p.host ++ ":" ++
    toString p.port ++ ", log level " ++ toString p.level

end TestScribe.Launch

open TestScribe Launch

/-- Start the service that the command line names. -/
def main (words : List String) : IO UInt32 := do
  let env ← variablesOf ("HOST" :: "PORT" :: Settings.variableTable.map (·.1))
  match start words env with
  | .error d =>
    IO.eprintln d.message
    return 1
  | .ok (.quit code out err) =>
    IO.print out
    IO.eprint err
    return code.toUInt32
  | .ok (.run p) =>
    IO.println (announcement p)
    return 0
