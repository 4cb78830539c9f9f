import TestScribe.Launch.Word
import TestScribe.Service.Kind

/-!
# Arguments of a command line

The command line names the service to start and may set the address and the port on which it
listens. What cannot be read is refused; a question for help goes before all that stands behind it.
-/

namespace TestScribe.Launch

/-- What the command line says: the service, the address and the port, if one was given. -/
structure Arguments where
  service : Service
  host : String
  port : Option Int

/-- Why reading ends early. -/
inductive Stop
  | help
  | refused (r : Refusal)

/-- What was read so far. -/
structure Draft where
  service : Option Service
  host : String
  port : Option Int
  extra : List String

namespace Draft

/-- Set a word aside. -/
def leave (d : Draft) (word : String) : Draft :=
  { d with extra := d.extra ++ [word] }

/-- Choose the service. -/
def choose (d : Draft) (word : String) : Except Stop Draft :=
  match Service.ofWord? word with
  | some s => .ok { d with service := some s }
  | none => .error (.refused (.noSuchService word (Service.all.map (·.word))))

/-- Give a value to a switch. A question for help takes none. -/
def give (d : Draft) (s : Switch) (value : String) : Except Stop Draft :=
  match s with
  | .help => .error (.refused (.needless .help value))
  | .host => .ok { d with host := value }
  | .port =>
    match wholeOf? value with
    | some n => .ok { d with port := some n }
    | none => .error (.refused (.notWhole .port value))

/-- Read words on. The first plain word chooses the service, and one mark beside it does not count;
all other words are set aside. -/
def read (d : Draft) : List Word → Except Stop Draft
  | [] => .ok d
  | .stranger w :: rest => (d.leave w).read rest
  | .switch s (some value) :: rest => do (← d.give s value).read rest
  | .switch .help none :: _ => .error .help
  | .switch s none :: .plain value :: rest => do (← d.give s value).read rest
  | .switch s none :: _ => .error (.refused (.noValue s))
  | .plain w :: .mark :: rest =>
    match d.service with
    | none => do (← d.choose w).read rest
    | some _ => ((d.leave w).leave markText).read rest
  | .mark :: .plain w :: rest =>
    match d.service with
    | none => do (← d.choose w).read rest
    | some _ => ((d.leave markText).leave w).read rest
  | .plain w :: rest =>
    match d.service with
    | none => do (← d.choose w).read rest
    | some _ => (d.leave w).read rest
  | .mark :: rest => (d.leave markText).read rest

/-- The arguments, if nothing is missing and nothing left over. -/
def finish (d : Draft) : Except Stop Arguments :=
  match d.service with
  | none => .error (.refused .noService)
  | some service =>
    if d.extra.isEmpty then .ok { service, host := d.host, port := d.port }
    else .error (.refused (.leftOver d.extra))

end Draft

/-- Read a command line, with an address to fall back on. -/
def Arguments.read (host : String) (words : List String) : Except Stop Arguments := do
  let ws ← (readWords words).mapError .refused
  let d ← Draft.read { service := none, host, port := none, extra := [] } ws
  d.finish

/-! ## Help -/

/-- The name of the program. -/
def programName : String := "rtlgen-serve"

/-- The services that can be chosen. -/
def choicesText : String :=
  "\x7b" ++ ",".intercalate (Service.all.map (·.word)) ++ "\x7d"

/-- How the program is called. -/
def usage : String :=
  "usage: " ++ programName ++ " [-h] [--host HOST] [--port PORT]\n                    " ++
    choicesText ++ "\n"

/-- What the program says when it is asked for help. -/
def helpText : String :=
  usage ++ "\nRun an rtlgen HTTP service.\n\npositional arguments:\n  " ++ choicesText ++
    "\n\noptions:\n  -h, --help            show this help message and exit\n  --host HOST\n" ++
    "  --port PORT\n"

/-- What the program says when it refuses a command line. -/
def refusalText (r : Refusal) : String :=
  usage ++ programName ++ ": error: " ++ r.message ++ "\n"

end TestScribe.Launch
