import TestScribe.Journal.Template
import TestScribe.Json.Printer
import TestScribe.Time.Instant

/-!
# Log lines

A record is written as one line of JSON: when, how grave, where, the message, of the further values
those that are known, in a fixed order, and the exception that it tells of.
-/

namespace TestScribe.Journal

/-- The names of the further values that a line shows, in order. -/
def knownFields : List String :=
  ["correlation_id", "service", "component", "event", "attempt", "code", "status_code",
    "complexity", "hooks", "props", "issues", "latency_ms", "method", "path", "state", "error"]

/-- The names of the levels that have one. -/
def levelNames : List (Int × String) :=
  [(50, "CRITICAL"), (40, "ERROR"), (30, "WARNING"), (20, "INFO"), (10, "DEBUG"), (0, "NOTSET")]

/-- The name of a level. -/
def levelName (level : Int) : String :=
  match levelNames.find? fun l => l.1 == level with
  | some (_, name) => name
  | none => "Level " ++ toString level

/-- A record at the moment it is written: the second and the millisecond, its level, and how the
exception that it tells of reads, if there is one. -/
structure Entry where
  seconds : Int
  millis : Int
  level : Int
  source : String
  message : String
  fields : Members
  exception : Option String := none

/-- The time of an entry in universal time. -/
def timeText (seconds millis : Int) : String :=
  let (date, time) := match Time.Instant.ofSeconds seconds 0 with
    | .ok t => (t.date.text, Time.digits 2 t.hour ++ ":" ++ Time.digits 2 t.minute ++ ":" ++
        Time.digits 2 t.second)
    | .error _ => ("", "")
  let sign := if millis < 0 then "-" else ""
  date ++ " " ++ time ++ "," ++ sign ++ Time.digits (3 - sign.length) millis.natAbs

/-- The values of a record that a line shows. -/
def shownFields (fields : Members) : Members :=
  knownFields.filterMap fun name => (fields.get? name).map fun v => (name, v)

/-- An entry as an object. -/
def Entry.members (e : Entry) : Members :=
  [("timestamp", .str (timeText e.seconds e.millis)), ("level", .str (levelName e.level)),
    ("logger", .str e.source), ("message", .str e.message)] ++ shownFields e.fields ++
    (e.exception.map fun text => ("exception", .str text)).toList

/-- An entry as a line. -/
def Entry.line (e : Entry) : String :=
  Json.render .spaced (.obj e.members)

end TestScribe.Journal
