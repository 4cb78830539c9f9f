import TestScribe.Wire.Scalar

/-!
# Events of a stream

A caller that follows a generation receives it as a stream of events. An event is written as its
name and its data, a line each; a heartbeat is written as a comment, which readers skip.
-/

namespace TestScribe.Generation

open Wire

/-- What an event tells. -/
inductive EventName
  | start
  | token
  | heartbeat
  | done
  | error
  deriving DecidableEq

namespace EventName

/-- The name of an event on the wire. -/
def text : EventName → String
  | start => "start"
  | token => "token"
  | heartbeat => "heartbeat"
  | done => "done"
  | error => "error"

/-- The events by name. -/
def choices : List (String × EventName) :=
  [start, token, heartbeat, done, error].map fun e => (e.text, e)

end EventName

/-- An event of a stream. -/
structure StreamEvent where
  event : EventName
  data : Members

namespace StreamEvent

/-- Read an event. -/
def read : Reader StreamEvent :=
  record "StreamEvent" fun ms => mk
    <$> field (.single "event") (choice EventName.choices) ms
    <*> fieldOr (.single "data") [] object ms

/-- An event as JSON. -/
def toJson (e : StreamEvent) : Json :=
  .obj [("event", .str e.event.text), ("data", .obj e.data)]

/-- The characters of an event in a stream; an empty line ends it. -/
def frame (e : StreamEvent) : List Char :=
  match e.event with
  | .heartbeat => ":heartbeat\n\n".toList
  | name =>
    "event: ".toList ++ name.text.toList ++ "\ndata: ".toList ++
      Json.chars .spaced 0 (.obj e.data) ++ "\n\n".toList

/-- An event as text. -/
def render (e : StreamEvent) : String :=
  String.ofList e.frame

end StreamEvent

end TestScribe.Generation
