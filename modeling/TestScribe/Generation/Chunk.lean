import TestScribe.Generation.Options
import TestScribe.Json.Finite
import TestScribe.Journal.Flow
import TestScribe.Json.Reader
import TestScribe.Settings
import TestScribe.Transport.Reply

/-!
# Answers of the model

The model answers with lines that each hold an object: a piece of text, a mark that the text is
done, or an error. `follow` turns the lines into chunks; lines that hold no object tell nothing.
-/

namespace TestScribe.Generation

open Transport

/-! ## What is asked -/

/-- The body of a request to the model. -/
def payload (s : Settings) (prompt : String) (options : Option Options) (stream : Bool) : Json :=
  let o := options.getD .none
  let tokens := match o.maxTokens with
    | some n => if n == 0 then s.maxTokens else n
    | none => s.maxTokens
  .obj [("model", .str (o.modelName s.modelName)), ("prompt", .str prompt),
    ("stream", .bool stream),
    ("options", .obj [("temperature", .float (o.temperature.getD s.temperature)),
      ("num_predict", .int tokens)])]

/-! ## Lines -/

/-- A piece of the answer, which may be any value, or the mark of its end. -/
structure Chunk where
  content : Json
  done : Bool

/-- The mark of the end. -/
def Chunk.last : Chunk := { content := .str "", done := true }

/-- What stands on a line. -/
inductive Line
  | nothing
  | unreadable (text : List Char)
  | object (members : Members)

/-- The number of characters of an unreadable line that a record shows. -/
def shownLength : Nat := 200

/-- What stands on a line. -/
def Line.ofChars (s : List Char) : Line :=
  match Text.trim s with
  | [] => .nothing
  | c :: r =>
    match Json.read? (String.ofList (c :: r)) with
    | some (.obj ms) => .object ms
    | some _ => .nothing
    | none => .unreadable (c :: r)

/-- The part of the program that talks to the model. -/
def clientPart : String := "generation.ollama_client"

/-- The record of an unreadable line. -/
def unreadableLine (s : List Char) : Journal.Record :=
  { severity := .warning
    source := Journal.partName clientPart
    message := "Failed to parse Ollama stream chunk"
    fields := [("event", .str (String.ofList (s.take shownLength)))] }

/-- The object on a line. -/
def objectOn? (l : List Char) : Option Members :=
  match Line.ofChars l with
  | .object ms => some ms
  | _ => none

/-- What is recorded of a line: that it is unreadable, if it is. -/
def recordsOn (l : List Char) : List Journal.Record :=
  match Line.ofChars l with
  | .unreadable s => [unreadableLine s]
  | _ => []

/-- The object on a line by itself; an unreadable line is recorded. -/
def readLine (line : String) : Journaled (Option Members) := do
  Flow.write ((recordsOn line.toList).map .record)
  return objectOn? line.toList

/-! ## Following an answer -/

/-- What was made of the lines of an answer. -/
structure Following where
  chunks : List Chunk
  records : List Journal.Record
  ended : Bool
  failure : Option Failure

/-- A member of an object, unless it counts as false. -/
def telling? (ms : Members) (name : String) : Option Json :=
  (ms.get? name).filter Json.truthy

/-- Whether an object marks the end of the text. -/
def marksEnd (ms : Members) : Bool :=
  (telling? ms "done").isSome

/-- The chunks of an object; the end is marked once. -/
def chunksOf (ended : Bool) (ms : Members) : List Chunk :=
  ((telling? ms "response").toList.map fun v => { content := v, done := false }) ++
    (if marksEnd ms && !ended then [.last] else [])

/-- Follow the lines of an answer up to an error; `ended` tells whether its end was marked
before. -/
def follow (ended : Bool) : List (List Char) → Following
  | [] => { chunks := [], records := [], ended, failure := none }
  | l :: ls =>
    match objectOn? l with
    | none =>
      let f := follow ended ls
      { f with records := recordsOn l ++ f.records }
    | some ms =>
      match telling? ms "error" with
      | some e =>
        { chunks := [], records := [], ended, failure := some (.plain .serviceFault e.plain) }
      | none =>
        let f := follow (ended || marksEnd ms) ls
        { f with chunks := chunksOf ended ms ++ f.chunks }

/-! ## Failures -/

/-- The failure for trouble on the way. -/
def mishapFailure (action : String) (m : Mishap) : Failure :=
  match m.trouble with
  | .late => .detailed .timedOut ("Ollama request timed out (" ++ action ++ ").") (.str m.message)
  | .unreachable =>
    .detailed .unavailable ("Ollama is unavailable (" ++ action ++ ").") (.str m.message)
  | .other =>
    .detailed .internal ("Unexpected error communicating with Ollama (" ++ action ++ ").")
      (.str m.message)

/-- What an answer with an error holds: a value, or else the text if there is any. -/
def errorBody (a : Answer) : Json :=
  match a.body? with
  | some v => v
  | none => if a.text == "" then .null else .str a.text

/-- The message that an answer with an error holds. -/
def errorMessage? (body : Json) : Option Json :=
  match body with
  | .obj ms => (telling? ms "error").or (telling? ms "message")
  | _ => none

/-- The failure for an answer with an error. -/
def statusFailure (action : String) (a : Answer) : Failure :=
  let body := errorBody a
  let failure (cause : Cause) (fallback : String) : Failure :=
    { cause, message := (errorMessage? body).getD (.str fallback), details := body,
      correlation := .null }
  if a.status == 404 then failure .badRequest "Requested model was not found."
  else if 500 ≤ a.status then
    failure .unavailable ("Ollama service error (" ++ action ++ ").")
  else failure (.unexpected a.status) ("Unexpected Ollama response (" ++ action ++ ").")

/-! ## Attempts -/

/-- How an attempt ends. -/
inductive Finish
  | done
  | failed (f : Failure)
  | hanging

/-- What came of an attempt. -/
structure Attempt where
  chunks : List Chunk
  records : List Journal.Record
  finish : Finish

/-- An attempt from which nothing came. -/
def Attempt.without (finish : Finish) : Attempt :=
  { chunks := [], records := [], finish }

/-- How an answer that was read to its end finishes. -/
def finishOf (action : String) (onComplete : Finish) : Ending → Finish
  | .complete => onComplete
  | .broken m => .failed (mishapFailure action m)
  | .endless => .hanging

/-- What comes of an answer that reports no error. An answer without a mark of its end gets one. -/
def attemptOfLines (action : String) (a : Answer) : Attempt :=
  let f := follow false a.lines
  match f.failure with
  | some e => { chunks := f.chunks, records := f.records, finish := .failed e }
  | none =>
    let close := match a.ending with
      | .complete => if f.ended then [] else [Chunk.last]
      | _ => []
    { chunks := f.chunks ++ close, records := f.records, finish := finishOf action .done a.ending }

/-- What comes of a reply. -/
def attemptOf (action : String) : Reply → Attempt
  | .mishap m => .without (.failed (mishapFailure action m))
  | .answer a =>
    if isError a.status then .without (finishOf action (.failed (statusFailure action a)) a.ending)
    else attemptOfLines action a

end TestScribe.Generation
