import TestScribe.Generation.Chunk
import TestScribe.Generation.TestFile
import TestScribe.Time.Clock
import TestScribe.Transport.Link
import TestScribe.Transport.Retry

/-!
# The model server

A client of the model server asks it for text, for the models it has and whether it is there. A
request for text is sent again only as long as nothing of the answer was handed on. The caller may
ask to stop: then nothing new is begun, and an answer that does not end is given up.
-/

namespace TestScribe.Generation

open Transport

/-- The model server as its client sees it: what it will answer, the chunks handed on since the last
request for text, a clock, and the journal. -/
structure Backend where
  script : Script
  handed : List Chunk
  clock : Time.Clock
  journal : Events

instance : Journaling Backend :=
  { journal := fun b => b.journal, setJournal := fun journal b => { b with journal } }

namespace Backend

/-- Look at the clock. -/
def now : Flow Backend Float :=
  fun b => let (t, clock) := b.clock.read
    (.ok t, { b with clock })

/-- Send a request and wait for the reply. -/
def ask (method path : String) (body : Option Json) : Flow Backend Reply :=
  fun b =>
    match send { service := "ollama", method, path, body, correlation := none } b.script with
    | .ok (reply, script, es) => (.ok reply, { b with script, journal := b.journal ++ es })
    | .error d => (.error (.defect d), b)

/-- A question whether the caller asked to stop, given the chunks handed on; none if the caller
cannot ask. -/
abbrev Stop := Option (List Chunk → Bool)

/-- The failure of a request that the caller stopped. -/
def stopped : Failure := .plain .cancelled "Generation aborted by client."

/-- Whether the caller asked to stop. -/
def isStopped (stop : Stop) : Flow Backend Bool :=
  fun b => (.ok (stop.any fun asked => asked b.handed), b)

/-- Take over what came of an attempt. -/
def take (stop : Stop) (a : Attempt) : Flow Backend Unit := do
  Flow.write (a.records.map .record)
  modify fun b => { b with handed := b.handed ++ a.chunks }
  match a.finish with
  | .done => return ()
  | .failed f => Flow.fail f
  | .hanging => if ← isStopped stop then Flow.fail stopped else Flow.defect .endless

/-- Before a request is sent again: record it and pause. -/
def pauseBefore (p : Patience) (action : String) (n : Nat) (f : Failure) : Flow Backend Unit :=
  match p.pause? n with
  | none => Flow.defect .overflow
  | some seconds => do
    Flow.note .warning clientPart ("Attempt " ++ toString n ++ " failed for Ollama " ++ action ++
        ", retrying in " ++ Decimal.fixedText 2 seconds ++ "s")
      [("service", .str "ollama"), ("attempt", .int n), ("code", .str f.cause.code)]
    Flow.write [.pause seconds]

/-- Send a request, and again if need be. -/
def insist {α : Type} (s : Settings) (action : String) (stop : Stop) (attempt : Flow Backend α) :
    Flow Backend α :=
  let p := Patience.ofSettings s
  let trial : Trial Backend α :=
    { attempt
      failed := fun _ _ => pure ()
      again := fun n f => do
        if !(← get).handed.isEmpty then Flow.fail f
        if ← isStopped stop then Flow.fail stopped
        pauseBefore p action n f }
  trial.run p.retries 1

/-! ## Text -/

/-- What is known after a request for text. -/
structure Summary where
  model : String
  duration : Int

/-- The name of requests for text. -/
def textAction : String := "generateTest"

/-- Ask for text. The chunks are handed on as they come. -/
def stream (s : Settings) (prompt : String) (options : Option Options) (stop : Stop) :
    Flow Backend Summary := do
  modify fun b => { b with handed := [] }
  let start ← now
  let body := payload s prompt options true
  insist s textAction stop do
    let reply ← ask "POST" "/api/generate" (some body)
    take stop (attemptOf textAction reply)
  let stop ← now
  match Time.milliseconds? start stop with
  | some duration => return { model := (options.getD .none).modelName s.modelName, duration }
  | none => Flow.defect .overflow

/-- The text of the chunks, if all of them are text. -/
def textOf? (chunks : List Chunk) : Option String :=
  (chunks.mapM fun (c : Chunk) => c.content.string?).map String.join

/-- Ask for text and collect it. -/
def collect (s : Settings) (prompt : String) (options : Option Options) (stop : Stop) :
    Flow Backend TestFile := do
  let summary ← stream s prompt options stop
  match textOf? (← get).handed with
  | none => Flow.defect .wrongType
  | some content =>
    return { content := Text.trimmed content, model := some summary.model, prompt
             metadata := [("streamed", .bool true), ("durationMs", .int summary.duration)]
             fileName := none, relativePath := none, generatedAt := none }

/-! ## Models and health -/

/-- A model that the server has. -/
structure ModelInfo where
  name : Json
  modifiedAt : Json
  size : Json

/-- A whole answer to a request, errors turned into failures. -/
def wholeAnswer (action : String) (reply : Reply) : Flow Backend Answer :=
  match reply with
  | .mishap m => Flow.fail (mishapFailure action m)
  | .answer a =>
    match a.ending with
    | .broken m => Flow.fail (mishapFailure action m)
    | .endless => Flow.defect .endless
    | .complete => if isError a.status then Flow.fail (statusFailure action a) else pure a

/-- A model from an entry of the list of models. -/
def modelOf (entry : Json) : Except Defect ModelInfo :=
  match entry with
  | .obj _ =>
    match entry.get? "name" with
    | some name =>
      .ok { name, modifiedAt := (entry.get? "modified_at").getD .null,
            size := (entry.get? "size").getD .null }
    | none => .error .missingKey
  | _ => .error .wrongType

/-- The models in an answer. -/
def modelsIn (body : Json) : Except Defect (List ModelInfo) :=
  match body with
  | .obj _ =>
    match body.get? "models" with
    | none => .ok []
    | some (.arr entries) => entries.mapM modelOf
    | some (.obj []) => .ok []
    | some (.str "") => .ok []
    | some _ => .error .wrongType
  | _ => .error .missingAttribute

/-- Ask for the models that the server has. -/
def models (s : Settings) : Flow Backend (List ModelInfo) := do
  modify fun b => { b with handed := [] }
  let a ← insist s "listModels" none do
    wholeAnswer "listModels" (← ask "GET" "/api/tags" none)
  match a.body? with
  | none => Flow.defect .badJson
  | some body =>
    match modelsIn body with
    | .ok ms => return ms
    | .error d => Flow.defect d

/-- Ask whether the server is there. -/
def checkHealth : Flow Backend Unit := do
  let _ ← wholeAnswer "health" (← ask "GET" "/api/version" none)
  return ()

end Backend

end TestScribe.Generation
