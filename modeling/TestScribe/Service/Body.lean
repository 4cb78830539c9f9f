import TestScribe.Json.Reader
import TestScribe.Service.Routing

/-!
# Bodies of requests

The body of a request is a JSON value, or plain text if its media type says so. A body that is no
JSON, a missing body and a body that cannot be read are rejected with the list of all that is wrong.
-/

namespace TestScribe.Service

open Wire

/-! ## Media types -/

/-- A header without its parameters, in small letters. -/
def bareType (contentType : String) : List Char :=
  Text.trim ((contentType.toList.takeWhile (· != ';')).map Char.toLower)

/-- Whether a media type is one of JSON: `application/json`, or one with `+json` at its end. -/
def isJsonType (contentType : String) : Bool :=
  let name := bareType contentType
  match Text.splitFirst? "application/".toList name with
  | some ([], subtype) =>
    !subtype.contains '/' &&
      (subtype == "json".toList || Text.startsWith "nosj+".toList subtype.reverse)
  | _ => false

/-! ## Values -/

/-- The rejection of a body. -/
def invalid (issues : List Issue) : Failure :=
  .detailed .badRequest "Invalid request payload." (.arr (issues.map Issue.fullDetails))

/-- The rejection of a text that is no JSON. -/
def notJson (e : Json.ReadError) : Failure :=
  invalid [{ path := [.key "body", .index e.position], complaint := .notJson e.refusal.message,
             input := .obj [] }]

/-- The value of the body of a request, if it has one. A byte order mark does not count. -/
def valueOf (r : Request) : Except Failure (Option Json) :=
  if r.body == "" then .ok none
  else if r.contentType.any isJsonType then
    let text := match r.body.toList with
      | '\uFEFF' :: s => String.ofList s
      | _ => r.body
    ((Json.read text).map some).mapError notJson
  else .ok (some (.str r.body))

/-! ## Reading -/

/-- A complaint as it is worded where a value may also be something else than JSON. -/
def worded : Complaint → Complaint
  | .notRecord _ => .notFields
  | c => c

/-- Read the value of a body. -/
def readValue {α : Type} (reader : Reader α) (value : Option Json) : Except Failure α :=
  match value with
  | none => .error (invalid [{ path := [.key "body"], complaint := .missing, input := .null }])
  | some v =>
    match (reader v).under (.key "body") with
    | .ok a => .ok a
    | .bad issues =>
      .error (invalid (issues.map fun i => { i with complaint := worded i.complaint }))

/-- Answer requests with a body. They have to pass a door before their body is read, unless it is no
JSON at all. -/
def taking {σ α : Type} (door : Request → String → Flow σ Unit) (reader : Reader α)
    (handle : α → String → Flow σ (Outcome σ)) (r : Request) (id : String) :
    Flow σ (Outcome σ) :=
  match valueOf r with
  | .error f => pure (.rejection f)
  | .ok value => do
    door r id
    match readValue reader value with
    | .error f => return .rejection f
    | .ok a => handle a id

/-- A door that lets all requests pass. -/
def openDoor {σ : Type} (_ : Request) (_ : String) : Flow σ Unit :=
  pure ()

end TestScribe.Service
