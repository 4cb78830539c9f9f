import TestScribe.Wire.Issue

/-!
# Reading values and collecting issues

A reader turns a JSON value into a value of a type, or into the list of all that is wrong with it.
Reading the parts of a record goes on after the first issue.
-/

namespace TestScribe.Wire

/-- A value, or the issues that stand against it. -/
inductive Checked (α : Type)
  | ok (value : α)
  | bad (issues : List Issue)

namespace Checked

variable {α β : Type}

/-- Apply a function to the value. -/
def map (f : α → β) : Checked α → Checked β
  | ok a => ok (f a)
  | bad is => bad is

/-- Apply a function to a value; the issues of both are collected. -/
def seq (f : Checked (α → β)) (x : Unit → Checked α) : Checked β :=
  match f, x () with
  | ok f, ok a => ok (f a)
  | ok _, bad is => bad is
  | bad is, ok _ => bad is
  | bad is, bad js => bad (is ++ js)

instance : Applicative Checked where
  map := map
  pure := ok
  seq := seq

/-- Go on with the value. -/
def andThen (x : Checked α) (f : α → Checked β) : Checked β :=
  match x with
  | ok a => f a
  | bad is => bad is

/-- The issues seen from a value of which the value is a part. -/
def under (step : Step) : Checked α → Checked α
  | ok a => ok a
  | bad is => bad (is.map (·.under step))

/-- The value, if there is nothing against it. -/
def toOption : Checked α → Option α
  | ok a => some a
  | bad _ => none

/-- The value or the issues. -/
def toExcept : Checked α → Except (List Issue) α
  | ok a => .ok a
  | bad is => .error is

end Checked

/-- A reader of values of a type. -/
abbrev Reader (α : Type) := Json → Checked α

/-- The value itself is at fault. -/
def refuse {α : Type} (c : Complaint) (v : Json) : Checked α :=
  .bad [{ path := [], complaint := c, input := v }]

/-! ## Lists and objects -/

/-- Read the items of a list, the first of them at position `n`. -/
def readItems {α : Type} (item : Reader α) (n : Nat) : List Json → Checked (List α)
  | [] => .ok []
  | v :: vs =>
    (Checked.under (.index n) (item v)).map (· :: ·) |>.seq fun _ => readItems item (n + 1) vs

/-- Read a list. -/
def list {α : Type} (item : Reader α) : Reader (List α)
  | .arr vs => readItems item 0 vs
  | v => refuse .notList v

/-- Read an object with any members. -/
def object : Reader Members
  | .obj ms => .ok ms
  | v => refuse .notObject v

/-- Read null as nothing. -/
def nullable {α : Type} (reader : Reader α) : Reader (Option α)
  | .null => .ok none
  | v => (reader v).map some

/-! ## Records -/

/-- The name of a field: the one it is written under, and another one it may be read under. -/
structure Key where
  wire : String
  plain : String

/-- A field of one name. -/
def Key.single (name : String) : Key := { wire := name, plain := name }

/-- The value of a field and the name it stands under. -/
def Key.find? (k : Key) (ms : Members) : Option (String × Json) :=
  match ms.get? k.wire with
  | some v => some (k.wire, v)
  | none => (ms.get? k.plain).map fun v => (k.plain, v)

/-- Read a field that must be there. -/
def field {α : Type} (k : Key) (reader : Reader α) (ms : Members) : Checked α :=
  match k.find? ms with
  | some (name, v) => (reader v).under (.key name)
  | none => .bad [{ path := [.key k.wire], complaint := .missing, input := .obj ms }]

/-- Read a field that may be left out. -/
def fieldOr {α : Type} (k : Key) (default : α) (reader : Reader α) (ms : Members) : Checked α :=
  match k.find? ms with
  | some (name, v) => (reader v).under (.key name)
  | none => .ok default

/-- Read a field that may be left out or null. -/
def field? {α : Type} (k : Key) (reader : Reader α) (ms : Members) : Checked (Option α) :=
  fieldOr k none (nullable reader) ms

/-- Read a record of the type `name` from the members of an object. -/
def record {α : Type} (name : String) (fields : Members → Checked α) : Reader α
  | .obj ms => fields ms
  | v => refuse (.notRecord name) v

end TestScribe.Wire
