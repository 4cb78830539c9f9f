import TestScribe.Json.Reader
import TestScribe.Text.Lines

/-!
# Replies

What comes back from another service: an answer with a status and a text, or trouble on the way. An
answer may break off, or never come to an end. A script says what comes back to each request in
turn; its last reply repeats.
-/

namespace TestScribe.Transport

/-- What kind of trouble there was. -/
inductive Trouble
  | unreachable
  | late
  | other
  deriving DecidableEq

/-- Trouble on the way, in words. -/
structure Mishap where
  trouble : Trouble
  message : String

/-- How the text of an answer ends. -/
inductive Ending
  | complete
  | broken (m : Mishap)
  | endless

/-- An answer: its status and the text that arrives before its end. -/
structure Answer where
  status : Int
  text : String
  ending : Ending

/-- What comes back to a request. -/
inductive Reply
  | mishap (m : Mishap)
  | answer (a : Answer)

/-- Whether a status reports an error. -/
def isError (status : Int) : Bool :=
  400 ≤ status && status < 600

/-- The value of a text that was sent; a byte order mark does not count. -/
def bodyOf? (text : String) : Option Json :=
  match text.toList with
  | '\uFEFF' :: r => Json.read? (String.ofList r)
  | _ => Json.read? text

/-- The value that an answer holds. -/
def Answer.body? (a : Answer) : Option Json :=
  bodyOf? a.text

/-! ## Scripts -/

/-- What comes back to each request in turn. -/
structure Script where
  first : Reply
  rest : List Reply

/-- The next reply. -/
def Script.next (s : Script) : Reply × Script :=
  match s.rest with
  | [] => (s.first, s)
  | r :: rs => (s.first, { first := r, rest := rs })

/-! ## Lines of an answer -/

/-- Whether the last line of a text is known to be whole: it is ended, and not by a carriage return,
behind which a line feed may come. -/
def endsLine (s : List Char) : Bool :=
  match s.getLast? with
  | some c => Text.isLineBoundary c && c != '\r'
  | none => true

/-- The lines of an answer that arrive: all of them if it is complete, and only whole ones if
not. -/
def Answer.lines (a : Answer) : List (List Char) :=
  let s := a.text.toList
  let ls := Text.lines s
  match a.ending with
  | .complete => ls
  | _ => if endsLine s then ls else ls.dropLast

end TestScribe.Transport
