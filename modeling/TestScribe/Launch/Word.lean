import TestScribe.Text.Blank
import TestScribe.Text.Digit
import TestScribe.Text.Quoted
import TestScribe.Wire.Scalar

/-!
# Words of a command line

A word of a command line names a switch, perhaps with a value behind an equals sign, or is a plain
word. A switch may be shortened as long as it is clear which one is meant. Behind the word `--` all
words are plain.
-/

namespace TestScribe.Launch

/-- What can be set on the command line. -/
inductive Switch
  | help
  | host
  | port
  deriving DecidableEq

namespace Switch

/-- How the switches are spelled. -/
def spellings : List (String × Switch) :=
  [("-h", help), ("--help", help), ("--host", host), ("--port", port)]

/-- The spellings of a switch in one text. -/
def title (s : Switch) : String :=
  "/".intercalate ((spellings.filter fun p => p.2 = s).map (·.1))

/-- The switch with a spelling. -/
def spelled? (spelling : String) : Option Switch :=
  (spellings.find? fun p => p.1 == spelling).map (·.2)

end Switch

/-- A word of a command line. A word that has the form of a switch but names none is a stranger. -/
inductive Word
  | plain (text : String)
  | mark
  | switch (s : Switch) (value : Option String)
  | stranger (text : String)

/-- Why a command line is refused. -/
inductive Refusal
  | ambiguous (word : String) (spellings : List String)
  | needless (s : Switch) (value : String)
  | noValue (s : Switch)
  | notWhole (s : Switch) (value : String)
  | noSuchService (word : String) (choices : List String)
  | noService
  | leftOver (words : List String)

/-- The words for a refusal. -/
def Refusal.message : Refusal → String
  | ambiguous word spellings =>
    "ambiguous option: " ++ word ++ " could match " ++ ", ".intercalate spellings
  | needless s value =>
    "argument " ++ s.title ++ ": ignored explicit argument " ++ Text.quoted value
  | noValue s => "argument " ++ s.title ++ ": expected one argument"
  | notWhole s value =>
    "argument " ++ s.title ++ ": invalid int value: " ++ Text.quoted value
  | noSuchService word choices =>
    "argument service: invalid choice: " ++ Text.quoted word ++ " (choose from " ++
      ", ".intercalate (choices.map Text.quoted) ++ ")"
  | noService => "the following arguments are required: service"
  | leftOver words => "unrecognized arguments: " ++ " ".intercalate words

/-! ## Numbers -/

/-- A digit of any script as one from `0` to `9`. -/
def commonDigit (c : Char) : Char :=
  match Text.digitValue? c with
  | some n => Char.ofNat (n + 0x30)
  | none => c

/-- Digits in which single underscores may stand between two of them. -/
def digitsWithGaps? (s : List Char) : Option (List Char) :=
  let rec go : List Char → Option (List Char)
    | [] => some []
    | '_' :: c :: r => if Json.isDigit c then (go r).map (c :: ·) else none
    | c :: r => if Json.isDigit c then (go r).map (c :: ·) else none
  match s with
  | c :: r => if Json.isDigit c then (go r).map (c :: ·) else none
  | [] => none

/-- The integer that a text stands for. -/
def wholeOf? (text : String) : Option Int := do
  let (negative, body) := Wire.splitSign (Text.trim text.toList)
  let n : Int := Json.digitsValue (← digitsWithGaps? (body.map commonDigit))
  return if negative then -n else n

/-- Whether a text behind a minus sign makes a negative number of it, if need be up to a final line
feed. -/
def isNumeral (s : List Char) : Bool :=
  let body := match s.reverse with
    | '\n' :: r => r.reverse
    | _ => s
  let whole := body.takeWhile Text.isDecimalDigit
  match body.drop whole.length with
  | [] => !whole.isEmpty
  | '.' :: fraction => !fraction.isEmpty && fraction.all Text.isDecimalDigit
  | _ => false

/-! ## Reading words -/

/-- A text up to the first equals sign and what stands behind it. -/
def splitEquals (word : String) : String × Option String :=
  match Text.splitFirst? ['='] word.toList with
  | some (name, value) => (String.ofList name, some (String.ofList value))
  | none => (word, none)

/-- The switches that a word with two dashes at its beginning may mean: those that go on as it
does. -/
def longMeanings (word : String) : List (String × Switch × Option String) :=
  let (name, value) := splitEquals word
  Switch.spellings.filterMap fun (spelling, s) =>
    if Text.startsWith name.toList spelling.toList then some (spelling, s, value) else none

/-- The value in what follows the letter that asks for help, with the letter perhaps repeated: there
is one only behind a repeated letter and an equals sign, or where a dash follows. -/
def valueBehind? (rest : List Char) : Option String :=
  let repeated := rest.takeWhile (· == 'h')
  match rest.drop repeated.length with
  | '=' :: value => if repeated.isEmpty then none else some (String.ofList value)
  | '-' :: value => some (String.ofList ('-' :: value))
  | _ => none

/-- The switches that a word with one dash may mean: only a question for help has one letter. -/
def shortMeanings (word : String) : List (String × Switch × Option String) :=
  let name := String.ofList (word.toList.take 2)
  Switch.spellings.filterMap fun (spelling, s) =>
    if spelling == name then some (spelling, s, valueBehind? (word.toList.drop 2)) else none

/-- The switches that a word may mean. -/
def meanings (word : String) : List (String × Switch × Option String) :=
  match word.toList with
  | '-' :: '-' :: _ => longMeanings word
  | _ => shortMeanings word

/-- The switch that is spelled out in a word, with its value. -/
def spelledOut? (word : String) : Option Word :=
  match Switch.spelled? word with
  | some s => some (.switch s none)
  | none =>
    match splitEquals word with
    | (name, some value) => (Switch.spelled? name).map fun s => .switch s (some value)
    | _ => none

/-- Read a word that begins with a dash and has more to it. -/
def readDashed (word : String) : Except Refusal Word :=
  match spelledOut? word with
  | some w => .ok w
  | none =>
    match meanings word with
    | [(_, s, value)] => .ok (.switch s value)
    | [] =>
      if isNumeral (word.toList.drop 1) || word.toList.contains ' ' then .ok (.plain word)
      else .ok (.stranger word)
    | many => .error (.ambiguous word (many.map (·.1)))

/-- Read a word. -/
def readWord (word : String) : Except Refusal Word :=
  match word.toList with
  | '-' :: _ :: _ => readDashed word
  | _ => .ok (.plain word)

/-- The word behind which all words are plain. -/
def markText : String := "--"

/-- Read all words. -/
def readWords : List String → Except Refusal (List Word)
  | [] => .ok []
  | w :: ws =>
    if w == markText then .ok (.mark :: ws.map .plain)
    else do
      let a ← readWord w
      return a :: (← readWords ws)

end TestScribe.Launch
