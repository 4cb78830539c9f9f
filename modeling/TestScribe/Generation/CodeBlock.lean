import TestScribe.Text.Blank

/-!
# The code in an answer

A model puts its code between two fences, or begins it with an import after some prose. The code is
what stands between the first two fences, behind the name of a language and the rest of its line, or
else what begins with the first import at the beginning of a line, or else the whole answer.
-/

namespace TestScribe.Generation

/-- What stands before and behind code. -/
def fence : List Char := List.replicate 3 (Char.ofNat 0x60)

/-- The languages that a fence may name, longer names before their beginnings. -/
def languages : List (List Char) :=
  ["typescript", "tsx", "javascript", "jsx", "ts", "js"].map String.toList

/-- Whether a character is a small letter in either case. The dotted capital i, the dotless i and
the long s are cases of their letters. -/
def sameLetter (c letter : Char) : Bool :=
  c.toLower == letter || (letter == 'i' && (c.toNat == 0x130 || c.toNat == 0x131)) ||
    (letter == 's' && c.toNat == 0x17F)

/-- A text without a word at its beginning, if it begins with the word in any case. -/
def afterWord? : List Char → List Char → Option (List Char)
  | [], s => some s
  | l :: ls, c :: s => if sameLetter c l then afterWord? ls s else none
  | _ :: _, [] => none

/-- A text without the name of a language at its beginning. -/
def afterLanguage (s : List Char) : List Char :=
  (languages.findSome? fun l => afterWord? l s).getD s

/-- A text without the rest of a line that holds nothing. -/
def afterLine (s : List Char) : List Char :=
  match s.dropWhile fun c => Text.isBlank c && c != '\n' with
  | '\n' :: r => r
  | r => r

/-- What stands between the first two fences. -/
def fenced? (s : List Char) : Option (List Char) := do
  let (_, inner) ← Text.splitFirst? fence s
  let (body, _) ← Text.splitFirst? fence (afterLine (afterLanguage inner))
  return body

/-- The word that begins an import. -/
def importWord : List Char := "import".toList

/-- The text from the first import on that begins a line; `fresh` tells that nothing but blanks
stands before the text on its line. -/
def fromImport? (fresh : Bool) : List Char → Option (List Char)
  | [] => none
  | c :: r =>
    if fresh && importWord.isPrefixOf (c :: r) &&
        ((c :: r).drop importWord.length).head?.any Text.isBlank then
      some (c :: r)
    else fromImport? (c == '\n' || (fresh && Text.isBlank c)) r

/-- The characters of the code in an answer. -/
def codeChars (s : List Char) : List Char :=
  match (fenced? s).map Text.trim with
  | some (c :: body) => c :: body
  | _ => Text.trim ((fromImport? true s).getD s)

/-- The code in an answer. -/
def codeBlock (answer : String) : String :=
  String.ofList (codeChars answer.toList)

end TestScribe.Generation
