/-!
# Blank characters

The characters that count as white space wherever the library trims a text or looks for a gap in
it, and the three trims built on them.
-/

namespace TestScribe.Text

/-- A character that counts as white space: the white-space characters of Unicode together with the
four separators `U+001C` to `U+001F`. -/
def isBlank (c : Char) : Bool :=
  let n := c.toNat
  (0x09 ≤ n && n ≤ 0x0D) || (0x1C ≤ n && n ≤ 0x20) || n == 0x85 || n == 0xA0 || n == 0x1680 ||
    (0x2000 ≤ n && n ≤ 0x200A) || n == 0x2028 || n == 0x2029 || n == 0x202F || n == 0x205F ||
    n == 0x3000

/-! ## Trims -/

/-- The text without its leading blanks. -/
def trimStart (s : List Char) : List Char :=
  s.dropWhile isBlank

/-- The text without its trailing blanks. -/
def trimEnd (s : List Char) : List Char :=
  (s.reverse.dropWhile isBlank).reverse

/-- The text without the blanks at its two ends. -/
def trim (s : List Char) : List Char :=
  trimEnd (trimStart s)

/-- A string without the blanks at its two ends. -/
def trimmed (s : String) : String :=
  String.ofList (trim s.toList)

/-- A string without any of its blanks. -/
def withoutBlanks (s : String) : String :=
  String.ofList (s.toList.filter fun c => !isBlank c)

/-- Whether nothing but blanks stands in the text. -/
def allBlank (s : String) : Bool :=
  s.toList.all isBlank

/-! ## Searching -/

/-- Whether `part` stands at the beginning of the text. -/
def startsWith (part : List Char) (s : List Char) : Bool :=
  part.isPrefixOf s

/-- Whether `part` stands anywhere in the text. -/
def contains (part : List Char) : List Char → Bool
  | [] => part.isEmpty
  | c :: r => part.isPrefixOf (c :: r) || contains part r

/-- The text before the first `part` and the text after it. -/
def splitFirst? (part : List Char) : List Char → Option (List Char × List Char)
  | [] => if part.isEmpty then some ([], []) else none
  | c :: r =>
    if part.isPrefixOf (c :: r) then some ([], (c :: r).drop part.length)
    else (splitFirst? part r).map fun (before, after) => (c :: before, after)

end TestScribe.Text
