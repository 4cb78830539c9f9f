/-!
# Lines of a text

A text is cut into lines at line feeds, carriage returns (the pair counts once), vertical tabs, form
feeds, the separators `U+001C` to `U+001E`, next line and the two separators of Unicode. The last
line has no boundary of its own: a text that ends in one has no empty line after it.
-/

namespace TestScribe.Text

/-- A character that ends a line. -/
def isLineBoundary (c : Char) : Bool :=
  let n := c.toNat
  (0x0A ≤ n && n ≤ 0x0D) || (0x1C ≤ n && n ≤ 0x1E) || n == 0x85 || n == 0x2028 || n == 0x2029

/-- The lines of a text, boundaries removed. -/
def lines : List Char → List (List Char)
  | [] => []
  | '\r' :: '\n' :: r => [] :: lines r
  | c :: r =>
    if isLineBoundary c then [] :: lines r
    else match lines r with
      | [] => [[c]]
      | l :: ls => (c :: l) :: ls

end TestScribe.Text
