/-!
# UTF-8

Positions in a source are counted in bytes of its UTF-8 form. `encode` gives that form and `decode`
reads it back; a byte sequence that is no character is read as `U+FFFD`, once for the longest
beginning of a character that stands there.
-/

namespace TestScribe.Utf8

/-- The bytes of one character. -/
def encodeChar (c : Char) : List Nat :=
  let n := c.toNat
  if n < 0x80 then [n]
  else if n < 0x800 then [0xC0 + n / 0x40, 0x80 + n % 0x40]
  else if n < 0x10000 then [0xE0 + n / 0x1000, 0x80 + n / 0x40 % 0x40, 0x80 + n % 0x40]
  else [0xF0 + n / 0x40000, 0x80 + n / 0x1000 % 0x40, 0x80 + n / 0x40 % 0x40, 0x80 + n % 0x40]

/-- The bytes of a text. -/
def encode : List Char → List Nat
  | [] => []
  | c :: r => encodeChar c ++ encode r

/-- The number of bytes of a text. -/
def size (s : List Char) : Nat :=
  s.foldl (fun n c => n + c.utf8Size) 0

/-- A byte that continues a character. -/
def isTail (b : Nat) : Bool :=
  0x80 ≤ b && b < 0xC0

/-- Whether `b` may be the second byte after the first byte `a` of a character: overlong forms,
surrogates and numbers beyond the last code point are refused at the second byte. -/
def secondFits (a b : Nat) : Bool :=
  isTail b && !(a == 0xE0 && b < 0xA0) && !(a == 0xED && 0xA0 ≤ b) && !(a == 0xF0 && b < 0x90) &&
    !(a == 0xF4 && 0x90 ≤ b)

/-- The character that stands for bytes that are none. -/
def replacement : Char := Char.ofNat 0xFFFD

/-- The text of a byte sequence, with `replacement` for what is no character. -/
def decode : List Nat → List Char
  | [] => []
  | a :: r =>
    if a < 0x80 then Char.ofNat a :: decode r
    else if 0xC2 ≤ a && a < 0xE0 then
      match r with
      | b :: r₁ =>
        if isTail b then Char.ofNat ((a - 0xC0) * 0x40 + (b - 0x80)) :: decode r₁
        else replacement :: decode (b :: r₁)
      | [] => [replacement]
    else if 0xE0 ≤ a && a < 0xF0 then
      match r with
      | b :: r₁ =>
        if secondFits a b then
          match r₁ with
          | c :: r₂ =>
            if isTail c then
              Char.ofNat ((a - 0xE0) * 0x1000 + (b - 0x80) * 0x40 + (c - 0x80)) :: decode r₂
            else replacement :: decode (c :: r₂)
          | [] => [replacement]
        else replacement :: decode (b :: r₁)
      | [] => [replacement]
    else if 0xF0 ≤ a && a < 0xF5 then
      match r with
      | b :: r₁ =>
        if secondFits a b then
          match r₁ with
          | c :: r₂ =>
            if isTail c then
              match r₂ with
              | d :: r₃ =>
                if isTail d then
                  Char.ofNat ((a - 0xF0) * 0x40000 + (b - 0x80) * 0x1000 + (c - 0x80) * 0x40 +
                    (d - 0x80)) :: decode r₃
                else replacement :: decode (d :: r₃)
              | [] => [replacement]
            else replacement :: decode (c :: r₂)
          | [] => [replacement]
        else replacement :: decode (b :: r₁)
      | [] => [replacement]
    else replacement :: decode r
termination_by bs => bs.length

/-- The bytes from `start` up to `stop`, cut at the end of the sequence. -/
def slice (bytes : List Nat) (start stop : Nat) : List Nat :=
  (bytes.drop start).take (stop - start)

end TestScribe.Utf8
