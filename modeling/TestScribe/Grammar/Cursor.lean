import TestScribe.Syntax.Node

/-!
# Cursors

A cursor is a place in a source text: the characters that are left and the byte, row and column at
which they begin. A parser takes something off the front of what is left, or fails.
-/

namespace TestScribe.Grammar

open Syntax

/-- A place in a text. `left` is the number of characters in `rest`. -/
structure Cursor where
  rest : List Char
  left : Nat
  offset : Nat
  point : Point

namespace Cursor

/-- The beginning of a text. -/
def ofText (s : List Char) : Cursor :=
  { rest := s, left := s.length, offset := 0, point := { row := 0, column := 0 } }

/-- The place behind the character `c`, where `rest` is left. -/
def past (c : Char) (rest : List Char) (k : Cursor) : Cursor :=
  let point : Point :=
    if c = '\n' then { row := k.point.row + 1, column := 0 }
    else { row := k.point.row, column := k.point.column + c.utf8Size }
  { rest, left := k.left - 1, offset := k.offset + c.utf8Size, point }

/-- The place `n` characters on. -/
def skip : Nat → Cursor → Cursor
  | 0, k => k
  | n + 1, k =>
    match k.rest with
    | [] => k
    | c :: rest => skip n (k.past c rest)

/-- The span from one place to another. -/
def spanTo (k stop : Cursor) : Span :=
  { start := k.offset, stop := stop.offset, startPoint := k.point, endPoint := stop.point }

end Cursor

/-- A parser takes something off the front of a text, or fails. -/
abbrev Parser := StateT Cursor Option

namespace Parser

/-- Try `p`, and go on with `fallback` where it fails. -/
def orElse {α : Type} (p : Parser α) (fallback : Unit → Parser α) : Parser α := fun k =>
  match p k with
  | some r => some r
  | none => fallback () k

/-- Parse `p` as often as it succeeds and moves on, at most `n` times. -/
def repeatUpTo {α : Type} (p : Parser α) : Nat → Parser (List α)
  | 0 => pure []
  | n + 1 => fun k =>
    match p k with
    | none => some ([], k)
    | some (x, k₁) =>
      if k₁.left < k.left then
        match repeatUpTo p n k₁ with
        | some (xs, k₂) => some (x :: xs, k₂)
        | none => none
      else some ([], k)

/-- Parse `p` as often as it succeeds and moves on. -/
def many {α : Type} (p : Parser α) : Parser (List α) := fun k =>
  repeatUpTo p (k.left + 1) k

/-- Parse `p` or nothing. -/
def option {α : Type} (p : Parser α) : Parser (Option α) := fun k =>
  match p k with
  | some (x, k₁) => some (some x, k₁)
  | none => some (none, k)

/-- Apply `step` to a value as often as it succeeds and moves on, at most `n` times. -/
def extendUpTo {α : Type} (step : α → Parser α) : Nat → α → Parser α
  | 0, x => pure x
  | n + 1, x => fun k =>
    match step x k with
    | none => some (x, k)
    | some (y, k₁) => if k₁.left < k.left then extendUpTo step n y k₁ else some (x, k)

/-- Apply `step` to a value as often as it succeeds and moves on. -/
def extend {α : Type} (step : α → Parser α) (x : α) : Parser α := fun k =>
  extendUpTo step (k.left + 1) x k

/-- Whether `p` would succeed here. -/
def isAhead {α : Type} (p : Parser α) : Parser Bool := fun k =>
  some ((p k).isSome, k)

/-- Fail unless the condition holds. -/
def require (condition : Bool) : Parser Unit :=
  if condition then pure () else failure

end Parser

end TestScribe.Grammar
