/-
Module: BundleLens.Text.Position
Layer: Text
Purpose: Lines and columns of places in a text. Lines end with a line feed, a carriage return, or both
  in that order reversed; columns count UTF-16 units. Both count from one. An empty text has no lines,
  so a place in it is on line zero.
Imports: BundleLens.Text.Encoding
Main exports: LineColumn, lineColumn
-/
import BundleLens.Text.Encoding

namespace BundleLens.Text

/-- A line and a column, counted from one. -/
structure LineColumn where
  line : Nat
  column : Nat
deriving DecidableEq, Repr, Inhabited

/-- The place `offset` bytes behind the first character of a text whose first character is at the given
    line and column. -/
def advanceTo : List Char → Nat → LineColumn → LineColumn
  | [], offset, place => { place with column := place.column + offset }
  | '\r' :: '\n' :: rest, offset, place =>
    if offset = 0 then place
    else if offset = 1 then { place with column := place.column + 1 }
    else advanceTo rest (offset - 2) ⟨place.line + 1, 1⟩
  | c :: rest, offset, place =>
    if offset = 0 then place
    else if c == '\n' || c == '\r' then advanceTo rest (offset - 1) ⟨place.line + 1, 1⟩
    else advanceTo rest (offset - byteSize c) { place with column := place.column + unitSize c }

/-- The line and column of the place `offset` bytes into a text. -/
def lineColumn (text : List Char) (offset : Nat) : LineColumn :=
  advanceTo text offset ⟨if text.isEmpty then 0 else 1, 1⟩

end BundleLens.Text
