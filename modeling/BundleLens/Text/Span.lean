/-
Module: BundleLens.Text.Span
Layer: Text
Purpose: Ranges of positions. All files of a program lie in one position space, so a range names a
  place in one file of the program, and two different syntax nodes of one kind never have the same
  range. That makes a range good enough as the identity of a node.
Main exports: Span, Span.through, Span.contains
-/

namespace BundleLens

/-- A range of positions: `lo` is the first position inside, `hi` the first one behind it. -/
structure Span where
  lo : Nat
  hi : Nat
deriving DecidableEq, Repr, Inhabited, Hashable

namespace Span

/-- The range from the start of one range to the end of another. -/
def through (first last : Span) : Span := ⟨first.lo, last.hi⟩

/-- Whether a position lies in the range. Both ends count: the position behind the last character
    of a file still belongs to that file. -/
def contains (span : Span) (pos : Nat) : Bool := span.lo ≤ pos && pos ≤ span.hi

/-- The range relative to a base position. -/
def relativeTo (span : Span) (base : Nat) : Span := ⟨span.lo - base, span.hi - base⟩

end Span
end BundleLens
