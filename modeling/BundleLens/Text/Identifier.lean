/-
Module: BundleLens.Text.Identifier
Layer: Text
Purpose: Which characters form identifiers, which are blank and which end a line.
Main exports: isIdentStart, isIdentPart, isBlank, isLineEnd
-/
import BundleLens.Text.IdentifierRanges

namespace BundleLens.Text

/-- Whether a code point lies in one of the ranges. -/
def inRanges (ranges : List (Nat × Nat)) (n : Nat) : Bool :=
  ranges.any fun (lo, hi) => lo ≤ n && n ≤ hi

/-- An ASCII letter. -/
def isLetter (c : Char) : Bool := ('a' ≤ c && c ≤ 'z') || ('A' ≤ c && c ≤ 'Z')

/-- An ASCII digit. -/
def isDigit (c : Char) : Bool := '0' ≤ c && c ≤ '9'

/-- An identifier starts with a letter of any script, `$` or `_`. -/
def isIdentStart (c : Char) : Bool :=
  isLetter c || c == '$' || c == '_' || (0x80 ≤ c.toNat && inRanges startRanges c.toNat)

/-- After its first character an identifier may also hold digits, combining marks, connectors and
    zero-width joiners. -/
def isIdentPart (c : Char) : Bool :=
  isLetter c || isDigit c || c == '$' || c == '_' ||
    (0x80 ≤ c.toNat && (inRanges startRanges c.toNat || inRanges continueRanges c.toNat))

/-- The four characters that end a line of a program text. -/
def isLineEnd (c : Char) : Bool :=
  c == '\n' || c == '\r' || c == '\u2028' || c == '\u2029'

/-- Characters that separate tokens without ending a line: tabulators, form feeds, the byte order
    mark and the space separators. -/
def isBlank (c : Char) : Bool :=
  c == ' ' || c == '\t' || c == '\x0b' || c == '\x0c' || c == '\u00a0' || c == '\u1680' ||
    ('\u2000' ≤ c && c ≤ '\u200a') || c == '\u202f' || c == '\u205f' || c == '\u3000' ||
    c == '\uFEFF'

end BundleLens.Text
