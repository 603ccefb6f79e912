/-
Module: BundleLens.Text.Encoding
Layer: Text
Purpose: Sizes of texts in the units that positions are counted in. Offsets into a file count the
  bytes of its UTF-8 form, columns count UTF-16 units.
Main exports: byteCount, unitCount, dropBytes, takeBytes, stripMark
-/

namespace BundleLens.Text

/-- The number of bytes that UTF-8 needs for a character. -/
def byteSize (c : Char) : Nat := c.utf8Size

/-- The number of bytes that UTF-8 needs for a text. -/
def byteCount (text : List Char) : Nat := text.foldl (fun n c => n + byteSize c) 0

/-- The number of UTF-16 units of a character: two beyond the basic plane. -/
def unitSize (c : Char) : Nat := if c.toNat < 0x10000 then 1 else 2

/-- The number of UTF-16 units of a text. -/
def unitCount (text : List Char) : Nat := text.foldl (fun n c => n + unitSize c) 0

/-- The characters that start within the first `n` bytes. -/
def takeBytes : Nat → List Char → List Char
  | _, [] => []
  | n, c :: rest => if n = 0 then [] else c :: takeBytes (n - byteSize c) rest

/-- The text after the characters that start within the first `n` bytes. -/
def dropBytes : Nat → List Char → List Char
  | _, [] => []
  | n, c :: rest => if n = 0 then c :: rest else dropBytes (n - byteSize c) rest

/-- A byte order mark at the start of a text is not part of it. -/
def stripMark : List Char → List Char
  | '\uFEFF' :: rest => rest
  | text => text

end BundleLens.Text
