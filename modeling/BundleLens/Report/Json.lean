/-
Module: BundleLens.Report.Json
Layer: Reports
Purpose: Documents of the form in which reports are handed to other programs, and their text: two spaces
  per level, one entry per line, fields in the order in which they are given.
Main exports: JsonDoc, JsonDoc.pretty, JsonDoc.fields
-/

namespace BundleLens

/-- A document. Reports hold no fractions and no negative numbers. -/
inductive JsonDoc where
  | null
  | bool (value : Bool)
  | number (value : Nat)
  | text (value : String)
  | list (items : List JsonDoc)
  | record (fields : List (String × JsonDoc))
deriving Inhabited

namespace JsonDoc

/-- A hexadecimal digit. -/
def hexDigit (n : Nat) : Char := if n < 10 then Char.ofNat (48 + n) else Char.ofNat (87 + n)

/-- How a character stands in a quoted text. -/
def escapeChar (c : Char) : List Char :=
  if c == '\x22' then ['\x5c', '\x22']
  else if c == '\x5c' then ['\x5c', '\x5c']
  else if c == '\n' then ['\x5c', 'n']
  else if c == '\r' then ['\x5c', 'r']
  else if c == '\t' then ['\x5c', 't']
  else if c == '\x08' then ['\x5c', 'b']
  else if c == '\x0c' then ['\x5c', 'f']
  else if c.toNat < 32 then ['\x5c', 'u', '0', '0', hexDigit (c.toNat / 16), hexDigit (c.toNat % 16)]
  else [c]

/-- A text in quotes. -/
def quote (text : String) : String :=
  "\x22" ++ String.ofList (text.toList.flatMap escapeChar) ++ "\x22"

/-- The line break in front of an entry at the given level. -/
def lineBreak (level : Nat) : String := "\n" ++ String.ofList (List.replicate (2 * level) ' ')

/-- Entries between brackets, one per line. -/
def bracketed (opening closing : String) (level : Nat) (entries : List String) : String :=
  match entries with
  | [] => opening ++ closing
  | entries =>
    let body := ",".intercalate (entries.map (lineBreak (level + 1) ++ ·))
    opening ++ body ++ lineBreak level ++ closing

mutual

/-- The text of a document whose first line stands at the given level. -/
def prettyAt (level : Nat) : JsonDoc → String
  | .null => "null"
  | .bool value => if value then "true" else "false"
  | .number value => Nat.repr value
  | .text value => quote value
  | .list items => bracketed "[" "]" level (prettyItems (level + 1) items)
  | .record fields => bracketed "\x7b" "\x7d" level (prettyFields (level + 1) fields)

/-- The texts of the items of a list. -/
def prettyItems (level : Nat) : List JsonDoc → List String
  | [] => []
  | item :: rest => prettyAt level item :: prettyItems level rest

/-- The texts of the fields of a record. -/
def prettyFields (level : Nat) : List (String × JsonDoc) → List String
  | [] => []
  | (key, value) :: rest => (quote key ++ ": " ++ prettyAt level value) :: prettyFields level rest

end

/-- The text of a document. -/
def pretty (doc : JsonDoc) : String := prettyAt 0 doc

/-- A record of the fields that are there. -/
def fields (entries : List (String × Option JsonDoc)) : JsonDoc :=
  .record (entries.filterMap fun (key, value) => value.map (key, ·))

/-- A value that may be absent; an absent one is written as null. -/
def nullable {α : Type} (f : α → JsonDoc) : Option α → JsonDoc
  | some a => f a
  | none => .null

end JsonDoc
end BundleLens
