/-
Module: BundleLens.Config.Toml
Layer: Configuration
Purpose: Reading TOML line by line: headers, keys and values. Texts are read in full. Numbers, dates and
  truth values are only told apart from other values, since no setting is one.
Main exports: Toml.Value, Toml.Line, Toml.readLines
-/

namespace BundleLens.Toml

/-- A value. An inline table keeps its entries as they are written, dotted keys included. -/
inductive Value where
  | text (value : String)
  | list (items : List Value)
  | table (entries : List (List String × Value))
  /-- A number, a date or a truth value. -/
  | scalar
deriving Inhabited

/-- A line that is neither blank nor a comment. -/
inductive Line where
  | header (keys : List String)
  | listHeader (keys : List String)
  | entry (keys : List String) (value : Value)
deriving Inhabited

/-- Reads something off the front of a text. -/
abbrev Reader (α : Type) := List Char → Option (α × List Char)

/-! ### Blanks and comments -/

/-- Blanks inside a line. -/
def isBlank (c : Char) : Bool := c == ' ' || c == '\t'

/-- Characters of comments: no line ends and no control characters but the tab. -/
def isPlain (c : Char) : Bool := c == '\t' || (c.toNat ≥ 0x20 && c.toNat != 0x7f)

/-- Drops blanks. -/
def skipBlanks (cs : List Char) : List Char := cs.dropWhile isBlank

/-- Drops a comment. -/
def skipComment : List Char → List Char
  | '#' :: rest => rest.dropWhile isPlain
  | cs => cs

/-- The rest behind a line end. -/
def lineBreak? : List Char → Option (List Char)
  | '\n' :: rest => some rest
  | '\r' :: '\n' :: rest => some rest
  | _ => none

/-- The rest behind blanks, a comment and the end of the line or of the text. -/
def lineEnd? (cs : List Char) : Option (List Char) :=
  match skipComment (skipBlanks cs) with
  | [] => some []
  | rest => lineBreak? rest

/-- Drops blanks, line ends and comments, as they may stand between the items of a list. -/
def skipGaps : Nat → List Char → List Char
  | 0, cs => cs
  | fuel + 1, cs =>
    let rest := skipComment (skipBlanks cs)
    match lineBreak? rest with
    | some more => skipGaps fuel more
    | none => rest

/-! ### Texts -/

/-- The value of a hexadecimal digit. -/
def hexValue? (c : Char) : Option Nat :=
  if '0' ≤ c && c ≤ '9' then some (c.toNat - 48)
  else if 'a' ≤ c && c ≤ 'f' then some (c.toNat - 87)
  else if 'A' ≤ c && c ≤ 'F' then some (c.toNat - 55)
  else none

/-- The character with a hexadecimal number. Surrogates and numbers that are too large are none. -/
def hexChar? (digits : List Char) : Option Char := do
  let n := (← digits.mapM hexValue?).foldl (fun acc d => 16 * acc + d) 0
  if n.isValidChar then some (Char.ofNat n) else none

/-- The character of an escape with one letter. -/
def escaped? : Char → Option Char
  | 'b' => some '\x08'
  | 't' => some '\t'
  | 'n' => some '\n'
  | 'f' => some '\x0c'
  | 'r' => some '\r'
  | '\x22' => some '\x22'
  | '\x5c' => some '\x5c'
  | _ => none

/-- A text up to the closing quote, with escapes. -/
def basicText : Reader (List Char)
  | [] => none
  | '\x22' :: rest => some ([], rest)
  | '\x5c' :: 'u' :: a :: b :: c :: d :: rest => do
    let char ← hexChar? [a, b, c, d]
    let (more, rest) ← basicText rest
    return (char :: more, rest)
  | '\x5c' :: 'U' :: a :: b :: c :: d :: e :: f :: g :: h :: rest => do
    let char ← hexChar? [a, b, c, d, e, f, g, h]
    let (more, rest) ← basicText rest
    return (char :: more, rest)
  | '\x5c' :: c :: rest => do
    let char ← escaped? c
    let (more, rest) ← basicText rest
    return (char :: more, rest)
  | c :: rest =>
    if isPlain c then (basicText rest).map fun (more, rest) => (c :: more, rest) else none

/-- A text up to the closing quote, without escapes. -/
def literalText : Reader (List Char)
  | [] => none
  | '\x27' :: rest => some ([], rest)
  | c :: rest =>
    if isPlain c then (literalText rest).map fun (more, rest) => (c :: more, rest) else none

/-- Whether the rest of a line is blank and the line ends. -/
def endsLine (cs : List Char) : Bool := (lineBreak? (skipBlanks cs)).isSome

/-- A text up to three closing quotes, with escapes and line ends; up to two quotes may stand directly
    in front of the closing ones. A backslash at the end of a line drops all blanks and line ends behind
    it; `dropping` is set while this goes on. -/
def longBasicText (dropping : Bool) : Reader (List Char)
  | [] => none
  | '\x22' :: '\x22' :: '\x22' :: '\x22' :: '\x22' :: rest => some (['\x22', '\x22'], rest)
  | '\x22' :: '\x22' :: '\x22' :: '\x22' :: rest => some (['\x22'], rest)
  | '\x22' :: '\x22' :: '\x22' :: rest => some ([], rest)
  | '\x5c' :: 'u' :: a :: b :: c :: d :: rest => do
    let char ← hexChar? [a, b, c, d]
    let (more, rest) ← longBasicText false rest
    return (char :: more, rest)
  | '\x5c' :: 'U' :: a :: b :: c :: d :: e :: f :: g :: h :: rest => do
    let char ← hexChar? [a, b, c, d, e, f, g, h]
    let (more, rest) ← longBasicText false rest
    return (char :: more, rest)
  | '\x5c' :: c :: rest =>
    if endsLine (c :: rest) then
      longBasicText true (c :: rest)
    else do
      let char ← escaped? c
      let (more, rest) ← longBasicText false rest
      return (char :: more, rest)
  | '\r' :: '\n' :: rest =>
    if dropping then longBasicText true rest
    else (longBasicText false rest).map fun (more, rest) => ('\n' :: more, rest)
  | '\n' :: rest =>
    if dropping then longBasicText true rest
    else (longBasicText false rest).map fun (more, rest) => ('\n' :: more, rest)
  | c :: rest =>
    if dropping && isBlank c then longBasicText true rest
    else if isPlain c then (longBasicText false rest).map fun (more, rest) => (c :: more, rest)
    else none

/-- A text up to three closing quotes, with line ends and without escapes; up to two quotes may stand
    directly in front of the closing ones. -/
def longLiteralText : Reader (List Char)
  | [] => none
  | '\x27' :: '\x27' :: '\x27' :: '\x27' :: '\x27' :: rest => some (['\x27', '\x27'], rest)
  | '\x27' :: '\x27' :: '\x27' :: '\x27' :: rest => some (['\x27'], rest)
  | '\x27' :: '\x27' :: '\x27' :: rest => some ([], rest)
  | '\r' :: '\n' :: rest => (longLiteralText rest).map fun (more, rest) => ('\n' :: more, rest)
  | c :: rest =>
    if c == '\n' || isPlain c then (longLiteralText rest).map fun (more, rest) => (c :: more, rest)
    else none

/-- Drops a line end at the start of a long text. -/
def skipFirstBreak (cs : List Char) : List Char := (lineBreak? cs).getD cs

/-- A text of any of the four kinds. -/
def quotedText : Reader String
  | '\x22' :: '\x22' :: '\x22' :: rest =>
    (longBasicText false (skipFirstBreak rest)).map fun (cs, rest) => (String.ofList cs, rest)
  | '\x27' :: '\x27' :: '\x27' :: rest =>
    (longLiteralText (skipFirstBreak rest)).map fun (cs, rest) => (String.ofList cs, rest)
  | '\x22' :: rest => (basicText rest).map fun (cs, rest) => (String.ofList cs, rest)
  | '\x27' :: rest => (literalText rest).map fun (cs, rest) => (String.ofList cs, rest)
  | _ => none

/-! ### Keys -/

/-- Characters of keys without quotes. -/
def isKeyChar (c : Char) : Bool :=
  ('a' ≤ c && c ≤ 'z') || ('A' ≤ c && c ≤ 'Z') || ('0' ≤ c && c ≤ '9') || c == '_' || c == '-'

/-- One key. Long texts are no keys. -/
def key : Reader String
  | '\x22' :: rest => (basicText rest).map fun (cs, rest) => (String.ofList cs, rest)
  | '\x27' :: rest => (literalText rest).map fun (cs, rest) => (String.ofList cs, rest)
  | cs =>
    match cs.takeWhile isKeyChar with
    | [] => none
    | name => some (String.ofList name, cs.dropWhile isKeyChar)

/-- Keys with dots between them; blanks may stand around each. -/
def dottedKey : Nat → Reader (List String)
  | 0, _ => none
  | fuel + 1, cs => do
    let (first, rest) ← key (skipBlanks cs)
    match skipBlanks rest with
    | '.' :: rest => do
      let (more, rest) ← dottedKey fuel rest
      return (first :: more, rest)
    | rest => return ([first], rest)

/-! ### Values -/

/-- Characters of numbers, dates and truth values. -/
def isScalarChar (c : Char) : Bool := isKeyChar c || c == '+' || c == '.' || c == ':'

/-- Whether a key is written twice in an inline table. -/
def repeats (entries : List (List String × Value)) : Bool :=
  let keys := entries.map (·.1)
  keys.eraseDups.length != keys.length

mutual

/-- A value; its parts are nested at most as deep as the given number. -/
def value : Nat → Reader Value
  | 0, _ => none
  | fuel + 1, cs =>
    match cs with
    | '\x22' :: _ => (quotedText cs).map fun (s, rest) => (.text s, rest)
    | '\x27' :: _ => (quotedText cs).map fun (s, rest) => (.text s, rest)
    | '[' :: rest => (listItems fuel rest).map fun (items, rest) => (.list items, rest)
    | '\x7b' :: rest => do
      let (entries, rest) ← tableEntries fuel true (skipBlanks rest)
      if repeats entries then none else return (.table entries, rest)
    | cs => if (cs.takeWhile isScalarChar).isEmpty then none else some (.scalar, cs.dropWhile isScalarChar)

/-- The items of a list up to its closing bracket. A comma may follow the last one. -/
def listItems : Nat → Reader (List Value)
  | 0, _ => none
  | fuel + 1, cs =>
    match skipGaps cs.length cs with
    | ']' :: rest => some ([], rest)
    | cs => do
      let (first, rest) ← value fuel cs
      match skipGaps rest.length rest with
      | ',' :: rest => do
        let (more, rest) ← listItems fuel rest
        return (first :: more, rest)
      | ']' :: rest => return ([first], rest)
      | _ => none

/-- The entries of an inline table up to its closing brace, which may stand at once only at the
    start. -/
def tableEntries : Nat → Bool → Reader (List (List String × Value))
  | 0, _, _ => none
  | fuel + 1, start, cs =>
    match cs, start with
    | '\x7d' :: rest, true => some ([], rest)
    | cs, _ => do
      let (keys, rest) ← dottedKey cs.length cs
      let '=' :: rest := rest | none
      let (found, rest) ← value fuel (skipBlanks rest)
      match skipBlanks rest with
      | ',' :: rest => do
        let (more, rest) ← tableEntries fuel false (skipBlanks rest)
        return ((keys, found) :: more, rest)
      | '\x7d' :: rest => return ([(keys, found)], rest)
      | _ => none

end

/-! ### Lines -/

/-- A header or an entry, without the end of its line. -/
def line : Reader Line
  | '[' :: '[' :: rest => do
    let (keys, rest) ← dottedKey rest.length rest
    match rest with
    | ']' :: ']' :: rest => return (.listHeader keys, rest)
    | _ => none
  | '[' :: rest => do
    let (keys, rest) ← dottedKey rest.length rest
    match rest with
    | ']' :: rest => return (.header keys, rest)
    | _ => none
  | cs => do
    let (keys, rest) ← dottedKey cs.length cs
    match rest with
    | '=' :: rest => do
      let (found, rest) ← value rest.length (skipBlanks rest)
      return (.entry keys found, rest)
    | _ => none

/-- The lines of a text, of which there are at most as many as the given number. -/
def linesWithin : Nat → List Char → Option (List Line)
  | _, [] => some []
  | 0, _ => none
  | fuel + 1, cs =>
    match lineEnd? cs with
    | some rest => linesWithin fuel rest
    | none => do
      let (first, rest) ← line (skipBlanks cs)
      let more ← linesWithin fuel (← lineEnd? rest)
      return first :: more

/-- The lines of a text; none if it is not well formed. A byte order mark in front does not matter. -/
def readLines (source : String) : Option (List Line) :=
  let cs := match source.toList with
    | '\ufeff' :: rest => rest
    | cs => cs
  linesWithin (cs.length + 1) cs

end BundleLens.Toml
