/-
Module: BundleLens.Token.Scan
Layer: Tokens
Purpose: Reading one token after another from a text. The next token is always read as if an operand
  stood in front of it, so a slash is an operator; where an operand must start, `scanRegex` reads the
  same place again. Templates are read part by part, because expressions stand between the parts.
Imports: BundleLens.Token.Basic, BundleLens.Text.Encoding, BundleLens.Text.Identifier
Main exports: scanToken, scanRegex, scanTemplate, skipHashbang
-/
import BundleLens.Token.Basic
import BundleLens.Text.Encoding
import BundleLens.Text.Identifier

namespace BundleLens

open Text

/-- Where in the space between two tokens the reader is. -/
inductive Gap where
  | between
  | lineComment
  | blockComment

/-- The text behind blanks, line ends and comments, its position, and whether a line ended. A block
    comment that does not end reaches to the end of the text. The marks of a markup comment open a line
    comment, the closing one only at the start of a line. -/
def skipGap : Gap → List Char → Nat → Bool → List Char × Nat × Bool
  | .between, '/' :: '/' :: rest, pos, newline => skipGap .lineComment rest (pos + 2) newline
  | .between, '/' :: '*' :: rest, pos, newline => skipGap .blockComment rest (pos + 2) newline
  | .between, '<' :: '!' :: '-' :: '-' :: rest, pos, newline =>
    skipGap .lineComment rest (pos + 4) newline
  | .between, '-' :: '-' :: '>' :: rest, pos, true => skipGap .lineComment rest (pos + 3) true
  | .between, c :: rest, pos, newline =>
    if isLineEnd c then skipGap .between rest (pos + byteSize c) true
    else if isBlank c then skipGap .between rest (pos + byteSize c) newline
    else (c :: rest, pos, newline)
  | .lineComment, c :: rest, pos, newline =>
    if isLineEnd c then skipGap .between rest (pos + byteSize c) true
    else skipGap .lineComment rest (pos + byteSize c) newline
  | .blockComment, '*' :: '/' :: rest, pos, newline => skipGap .between rest (pos + 2) newline
  | .blockComment, c :: rest, pos, newline =>
    skipGap .blockComment rest (pos + byteSize c) (newline || isLineEnd c)
  | _, [], pos, newline => ([], pos, newline)

/-- A text with the position of its first character: what is left to read. -/
structure Remaining where
  text : List Char
  pos : Nat
deriving Repr, Inhabited

/-- The value of a hexadecimal digit. -/
def hexValue? (c : Char) : Option Nat :=
  if isDigit c then some (c.toNat - '0'.toNat)
  else if 'a' ≤ c && c ≤ 'f' then some (c.toNat - 'a'.toNat + 10)
  else if 'A' ≤ c && c ≤ 'F' then some (c.toNat - 'A'.toNat + 10)
  else none

/-- The number that the given count of hexadecimal digits writes, and what is left behind them. -/
def hexRun : Nat → List Char → Nat → Nat → Option (Nat × Remaining)
  | 0, rest, pos, n => some (n, ⟨rest, pos⟩)
  | _ + 1, [], _, _ => none
  | count + 1, c :: rest, pos, n =>
    match hexValue? c with
    | some d => hexRun count rest (pos + 1) (n * 16 + d)
    | none => none

/-- The number in front of a closing brace. -/
def hexBraced : List Char → Nat → Nat → Option (Nat × Remaining)
  | '\x7d' :: rest, pos, n => some (n, ⟨rest, pos + 1⟩)
  | c :: rest, pos, n =>
    match hexValue? c with
    | some d => hexBraced rest (pos + 1) (n * 16 + d)
    | none => none
  | [], _, _ => none

/-- The code point behind `\u`, and what is left behind it. -/
def unicodeEscape : List Char → Nat → Option (Nat × Remaining)
  | '\x7b' :: '\x7d' :: _, _ => none
  | '\x7b' :: rest, pos => (hexBraced rest (pos + 1) 0).filter (·.1 ≤ 0x10FFFF)
  | rest, pos => hexRun 4 rest pos 0

/-! ### Words -/

/-- The longest run of identifier characters, last one first and escapes decoded, whether there were
    any escapes, and what is left. The fuel bounds the number of characters. -/
def identRun : Nat → List Char → Nat → List Char → Bool → List Char × Bool × Remaining
  | 0, text, pos, acc, escaped => (acc, escaped, ⟨text, pos⟩)
  | fuel + 1, text, pos, acc, escaped =>
    match text with
    | '\x5c' :: 'u' :: rest =>
      match unicodeEscape rest (pos + 2) with
      | some (n, more) =>
        if isIdentPart (Char.ofNat n) then
          identRun fuel more.text more.pos (Char.ofNat n :: acc) true
        else (acc, escaped, ⟨text, pos⟩)
      | none => (acc, escaped, ⟨text, pos⟩)
    | c :: rest =>
      if isIdentPart c then identRun fuel rest (pos + byteSize c) (c :: acc) escaped
      else (acc, escaped, ⟨text, pos⟩)
    | [] => (acc, escaped, ⟨text, pos⟩)

/-- Whether an identifier starts here. -/
def startsIdent : List Char → Bool
  | '\x5c' :: 'u' :: rest =>
    match unicodeEscape rest 0 with
    | some (n, _) => isIdentStart (Char.ofNat n)
    | none => false
  | c :: _ => isIdentStart c
  | [] => false

/-! ### Texts -/

/-- Joins pairs of surrogates; a surrogate that stays alone makes the text no text at all. -/
def joinSurrogates : List Nat → Option (List Char)
  | [] => some []
  | n :: rest =>
    if 0xD800 ≤ n && n < 0xDC00 then
      match rest with
      | m :: more =>
        if 0xDC00 ≤ m && m < 0xE000 then
          (joinSurrogates more).map (Char.ofNat (0x10000 + (n - 0xD800) * 0x400 + (m - 0xDC00)) :: ·)
        else none
      | [] => none
    else if 0xDC00 ≤ n && n < 0xE000 then none
    else (joinSurrogates rest).map (Char.ofNat n :: ·)

/-- An octal digit's value. -/
def octalValue? (c : Char) : Option Nat :=
  if '0' ≤ c && c ≤ '7' then some (c.toNat - '0'.toNat) else none

/-- Up to `count` more octal digits of an escape, as long as the value stays below 256. -/
def octalRun : Nat → List Char → Nat → Nat → Nat × Remaining
  | 0, rest, pos, n => (n, ⟨rest, pos⟩)
  | count + 1, c :: rest, pos, n =>
    match octalValue? c with
    | some d =>
      if n * 8 + d < 256 then octalRun count rest (pos + 1) (n * 8 + d) else (n, ⟨c :: rest, pos⟩)
    | none => (n, ⟨c :: rest, pos⟩)
  | _ + 1, [], pos, n => (n, ⟨[], pos⟩)

/-- The characters that a letter behind a backslash stands for. -/
def letterEscape? : Char → Option Nat
  | 'n' => some 10
  | 't' => some 9
  | 'r' => some 13
  | 'b' => some 8
  | 'v' => some 11
  | 'f' => some 12
  | _ => none

/-- What an escape stands for (an ended line stands for nothing) and what is left behind it. -/
def escapeValue : List Char → Nat → Option (List Nat × Remaining)
  | [], _ => none
  | '\r' :: '\n' :: rest, pos => some ([], ⟨rest, pos + 2⟩)
  | 'x' :: rest, pos => (hexRun 2 rest (pos + 1) 0).map fun (n, more) => ([n], more)
  | 'u' :: rest, pos => (unicodeEscape rest (pos + 1)).map fun (n, more) => ([n], more)
  | c :: rest, pos =>
    if isLineEnd c then some ([], ⟨rest, pos + byteSize c⟩)
    else
      match letterEscape? c, octalValue? c with
      | some n, _ => some ([n], ⟨rest, pos + 1⟩)
      | none, some d =>
        let (n, more) := octalRun 2 rest (pos + 1) d
        some ([n], more)
      | none, none => some ([c.toNat], ⟨rest, pos + byteSize c⟩)

/-- The code points of a text literal up to its closing quote, last one first, and what is left behind
    the quote. They are kept in two parts: those since the last escape, and those in front of them. A
    literal without a closing quote reaches to the end of its line, and only the first part is its
    value. An escape that stands for nothing is a fault at its backslash. -/
def stringRun (quote : Char) :
    Nat → List Char → Nat → List Nat → List Nat → Except Nat (List Nat × Remaining)
  | 0, _, pos, _, _ => .error pos
  | _ + 1, [], pos, plain, _ => .ok (plain, ⟨[], pos⟩)
  | fuel + 1, '\x5c' :: rest, pos, plain, acc =>
    match escapeValue rest (pos + 1) with
    | some (points, more) =>
      stringRun quote fuel more.text more.pos [] (points.reverse ++ plain ++ acc)
    | none => .error pos
  | fuel + 1, c :: rest, pos, plain, acc =>
    if c == quote then .ok (plain ++ acc, ⟨rest, pos + 1⟩)
    else if c == '\n' || c == '\r' then .ok (plain, ⟨c :: rest, pos⟩)
    else stringRun quote fuel rest (pos + byteSize c) (c.toNat :: plain) acc

/-! ### Numbers -/

/-- A run of digits: its value, how many digits it has, and what is left. -/
structure Digits where
  value : Nat
  count : Nat
  rest : Remaining

/-- Digits of a base with separators between them, added to a value in front of them. -/
def digitRun (base : Nat) : List Char → Nat → Nat → Nat → Digits
  | [], pos, n, count => ⟨n, count, ⟨[], pos⟩⟩
  | '_' :: rest, pos, n, count => digitRun base rest (pos + 1) n count
  | c :: rest, pos, n, count =>
    match hexValue? c with
    | some d =>
      if d < base then digitRun base rest (pos + 1) (n * base + d) (count + 1)
      else ⟨n, count, ⟨c :: rest, pos⟩⟩
    | none => ⟨n, count, ⟨c :: rest, pos⟩⟩

/-- The exponent of a decimal number, zero if none is written, and what is left behind it. A fault is
    where a digit is missing. -/
def exponentRun (start : Remaining) : Except Nat (Int × Remaining) :=
  match start.text with
  | c :: rest =>
    if c == 'e' || c == 'E' then
      let (negative, digits) :=
        match rest with
        | '+' :: more => (false, digitRun 10 more (start.pos + 2) 0 0)
        | '-' :: more => (true, digitRun 10 more (start.pos + 2) 0 0)
        | more => (false, digitRun 10 more (start.pos + 1) 0 0)
      if digits.count = 0 then .error digits.rest.pos
      else .ok (if negative then -(digits.value : Int) else digits.value, digits.rest)
    else .ok (0, start)
  | [] => .ok (0, start)

/-- A decimal number: integer part, fraction and exponent. -/
def decimalNumber (text : List Char) (pos : Nat) : Except Nat (Token × Remaining) :=
  let whole := digitRun 10 text pos 0 0
  match whole.rest.text with
  | 'n' :: more => .ok (.bigint, ⟨more, whole.rest.pos + 1⟩)
  | '.' :: more =>
    let all := digitRun 10 more (whole.rest.pos + 1) whole.value 0
    (exponentRun all.rest).map fun (e, rest) => (.number (.ofDecimal all.value (e - all.count)), rest)
  | _ => (exponentRun whole.rest).map fun (e, rest) => (.number (.ofDecimal whole.value e), rest)

/-- A number of another base, behind its mark. -/
def basedNumber (base : Nat) (text : List Char) (pos : Nat) : Except Nat (Token × Remaining) :=
  let digits := digitRun base text pos 0 0
  if digits.count = 0 then .error digits.rest.pos
  else
    match digits.rest.text with
    | 'n' :: more => .ok (.bigint, ⟨more, digits.rest.pos + 1⟩)
    | _ => .ok (.number (.ofNat digits.value), digits.rest)

/-- A number with a leading zero is octal unless it holds an eight or a nine. -/
def legacyNumber (text : List Char) (pos : Nat) : Except Nat (Token × Remaining) :=
  if (text.takeWhile isDigit).all fun c => '0' ≤ c && c ≤ '7' then
    let digits := digitRun 8 text pos 0 0
    .ok (.number (.ofNat digits.value), digits.rest)
  else decimalNumber text pos

/-- A numeric literal. -/
def numberToken (text : List Char) (pos : Nat) : Except Nat (Token × Remaining) :=
  match text with
  | '0' :: c :: rest =>
    if c == 'x' || c == 'X' then basedNumber 16 rest (pos + 2)
    else if c == 'o' || c == 'O' then basedNumber 8 rest (pos + 2)
    else if c == 'b' || c == 'B' then basedNumber 2 rest (pos + 2)
    else if isDigit c then legacyNumber text pos
    else decimalNumber text pos
  | _ => decimalNumber text pos

/-! ### Punctuation -/

/-- All operators and punctuation, longer ones first. -/
def punctuators : List (List Char) :=
  [">>>=", "...", "===", "!==", "**=", "<<=", ">>=", ">>>", "&&=", "||=", "??=", "=>", "==", "!=",
   "<=", ">=", "&&", "||", "??", "?.", "++", "--", "+=", "-=", "*=", "/=", "%=", "&=", "|=", "^=",
   "<<", ">>", "**", "\x7b", "\x7d", "(", ")", "[", "]", ";", ",", "<", ">", "+", "-", "*", "/", "%",
   "&", "|", "^", "!", "~", "?", ":", "=", "@", "."].map String.toList

/-- The longest punctuation here. In front of a digit `?.` is a question mark and a number. -/
def punctToken (text : List Char) (pos : Nat) : Option (Token × Remaining) :=
  match text with
  | '?' :: '.' :: c :: rest =>
    if isDigit c then some (.punct "?", ⟨'.' :: c :: rest, pos + 1⟩)
    else some (.punct "?.", ⟨c :: rest, pos + 2⟩)
  | _ =>
    (punctuators.find? (·.isPrefixOf text)).map fun p =>
      (.punct (String.ofList p), ⟨text.drop p.length, pos + p.length⟩)

/-! ### Tokens -/

/-- The token that starts with the first character of a text, and what is left behind it. The size
    bounds the length of the text. -/
def tokenAt (size : Nat) (text : List Char) (pos : Nat) : Token × Remaining :=
  match text with
  | [] => (.finish, ⟨[], pos⟩)
  | c :: rest =>
    let fault := fun place => (Token.invalid place, (⟨rest, pos + byteSize c⟩ : Remaining))
    if startsIdent text then
      let (name, escaped, more) := identRun size text pos [] false
      (.word (String.ofList name.reverse) escaped, more)
    else if isDigit c || (c == '.' && (rest.head?.map isDigit).getD false) then
      match numberToken text pos with
      | .ok (token, more) => if startsIdent more.text then fault more.pos else (token, more)
      | .error place => fault place
    else if c == '\x22' || c == '\x27' then
      match stringRun c (size + 1) rest (pos + 1) [] [] with
      | .ok (points, more) =>
        (.string ((joinSurrogates points.reverse).map String.ofList), more)
      | .error place => fault place
    else if c == '\x60' then (.backtick, ⟨rest, pos + 1⟩)
    else if c == '#' && startsIdent rest then
      let (name, _, more) := identRun size rest (pos + 1) [] false
      (.hiddenName (String.ofList name.reverse), more)
    else
      match punctToken text pos with
      | some (token, more) => (token, more)
      | none => fault pos

/-- The lexeme behind a place in the text. -/
def scanToken (size : Nat) (text : List Char) (pos : Nat) : Lexeme :=
  let (source, start, newline) := skipGap .between text pos false
  let (token, rest) := tokenAt size source start
  ⟨token, ⟨start, rest.pos⟩, newline, source, rest.text⟩

/-- What is left behind a regular expression whose opening slash was just read. -/
def regexRun : Bool → List Char → Nat → Option Remaining
  | _, [], _ => none
  | inClass, '\x5c' :: c :: rest, pos =>
    if isLineEnd c then none else regexRun inClass rest (pos + 1 + byteSize c)
  | inClass, c :: rest, pos =>
    if isLineEnd c then none
    else if c == '/' && !inClass then
      let flags := rest.takeWhile isIdentPart
      some ⟨rest.drop flags.length, pos + 1 + byteCount flags⟩
    else regexRun (c == '[' || (inClass && c != ']')) rest (pos + byteSize c)

/-- Reads the regular expression that starts with the slash of a lexeme. -/
def scanRegex (lexeme : Lexeme) : Option Remaining :=
  regexRun false (lexeme.source.drop 1) (lexeme.span.lo + 1)

/-- How a part of a template ends: with the template, or in front of an expression. -/
inductive TemplateEnd where
  | closed
  | hole
deriving DecidableEq, Repr

/-- One part of a template: what is left behind it, how it ends, and where its first escape is that
    stands for nothing. -/
structure TemplatePart where
  rest : Remaining
  ending : TemplateEnd
  fault : Option Nat

/-- Whether what stands behind a backslash of a template means something. A template has no octal
    escapes besides the zero. -/
def isTemplateEscape : List Char → Bool
  | '0' :: c :: _ => (octalValue? c).isNone
  | c :: rest => c == '0' || ((octalValue? c).isNone && (escapeValue (c :: rest) 0).isSome)
  | [] => false

/-- Reads one part of a template; `fault` is where its first faulty escape is, if one was met. -/
def scanTemplate : List Char → Nat → Option Nat → Option TemplatePart
  | [], _, _ => none
  | '\x5c' :: c :: rest, pos, fault =>
    let fault := if isTemplateEscape (c :: rest) then fault else fault.or (some pos)
    scanTemplate rest (pos + 1 + byteSize c) fault
  | '\x60' :: rest, pos, fault => some ⟨⟨rest, pos + 1⟩, .closed, fault⟩
  | '$' :: '\x7b' :: rest, pos, fault => some ⟨⟨rest, pos + 2⟩, .hole, fault⟩
  | c :: rest, pos, fault => scanTemplate rest (pos + byteSize c) fault

/-- A first line that starts with `#!` is skipped, up to its line end. -/
def skipHashbang (text : List Char) (pos : Nat) : Remaining :=
  match text with
  | '#' :: '!' :: rest =>
    let line := rest.takeWhile (!isLineEnd ·)
    ⟨rest.drop line.length, pos + 2 + byteCount line⟩
  | _ => ⟨text, pos⟩

end BundleLens
