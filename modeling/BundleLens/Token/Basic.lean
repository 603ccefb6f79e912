/-
Module: BundleLens.Token.Basic
Layer: Tokens
Purpose: The tokens of a program text and the words that are reserved.
Imports: BundleLens.Text.Span, BundleLens.Number.Double
Main exports: Token, Lexeme, isReserved
-/
import BundleLens.Text.Span
import BundleLens.Number.Double

namespace BundleLens

/-- A token. Identifiers and keywords are both words; which is which depends on where a word stands,
    and a word written with an escape is never a keyword. -/
inductive Token where
  | word (text : String) (escaped : Bool)
  | hiddenName (text : String)
  | punct (text : String)
  | string (value : Option String)
  | number (value : Double)
  | bigint
  /-- The opening mark of a template; its parts are read by `scanTemplate`. -/
  | backtick
  | finish
  /-- No token starts here; the fault is at the given position. -/
  | invalid (place : Nat)
deriving DecidableEq, Repr, Inhabited

/-- A token in its text: where it stands, whether a line ends between it and the token in front of
    it, the text from its first character on, and the text behind it. -/
structure Lexeme where
  token : Token
  span : Span
  newline : Bool
  source : List Char
  rest : List Char
deriving Repr, Inhabited

/-- Words that no binding may have as its name. -/
def reservedWords : List String :=
  ["break", "case", "catch", "class", "const", "continue", "debugger", "default", "delete", "do",
   "else", "enum", "export", "extends", "false", "finally", "for", "function", "if", "import", "in",
   "instanceof", "new", "null", "return", "super", "switch", "this", "throw", "true", "try",
   "typeof", "var", "void", "while", "with"]

/-- Whether a word is reserved. -/
def isReserved (text : String) : Bool := reservedWords.contains text

end BundleLens
