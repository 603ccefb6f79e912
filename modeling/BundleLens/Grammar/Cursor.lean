/-
Module: BundleLens.Grammar.Cursor
Layer: Grammar
Purpose: The state of reading a text token by token, and the small steps that grammar rules are made
  of. A fault is the position of the token that no rule accepts, or the end of the text when it ends
  too early.
Imports: BundleLens.Token.Scan, BundleLens.Syntax.Module
Main exports: Context, Cursor, Parse, loop, gather, expectPunct, semicolon, attempt
-/
import BundleLens.Token.Scan
import BundleLens.Syntax.Module

namespace BundleLens.Grammar

/-- What surrounds the place that is read. -/
structure Context where
  /-- The text is a declaration file. -/
  typings : Bool
  /-- The word `in` is an operator here; in the head of a loop it is not. -/
  allowIn : Bool
  /-- The word `yield` is an operator here. -/
  generator : Bool
  /-- The word `await` is always an operator here. -/
  async : Bool
  inFunction : Bool
  /-- Where the innermost expression that may be an arrow function starts. -/
  arrowStart : Option Nat
deriving Repr, Inhabited

/-- The state of reading: the current token, the end of the last one that was used, a bound on the
    length of the text, and whether something that only modules hold was met inside an expression. -/
structure Cursor where
  current : Lexeme
  lastEnd : Nat
  size : Nat
  moduleFound : Bool
deriving Inhabited

/-- A grammar rule: reads part of a text and gives its syntax, or the position of a fault. -/
abbrev Parse := ReaderT Context (StateT Cursor (Except Nat))

variable {α β : Type}

/-- The current token with its place. -/
def current : Parse Lexeme := do return (← get).current

/-- The current token. -/
def token : Parse Token := do return (← current).token

/-- The position of the current token. -/
def here : Parse Nat := do return (← current).span.lo

/-- The range from a position to the end of the last token that was used. -/
def spanFrom (lo : Nat) : Parse Span := do return ⟨lo, (← get).lastEnd⟩

/-- A fault at a position. -/
def failAt (pos : Nat) : Parse α := fun _ _ => .error pos

/-- A fault at the current token. -/
def unexpected : Parse α := do
  let lexeme ← current
  match lexeme.token with
  | .invalid place => failAt place
  | _ => failAt lexeme.span.lo

/-- Goes on reading behind a place that was read by other means than token by token. -/
def resume (rest : Remaining) : Parse Unit :=
  modify fun s => { s with current := scanToken s.size rest.text rest.pos, lastEnd := rest.pos }

/-- Uses the current token. -/
def advance : Parse Unit := do
  let lexeme ← current
  resume ⟨lexeme.rest, lexeme.span.hi⟩

/-- The token behind the current one. -/
def following : Parse Lexeme := do
  let s ← get
  return scanToken s.size s.current.rest s.current.span.hi

/-- Whether the current token is the given punctuation. -/
def isPunct (text : String) : Parse Bool := do return (← token) == .punct text

/-- Whether the current token is the given word, written without escapes. -/
def isWord (text : String) : Parse Bool := do return (← token) == .word text false

/-- Uses the current token if it is the given punctuation. -/
def eatPunct (text : String) : Parse Bool := do
  if ← isPunct text then
    advance
    return true
  else return false

/-- Uses the current token if it is the given word. -/
def eatWord (text : String) : Parse Bool := do
  if ← isWord text then
    advance
    return true
  else return false

/-- Uses the given punctuation, which must stand here. -/
def expectPunct (text : String) : Parse Unit := do
  unless ← eatPunct text do unexpected

/-- Uses the given word, which must stand here. -/
def expectWord (text : String) : Parse Unit := do
  unless ← eatWord text do unexpected

/-- Whether a line ends in front of the current token. -/
def newlineBefore : Parse Bool := do return (← current).newline

/-- Whether a statement may end here: at a semicolon, a closing brace, the end of the text, or where a
    line ends. -/
def atSemicolon : Parse Bool := do
  let lexeme ← current
  return lexeme.token == .punct ";" || lexeme.token == .punct "\x7d" || lexeme.token == .finish ||
    lexeme.newline

/-- Ends a statement: uses the semicolon if one is written. -/
def semicolon : Parse Unit := do
  unless ← eatPunct ";" do
    unless ← atSemicolon do unexpected

/-- Runs a step on a value until it gives none. Each step uses a token, so the bound on the length of
    the text bounds their number. -/
def loopFuel (step : α → Parse (Option α)) : Nat → α → Parse α
  | 0, _ => unexpected
  | fuel + 1, a => do
    match ← step a with
    | some b => loopFuel step fuel b
    | none => return a

/-- Runs a step on a value until it gives none. -/
def loop (step : α → Parse (Option α)) (a : α) : Parse α := do
  loopFuel step ((← get).size + 2) a

/-- Collects the results of a step until it gives none. -/
def gather (step : Parse (Option α)) : Parse (List α) := do
  let all ← loop (fun acc => do return (← step).map (· :: acc)) []
  return all.reverse

/-- Collects items up to a closing mark, which is used. -/
def until_ (close : String) (item : Parse α) : Parse (List α) :=
  gather do
    if ← eatPunct close then return none
    else return some (← item)

/-- Collects items separated by commas up to a closing mark, which is used. The last one may be
    followed by a comma. -/
def commaList (close : String) (item : Parse α) : Parse (List α) :=
  until_ close do
    let a ← item
    unless ← isPunct close do expectPunct ","
    return a

/-- Tries a rule; if it meets a fault, nothing was read. -/
def attempt (rule : Parse α) : Parse (Option α) := fun ctx s =>
  match rule ctx s with
  | .ok (a, s) => .ok (some a, s)
  | .error _ => .ok (none, s)

/-- Reads with another context. -/
def within (change : Context → Context) (rule : Parse α) : Parse α := fun ctx => rule (change ctx)

/-- Reads where `in` is an operator. -/
def withIn (rule : Parse α) : Parse α := within ({ · with allowIn := true }) rule

/-- Whether the text is a declaration file. -/
def inTypings : Parse Bool := do return (← read).typings

/-- An identifier name: any word, reserved or not. -/
def identName : Parse Ident := do
  let lexeme ← current
  match lexeme.token with
  | .word text _ =>
    advance
    return ⟨text, lexeme.span⟩
  | _ => unexpected

/-- Whether a token can name a binding. -/
def Token.namesBinding : Token → Bool
  | .word text escaped => escaped || !isReserved text
  | _ => false

/-- An identifier that is not reserved. -/
def identifier : Parse Ident := do
  if Token.namesBinding (← token) then identName else unexpected

end BundleLens.Grammar
