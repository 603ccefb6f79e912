/-
Module: BundleLens.Grammar.Pattern
Layer: Grammar
Purpose: The record of mutually dependent grammar rules, and the rules for property names and binding
  patterns. Rules that contain one another refer to each other through the record; it is tied
  together once, with a bound on nesting, where all rules are known.
Imports: BundleLens.Grammar.Cover
Main exports: Rules, propertyName, bindingTarget, bindingElement
-/
import BundleLens.Grammar.Cover

namespace BundleLens.Grammar

/-- The rules that contain one another. -/
structure Rules where
  /-- An expression, commas included. -/
  expr : Parse Expr
  /-- An expression between commas. -/
  assign : Parse Expr
  /-- An operand with the operators in front of it. -/
  unary : Parse Expr
  /-- An operand with members and calls behind it. -/
  operand : Parse Expr
  /-- What may stand behind `new`. -/
  newTarget : Parse Expr
  /-- A name or a destructuring pattern. -/
  target : Parse Pat
  stmt : Parse Stmt
  /-- The statement that a condition, a loop or a label governs. -/
  branch : Parse Stmt
  /-- The items of a namespace body, up to its closing brace. -/
  body : Parse Unit
  /-- A type of a declaration file; types leave nothing behind. -/
  type : Parse Unit

/-- An expression in brackets, as the name of a property. -/
def computedKey (r : Rules) : Parse Key := do
  let lo ← here
  expectPunct "["
  let inner ← withIn r.assign
  expectPunct "]"
  return .computed (← spanFrom lo) inner

/-- The name of a property. -/
def propertyName (r : Rules) : Parse Key := do
  let lexeme ← current
  match lexeme.token with
  | .word text _ =>
    advance
    return .ident ⟨text, lexeme.span⟩
  | .string value =>
    advance
    return .string lexeme.span value
  | .number value =>
    advance
    return .number lexeme.span value
  | .bigint =>
    advance
    return .bigint lexeme.span
  | .punct "[" => computedKey r
  | _ => unexpected

/-- A type annotation, if one may stand here and does. -/
def annotation? (r : Rules) : Parse Unit := do
  if ← inTypings then
    if ← eatPunct ":" then r.type

/-- A pattern with the type annotation behind it, which is part of its range. -/
def annotated (r : Rules) (pat : Pat) : Parse Pat := do
  if (← inTypings) && (← isPunct ":") then
    annotation? r
    let hi := (← get).lastEnd
    return match pat with
      | .ident span id => .ident ⟨span.lo, hi⟩ id
      | .array span elements => .array ⟨span.lo, hi⟩ elements
      | .object span properties => .object ⟨span.lo, hi⟩ properties
      | .rest span inner => .rest ⟨span.lo, hi⟩ inner
      | other => other
  else return pat

/-- The default value behind a pattern, if one is written. -/
def withDefault (r : Rules) (pat : Pat) : Parse Pat := do
  if ← eatPunct "=" then
    let value ← withIn r.assign
    return .default ⟨pat.span.lo, value.span.hi⟩ pat value
  else return pat

/-- A pattern that may have a default value. -/
def bindingElement (r : Rules) : Parse Pat := do withDefault r (← r.target)

/-- A pattern behind three dots. -/
def restElement (r : Rules) : Parse Pat := do
  let lo ← here
  expectPunct "..."
  let inner ← r.target
  return .rest (← spanFrom lo) inner

/-- An element of an array pattern: a hole, a rest or a pattern. -/
def arrayPatElement (r : Rules) : Parse Pat := do
  let lexeme ← current
  match lexeme.token with
  | .punct "," =>
    advance
    return .blank ⟨lexeme.span.lo, lexeme.span.lo⟩
  | _ =>
    let pat ← if lexeme.token == .punct "..." then restElement r else bindingElement r
    unless ← isPunct "]" do expectPunct ","
    return pat

/-- A property of an object pattern. -/
def patProperty (r : Rules) : Parse PatProperty := do
  if ← eatPunct "..." then return .rest (← r.target)
  match ← propertyName r with
  | .ident id =>
    if ← eatPunct ":" then return .keyValue (.ident id) (← bindingElement r)
    else if ← eatPunct "=" then return .shorthand id (some (← withIn r.assign))
    else return .shorthand id none
  | key =>
    expectPunct ":"
    return .keyValue key (← bindingElement r)

/-- A name or a destructuring pattern. -/
def bindingTarget (r : Rules) : Parse Pat := do
  let lo ← here
  if ← eatPunct "[" then
    let elements ← until_ "]" (arrayPatElement r)
    return .array (← spanFrom lo) elements
  else if ← eatPunct "\x7b" then
    let properties ← commaList "\x7d" (patProperty r)
    return .object (← spanFrom lo) properties
  else
    let id ← identifier
    return .ident id.span id

end BundleLens.Grammar
