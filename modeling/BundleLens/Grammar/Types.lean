/-
Module: BundleLens.Grammar.Types
Layer: Grammar
Purpose: The types of declaration files. Types are read only to find where they end, so the rules leave
  nothing behind.
Imports: BundleLens.Grammar.Expression
Main exports: typeRule, typeBody
-/
import BundleLens.Grammar.Expression

namespace BundleLens.Grammar

/-- The parameters and result of a function type, or of a signature. -/
def signature (r : Rules) : Parse Unit := do
  typeParams? r
  let _ ← params r false
  annotation? r

/-- A function type: parameters, an arrow and a result. -/
def functionType (r : Rules) : Parse Unit := do
  typeParams? r
  let _ ← params r false
  expectPunct "=>"
  r.type

/-- Names joined by dots, with type arguments behind them. -/
def typeName (r : Rules) : Parse Unit := do
  let _ ← identName
  let _ ← gather do
    if ← eatPunct "." then
      let _ ← identName
      return some ()
    else return none
  unless ← newlineBefore do typeArgs? r

/-- The type of an imported module or of one of its members. -/
def importType (r : Rules) : Parse Unit := do
  expectWord "import"
  expectPunct "("
  r.type
  if ← eatPunct "," then
    unless ← isPunct ")" do
      let _ ← r.assign
      let _ ← eatPunct ","
  expectPunct ")"
  let _ ← gather do
    if ← eatPunct "." then
      let _ ← identName
      return some ()
    else return none
  typeArgs? r

/-- What stands between the brackets in front of a member of a type body. -/
def bracketName (r : Rules) : Parse Unit := do
  expectPunct "["
  let next ← following
  match ← token, next.token with
  | .word _ _, .punct ":" =>
    advance
    advance
    r.type
  | .word _ _, .word "in" false =>
    advance
    advance
    r.type
    if ← eatWord "as" then r.type
  | _, _ =>
    let _ ← withIn r.expr
  expectPunct "]"

/-- Uses a sign in front of a modifier of a mapped type. -/
def modifierSign : Parse Unit := do
  unless ← eatPunct "+" do
    let _ ← eatPunct "-"

/-- A member of an interface or of a type literal. -/
def typeMember (r : Rules) : Parse Unit := do
  modifierSign
  let _ ← modifiersIn ["readonly", "get", "set"]
  if ← atMethod then signature r
  else
    let next ← following
    let constructs := next.token == .punct "(" || next.token == .punct "<"
    if (← isWord "new") && constructs then
      advance
      signature r
    else
      if ← isPunct "[" then bracketName r
      else
        let _ ← propertyName r
      modifierSign
      optionalMark
      if ← atMethod then signature r else annotation? r
  unless ← eatPunct "," do semicolon

/-- The members of an interface or type literal, between braces. -/
def typeBody (r : Rules) : Parse Unit := do
  expectPunct "\x7b"
  let _ ← until_ "\x7d" (typeMember r)

/-- An element of a tuple type, which may be named, optional or a rest. -/
def tupleElement (r : Rules) : Parse Unit := do
  let _ ← eatPunct "..."
  let named ← attempt do
    let _ ← identName
    let _ ← eatPunct "?"
    expectPunct ":"
  let _ := named
  r.type
  let _ ← eatPunct "?"

/-- A type without operators around it. -/
def primaryType (r : Rules) : Parse Unit := do
  let lexeme ← current
  match lexeme.token with
  | .word "typeof" false =>
    advance
    if ← isWord "import" then importType r else typeName r
  | .word "import" false => importType r
  | .word _ _ => typeName r
  | .string _ => advance
  | .number _ => advance
  | .bigint => advance
  | .punct "-" =>
    advance
    advance
  | .backtick =>
    let _ ← templateHoles false (do
      r.type
      return default)
  | .punct "(" =>
    advance
    r.type
    expectPunct ")"
  | .punct "[" =>
    advance
    let _ ← commaList "]" (tupleElement r)
  | .punct "\x7b" => typeBody r
  | _ => unexpected

/-- A type with brackets behind it: an array of it, or the type of one of its members. -/
def suffixedType (r : Rules) : Parse Unit := do
  primaryType r
  let _ ← gather do
    if (← isPunct "[") && !(← newlineBefore) then
      advance
      unless ← isPunct "]" do r.type
      expectPunct "]"
      return some ()
    else return none

/-- Words in front of a type that make another type of it. -/
def typeOperators : List String := ["keyof", "unique", "readonly", "infer"]

/-- The bound of a type that is to be inferred. In front of a question mark the word `extends` belongs
    to a condition instead. -/
def inferBound (r : Rules) : Parse Unit := do
  let _ ← attempt do
    expectWord "extends"
    r.type
    if ← isPunct "?" then unexpected

/-- A type with the words in front of it. -/
def operatorType (r : Rules) : Parse Unit := do
  let words ← gather do
    match ← token with
    | .word w false =>
      if typeOperators.contains w then
        let next ← following
        let starts := match next.token with
          | .word v _ => v != "extends" && v != "is"
          | .punct p => p == "(" || p == "\x7b" || (p == "[" && w == "readonly")
          | .string _ => true
          | _ => false
        if starts then
          advance
          return some w
        else return none
      else return none
    | _ => return none
  suffixedType r
  if words.getLast? == some "infer" then inferBound r

/-- Types joined by one of the marks. -/
def joinedTypes (mark : String) (part : Parse Unit) : Parse Unit := do
  let _ ← eatPunct mark
  part
  let _ ← gather do
    if ← eatPunct mark then
      part
      return some ()
    else return none

/-- A type that is no condition. -/
def plainType (r : Rules) : Parse Unit := do
  if (← isWord "abstract") && (← following).token == .word "new" false then advance
  if (← isWord "new") && (← following).token != .punct ":" then
    advance
    functionType r
  else if ← isPunct "<" then functionType r
  else
    let function ← if ← isPunct "(" then attempt (functionType r) else pure none
    match function with
    | some _ => return ()
    | none => joinedTypes "|" (joinedTypes "&" (operatorType r))

/-- A claim about a parameter, as the result type of a function: `x is T`, `asserts x`. -/
def predicateType? (r : Rules) : Parse Bool := do
  let next ← following
  match ← token, next.token with
  | .word "asserts" false, .word v _ =>
    if v == "is" || next.newline then return false
    advance
    advance
    if ← eatWord "is" then r.type
    return true
  | .word _ _, .word "is" false =>
    if next.newline then return false
    advance
    advance
    r.type
    return true
  | _, _ => return false

/-- A type. -/
def typeRule (r : Rules) : Parse Unit := do
  unless ← predicateType? r do
    plainType r
    if (← isWord "extends") && !(← newlineBefore) then
      advance
      plainType r
      expectPunct "?"
      r.type
      expectPunct ":"
      r.type

end BundleLens.Grammar
