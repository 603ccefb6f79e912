/-
Module: BundleLens.Grammar.Expression
Layer: Grammar
Purpose: The rules for expressions. A parenthesis at the start of an expression may open the parameters
  of an arrow function; it is read as an expression and reinterpreted when the arrow follows.
Imports: BundleLens.Grammar.Function
Main exports: primary, leftHandSide, unary, assignment, expression
-/
import BundleLens.Grammar.Function

namespace BundleLens.Grammar

/-! ### Literals -/

/-- One part of a template, behind the mark that opens it. A part that does not end is a fault at that
    mark; behind a tag a part may hold escapes that stand for nothing. -/
def templatePart (tagged : Bool) (mark : Lexeme) : Parse TemplateEnd := do
  match scanTemplate mark.rest mark.span.hi none with
  | none => failAt mark.span.lo
  | some part =>
    match part.fault with
    | some pos => unless tagged do failAt pos
    | none => pure ()
    resume part.rest
    return part.ending

/-- What stands in the holes of a template, whose opening mark is the current token. -/
def templateHoles (tagged : Bool) (hole : Parse Expr) : Parse (List Expr) := do
  let first ← templatePart tagged (← current)
  let (_, holes) ← loop (fun ((ending, acc) : TemplateEnd × List Expr) => do
    match ending with
    | .closed => return none
    | .hole =>
      let e ← hole
      let close ← current
      if close.token == .punct "\x7d" then return some (← templatePart tagged close, e :: acc)
      else unexpected) (first, [])
  return holes.reverse

/-- A template, whose opening mark is the current token, with the expression in front of it as its
    tag. -/
def template (r : Rules) (lo : Nat) (tag : Option Expr) : Parse Expr := do
  let holes ← templateHoles tag.isSome (withIn r.expr)
  return .template (← spanFrom lo) tag holes

/-- A regular expression, whose slash is the current token. -/
def regex : Parse Expr := do
  let lexeme ← current
  match scanRegex lexeme with
  | some rest =>
    resume rest
    return .atom (← spanFrom lexeme.span.lo) .regex
  | none => failAt lexeme.span.lo

/-- An element of an array literal. -/
def arrayElement (r : Rules) : Parse Element := do
  if ← eatPunct "," then return .hole
  let element ← if ← eatPunct "..." then Element.spread <$> r.assign else Element.item <$> r.assign
  unless ← isPunct "]" do expectPunct ","
  return element

/-- An array literal. -/
def arrayLiteral (r : Rules) : Parse Expr := do
  let lo ← here
  expectPunct "["
  let elements ← withIn <| until_ "]" (arrayElement r)
  return .array (← spanFrom lo) elements

/-- The getter, setter or asynchronous method whose first word is `word`. -/
def wordProperty (r : Rules) (lo : Nat) (word : String) : Parse Property := do
  if word == "async" then
    let generator ← eatPunct "*"
    let key ← propertyName r
    return .method key (← functionRest r lo generator true)
  let key ← propertyName r
  let func ← functionRest r lo false false
  let body := func.body.getD []
  if word == "get" then return .getter func.span key body
  match func.params with
  | p :: _ => return .setter func.span key p.pat body
  | [] => return .setter func.span key (.blank func.span) body

/-- A property of an object literal. -/
def objectProperty (r : Rules) : Parse Property := do
  let lo ← here
  if ← eatPunct "..." then return .spread (← r.assign)
  if ← eatPunct "*" then
    let key ← propertyName r
    return .method key (← functionRest r lo true false)
  let key ← propertyName r
  if ← eatPunct ":" then return .keyValue key (← r.assign)
  if ← atMethod then return .method key (← functionRest r lo false false)
  match key with
  | .ident id =>
    if ← eatPunct "=" then return .initialized id (← r.assign)
    if (← isPunct ",") || (← isPunct "\x7d") then return .shorthand id
    if id.name == "get" || id.name == "set" || id.name == "async" then wordProperty r lo id.name
    else unexpected
  | _ => unexpected

/-- An object literal. -/
def objectLiteral (r : Rules) : Parse Expr := do
  let lo ← here
  expectPunct "\x7b"
  let properties ← withIn <| commaList "\x7d" (objectProperty r)
  return .object (← spanFrom lo) properties

/-! ### Arrow functions and parentheses -/

/-- An arrow function from its body on. -/
def arrowRest (r : Rules) (lo : Nat) (ps : List Pat) (async : Bool) : Parse Expr :=
  within (fun ctx => { ctx with generator := false, async := async, inFunction := true }) do
    if ← isPunct "\x7b" then
      let body ← withIn (braced r)
      return .arrow (← spanFrom lo) ps false body
    else
      let value ← r.assign
      return .arrow (← spanFrom lo) ps true [.ret value.span (some value)]

/-- An item between the parentheses of an expression or a parameter list, with its position. -/
def parenItem (r : Rules) : Parse (Nat × Element) := do
  let lo ← here
  if ← eatPunct "..." then return (lo, .spread (← r.assign))
  else return (lo, .item (← r.assign))

/-- The expressions of the items between parentheses; a spread is no expression. -/
def plainItems : List (Nat × Element) → Parse (List Expr)
  | [] => return []
  | (_, .item e) :: rest => do return e :: (← plainItems rest)
  | (_, .spread e) :: _ => failAt e.span.lo
  | (lo, .hole) :: _ => failAt lo

/-- A parenthesized expression, an arrow function, or (behind the word `async`) a call. -/
def parenOrArrow (r : Rules) (lo : Nat) (async : Option Ident) : Parse Expr := do
  let mayBeArrow := (← read).arrowStart == some lo
  expectPunct "("
  let items ← withIn <| commaList ")" (parenItem r)
  if ← isPunct "=>" then
    if ← newlineBefore then failAt lo
    unless mayBeArrow do failAt lo
    advance
    let ps ← items.mapM fun (start, element) => cover (element.toParam start)
    return ← arrowRest r lo ps async.isSome
  match async with
  | some id => return .call (← spanFrom lo) .plain (.ident id) (items.map (·.2))
  | none =>
    let span ← spanFrom lo
    match ← plainItems items with
    | [] => failAt lo
    | [e] => return .paren span e
    | e :: rest =>
      let last := rest.getLastD e
      return .paren span (.sequence (e.span.through last.span) (e :: rest))

/-- An identifier, or the arrow function whose only parameter it is. -/
def identOrArrow (r : Rules) : Parse Expr := do
  let id ← identifier
  let mayBeArrow := (← read).arrowStart == some id.span.lo
  let newline ← newlineBefore
  if mayBeArrow && id.name == "async" && !newline && Token.namesBinding (← token) then
    let p ← identifier
    expectPunct "=>"
    arrowRest r id.span.lo [.ident p.span p] true
  else if mayBeArrow && !newline && (← eatPunct "=>") then
    arrowRest r id.span.lo [.ident id.span id] false
  else return .ident id

/-- An operand that starts with the word `async`. -/
def asyncOperand (r : Rules) : Parse Expr := do
  let lexeme ← current
  let next ← following
  if next.token == .word "function" false && !next.newline then
    advance
    functionExpr r lexeme.span.lo true
  else if next.token == .punct "(" && !next.newline &&
      (← read).arrowStart == some lexeme.span.lo then
    advance
    parenOrArrow r lexeme.span.lo (some ⟨"async", lexeme.span⟩)
  else identOrArrow r

/-! ### Operands -/

/-- An operand without parts. -/
def atom (kind : Atom) : Parse Expr := do
  let lexeme ← current
  advance
  return .atom lexeme.span kind

/-- A class expression behind its decorators. -/
def classOperand (r : Rules) (lo : Nat) (decs : List Expr) : Parse Expr := do
  let (name, cls) ← classRest r lo decs false
  return .classExpr name cls

/-- An operand that starts with a word. -/
def wordOperand (r : Rules) (word : String) : Parse Expr := do
  let lo ← here
  match word with
  | "this" => atom .this
  | "null" => atom .null
  | "true" => atom (.boolean true)
  | "false" => atom (.boolean false)
  | "function" => functionExpr r lo false
  | "async" => asyncOperand r
  | "class" => classOperand r lo []
  | _ => identOrArrow r

/-- An operand. -/
def primary (r : Rules) : Parse Expr := do
  let lexeme ← current
  match lexeme.token with
  | .word text false => wordOperand r text
  | .word _ true => identOrArrow r
  | .string value =>
    advance
    return .string lexeme.span value
  | .number value =>
    advance
    return .number lexeme.span value
  | .bigint => atom .bigint
  | .hiddenName _ =>
    let next ← following
    if next.token == .word "in" false then atom .privateName else unexpected
  | .backtick => template r lexeme.span.lo none
  | .punct "(" => parenOrArrow r lexeme.span.lo none
  | .punct "[" => arrayLiteral r
  | .punct "\x7b" => objectLiteral r
  | .punct "/" => regex
  | .punct "/=" => regex
  | .punct "@" =>
    let decs ← decorators r
    classOperand r lexeme.span.lo decs
  | _ => unexpected

/-! ### Members and calls -/

/-- Whether an expression is an arrow function, behind which nothing of an operand may follow. -/
def isArrow : Expr → Bool
  | .arrow _ _ _ _ => true
  | _ => false

/-- Whether an expression is a link of an optional chain, so that what follows belongs to the chain. -/
def isChained : Expr → Bool
  | .member _ chained _ _ => chained
  | .call _ .optional _ _ => true
  | _ => false

/-- A member of an expression. `super` is no expression of its own. -/
def memberOf (span : Span) (chained : Bool) (object : Expr) (key : Key) : Expr :=
  match object with
  | .atom _ .superclass => .superMember span key
  | _ => .member span chained object key

/-- The name behind a dot. -/
def dotName : Parse Key := do
  let lexeme ← current
  match lexeme.token with
  | .hiddenName _ =>
    advance
    return .hidden lexeme.span
  | _ => return .ident (← identName)

/-- One member access, call or template behind an expression that starts at `lo`. -/
def subscript (r : Rules) (lo : Nat) (calls : Bool) (e : Expr) : Parse (Option Expr) := do
  let kind := if isChained e then CallKind.optional else .plain
  match ← token with
  | .punct "." =>
    advance
    let key ← dotName
    return some (memberOf (← spanFrom lo) (isChained e) e key)
  | .punct "?." =>
    advance
    if ← isPunct "(" then
      let args ← arguments r
      return some (.call (← spanFrom lo) .optional e args)
    else if ← isPunct "[" then
      let start ← here
      advance
      let inner ← withIn r.expr
      expectPunct "]"
      let key := Key.computed (← spanFrom start) inner
      return some (memberOf (← spanFrom lo) true e key)
    else
      let key ← dotName
      return some (memberOf (← spanFrom lo) true e key)
  | .punct "[" =>
    let start ← here
    advance
    let inner ← withIn r.expr
    expectPunct "]"
    let key := Key.computed (← spanFrom start) inner
    return some (memberOf (← spanFrom lo) (isChained e) e key)
  | .punct "(" =>
    if calls then
      let args ← arguments r
      return some (.call (← spanFrom lo) kind e args)
    else return none
  | .punct "!" =>
    if (← inTypings) && !(← newlineBefore) then
      advance
      return some (.unary (← spanFrom lo) .assertType e)
    else return none
  | .backtick => return some (← template r lo (some e))
  | _ => return none

/-- All member accesses, calls and templates behind an expression. -/
def subscripts (r : Rules) (lo : Nat) (calls : Bool) (e : Expr) : Parse Expr :=
  if isArrow e then return e else loop (subscript r lo calls) e

/-- The word `import` as an operand: a call or a property of the module. -/
def importOperand (r : Rules) : Parse Expr := do
  let lexeme ← current
  advance
  if ← eatPunct "." then
    expectWord "meta"
    modify ({ · with moduleFound := true })
    return .atom (← spanFrom lexeme.span.lo) .metaProperty
  else
    let args ← arguments r
    return .call (← spanFrom lexeme.span.lo) .plain (.atom lexeme.span .importer) args

/-- A construction with `new`; without parentheses nothing may follow it. -/
def construction (r : Rules) : Parse Expr := do
  let lo ← here
  expectWord "new"
  if ← eatPunct "." then
    expectWord "target"
    let e := Expr.atom (← spanFrom lo) .metaProperty
    return ← subscripts r lo false e
  let callee ← r.newTarget
  typeArgs? r
  if ← isPunct "(" then
    let args ← arguments r
    subscripts r lo false (.call (← spanFrom lo) .construct callee args)
  else return .call (← spanFrom lo) .construct callee []

/-- An operand with what follows it; whether calls are among that depends on `calls`. -/
def member (r : Rules) (calls : Bool) : Parse Expr := do
  let lexeme ← current
  match lexeme.token with
  | .word "new" false => do
    let e ← construction r
    if calls then subscripts r lexeme.span.lo true e else return e
  | .word "super" false =>
    advance
    subscripts r lexeme.span.lo calls (.atom lexeme.span .superclass)
  | .word "import" false =>
    let e ← importOperand r
    subscripts r lexeme.span.lo calls e
  | _ =>
    let e ← primary r
    subscripts r lexeme.span.lo calls e

/-- What may stand on the left of an assignment, and behind `extends`. -/
def leftHandSide (r : Rules) : Parse Expr := member r true

/-! ### Operators -/

/-- The operator in front of an operand. -/
def leadingOp? : Token → Option UnaryOp
  | .punct "!" => some .not
  | .punct "~" => some .complement
  | .punct "+" => some .plus
  | .punct "-" => some .minus
  | .punct "++" => some .increment
  | .punct "--" => some .decrement
  | .word "void" false => some .void
  | .word "typeof" false => some .typeOf
  | .word "delete" false => some .delete
  | _ => none

/-- Tokens behind the word `await` that show that it is a name. -/
def endsOperand : Token → Bool
  | .punct p => [")", "]", ";", ","].contains p
  | .finish => true
  | _ => false

/-- An operand behind `await`. Outside of an asynchronous function the word may also be a name; outside
    of any function it shows that the file is a module. -/
def awaitOperand (r : Rules) : Parse Expr := do
  let lexeme ← current
  let ctx ← read
  advance
  if !ctx.async && endsOperand (← token) then return .ident ⟨"await", lexeme.span⟩
  unless ctx.async || ctx.inFunction do modify ({ · with moduleFound := true })
  let operand ← r.unary
  return .unary (lexeme.span.through operand.span) .await operand

/-- An operand behind its type in angle brackets. -/
def castOperand (r : Rules) : Parse Expr := do
  let lo ← here
  expectPunct "<"
  unless ← eatWord "const" do r.type
  closeAngle
  let operand ← r.unary
  return .unary ⟨lo, operand.span.hi⟩ .assertType operand

/-- An operand with the operators in front of and behind it. -/
def unary (r : Rules) : Parse Expr := do
  let lexeme ← current
  match leadingOp? lexeme.token with
  | some op =>
    advance
    let operand ← r.unary
    return .unary (lexeme.span.through operand.span) op operand
  | none =>
    if lexeme.token == .word "await" false then awaitOperand r
    else if (← inTypings) && lexeme.token == .punct "<" then castOperand r
    else
      let e ← leftHandSide r
      if isArrow e || (← newlineBefore) then return e
      else if ← eatPunct "++" then return .unary (← spanFrom lexeme.span.lo) .increment e
      else if ← eatPunct "--" then return .unary (← spanFrom lexeme.span.lo) .decrement e
      else return e

/-- The operators between two operands, with their precedence. -/
def binaryOp? (allowIn : Bool) : Token → Option (BinaryOp × Nat)
  | .punct "??" => some (.nullish, 1)
  | .punct "||" => some (.or, 1)
  | .punct "&&" => some (.and, 2)
  | .punct "|" => some (.bitOr, 3)
  | .punct "^" => some (.bitXor, 4)
  | .punct "&" => some (.bitAnd, 5)
  | .punct "==" => some (.equal, 6)
  | .punct "!=" => some (.notEqual, 6)
  | .punct "===" => some (.identical, 6)
  | .punct "!==" => some (.notIdentical, 6)
  | .punct "<" => some (.less, 7)
  | .punct ">" => some (.greater, 7)
  | .punct "<=" => some (.lessEqual, 7)
  | .punct ">=" => some (.greaterEqual, 7)
  | .word "instanceof" false => some (.instanceOf, 7)
  | .word "in" false => if allowIn then some (.isIn, 7) else none
  | .punct "<<" => some (.shiftLeft, 8)
  | .punct ">>" => some (.shiftRight, 8)
  | .punct ">>>" => some (.shiftRightZero, 8)
  | .punct "+" => some (.add, 9)
  | .punct "-" => some (.subtract, 9)
  | .punct "*" => some (.multiply, 10)
  | .punct "/" => some (.divide, 10)
  | .punct "%" => some (.remainder, 10)
  | .punct "**" => some (.power, 11)
  | _ => none

/-- An operand on a stack of operands that wait for the right side of their operator. -/
structure Pending where
  left : Expr
  op : BinaryOp
  level : Nat

/-- Joins the waiting operands whose operator binds at least as tightly as `level`. -/
def reduce (level : Nat) : List Pending → Expr → List Pending × Expr
  | [], e => ([], e)
  | p :: rest, e =>
    if level ≤ p.level then reduce level rest (.binary (p.left.span.through e.span) p.op p.left e)
    else (p :: rest, e)

/-- A type behind an expression of a declaration file. -/
def typeAssertion? (r : Rules) (lo : Nat) (e : Expr) : Parse Expr := do
  if (← inTypings) && !(← newlineBefore) && ((← isWord "as") || (← isWord "satisfies")) then
    advance
    unless ← eatWord "const" do r.type
    return .unary (← spanFrom lo) .assertType e
  else return e

/-- Whether an operand has an operator in front of it that reads its value. Such an operand is no base
    of a power. -/
def isPrefixed : Expr → Bool
  | .unary _ op _ => op != .increment && op != .decrement && op != .assertType
  | _ => false

/-- Operands joined by operators: tighter ones first, equal ones from the left, powers from the
    right. -/
def binary (r : Rules) : Parse Expr := do
  let lo ← here
  let first ← unary r
  if isArrow first then return first
  let first ← typeAssertion? r lo first
  let (stack, last) ← loop (fun ((stack, e) : List Pending × Expr) => do
    match binaryOp? (← read).allowIn (← token) with
    | none => return none
    | some (op, level) =>
      advance
      if op == .power && isPrefixed e then unexpected
      let (stack, left) := reduce (if op == .power then level + 1 else level) stack e
      let right ← r.unary
      return some (⟨left, op, level⟩ :: stack, right)) ([], first)
  return (reduce 0 stack last).2

/-- An expression with a condition and two branches, or one without. -/
def conditional (r : Rules) : Parse Expr := do
  let test ← binary r
  if isArrow test then return test
  if ← eatPunct "?" then
    let yes ← withIn r.assign
    expectPunct ":"
    let no ← r.assign
    return .conditional (test.span.through no.span) test yes no
  else return test

/-- The assignment operators. -/
def assignOp? : Token → Option AssignOp
  | .punct "=" => some .plain
  | .punct p =>
    if ["+=", "-=", "*=", "/=", "%=", "<<=", ">>=", ">>>=", "&=", "|=", "^=", "**=", "&&=", "||=",
        "??="].contains p then some .compound else none
  | _ => none

/-- Whether an expression is no operand, so that no assignment may follow it. -/
def isOperation : Expr → Bool
  | .conditional _ _ _ _ => true
  | .binary _ _ _ _ => true
  | .unary _ op _ => op != .await && op != .assertType
  | _ => false

/-- A `yield` expression. -/
def yieldOperation (r : Rules) : Parse Expr := do
  let lexeme ← current
  advance
  let ends := (← atSemicolon) || (match ← token with
    | .punct p => [")", "]", ":", ",", "\x7d"].contains p
    | .word w _ => w == "in" || w == "of"
    | _ => false)
  if ends then return .yield lexeme.span none
  let _ ← eatPunct "*"
  let operand ← r.assign
  return .yield (lexeme.span.through operand.span) (some operand)

/-- An expression between commas. -/
def assignment (r : Rules) : Parse Expr := do
  let lexeme ← current
  if lexeme.token == .word "yield" false && (← read).generator then yieldOperation r
  else
    within ({ · with arrowStart := some lexeme.span.lo }) do
      let left ← conditional r
      if isArrow left || isOperation left then return left
      match assignOp? (← token) with
      | none => return left
      | some op =>
        let target ← cover (left.toTarget op)
        advance
        let value ← r.assign
        return .assign (lexeme.span.through value.span) op target value

/-- An expression, commas included. -/
def expression (r : Rules) : Parse Expr := do
  let first ← r.assign
  if ← isPunct "," then
    let rest ← gather do
      if ← eatPunct "," then return some (← r.assign) else return none
    let last := rest.getLastD first
    return .sequence (first.span.through last.span) (first :: rest)
  else return first

end BundleLens.Grammar
