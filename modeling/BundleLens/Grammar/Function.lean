/-
Module: BundleLens.Grammar.Function
Layer: Grammar
Purpose: Parameters, bodies, functions, decorators and classes. Declaration files add types, modifiers
  and members without bodies.
Imports: BundleLens.Grammar.Pattern
Main exports: functionRest, functionExpr, decorators, classRest
-/
import BundleLens.Grammar.Pattern

namespace BundleLens.Grammar

/-! ### Types around functions and classes -/

/-- Uses one `>`, also where it is the start of a longer token. -/
def closeAngle : Parse Unit := do
  let lexeme ← current
  match lexeme.token, lexeme.source with
  | .punct _, '>' :: rest => resume ⟨rest, lexeme.span.lo + 1⟩
  | _, _ => unexpected

/-- Type parameters or type arguments between angle brackets: each may start with words that modify it
    and may be followed by a bound and a default. -/
def angleList (item : Parse Unit) : Parse Unit := do
  expectPunct "<"
  let _ ← gather do
    let lexeme ← current
    match lexeme.source with
    | '>' :: _ => return none
    | _ =>
      item
      let close ← current
      match close.source with
      | '>' :: _ => return some ()
      | _ =>
        expectPunct ","
        return some ()
  closeAngle

/-- A type parameter. -/
def typeParam (r : Rules) : Parse Unit := do
  let _ ← gather do
    let next ← following
    match ← token, next.token with
    | .word w _, .word v _ =>
      if (w == "const" || w == "in" || w == "out") && v != "extends" then
        advance
        return some ()
      else return none
    | _, _ => return none
  let _ ← identName
  if ← eatWord "extends" then r.type
  if ← eatPunct "=" then r.type

/-- Type parameters, if they may stand here and do. -/
def typeParams? (r : Rules) : Parse Unit := do
  if (← inTypings) && (← isPunct "<") then angleList (typeParam r)

/-- Type arguments, if they may stand here and do. -/
def typeArgs? (r : Rules) : Parse Unit := do
  if (← inTypings) && (← isPunct "<") then angleList r.type

/-! ### Decorators -/

/-- The arguments of a call, between parentheses. -/
def arguments (r : Rules) : Parse (List Element) := do
  expectPunct "("
  withIn <| commaList ")" do
    if ← eatPunct "..." then return .spread (← r.assign)
    else return .item (← r.assign)

/-- A decorator: a name with members and calls behind it, or an expression in parentheses. -/
def decorator (r : Rules) : Parse Expr := do
  expectPunct "@"
  if ← eatPunct "(" then
    let inner ← withIn r.expr
    expectPunct ")"
    return inner
  else
    let lo ← here
    let id ← identifier
    loop (fun e => do
      if ← eatPunct "." then
        let key ← identName
        return some (.member (← spanFrom lo) false e (.ident key))
      else if ← isPunct "(" then
        let args ← arguments r
        return some (.call (← spanFrom lo) .plain e args)
      else return none) (.ident id)

/-- All decorators that stand here. -/
def decorators (r : Rules) : Parse (List Expr) :=
  gather do
    if ← isPunct "@" then return some (← decorator r) else return none

/-! ### Functions -/

/-- Words that turn a constructor parameter into a property. -/
def promoters : List String := ["public", "private", "protected", "readonly", "override"]

/-- Words of a list in front of a name, each used; whether there were any. -/
def modifiersIn (words : List String) : Parse Bool := do
  let found ← gather do
    match ← token with
    | .word w false =>
      let next ← following
      let named := match next.token with
        | .word _ _ | .string _ | .number _ | .hiddenName _ => true
        | .punct p => p == "[" || p == "\x7b" || p == "*"
        | _ => false
      if words.contains w && named && !next.newline then
        advance
        return some ()
      else return none
    | _ => return none
  return !found.isEmpty

/-- A parameter with its decorators, type and default value. -/
def param (r : Rules) (ofConstructor : Bool) : Parse Param := do
  let lo ← here
  let decs ← decorators r
  let promoted ← if ofConstructor && (← inTypings) then modifiersIn promoters else pure false
  let isThis := (← inTypings) && (← isWord "this")
  let pat ←
    if ← isPunct "..." then restElement r
    else if isThis then
      let id ← identName
      pure (.ident id.span id)
    else r.target
  if ← inTypings then
    let _ ← eatPunct "?"
  let pat ← annotated r pat
  let pat ← withDefault r pat
  return ⟨← spanFrom lo, if promoted then [] else decs, pat, promoted⟩

/-- The parameters of a function, between parentheses. -/
def params (r : Rules) (ofConstructor : Bool) : Parse (List Param) := do
  expectPunct "("
  commaList ")" (param r ofConstructor)

/-- Statements between braces. -/
def braced (r : Rules) : Parse (List Stmt) := do
  expectPunct "\x7b"
  until_ "\x7d" r.stmt

/-- The context of a function's parameters and body. -/
def functionContext (generator async : Bool) (ctx : Context) : Context :=
  { ctx with allowIn := true, generator := generator, async := async, inFunction := true }

/-- The body of a function. In a declaration file it is left out, up to the end of the statement. -/
def functionBody (r : Rules) : Parse (Option (List Stmt)) := do
  if (← inTypings) && !(← isPunct "\x7b") then
    semicolon
    return none
  else return some (← braced r)

/-- The return type of a function, if one may stand here and does. -/
def returnType? (r : Rules) : Parse Unit := annotation? r

/-- A function from its parameters on; its range starts at `lo`. -/
def functionRest (r : Rules) (lo : Nat) (generator async : Bool) : Parse Func :=
  within (functionContext generator async) do
    typeParams? r
    let ps ← params r false
    returnType? r
    let body ← functionBody r
    return ⟨← spanFrom lo, ps, body⟩

/-- A function from the word `function` on. A declaration must have a name. -/
def functionHead (r : Rules) (lo : Nat) (async needsName : Bool) : Parse (Option Ident × Func) := do
  expectWord "function"
  let generator ← eatPunct "*"
  let name ← if needsName || Token.namesBinding (← token) then some <$> identifier else pure none
  return (name, ← functionRest r lo generator async)

/-- A function expression. -/
def functionExpr (r : Rules) (lo : Nat) (async : Bool) : Parse Expr := do
  let (name, func) ← functionHead r lo async false
  return .function name func

/-! ### Classes -/

/-- The name of a class member; a private one has no name outside. -/
def memberName (r : Rules) : Parse Key := do
  let lexeme ← current
  match lexeme.token with
  | .hiddenName _ =>
    advance
    return .hidden lexeme.span
  | _ => propertyName r

/-- Whether a member name is the one of the constructor. -/
def namesConstructor : Key → Bool
  | .ident id => id.name == "constructor"
  | .string _ value => value == some "constructor"
  | _ => false

/-- Whether the member is a method: its parameters follow. -/
def atMethod : Parse Bool := do
  return (← isPunct "(") || ((← inTypings) && (← isPunct "<"))

/-- Whether the member is a field: a value, a type or the end of the member follows. With `lines` the
    end of a line ends it too. -/
def atField (lines : Bool) : Parse Bool := do
  let lexeme ← current
  let typed := (← inTypings) && (lexeme.token == .punct ":" || lexeme.token == .punct "!")
  let ended := lexeme.token == .punct ";" || lexeme.token == .punct "\x7d" ||
    lexeme.token == .punct "="
  return typed || ended || (lines && (lexeme.newline || lexeme.token == .finish))

/-- What is known of a class member in front of its name. -/
structure MemberHead where
  lo : Nat
  decorators : List Expr
  isStatic : Bool

/-- A method from its parameters on. -/
def methodRest (r : Rules) (head : MemberHead) (kind : MethodKind) (key : Key)
    (generator async : Bool) : Parse ClassMember := do
  let func ← functionRest r head.lo generator async
  return .method kind head.isStatic head.decorators key func

/-- A constructor from its parameters on. -/
def constructorRest (r : Rules) (head : MemberHead) : Parse ClassMember :=
  within (functionContext false false) do
    let ps ← params r true
    returnType? r
    let body ← functionBody r
    return .ctor (← spanFrom head.lo) ps body

/-- The type, value and end of a field. -/
def fieldRest (r : Rules) : Parse (Option Expr) := do
  if ← inTypings then
    let _ ← eatPunct "!"
    annotation? r
  let value ←
    if ← eatPunct "=" then
      some <$> within ({ · with allowIn := true, inFunction := true, async := false }) r.assign
    else pure none
  semicolon
  return value

/-- A field from what follows its name on. -/
def field (r : Rules) (head : MemberHead) (key : Key) : Parse ClassMember := do
  let value ← fieldRest r
  return .field (← spanFrom head.lo) head.isStatic head.decorators key value

/-- An index signature of a declaration file, if one stands here. -/
def indexSignature? (r : Rules) (head : MemberHead) : Parse (Option ClassMember) := do
  if (← inTypings) && (← isPunct "[") then
    attempt do
      expectPunct "["
      let _ ← identName
      expectPunct ":"
      r.type
      expectPunct "]"
      annotation? r
      semicolon
      return .other (← spanFrom head.lo)
  else return none

/-- Whether the current word is the given modifier: the name of the member follows it. -/
def modifierAhead (word : String) : Parse Bool := do
  if ← isWord word then
    let next ← following
    if next.newline then return false
    match next.token with
    | .word _ _ | .string _ | .number _ | .bigint | .hiddenName _ => return true
    | .punct p => return p == "[" || (p == "*" && word == "async")
    | _ => return false
  else return false

/-- Uses the optional mark of a declaration file. -/
def optionalMark : Parse Unit := do
  if ← inTypings then
    let _ ← eatPunct "?"

/-- A class member from its name on. -/
def namedMember (r : Rules) (head : MemberHead) : Parse ClassMember := do
  if ← eatPunct "*" then
    let key ← memberName r
    return ← methodRest r head .method key true false
  let key ← memberName r
  optionalMark
  if ← atMethod then
    if namesConstructor key && !head.isStatic then return ← constructorRest r head
    return ← methodRest r head .method key false false
  let word := match key with
    | .ident id => id.name
    | _ => ""
  let accessorWord := (word == "get" || word == "set") && !(← atField false) &&
    !((← newlineBefore) && (← isPunct "*"))
  if ← atField (!accessorWord) then return ← field r head key
  if word == "async" && !(← newlineBefore) then
    let generator ← eatPunct "*"
    let key ← memberName r
    optionalMark
    return ← methodRest r head .method key generator true
  if accessorWord then
    let key ← memberName r
    return ← methodRest r head (if word == "get" then .getter else .setter) key false false
  unexpected

/-- An automatic accessor of a declaration file. -/
def accessorMember (r : Rules) (head : MemberHead) : Parse ClassMember := do
  expectWord "accessor"
  let key ← memberName r
  optionalMark
  let value ← fieldRest r
  return .accessor (← spanFrom head.lo) head.isStatic head.decorators key value

/-- Words in front of a member of a declaration file that leave nothing behind. -/
def memberModifiers : List String :=
  ["public", "private", "protected", "declare", "abstract", "override", "readonly"]

/-- A class member behind its decorators and the word `static`. -/
def memberRest (r : Rules) (head : MemberHead) : Parse ClassMember := do
  if ← inTypings then
    let _ ← modifiersIn memberModifiers
  if head.isStatic && (← isPunct "\x7b") then
    let body ← within (functionContext false false) (braced r)
    return .staticBlock (← spanFrom head.lo) body
  if let some signature ← indexSignature? r head then return signature
  if (← inTypings) && (← modifierAhead "accessor") then return ← accessorMember r head
  namedMember r head

/-- A class member. -/
def classMember (r : Rules) : Parse ClassMember := do
  let lo ← here
  if ← eatPunct ";" then return .other (← spanFrom lo)
  let decs ← decorators r
  if ← inTypings then
    let _ ← modifiersIn memberModifiers
  let lexeme ← current
  if ← eatWord "static" then
    if (← atMethod) || (← atField false) then
      let head : MemberHead := ⟨lo, decs, false⟩
      let key := Key.ident ⟨"static", lexeme.span⟩
      if ← atMethod then methodRest r head .method key false false else field r head key
    else memberRest r ⟨lo, decs, true⟩
  else memberRest r ⟨lo, decs, false⟩

/-- The base class of a class: an operand with members and calls, which declaration files follow by type
    arguments. -/
def baseClass (r : Rules) : Parse (Option Expr) := do
  if ← eatWord "extends" then
    let base ← r.operand
    typeArgs? r
    return some base
  else return none

/-- The interfaces that a class of a declaration file claims to implement. -/
def implementsClause (r : Rules) : Parse Unit := do
  if ← inTypings then
    if ← eatWord "implements" then
      r.type
      let _ ← gather do
        if ← eatPunct "," then
          r.type
          return some ()
        else return none

/-- A class from the word `class` on; its range starts at `lo`. -/
def classRest (r : Rules) (lo : Nat) (decs : List Expr) (needsName : Bool) :
    Parse (Option Ident × Class) := do
  expectWord "class"
  let named := Token.namesBinding (← token) && !(← isWord "implements")
  let name ← if needsName || named then some <$> identifier else pure none
  typeParams? r
  let base ← baseClass r
  implementsClause r
  expectPunct "\x7b"
  let members ← until_ "\x7d" (classMember r)
  return (name, ⟨← spanFrom lo, decs, base, members⟩)

end BundleLens.Grammar
