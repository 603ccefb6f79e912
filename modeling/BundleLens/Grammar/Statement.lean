/-
Module: BundleLens.Grammar.Statement
Layer: Grammar
Purpose: The rules for statements and for the declarations that only declaration files hold. The end of
  a line may stand for a semicolon.
Imports: BundleLens.Grammar.Types
Main exports: declaration?, branch, statement
-/
import BundleLens.Grammar.Types

namespace BundleLens.Grammar

/-! ### Declarations -/

/-- One variable of a declaration, with its type and initial value. -/
def declarator (r : Rules) : Parse Declarator := do
  let lo ← here
  let pat ← r.target
  if ← inTypings then
    let _ ← eatPunct "!"
  let pat ← annotated r pat
  let init ← if ← eatPunct "=" then some <$> r.assign else pure none
  return ⟨← spanFrom lo, pat, init⟩

/-- The variables of a declaration, separated by commas. -/
def declarators (r : Rules) : Parse (List Declarator) := do
  let first ← declarator r
  let rest ← gather do
    if ← eatPunct "," then return some (← declarator r) else return none
  return first :: rest

/-- The kind of variable declaration that starts with the current token, if one does. The word `let` is
    a name unless a name or a pattern follows it. -/
def varKind? : Parse (Option VarKind) := do
  match ← token with
  | .word "var" false => return some .var
  | .word "const" false => return some .const
  | .word "let" false =>
    let next ← following
    match next.token with
    | .word w _ => return if w == "in" || w == "instanceof" then none else some .letKind
    | .punct p => return if p == "[" || p == "\x7b" then some .letKind else none
    | _ => return none
  | _ => return none

/-- A variable declaration of a known kind; its range starts at `lo`. -/
def varStatement (r : Rules) (lo : Nat) (kind : VarKind) : Parse Stmt := do
  advance
  let ds ← declarators r
  semicolon
  return .vars (← spanFrom lo) kind ds

/-- A function declaration from the word `function` or `async` on; its range starts at `lo`. -/
def functionDecl (r : Rules) (lo : Nat) : Parse Stmt := do
  let async ← eatWord "async"
  match ← functionHead r lo async true with
  | (some name, func) => return .function name func
  | (none, _) => unexpected

/-- A class declaration from the word `class` on; its range starts at `lo`. -/
def classDeclaration (r : Rules) (lo : Nat) (decs : List Expr) : Parse Stmt := do
  match ← classRest r lo decs true with
  | (some name, cls) => return .classDecl name cls
  | (none, _) => unexpected

/-- Whether a function declaration starts here. -/
def atFunction : Parse Bool := do
  if ← isWord "function" then return true
  else if ← isWord "async" then
    let next ← following
    return next.token == .word "function" false && !next.newline
  else return false

/-- An interface; its range starts at the word `interface`. -/
def interfaceDecl (r : Rules) : Parse Stmt := do
  let lo ← here
  expectWord "interface"
  let name ← identifier
  typeParams? r
  if ← eatWord "extends" then
    r.type
    let _ ← gather do
      if ← eatPunct "," then
        r.type
        return some ()
      else return none
  typeBody r
  return .typeDecl (← spanFrom lo) .interface (some name.name)

/-- A type alias. -/
def aliasDecl (r : Rules) (lo : Nat) : Parse Stmt := do
  expectWord "type"
  let name ← identifier
  typeParams? r
  expectPunct "="
  r.type
  semicolon
  return .typeDecl (← spanFrom lo) .alias (some name.name)

/-- An enumeration. -/
def enumDecl (r : Rules) (lo : Nat) : Parse Stmt := do
  expectWord "enum"
  let name ← identifier
  expectPunct "\x7b"
  let _ ← commaList "\x7d" do
    let _ ← propertyName r
    if ← eatPunct "=" then
      let _ ← r.assign
  return .typeDecl (← spanFrom lo) .enumeration (some name.name)

/-- The body of a namespace, between braces. -/
def namespaceBody (r : Rules) : Parse Unit := do
  expectPunct "\x7b"
  r.body

/-- A namespace or an ambient module; only a namespace has a name. -/
def namespaceDecl (r : Rules) (lo : Nat) : Parse Stmt := do
  advance
  match ← token with
  | .string _ =>
    advance
    if ← isPunct "\x7b" then namespaceBody r else semicolon
    return .typeDecl (← spanFrom lo) .namespaceDecl none
  | _ =>
    let name ← identifier
    let _ ← gather do
      if ← eatPunct "." then
        let _ ← identName
        return some ()
      else return none
    namespaceBody r
    return .typeDecl (← spanFrom lo) .namespaceDecl (some name.name)

/-- The declaration of a declaration file that starts with a word of its own, if one does; `ambient`
    tells whether the word `declare` stands in front of it. -/
def typeDeclaration? (r : Rules) (lo : Nat) (ambient : Bool) : Parse (Option Stmt) := do
  let next ← following
  let named := match next.token with
    | .word _ _ => !next.newline
    | _ => false
  match ← token with
  | .word "abstract" false =>
    if next.token == .word "class" false then
      advance
      return some (← classDeclaration r lo [])
    else return none
  | .word "interface" false => if named then return some (← interfaceDecl r) else return none
  | .word "type" false => if named then return some (← aliasDecl r lo) else return none
  | .word "enum" false => return some (← enumDecl r lo)
  | .word "const" false =>
    if next.token == .word "enum" false then
      advance
      return some (← enumDecl r lo)
    else return none
  | .word "namespace" false => if named then return some (← namespaceDecl r lo) else return none
  | .word "module" false =>
    let text := match next.token with
      | .string _ => true
      | _ => false
    if (named || text) && !next.newline then return some (← namespaceDecl r lo) else return none
  | .word "global" false =>
    if ambient && next.token == .punct "\x7b" then
      advance
      namespaceBody r
      return some (.typeDecl (← spanFrom lo) .namespaceDecl (some "global"))
    else return none
  | _ => return none

/-- A declaration whose range starts at `lo`, if one starts here. -/
def plainDeclaration? (r : Rules) (lo : Nat) (decs : List Expr) : Parse (Option Stmt) := do
  if ← atFunction then return some (← functionDecl r lo)
  if ← isWord "class" then return some (← classDeclaration r lo decs)
  match ← varKind? with
  | some kind => return some (← varStatement r lo kind)
  | none => return none

/-- A declaration, if one starts here. In a declaration file the word `declare` belongs to it. -/
def declaration? (r : Rules) : Parse (Option Stmt) := do
  let lo ← here
  if ← inTypings then
    let next ← following
    let declares := match ← token, next.token with
      | .word "declare" false, .word _ _ => !next.newline
      | _, _ => false
    if declares then advance
    if let some decl ← typeDeclaration? r lo declares then return some decl
    if declares then
      let decl ← plainDeclaration? r lo []
      if decl.isSome then return decl else unexpected
  plainDeclaration? r lo []

/-! ### Statements -/

/-- An expression between parentheses, as the head of a statement. -/
def headExpr (r : Rules) : Parse Expr := do
  expectPunct "("
  let e ← withIn r.expr
  expectPunct ")"
  return e

/-- A block. -/
def block (r : Rules) : Parse Stmt := do
  let lo ← here
  let body ← braced r
  return .block (← spanFrom lo) body

/-- A condition with one or two branches. -/
def ifStatement (r : Rules) : Parse Stmt := do
  let lo ← here
  expectWord "if"
  let test ← headExpr r
  let consequent ← r.branch
  let alternate ← if ← eatWord "else" then some <$> r.branch else pure none
  return .ifElse (← spanFrom lo) test consequent alternate

/-- A loop whose test stands in front. -/
def whileStatement (r : Rules) : Parse Stmt := do
  let lo ← here
  expectWord "while"
  let test ← headExpr r
  let body ← r.branch
  return .whileLoop (← spanFrom lo) test body

/-- A loop whose test stands behind. -/
def doStatement (r : Rules) : Parse Stmt := do
  let lo ← here
  expectWord "do"
  let body ← r.branch
  expectWord "while"
  let test ← headExpr r
  let _ ← eatPunct ";"
  return .doWhile (← spanFrom lo) body test

/-- A loop over the members or elements of something, from the word behind its head on. -/
def forEachRest (r : Rules) (lo : Nat) (head : Stmt) : Parse Stmt := do
  if ← eatWord "of" then
    let source ← withIn r.assign
    expectPunct ")"
    let body ← withIn r.branch
    return .forOf (← spanFrom lo) head source body
  else
    expectWord "in"
    let source ← withIn r.expr
    expectPunct ")"
    let body ← withIn r.branch
    return .forIn (← spanFrom lo) head source body

/-- A loop with three parts, from the first semicolon on. -/
def forLoopRest (r : Rules) (lo : Nat) (init : Option Stmt) : Parse Stmt := do
  expectPunct ";"
  let test ← if ← isPunct ";" then pure none else some <$> withIn r.expr
  expectPunct ";"
  let update ← if ← isPunct ")" then pure none else some <$> withIn r.expr
  expectPunct ")"
  let body ← withIn r.branch
  return .forLoop (← spanFrom lo) init test update body

/-- Whether the head of a loop over something ends here. -/
def atForEach : Parse Bool := do return (← isWord "of") || (← isWord "in")

/-- A `for` statement from its opening parenthesis on; its range starts at `lo`. -/
def forRest (r : Rules) (lo : Nat) : Parse Stmt := do
  expectPunct "("
  if ← isPunct ";" then return ← forLoopRest r lo none
  let start ← here
  match ← varKind? with
  | some kind =>
    advance
    let ds ← within ({ · with allowIn := false }) (declarators r)
    let head := Stmt.vars (← spanFrom start) kind ds
    if ← atForEach then forEachRest r lo head else forLoopRest r lo (some head)
  | none =>
    let e ← within ({ · with allowIn := false }) r.expr
    if ← atForEach then
      let pat ← cover (e.toTarget .plain)
      forEachRest r lo (.target pat)
    else forLoopRest r lo (some (.expr e.span e))

/-- A `for` statement. Only a loop over elements can wait for each of them. -/
def forStatement (r : Rules) : Parse Stmt := do
  let lo ← here
  expectWord "for"
  let mark ← here
  let waits ← eatWord "await"
  match waits, ← forRest r lo with
  | true, .forIn _ _ _ _ => failAt mark
  | true, .forLoop _ _ _ _ _ => failAt mark
  | _, stmt => return stmt

/-- A statement that leaves a loop or goes on with it. -/
def jump : Parse Stmt := do
  let lo ← here
  advance
  unless ← atSemicolon do
    let _ ← identifier
  semicolon
  return .simple (← spanFrom lo)

/-- A statement that is one word. -/
def oneWord : Parse Stmt := do
  let lo ← here
  advance
  semicolon
  return .simple (← spanFrom lo)

/-- A `return` statement. -/
def returnStatement (r : Rules) : Parse Stmt := do
  let lo ← here
  advance
  let value ← if ← atSemicolon then pure none else some <$> withIn r.expr
  semicolon
  return .ret (← spanFrom lo) value

/-- A `throw` statement; its operand starts on the same line. -/
def throwStatement (r : Rules) : Parse Stmt := do
  let lo ← here
  advance
  if ← newlineBefore then unexpected
  let value ← withIn r.expr
  semicolon
  return .throw (← spanFrom lo) value

/-- A clause of a `switch` statement: a test or the default, and the statements up to the next one. -/
def switchClause (r : Rules) : Parse Stmt := do
  let lo ← here
  let test ←
    if ← eatWord "case" then some <$> withIn r.expr
    else
      expectWord "default"
      pure none
  expectPunct ":"
  let body ← gather do
    if (← isWord "case") || (← isWord "default") || (← isPunct "\x7d") then return none
    else return some (← r.stmt)
  return .clause (← spanFrom lo) test body

/-- A `switch` statement. -/
def switchStatement (r : Rules) : Parse Stmt := do
  let lo ← here
  expectWord "switch"
  let subject ← headExpr r
  expectPunct "\x7b"
  let clauses ← until_ "\x7d" (switchClause r)
  return .switch (← spanFrom lo) subject clauses

/-- The handler of a `try` statement; its parameter may be left out. -/
def catchClause (r : Rules) : Parse Stmt := do
  let lo ← here
  expectWord "catch"
  let pat ←
    if ← eatPunct "(" then
      let pat ← r.target
      let pat ← annotated r pat
      expectPunct ")"
      pure pat
    else pure (.blank ⟨lo, lo⟩)
  let body ← braced r
  return .handler (← spanFrom lo) pat body

/-- A `try` statement. -/
def tryStatement (r : Rules) : Parse Stmt := do
  let lo ← here
  expectWord "try"
  let body ← braced r
  let handler ← if ← isWord "catch" then some <$> catchClause r else pure none
  let finalizer ← if ← eatWord "finally" then some <$> block r else pure none
  return .tryCatch (← spanFrom lo) body handler finalizer

/-- A `with` statement. -/
def withStatement (r : Rules) : Parse Stmt := do
  let lo ← here
  expectWord "with"
  let object ← headExpr r
  let body ← r.branch
  return .withObject (← spanFrom lo) object body

/-- An expression statement, or a statement with a label in front of it. -/
def expressionStatement (r : Rules) : Parse Stmt := do
  let lo ← here
  let e ← withIn r.expr
  match e with
  | .ident _ =>
    if ← eatPunct ":" then
      let body ← r.branch
      return .labeled (← spanFrom lo) body
    else
      semicolon
      return .expr (← spanFrom lo) e
  | _ =>
    semicolon
    return .expr (← spanFrom lo) e

/-- A decorated class; its range starts with its decorators. -/
def decoratedClass (r : Rules) : Parse Stmt := do
  let lo ← here
  let decs ← decorators r
  classDeclaration r lo decs

/-- A statement that starts with a word of its own, if one does. -/
def wordStatement? (r : Rules) (word : String) : Parse (Option Stmt) := do
  match word with
  | "if" => return some (← ifStatement r)
  | "for" => return some (← forStatement r)
  | "while" => return some (← whileStatement r)
  | "do" => return some (← doStatement r)
  | "break" => return some (← jump)
  | "continue" => return some (← jump)
  | "return" => return some (← returnStatement r)
  | "throw" => return some (← throwStatement r)
  | "switch" => return some (← switchStatement r)
  | "try" => return some (← tryStatement r)
  | "with" => return some (← withStatement r)
  | "debugger" => return some (← oneWord)
  | _ => return none

/-- A statement. -/
def statement (r : Rules) : Parse Stmt := withIn do
  let lexeme ← current
  match lexeme.token with
  | .punct "\x7b" => block r
  | .punct ";" =>
    advance
    return .simple lexeme.span
  | .punct "@" => decoratedClass r
  | .word word false =>
    if let some stmt ← wordStatement? r word then return stmt
    if let some decl ← declaration? r then return decl
    expressionStatement r
  | _ => expressionStatement r

/-- A statement that another one governs. No variable of a block is declared there, so the word `let`
    is a name. -/
def branch (r : Rules) : Parse Stmt := do
  match ← token with
  | .word "const" false => unexpected
  | .word "let" false => withIn (expressionStatement r)
  | _ => statement r

end BundleLens.Grammar
