/-
Module: BundleLens.Grammar.File
Layer: Grammar
Purpose: Imports, exports and the top level of a file, and the one place where the rules are tied
  together. The nesting of rules is bounded by the length of the text, since every level of nesting uses
  a token.
Imports: BundleLens.Grammar.Statement
Main exports: Parsed, parseText
-/
import BundleLens.Grammar.Statement

namespace BundleLens.Grammar

/-! ### Imports -/

/-- The name of a module, as text. -/
def moduleSource (r : Rules) : Parse (Option String) := do
  match ← token with
  | .string value =>
    advance
    if (← isWord "with") || ((← isWord "assert") && !(← newlineBefore)) then
      advance
      let _ ← objectLiteral r
    return value
  | _ => unexpected

/-- A name of an import or export list: an identifier name or a text. -/
def moduleName : Parse ModuleName := do
  match ← token with
  | .string value =>
    advance
    return .string value
  | _ => return .ident (← identName)

/-- Uses the word `type` in front of an entry of a list, in a declaration file. -/
def entryModifier : Parse Unit := do
  if (← inTypings) && (← isWord "type") then
    let next ← following
    match next.token with
    | .word w _ => if w != "as" then advance
    | .string _ => advance
    | _ => return ()

/-- An entry of an import list. -/
def importSpecifier : Parse ImportSpecifier := do
  entryModifier
  let lo ← here
  let name ← moduleName
  if ← eatWord "as" then
    let binder ← identifier
    return ⟨binder, .named (some name)⟩
  else
    match name with
    | .ident id => if isReserved id.name then failAt lo else return ⟨id, .named none⟩
    | .string _ => unexpected

/-- What an import takes besides a default: everything under one name, or a list. -/
def importList : Parse (List ImportSpecifier) := do
  if ← eatPunct "*" then
    expectWord "as"
    let binder ← identifier
    return [⟨binder, .whole⟩]
  else
    expectPunct "\x7b"
    commaList "\x7d" importSpecifier

/-- The end of an import declaration. -/
def importRest (r : Rules) (lo : Nat) (specifiers : List ImportSpecifier) : Parse Item := do
  expectWord "from"
  let source ← moduleSource r
  semicolon
  return .importDecl ⟨← spanFrom lo, specifiers, source⟩

/-- The rest of an import assignment of a declaration file. -/
def importAssignment (r : Rules) : Parse Item := do
  let _ ← r.assign
  semicolon
  return .other

/-- Uses the word `type` behind `import`, in a declaration file. -/
def importModifier : Parse Unit := do
  if (← inTypings) && (← isWord "type") then
    let next ← following
    match next.token with
    | .word w _ => if w != "from" then advance
    | .punct p => if p == "\x7b" || p == "*" then advance
    | _ => return ()

/-- An import declaration. -/
def importItem (r : Rules) : Parse Item := do
  let lo ← here
  expectWord "import"
  importModifier
  match ← token with
  | .string _ =>
    let source ← moduleSource r
    semicolon
    return .importDecl ⟨← spanFrom lo, [], source⟩
  | .word _ _ =>
    let binder ← identifier
    if (← inTypings) && (← eatPunct "=") then importAssignment r
    else
      let more ← if ← eatPunct "," then importList else pure []
      importRest r lo (⟨binder, .default⟩ :: more)
  | _ =>
    let specifiers ← importList
    importRest r lo specifiers

/-! ### Exports -/

/-- An entry of an export list. -/
def exportSpecifier : Parse ExportSpecifier := do
  entryModifier
  let name ← moduleName
  let exported ← if ← eatWord "as" then some <$> moduleName else pure none
  return .named name exported

/-- An export list of this file's names, or of another module's. -/
def exportNames (r : Rules) : Parse Item := do
  expectPunct "\x7b"
  let specifiers ← commaList "\x7d" exportSpecifier
  if ← eatWord "from" then
    let source ← moduleSource r
    semicolon
    return .exportFrom specifiers source
  else
    semicolon
    return .exportList specifiers

/-- An export of everything another module exports, flat or under one name. -/
def exportStar (r : Rules) : Parse Item := do
  expectPunct "*"
  let name ← if ← eatWord "as" then some <$> moduleName else pure none
  expectWord "from"
  let source ← moduleSource r
  semicolon
  match name with
  | some name => return .exportFrom [.whole name] source
  | none => return .exportAll source

/-- The default export of a class; a decorator does not belong to its range here. -/
def exportDefaultClass (r : Rules) (decs : List Expr) : Parse Item := do
  let more ← decorators r
  let lo ← here
  if ← inTypings then
    let _ ← eatWord "abstract"
  let (name, cls) ← classRest r lo (decs ++ more) false
  return .exportClass name cls

/-- A default export. -/
def exportDefault (r : Rules) (decs : List Expr) : Parse Item := do
  expectWord "default"
  let lo ← here
  let next ← following
  if ← atFunction then
    let async ← eatWord "async"
    let (name, func) ← functionHead r lo async false
    return .exportFunction name func
  else if (← isWord "class") || (← isPunct "@") ||
      ((← inTypings) && (← isWord "abstract") && next.token == .word "class" false) then
    exportDefaultClass r decs
  else if (← inTypings) && (← isWord "interface") then
    let _ ← interfaceDecl r
    return .other
  else
    let value ← r.assign
    semicolon
    return .exportValue value

/-- The exports that only declaration files hold, if one stands behind the word `export`. -/
def typingsExport? (r : Rules) : Parse (Option Item) := do
  unless ← inTypings do return none
  if ← eatPunct "=" then
    let _ ← r.expr
    semicolon
    return some .other
  let next ← following
  if (← isWord "as") && next.token == .word "namespace" false then
    advance
    advance
    let _ ← identifier
    semicolon
    return some .other
  if ← isWord "import" then
    let _ ← importItem r
    return some .other
  if ← isWord "type" then
    if next.token == .punct "\x7b" then
      advance
      return some (← exportNames r)
    if next.token == .punct "*" then
      advance
      return some (← exportStar r)
  return none

/-- An export declaration; `decs` are the decorators in front of it. -/
def exportItem (r : Rules) (decs : List Expr) : Parse Item := do
  expectWord "export"
  if let some item ← typingsExport? r then return item
  match ← token with
  | .punct "*" => exportStar r
  | .punct "\x7b" => exportNames r
  | .word "default" false => exportDefault r decs
  | _ =>
    let more ← decorators r
    let decs := decs ++ more
    if ← isWord "class" then
      let lo ← here
      return .exportDecl (← classDeclaration r lo decs)
    else
      match ← declaration? r with
      | some decl => return .exportDecl decl
      | none => unexpected

/-! ### Files -/

/-- An item of the top level. -/
def item (r : Rules) : Parse Item := do
  let lexeme ← current
  match lexeme.token with
  | .word "import" false =>
    let next ← following
    if next.token == .punct "(" || next.token == .punct "." then return .stmt (← r.stmt)
    else importItem r
  | .word "export" false => exportItem r []
  | .punct "@" =>
    let decs ← decorators r
    if ← isWord "export" then exportItem r decs
    else return .stmt (← classDeclaration r lexeme.span.lo decs)
  | _ => return .stmt (← r.stmt)

/-- The items of a file. -/
def items (r : Rules) : Parse (List Item) :=
  gather do
    if (← token) == .finish then return none else return some (← item r)

/-- The items of a namespace, up to its closing brace. -/
def nestedItems (r : Rules) : Parse Unit := do
  let _ ← until_ "\x7d" (item r)

/-- All rules, with as many levels of nesting as the fuel allows. -/
def rules : Nat → Rules
  | 0 =>
    { expr := unexpected, assign := unexpected, unary := unexpected, operand := unexpected,
      newTarget := unexpected, target := unexpected, stmt := unexpected, branch := unexpected,
      body := unexpected, type := unexpected }
  | depth + 1 =>
    { expr := fun ctx s => expression (rules depth) ctx s
      assign := fun ctx s => assignment (rules depth) ctx s
      unary := fun ctx s => unary (rules depth) ctx s
      operand := fun ctx s => leftHandSide (rules depth) ctx s
      newTarget := fun ctx s => member (rules depth) false ctx s
      target := fun ctx s => bindingTarget (rules depth) ctx s
      stmt := fun ctx s => statement (rules depth) ctx s
      branch := fun ctx s => branch (rules depth) ctx s
      body := fun ctx s => nestedItems (rules depth) ctx s
      type := fun ctx s => typeRule (rules depth) ctx s }

/-- A text that was read: its items, and whether it is a module. -/
structure Parsed where
  items : List Item
  isModule : Bool

/-- Reads a text whose first character is at position `base`. It is a module if it imports or exports
    something, or holds an expression that only modules hold. The error is the position of the
    fault. -/
def parseText (typings : Bool) (base : Nat) (text : List Char) : Except Nat Parsed :=
  let size := text.length
  let start := skipHashbang text base
  let ctx : Context :=
    { typings := typings, allowIn := true, generator := false, async := false, inFunction := false
      arrowStart := none }
  let cursor : Cursor := ⟨scanToken size start.text start.pos, base, size, false⟩
  match items (rules (2 * size + 64)) ctx cursor with
  | .ok (list, final) => .ok ⟨list, final.moduleFound || list.any (·.isModuleDecl)⟩
  | .error pos => .error pos

end BundleLens.Grammar
