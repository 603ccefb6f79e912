/-
Module: BundleLens.Reflection.ExportTable
Layer: Reflection
Purpose: The export tables of modules. A module with declarations is read item by item, a wrapped one
  statement by statement; in both a later entry replaces an earlier one of the same name. Tables of
  other modules are made on the way. A file whose table is being made is cut off when it is met again,
  so there are never more tables in the making than files.
Imports: BundleLens.Reflection.Resolve
Main exports: itemExports, stmtExports, Recipe, World.recipe?, exportsWithin, World.exportsOf,
  World.declarationOfIdentifier, World.declarationOfExpression
-/
import BundleLens.Reflection.Resolve

namespace BundleLens

/-- Entries of an export table, in the order in which they are made. -/
abbrev Entries := List (String × Declaration)

/-- The entry of a name, if what it stands for is known. -/
def entryOf (name : Option String) (declaration : Option Declaration) : Entries :=
  match name, declaration with
  | some n, some d => [(n, d)]
  | _, _ => []

/-! ### Modules with declarations -/

/-- The exported variables with plain names. -/
def variableExports (w : World) (view : FileView) (ds : List Declarator) : Inquiry Entries := do
  let found ← (ds.filterMap (·.pat.ident?)).mapM fun id => do
    return entryOf (some id.name) (← identifierDeclaration w view id)
  return found.flatten

/-- What an exported declaration adds. -/
def declExports (w : World) (view : FileView) : Stmt → Inquiry Entries
  | .classDecl name cls => return [(name.name, .concrete (.classDecl ⟨name, cls⟩))]
  | .function name func =>
    let d := (Declaration.concrete (.function ⟨name, func⟩)).withKnown (knownHelper? name.name)
    return [(name.name, d)]
  | .vars _ _ ds => variableExports w view ds
  | _ => return []

/-- What an entry of an export list adds: a name of the file itself under its exported name. -/
def ownSpecifier (w : World) (view : FileView) : ExportSpecifier → Inquiry Entries
  | .named (.ident id) exported => do
    let name := match exported with
      | some other => other.text?
      | none => some id.name
    return entryOf name (← identifierDeclaration w view id)
  | _ => return []

/-- What an entry of an export list with a source adds: a name of the other module, or the module. -/
def foreignSpecifier (target : SourceFile) (via : Option String) (table : Option ExportTable) :
    ExportSpecifier → Entries
  | .named name exported =>
    let found := do (← table).get? (← name.text?)
    entryOf ((exported.getD name).text?) (found.map (·.inheritVia via))
  | .whole exported => entryOf exported.text? (some (.wholeModule target via))

/-- The module that a source text names. -/
def World.sourceModule? (w : World) (file : SourceFile) (source : Option String) :
    Option (String × SourceFile) := do
  let specifier ← source
  return (specifier, ← w.program.resolve? specifier file)

/-- What a default export adds. A name stands for what it names; any other value is inline. -/
def valueExport (w : World) (view : FileView) (value : Expr) : Inquiry Entries := do
  let named ← match value.ident? with
    | some id => identifierDeclaration w view id
    | none => pure none
  return [("default", named.getD (.inline (.expr value.bare) (some value.bare)))]

/-- What an item of a module adds to its export table. -/
def itemExports (w : World) (view : FileView) : Item → Inquiry Entries
  | .exportDecl decl => declExports w view decl
  | .exportList specifiers => return (← specifiers.mapM (ownSpecifier w view)).flatten
  | .exportFrom specifiers source => do
    let some (specifier, target) := w.sourceModule? view.file source | return []
    let table ← Inquiry.tableOf target
    return specifiers.flatMap (foreignSpecifier target (bareName? specifier) table)
  | .exportAll source => do
    let some (specifier, target) := w.sourceModule? view.file source | return []
    let some table ← Inquiry.tableOf target | return []
    let others := table.entries.filter (·.1 != "default")
    return others.map fun (name, d) => (name, d.inheritVia (bareName? specifier))
  | .exportClass name cls => return [("default", .concrete (.classExpr ⟨name, cls⟩))]
  | .exportFunction name func => return [("default", .concrete (.functionExpr ⟨name, func⟩))]
  | .exportValue value => valueExport w view value
  | .stmt _ => return []
  | .importDecl _ => return []
  | .other => return []

/-- The export table of a module with declarations. -/
def moduleTable (w : World) (view : FileView) : Inquiry ExportTable := do
  return Table.empty.insertAll (← view.file.items.mapM (itemExports w view)).flatten

/-! ### Wrapped modules -/

/-- What the value of an assignment to a member of `exports` stands for, if it is a reference: a name, a
    member of `exports`, or a member of another module. -/
def referredValue (w : World) (view : FileView) (value : Expr) : Inquiry (Option Declaration) := do
  match value.ident? with
  | some id => identifierDeclaration w view id
  | none =>
    let owner := do (← value.member?).object.ident?
    let isDependency := (owner.bind view.namespaceOf?).isSome
    if value.exported?.isSome || isDependency then expressionDeclaration w view value
    else return none

/-- The object that an argument of an enumeration's function stores, behind a possible assignment to a
    variable. -/
def Expr.enumObject (e : Expr) : Expr :=
  match e.assignment? with
  | some a => a.value.bare
  | none => e.bare

/-- The assignment in `exports.E || (exports.E = {})`. -/
def EnumIife.exportAssignment? (shape : EnumIife) : Option Assignment := do
  let first ← (← shape.iife.call.plainArgs?).head?
  match first.enumObject with
  | .binary _ _ _ right =>
    let a ← right.assignment?
    let _ ← a.exported?
    return a
  | _ => none

/-- The entry of an exported enumeration: the assignment that creates its object. -/
def enumExport (shape : EnumIife) : Entries :=
  entryOf shape.exported
    (shape.exportAssignment?.map fun a => .enumeration (.assign a) shape.members)

/-- The module whose exports are all copied, and the module name to remember for them. -/
def wildcardTarget (w : World) (view : FileView) (source : Expr) :
    Inquiry (Option (SourceFile × Option String)) := do
  match source.requires? with
  | some specifier =>
    return (w.program.resolve? specifier view.file).map (·, bareName? specifier)
  | none =>
    let some found ← expressionDeclaration w view source | return none
    return found.node.module?.map (·, found.via)

/-- What a copy of all exports of another module adds. What has no module name yet gets the one of the
    copied module, or its path. -/
def wildcardExports (w : World) (view : FileView) (source : Expr) :
    Inquiry Entries := do
  let some (target, via) ← wildcardTarget w view source | return []
  if target.id == view.file.id then return []
  else
    let some table ← Inquiry.tableOf target | return []
    let name := via.getD target.stem
    return table.entries.map fun (key, d) => (key, d.inheritVia (some name))

/-- What a statement of a factory adds to the export table. -/
def stmtExports (w : World) (view : FileView) (s : Stmt) : Inquiry Entries := do
  match s.exportsAssignment? with
  | some assignment =>
    assignment.targets.mapM fun (name, a) => do
      let found ← referredValue w view assignment.value
      return (name, found.getD (.inline (.assign a) (some assignment.value)))
  | none =>
    match s.reexport? with
    | some reexport =>
      let found ← expressionDeclaration w view reexport.value
      let node := s.expr?.getD reexport.value
      return [(reexport.name, found.getD (.inline (.expr node) (some reexport.value)))]
    | none =>
      match s.wildcard? with
      | some source => wildcardExports w view source
      | none => return (s.enumIife?.map enumExport).getD []

/-- The export table of a wrapped module. -/
def factoryTable (w : World) (view : FileView) (wrapper : Wrapper) :
    Inquiry ExportTable := do
  return Table.empty.insertAll (← wrapper.statements.mapM (stmtExports w view)).flatten

/-! ### All tables -/

/-- How the export table of a file is made: by what it asks for, and under which format it is
    remembered. -/
structure Recipe where
  format : Format
  steps : Inquiry ExportTable

/-- How the table of a file is made by its declarations. Scripts export nothing. -/
def FileView.declaredRecipe? (w : World) (view : FileView) : Option Recipe :=
  if view.file.isModule then some ⟨.modules, moduleTable w view⟩ else none

/-- How the table of a file is made by the rules for wrapped files. A file without a wrapper is left to
    its declarations. -/
def FileView.wrappedRecipe? (w : World) (view : FileView) : Option Recipe :=
  match view.wrapper with
  | none => view.declaredRecipe? w
  | some wrapper => some ⟨.wrappers, factoryTable w view wrapper⟩

/-- How the table of a file is made by the rules that fit its format. -/
def FileView.delegatedRecipe? (w : World) (view : FileView) : Option Recipe :=
  match view.format with
  | .wrappers => view.wrappedRecipe? w
  | .modules => view.declaredRecipe? w

/-- How the export table of a file is made. -/
def FileView.recipe? (w : World) (view : FileView) : Option Recipe :=
  match w.host with
  | .modules => view.declaredRecipe? w
  | .wrappers => view.wrappedRecipe? w
  | .mixed => view.delegatedRecipe? w

/-- How the export table of the file with a number is made. -/
def World.recipe? (w : World) (id : Nat) : Option Recipe := do (← w.views[id]?).recipe? w

/-- The export table of a file, with at most the given number of tables in the making. -/
def exportsWithin (w : World) : Nat → Exports
  | 0, _ => return none
  | depth + 1, file =>
    match w.recipe? file.id with
    | some recipe => remember recipe.format file.id (recipe.steps.run (exportsWithin w depth))
    | none => return none

namespace World

/-- The export table of a file. Every table in the making belongs to another file, so their number is
    at most the number of files. -/
def exportsOf (w : World) : Exports := exportsWithin w (w.program.files.length + 1)

/-- What has to be asked for what an identifier stands for, in the file that holds it. -/
def identifierInquiry (w : World) (id : Ident) : Inquiry (Option Declaration) :=
  match w.viewAt? id.span.lo with
  | some view => identifierDeclaration w view id
  | none => return none

/-- What has to be asked for what an expression stands for, in the file that holds it. -/
def expressionInquiry (w : World) (e : Expr) : Inquiry (Option Declaration) :=
  match w.viewAt? e.span.lo with
  | some view => expressionDeclaration w view e
  | none => return none

/-- What an identifier stands for. -/
def declarationOfIdentifier (w : World) (id : Ident) : Reflect (Option Declaration) :=
  (w.identifierInquiry id).run w.exportsOf

/-- What an expression stands for. -/
def declarationOfExpression (w : World) (e : Expr) : Reflect (Option Declaration) :=
  (w.expressionInquiry e).run w.exportsOf

end World
end BundleLens
