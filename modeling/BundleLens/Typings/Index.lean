/-
Module: BundleLens.Typings.Index
Layer: Typings
Purpose: What declaration files export. Exports in place and export lists replace what a file already
  exports under the name; what comes from `export *` only fills names that are still free. A file that
  is met again while its own exports are being collected adds nothing there, and what was collected
  around such a cut is collected again for the next file.
Imports: BundleLens.Program.Resolution, BundleLens.Model.Table, BundleLens.Syntax.View
Main exports: TypingsKind, TypingsDecl, declaredNames, TypingsTable, collectWithin, TypingsIndex,
  TypingsIndex.build, TypingsIndex.lookup?
-/
import BundleLens.Program.Resolution
import BundleLens.Model.Table
import BundleLens.Syntax.View

namespace BundleLens

/-- The kinds of declarations that declaration files export. -/
inductive TypingsKind where
  | classDecl
  | function
  | variable
  | interface
  | typeAlias
  | enumeration
  | namespaceDecl
deriving DecidableEq, Repr, Inhabited

/-- A declaration of a declaration file, under its own name there. -/
structure TypingsDecl where
  path : Path
  name : String
  kind : TypingsKind
  span : Span
deriving DecidableEq, Repr, Inhabited

/-- The names that a declaration file exports. -/
abbrev TypingsTable := Table TypingsDecl

/-- The kind of a declaration that only declaration files hold. -/
def TypingsKind.ofTypeDecl : TypeDeclKind → TypingsKind
  | .interface => .interface
  | .alias => .typeAlias
  | .enumeration => .enumeration
  | .namespaceDecl => .namespaceDecl

/-- The names that a statement declares. -/
def declaredNames (path : Path) : Stmt → List TypingsDecl
  | .classDecl name cls => [⟨path, name.name, .classDecl, cls.span⟩]
  | .function name func => [⟨path, name.name, .function, func.span⟩]
  | .vars _ _ ds => ds.filterMap fun d =>
    d.pat.ident?.map fun id => ⟨path, id.name, .variable, d.span⟩
  | .typeDecl span kind name => (name.map (⟨path, ·, .ofTypeDecl kind, span⟩)).toList
  | _ => []

/-- The statement that an item declares something by, exported or not. -/
def Item.declaration? : Item → Option Stmt
  | .stmt s => some s
  | .exportDecl s => some s
  | _ => none

/-- Adds declarations under their own names. -/
def addDeclared (table : TypingsTable) (found : List TypingsDecl) : TypingsTable :=
  table.insertAll (found.map fun d => (d.name, d))

/-- What a file declares itself, exported or not. -/
def ownDeclarations (file : SourceFile) : TypingsTable :=
  addDeclared .empty ((file.items.filterMap Item.declaration?).flatMap (declaredNames file.path))

/-- The text of a module name; one that has no text counts as empty. -/
def ModuleName.textOrEmpty (name : ModuleName) : String := name.text?.getD ""

/-- The entries that an export list takes out of a table. -/
def listedEntries (source : TypingsTable) (specifiers : List ExportSpecifier) :
    List (String × TypingsDecl) :=
  specifiers.filterMap fun
    | .named name exported =>
      (source.get? name.textOrEmpty).map ((exported.getD name).textOrEmpty, ·)
    | .whole _ => none

/-! ### Collecting -/

/-- What is known while exports are collected: finished tables, the files under way, and how often such
    a file was met again. -/
structure Collected where
  done : List (Nat × TypingsTable)
  visiting : List Nat
  cuts : Nat
deriving Inhabited

/-- At the start nothing is known. -/
def Collected.empty : Collected := ⟨[], [], 0⟩

/-- Collecting exports. -/
abbrev Collect := StateM Collected

/-- Adds what an item exports; `exports` collects the exports of another file. -/
def collectItem (program : Program) (exports : SourceFile → Collect TypingsTable) (file : SourceFile)
    (table : TypingsTable) : Item → Collect TypingsTable
  | .exportDecl s => return addDeclared table (declaredNames file.path s)
  | .exportList specifiers => return table.insertAll (listedEntries (ownDeclarations file) specifiers)
  | .exportFrom specifiers source => do
    let some target := source.bind (program.resolve? · file) | return table
    return table.insertAll (listedEntries (← exports target) specifiers)
  | .exportAll source => do
    let some target := source.bind (program.resolve? · file) | return table
    return (← exports target).entries.foldl (fun acc (name, d) => acc.insertNew name d) table
  | _ => return table

/-- The exports of a file, item by item. Scripts export nothing. -/
def collectFile (program : Program) (exports : SourceFile → Collect TypingsTable) (file : SourceFile) :
    Collect TypingsTable :=
  if file.isModule then file.items.foldlM (collectItem program exports file) .empty
  else return .empty

/-- Collects the exports of a file that is not under way. They are kept if no cut was met. -/
def collectFresh (program : Program) (exports : SourceFile → Collect TypingsTable)
    (file : SourceFile) : Collect TypingsTable := do
  let before := (← get).cuts
  modify fun c => { c with visiting := file.id :: c.visiting }
  let table ← collectFile program exports file
  modify fun c =>
    { c with
      visiting := c.visiting.erase file.id
      done := if c.cuts = before then (file.id, table) :: c.done else c.done }
  return table

/-- The exports of a file, with at most the given number of files under way. -/
def collectWithin (program : Program) : Nat → SourceFile → Collect TypingsTable
  | 0, _ => return .empty
  | depth + 1, file => do
    let state ← get
    match state.done.lookup file.id with
    | some table => return table
    | none =>
      if state.visiting.contains file.id then
        modify fun c => { c with cuts := c.cuts + 1 }
        return .empty
      else collectFresh program (collectWithin program depth) file

/-- The exports of a file. Every file under way is another one, so their number bounds the depth. -/
def collectExports (program : Program) (file : SourceFile) : Collect TypingsTable :=
  collectWithin program (program.files.length + 1) file

/-! ### Looking up -/

/-- The exports of all declaration files below the typings root, in the order of registration. -/
structure TypingsIndex where
  tables : List (Nat × TypingsTable)
deriving Inhabited

namespace TypingsIndex

/-- Collects the exports of all declaration files. -/
def build (program : Program) : TypingsIndex :=
  let collect := program.typingsFiles.mapM fun file => do
    return (file.id, ← collectExports program file)
  ⟨(collect.run .empty).1⟩

/-- The declaration that the file at a path exports under a name. -/
def findIn? (index : TypingsIndex) (program : Program) (path : Path) (name : String) :
    Option TypingsDecl := do
  (← index.tables.lookup (← program.fileByPath? path).id).get? name

/-- The declaration file that belongs to a file: the one at the same place below the typings root. -/
def siblingPath? (program : Program) (source : SourceFile) : Option Path := do
  let root ← program.sourceRoot
  let typings ← program.typingsRoot
  let relative ← (Path.ofString source.stem).tidy.relativeTo? root
  let place := typings.join relative
  if relative.steps.isEmpty then return place.joinText ".d.ts"
  else return .ofString (place.toString ++ ".d.ts")

/-- The declaration of a name in the declaration file that belongs to a file. -/
def inSibling? (index : TypingsIndex) (program : Program) (source : Option SourceFile)
    (name : String) : Option TypingsDecl := do
  index.findIn? program (← siblingPath? program (← source)) name

/-- The typings of a name that a file declares: in the declaration file that belongs to the file, else
    in the entry point, else in the first declaration file that exports the name. -/
def lookup? (index : TypingsIndex) (program : Program) (source : Option SourceFile) (name : String) :
    Option TypingsDecl := do
  let root ← program.typingsRoot
  index.inSibling? program source name
    <|> index.findIn? program (root.joinText "index.d.ts") name
    <|> index.tables.findSome? fun (_, table) => table.get? name

end TypingsIndex
end BundleLens
