/-
Module: BundleLens.Report.Exports
Layer: Reports
Purpose: The report on the exports of a module: one line or record per exported name, with the place of
  its declaration and, if asked for, the place of its typings.
Imports: BundleLens.Reflection.ClassSymbol, BundleLens.Report.Json
Main exports: Location, KnownDeclaration.label, ReportError, ExportEntry, ExportsReport,
  World.exportsReport
-/
import BundleLens.Reflection.ClassSymbol
import BundleLens.Report.Json

namespace BundleLens

/-! ### Places -/

/-- A place in a file. -/
structure Location where
  path : String
  line : Nat
  column : Nat
deriving DecidableEq, Repr, Inhabited

/-- The place where a range begins. -/
def Program.location? (program : Program) (span : Span) : Option Location := do
  let file ← program.fileAt? span.lo
  let place := program.lineColumn span.lo
  return ⟨file.path.toString, place.line, place.column⟩

/-- A place as text. -/
def Location.toText (l : Location) : String :=
  l.path ++ ":" ++ Nat.repr l.line ++ ":" ++ Nat.repr l.column

/-- A place as a document. -/
def Location.toJson (l : Location) : JsonDoc :=
  .record [("path", .text l.path), ("line", .number l.line), ("column", .number l.column)]

/-! ### Words -/

/-- How a declaration with a meaning of its own is called. -/
def KnownDeclaration.label : KnownDeclaration → String
  | .globalObject => "JsGlobalObject"
  | .assign => "TsHelperAssign"
  | .spread => "TsHelperSpread"
  | .spreadArray => "TsHelperSpreadArray"
  | .spreadArrays => "TsHelperSpreadArrays"
  | .read => "TsHelperRead"

/-- How a way of declaring is called. -/
def DeclKind.label : DeclKind → String
  | .concrete _ => "concrete"
  | .inline _ => "inline"
  | .missing => "missing"

/-- How a kind of node is called. -/
def NodeKind.label : NodeKind → String
  | .wholeModule => "module"
  | .variable => "variable"
  | .function => "function"
  | .functionExpr => "function"
  | .classDecl => "class"
  | .classExpr => "class"
  | .param => "parameter"
  | .importDecl => "import"
  | .assign => "assignment"
  | .expr => "expression"
  | .ident => "identifier"

/-! ### Errors -/

/-- Why there is no report. -/
inductive ReportError where
  | notAModule (path : Path)
  | notWrapped (path : Path)
  | noAnswer (problem : ReflectError)
deriving DecidableEq, Repr, Inhabited

/-- The wording of an error. -/
def ReportError.message : ReportError → String
  | .notAModule path => path.toString ++ " is neither an ES module nor a UMD bundle"
  | .notWrapped path => path.toString ++ " is not wrapped in a UMD wrapper"
  | .noAnswer problem => problem.message

/-! ### The report -/

/-- An exported name. -/
structure ExportEntry where
  name : String
  kind : String
  node : String
  location : Option Location
  via : Option String
  known : Option String
  enumMembers : Option (List String)
  typings : Option Location
deriving DecidableEq, Repr, Inhabited

/-- The exports of a module. -/
structure ExportsReport where
  path : String
  format : String
  exports : List ExportEntry
deriving DecidableEq, Repr, Inhabited

/-- The members of a declaration that is an enumeration. -/
def Declaration.enumMembers? (d : Declaration) : Option (List EnumMember) :=
  match d.kind with
  | .concrete members => members
  | _ => none

/-- The place of a declaration. A whole module has none. -/
def Declaration.location? (d : Declaration) (program : Program) : Option Location :=
  match d.node with
  | .wholeModule _ => none
  | node => program.location? node.span

/-- The place of the typings of a declaration. What cannot have typings has none. -/
def World.typingsLocation? (w : World) (d : Declaration) : Option Location :=
  match w.typingsOf d with
  | .ok found => found.bind fun t => w.program.location? t.span
  | .error _ => none

/-- The entry of an exported name. -/
def World.exportEntry (w : World) (withTypings : Bool) (name : String) (d : Declaration) :
    ExportEntry :=
  { name := name
    kind := d.kind.label
    node := d.node.kind.label
    location := d.location? w.program
    via := d.via
    known := d.known.map KnownDeclaration.label
    enumMembers := d.enumMembers?.map (·.map (·.name))
    typings := if withTypings then w.typingsLocation? d else none }

/-- The report on the exports of a file. A file is called wrapped if it has a wrapper, even where it is
    not read by it. -/
def World.exportsReport (w : World) (view : FileView) (withTypings : Bool) :
    Reflect (Except ReportError ExportsReport) := do
  match ← w.exportsOf view.file with
  | none => return .error (.notAModule view.file.path)
  | some table =>
    return .ok
      { path := view.file.path.toString
        format := if view.wrapper.isSome then "umd" else "esm"
        exports := table.entries.map fun (name, d) => w.exportEntry withTypings name d }

/-- A remark that is only made about something that is there. -/
def remark {α : Type} (f : α → String) : Option α → String
  | some a => f a
  | none => ""

/-- The line of an exported name. -/
def ExportEntry.toText (e : ExportEntry) : String :=
  "  " ++ e.name ++ " [" ++ e.kind ++ " " ++ e.node ++ "]"
    ++ remark (fun via => " via '" ++ via ++ "'") e.via
    ++ remark (fun known => " known " ++ known) e.known
    ++ remark (fun members => " enum \x7b " ++ ", ".intercalate members ++ " \x7d") e.enumMembers
    ++ remark (fun place => " at " ++ place.toText) e.location
    ++ remark (fun place => " typed at " ++ place.toText) e.typings ++ "\n"

/-- The report as text. -/
def ExportsReport.toText (r : ExportsReport) : String :=
  let lines := if r.exports.isEmpty then "  no exports\n" else String.join (r.exports.map (·.toText))
  r.path ++ " (" ++ r.format ++ ")\n" ++ lines

/-- The record of an exported name. -/
def ExportEntry.toJson (e : ExportEntry) : JsonDoc :=
  .fields
    [("name", some (.text e.name)), ("kind", some (.text e.kind)), ("node", some (.text e.node)),
     ("location", e.location.map (·.toJson)), ("via_module", e.via.map .text),
     ("known", e.known.map .text),
     ("enum_members", e.enumMembers.map fun names => .list (names.map .text)),
     ("typings", e.typings.map (·.toJson))]

/-- The report as a document. -/
def ExportsReport.toJson (r : ExportsReport) : JsonDoc :=
  .record [("path", .text r.path), ("format", .text r.format),
    ("exports", .list (r.exports.map (·.toJson)))]

end BundleLens
