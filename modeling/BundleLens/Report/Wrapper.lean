/-
Module: BundleLens.Report.Wrapper
Layer: Reports
Purpose: The report on the wrapper of a file: in which ways the factory is called and what its
  parameters are bound to.
Imports: BundleLens.Report.Exports
Main exports: DependencyReport, WrapperReport, FileView.wrapperReport
-/
import BundleLens.Report.Exports

namespace BundleLens

/-- A parameter of the factory that is bound to a module. -/
structure DependencyReport where
  parameter : String
  index : Nat
  specifier : String
deriving DecidableEq, Repr, Inhabited

/-- The wrapper of a file. -/
structure WrapperReport where
  path : String
  branches : List String
  amdDependencies : List String
  dependencies : List DependencyReport
  statements : Nat
deriving DecidableEq, Repr, Inhabited

/-- How a way of loading a module is called. -/
def Branch.label : Branch → String
  | .commonJs => "CommonJs"
  | .amd => "Amd"
  | .global => "Global"

/-- The report on the wrapper of a file. -/
def FileView.wrapperReport (view : FileView) : Except ReportError WrapperReport :=
  match view.wrapper with
  | none => .error (.notWrapped view.file.path)
  | some w =>
    .ok
      { path := view.file.path.toString
        branches := w.calls.map (·.branch.label)
        amdDependencies := w.amdDependencies
        dependencies := w.imports.map fun i => ⟨i.param.name, i.index, i.specifier⟩
        statements := w.statements.length }

/-- The line of a parameter. -/
def DependencyReport.toText (d : DependencyReport) : String :=
  "  #" ++ Nat.repr d.index ++ " " ++ d.parameter ++ " = require('" ++ d.specifier ++ "')\n"

/-- The report as text. -/
def WrapperReport.toText (r : WrapperReport) : String :=
  r.path ++ "\n  branches: " ++ ", ".intercalate r.branches ++ "\n"
    ++ (if r.amdDependencies.isEmpty then ""
        else "  define: [" ++ ", ".intercalate r.amdDependencies ++ "]\n")
    ++ String.join (r.dependencies.map (·.toText))
    ++ "  " ++ Nat.repr r.statements ++ " factory statements\n"

/-- A parameter as a document. -/
def DependencyReport.toJson (d : DependencyReport) : JsonDoc :=
  .record [("parameter", .text d.parameter), ("index", .number d.index),
    ("specifier", .text d.specifier)]

/-- The report as a document. -/
def WrapperReport.toJson (r : WrapperReport) : JsonDoc :=
  .record
    [("path", .text r.path), ("branches", .list (r.branches.map .text)),
     ("amd_dependencies", .list (r.amdDependencies.map .text)),
     ("dependencies", .list (r.dependencies.map (·.toJson))), ("statements", .number r.statements)]

end BundleLens
