/-
Module: BundleLens.CommandLine.Run
Layer: Command line
Purpose: What the program does: it loads the package of a file and prints a report on the file. Exit
  codes are 0 for a report, 1 for a failure and 2 for arguments that are not understood.
Imports: BundleLens.CommandLine.Arguments, BundleLens.Report.Classes, BundleLens.Report.Wrapper
Main exports: Outcome, reportText, runInvocation, runProgram
-/
import BundleLens.CommandLine.Arguments
import BundleLens.Report.Classes
import BundleLens.Report.Wrapper

namespace BundleLens

/-- What a run leaves behind: its exit code, what it prints, and why it failed. -/
structure Outcome where
  code : Nat
  output : String
  failure : Option String
deriving DecidableEq, Repr, Inhabited

/-- A run that prints a text. -/
def Outcome.printed (text : String) : Outcome := ⟨0, text, none⟩

/-- A run that fails. -/
def Outcome.failed (message : String) : Outcome := ⟨1, "", some message⟩

/-- A document as it is printed. -/
def printedJson (doc : JsonDoc) : String := doc.pretty ++ "\n"

/-- Reports on classes as they are printed. -/
def classesText (path : Path) (reports : List ClassReport) : String :=
  if reports.isEmpty then "No classes found in " ++ path.toString ++ ".\n"
  else String.join (reports.map (·.toText))

/-- The report that a command asks for. -/
def reportText (w : World) (view : FileView) (command : Command) (format : OutputFormat) :
    Reflect (Except ReportError String) := do
  match command with
  | .exports typings =>
    return (← w.exportsReport view typings).map fun report =>
      match format with
      | .text => report.toText
      | .json => printedJson report.toJson
  | .classes name =>
    match ← (w.classReports view name).run with
    | .error problem => return .error (.noAnswer problem)
    | .ok reports =>
      match format with
      | .text => return .ok (classesText view.file.path reports)
      | .json => return .ok (printedJson (.list (reports.map (·.toJson))))
  | .wrapper =>
    return view.wrapperReport.map fun report =>
      match format with
      | .text => report.toText
      | .json => printedJson report.toJson

/-- The report on the file that a package was loaded for. -/
def runLoaded (project : LoadedProject) (invocation : Invocation) : Outcome :=
  let w := World.ofProgram project.program .mixed
  match (project.program.fileByPath? project.input).bind w.view? with
  | none => .failed (LoadError.notLoaded project.input).message
  | some view =>
    match ((reportText w view invocation.command invocation.format).run .empty).1 with
    | .ok text => .printed text
    | .error problem => .failed problem.message

/-- Runs a command. -/
def runInvocation {m : Type → Type} [Monad m] (disk : Disk m) (invocation : Invocation) :
    m Outcome := do
  match ← (loadProject disk invocation.options invocation.input).run with
  | .ok project => return runLoaded project invocation
  | .error problem => return .failed problem.message

/-- How the program is used. -/
def usage : String :=
  "Inspect the reflected declarations of UMD bundles\n\n"
    ++ "Commands:\n"
    ++ "  exports  List the exports of a module\n"
    ++ "  classes  Describe the classes declared in a module\n"
    ++ "  wrapper  Show the UMD wrapper of a bundle and its dependencies\n\n"
    ++ "Options: --config PATH, --root PATH, --typings PATH, --path SPECIFIER=PATH,\n"
    ++ "  --format text|json, -v, -q, exports --dts, classes --name NAME\n"

/-- Runs the program. -/
def runProgram {m : Type → Type} [Monad m] (disk : Disk m) (args : List String) : m Outcome :=
  match Request.parse args with
  | .run invocation => runInvocation disk invocation
  | .help => return .printed usage
  | .version => return .printed "0.1.0\n"
  | .misuse => return ⟨2, "", none⟩

end BundleLens
