/-
Module: BundleLens.Project.Load
Layer: Projects
Purpose: Loading a package: its settings, the files below its root, the file that was asked about, its
  typings, and the files that bare module names are mapped to. Files are registered in this order, and
  those of a directory in the order of their paths.
Imports: BundleLens.Project.Disk, BundleLens.Config.Settings, BundleLens.Program.Resolution
Main exports: LoadOptions, LoadError, LoadedProject, loadProject
-/
import BundleLens.Project.Disk
import BundleLens.Config.Settings
import BundleLens.Program.Resolution

namespace BundleLens

/-- What users may say about a package. It wins over the settings file. -/
structure LoadOptions where
  settingsFile : Option String
  root : Option String
  typings : Option String
  paths : List Mapping
deriving DecidableEq, Repr, Inhabited

/-- Nothing is said. -/
def LoadOptions.empty : LoadOptions := ⟨none, none, none, []⟩

/-- Why a package cannot be loaded. -/
inductive LoadError where
  | noInput (path : String)
  | noRoot (path : String)
  | unreadable (path : String)
  | badSettings (path : String)
  | syntaxFault (fault : SyntaxFault)
  | notLoaded (path : Path)
deriving DecidableEq, Repr, Inhabited

/-- The wording of an error. -/
def LoadError.message : LoadError → String
  | .noInput path => "cannot open " ++ path
  | .noRoot path => "cannot open package root " ++ path
  | .unreadable path => "failed to read " ++ path
  | .badSettings path => "in " ++ path
  | .syntaxFault fault =>
    fault.path.toString ++ ":" ++ Nat.repr fault.place.line ++ ":" ++ Nat.repr fault.place.column
      ++ ": syntax error"
  | .notLoaded path => path.toString ++ " is not part of the program"

/-- A package with the file that was asked about. -/
structure LoadedProject where
  program : Program
  input : Path

/-- The name of settings files. -/
def settingsName : String := "umbra.toml"

/-- The directory that a path as it is written stands in. -/
def directoryText (text : String) : String :=
  match (Path.ofString text).tidy.parent? with
  | some directory => directory.toString
  | none => "."

/-- A directory and those around it, innermost first. -/
def Path.withAncestors (directory : Path) : List Path :=
  let names := directory.steps
  (List.range (names.length + 1)).map fun i => ⟨directory.absolute, names.take (names.length - i)⟩

/-- The files that make up programs. -/
def isReflectable (path : Path) : Bool := path.hasEnding ".js" || path.hasEnding ".d.ts"

section Loading

variable {m : Type → Type} [Monad m] (disk : Disk m)

/-- Loading that may fail. -/
abbrev Loading (m : Type → Type) := ExceptT LoadError m

/-- Reads a settings file. Its relative paths are taken from the directory it stands in. -/
def loadSettings (text : String) : Loading m Settings := do
  let some source ← disk.readText? text | throw (.unreadable text)
  let some settings := Settings.parse source | throw (.badSettings text)
  return settings.anchoredAt (directoryText text)

/-- Reads the first settings file in the given directories. -/
def discoverSettings : List Path → Loading m (Option Settings)
  | [] => return none
  | directory :: rest => do
    let candidate := directory.joinText settingsName
    if ← disk.isFile candidate then return some (← loadSettings disk candidate.toString)
    else discoverSettings rest

/-- Reads and registers a file. -/
def loadFile (program : Program) (path : Path) : Loading m Program := do
  let some source ← disk.readText? path.toString | throw (.unreadable path.toString)
  match program.addSource path source with
  | (grown, .ok _) => return grown
  | (_, .error fault) => throw (.syntaxFault fault)

/-- Reads and registers the files of a program at or below a path, in the order of their paths. -/
def loadDirectory (program : Program) (root : Path) : Loading m Program := do
  let paths := (← disk.filesBelow root).filter isReflectable
  (paths.mergeSort fun a b => !b.before a).foldlM (loadFile disk) program

/-- Where a path leads to, or the path itself if it leads to nothing. -/
def canonicalOr (text : String) : Loading m Path := do
  return (← disk.canonical? text).getD (.ofString text)

/-- Sets the typings root. Typings outside of the root of the package are registered first. -/
def loadTypings (root : Path) (program : Program) (text : String) : Loading m Program := do
  let path ← canonicalOr disk text
  let program ← if path.startsWith root then pure program else loadDirectory disk program path
  return program.setTypingsRoot path

/-- Maps a bare module name to a file, which is registered if it is not yet. -/
def loadMapping (program : Program) (mapping : Mapping) : Loading m Program := do
  let path ← canonicalOr disk mapping.2
  let isNew := (program.fileByPath? path).isNone
  let program ← if isNew && (← disk.isFile path) then loadFile disk program path else pure program
  return program.mapPath mapping.1 path

/-- The settings of a package: those of the given file, or of the first settings file in the directory
    of the input or around it. -/
def findSettings (options : LoadOptions) (directory : Path) : Loading m (Option Settings) :=
  match options.settingsFile with
  | some text => some <$> loadSettings disk text
  | none => discoverSettings disk directory.withAncestors

/-- The root of a package: the given one, that of the settings, or the directory of the input. -/
def rootText (options : LoadOptions) (settings : Option Settings) (directory : Path) : String :=
  (options.root <|> settings.map (·.root)).getD directory.toString

/-- Registers the files of a package: those below its root, and the input if it is not among them. -/
def loadSources (root input : Path) : Loading m Program := do
  let program ← loadDirectory disk .empty root
  let program ← if (program.fileByPath? input).isNone then loadFile disk program input else pure program
  return program.setSourceRoot root

/-- Loads the package of a file. -/
def loadProject (options : LoadOptions) (input : String) : Loading m LoadedProject := do
  let some path ← disk.canonical? input | throw (.noInput input)
  let directory := path.parent?.getD path
  let found ← findSettings disk options directory
  let settings := found.getD .default
  let rootPath := rootText options found directory
  let some root ← disk.canonical? rootPath | throw (.noRoot rootPath)
  let program ← loadSources disk root path
  let program ← match options.typings <|> settings.typings with
    | some typings => loadTypings disk root program typings
    | none => pure program
  let program ← (settings.paths ++ options.paths).foldlM (loadMapping disk) program
  return ⟨program, path⟩

end Loading
end BundleLens
