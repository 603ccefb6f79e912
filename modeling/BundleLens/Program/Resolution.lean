/-
Module: BundleLens.Program.Resolution
Layer: Program
Purpose: Which file a module name means. Paths are tried one after the other in the index of the
  program, and the search ends at the first one that a file is registered under. Nothing looks at a
  disk.
Imports: BundleLens.Program.Basic
Main exports: isRelative, isBare, bareName?, splitPackage, packageBase, Program.resolveBase?,
  Program.resolveUpward?, Program.resolveBare?, Program.resolveId?, Program.resolve?
-/
import BundleLens.Program.Basic

namespace BundleLens

/-- A relative module name starts with a dot component. -/
def isRelative (specifier : String) : Bool :=
  specifier == "." || specifier == ".." || "./".toList.isPrefixOf specifier.toList ||
    "../".toList.isPrefixOf specifier.toList

/-- A bare module name is no path: it starts with neither a dot nor a slash. -/
def isBare (specifier : String) : Bool :=
  specifier.toList.head? != some '.' && specifier.toList.head? != some '/'

/-- The module name to remember for what is reached through it; only bare names are remembered. -/
def bareName? (specifier : String) : Option String :=
  if isBare specifier then some specifier else none

/-- Splits a text at its first slash. -/
def splitSlash : List Char → Option (List Char × List Char)
  | [] => none
  | '/' :: rest => some ([], rest)
  | c :: rest => (splitSlash rest).map fun (before, behind) => (c :: before, behind)

/-- Splits a bare module name into the name of a package and a path inside it. The name of a scoped
    package holds a slash itself. -/
def splitPackage (specifier : String) : String × Option String :=
  let chars := specifier.toList
  match splitSlash chars with
  | none => (specifier, none)
  | some (before, behind) =>
    if chars.head? == some '@' then
      match splitSlash behind with
      | none => (specifier, none)
      | some (name, rest) =>
        (String.ofList (before ++ '/' :: name), some (String.ofList rest))
    else (String.ofList before, some (String.ofList behind))

/-- The endings to try, those of the importing file's own kind first. -/
def FileKind.endings : FileKind → List String
  | .javaScript => [".js", ".d.ts"]
  | .typings => [".d.ts", ".js"]

/-- The base path in the packages of a directory. -/
def packageBase (specifier : String) (directory : Path) : Path :=
  let base := (directory.joinText "node_modules").joinText (splitPackage specifier).1
  match (splitPackage specifier).2 with
  | some rest => base.joinText rest
  | none => base

namespace Program

/-! ### One base path -/

/-- In a declaration file, a base path `a.js` means `a.d.ts` first. -/
def lookupDeclared? (program : Program) (base : Path) : FileKind → Option Nat
  | .javaScript => none
  | .typings =>
    match base.replaceEnding? ".js" ".d.ts" with
    | some declared => program.lookupId? declared
    | none => none

/-- Tries the places that the endings give, and ends at the first one that has a file. -/
def lookupEndings? (program : Program) (place : String → Path) : List String → Option Nat
  | [] => none
  | ending :: rest =>
    match program.lookupId? (place ending) with
    | some id => some id
    | none => program.lookupEndings? place rest

/-- Tries a base path: as written, with an ending, and as a directory with an index file. -/
def resolveBase? (program : Program) (base : Path) (kind : FileKind) : Option Nat :=
  let base := base.normalize
  match program.lookupDeclared? base kind with
  | some id => some id
  | none =>
    match program.lookupId? base with
    | some id => some id
    | none =>
      match program.lookupEndings? base.appendToName kind.endings with
      | some id => some id
      | none =>
        program.lookupEndings? (fun ending => base.join (.ofNames false ["index" ++ ending])) kind.endings

/-! ### Bare names -/

/-- Looks for a bare name by its own mapping. -/
def resolveMapped? (program : Program) (specifier : String) (kind : FileKind) : Option Nat :=
  match program.mapping? specifier with
  | some path => program.resolveBase? path kind
  | none => none

/-- Looks for a path inside a package by the mapping of the package. -/
def resolveInside? (program : Program) (specifier : String) (kind : FileKind) : Option Nat :=
  match splitPackage specifier with
  | (_, none) => none
  | (name, some rest) =>
    match program.mapping? name with
    | some base => program.resolveBase? (base.joinText rest) kind
    | none => none

/-- Looks for a bare name below the source root. -/
def resolveRooted? (program : Program) (specifier : String) (kind : FileKind) : Option Nat :=
  match program.sourceRoot with
  | some root => program.resolveBase? (root.joinText specifier) kind
  | none => none

/-- Looks for a bare name in the packages of a directory, and then in those of the directories above
    it. -/
def resolveUpward? (program : Program) (specifier : String) (kind : FileKind) (directory : Path) :
    Option Nat :=
  match program.resolveBase? (packageBase specifier directory) kind with
  | some id => some id
  | none =>
    match _ : directory.parent? with
    | some above => program.resolveUpward? specifier kind above
    | none => none
termination_by directory.steps.length
decreasing_by exact Path.length_steps_parent? ‹_›

/-- Looks for a bare name: mappings come first, then the source root, then the packages around the
    file. -/
def resolveBare? (program : Program) (specifier : String) (file : SourceFile) : Option Nat :=
  match program.resolveMapped? specifier file.kind with
  | some id => some id
  | none =>
    match program.resolveInside? specifier file.kind with
    | some id => some id
    | none =>
      match program.resolveRooted? specifier file.kind with
      | some id => some id
      | none =>
        match file.path.parent? with
        | some directory => program.resolveUpward? specifier file.kind directory
        | none => none

/-! ### Module names -/

/-- The number of the file that a module name in a file means. A relative name is relative to the
    directory of the file. -/
def resolveId? (program : Program) (specifier : String) (file : SourceFile) : Option Nat :=
  if isRelative specifier then
    let directory := file.path.parent?.getD (.ofNames true [])
    program.resolveBase? (directory.joinText specifier) file.kind
  else program.resolveBare? specifier file

/-- The file that a module name in a file means. -/
def resolve? (program : Program) (specifier : String) (file : SourceFile) : Option SourceFile :=
  (program.resolveId? specifier file).bind program.file?

end Program
end BundleLens
