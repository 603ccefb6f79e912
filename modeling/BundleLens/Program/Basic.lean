/-
Module: BundleLens.Program.Basic
Layer: Program
Purpose: A program: the files that were read, the position space they share, and the settings that
  module resolution uses. Every text that is read gets the next free room of the position space, with
  one unused position behind it, and keeps the room even if it has a fault; only texts without a fault
  become files. Files are numbered in the order in which they are registered, and an index by path leads
  to their numbers.
Imports: BundleLens.Path, BundleLens.Grammar.File, BundleLens.Text.Position
Main exports: FileKind, SourceFile, SyntaxFault, Program, Program.addSource, Program.lookupId?,
  Program.fileByPath?, Program.fileAt?, Program.sourceText?, Program.lineColumn
-/
import BundleLens.Path
import BundleLens.Grammar.File
import BundleLens.Text.Position

namespace BundleLens

/-- The grammar that a file is read with. -/
inductive FileKind where
  | javaScript
  | typings
deriving DecidableEq, Repr, Inhabited

/-- Declaration files are told by the ending of their path. -/
def FileKind.ofPath (path : Path) : FileKind :=
  if path.hasEnding ".d.ts" then .typings else .javaScript

/-- A file of a program. -/
structure SourceFile where
  id : Nat
  path : Path
  kind : FileKind
  isModule : Bool
  items : List Item
  span : Span

namespace SourceFile

/-- The statements of the top level; imports and exports are none. -/
def statements (file : SourceFile) : List Stmt := file.items.filterMap Item.stmt?

/-- Whether the file is a declaration file. -/
def isTypings (file : SourceFile) : Bool := file.kind == .typings

/-- The endings that the name of a module does not show. -/
def endings : List String := [".d.ts", ".umd.js", ".js", ".mjs", ".cjs"]

/-- The path as text, without the first of the endings that it has. -/
def stem (file : SourceFile) : String :=
  let text := file.path.toString
  (endings.findSome? (Path.dropEnding? text ·)).getD text

end SourceFile

/-- A place where a text has a fault. -/
structure SyntaxFault where
  path : Path
  place : Text.LineColumn
deriving DecidableEq, Repr, Inhabited

/-- A text that was read, and the position of its first character. -/
structure Room where
  start : Nat
  text : List Char

/-- The position behind the last character of a room. -/
def Room.finish (room : Room) : Nat := room.start + Text.byteCount room.text

/-- The index by path: paths with the numbers of their files, the newest entry first. -/
abbrev PathIndex := List (Path × Nat)

/-- An index leads only to numbers of files. -/
def PathIndex.Within (index : PathIndex) (count : Nat) : Prop := ∀ entry ∈ index, entry.2 < count

/-- One more file takes the next number. -/
theorem PathIndex.Within.register {index : PathIndex} {files : List SourceFile}
    (within : index.Within files.length) (path : Path) (file : SourceFile) :
    PathIndex.Within ((path, files.length) :: index) (files ++ [file]).length := by
  intro entry inside
  rw [List.length_append, List.length_singleton]
  rcases List.mem_cons.1 inside with rfl | earlier
  · exact Nat.lt_succ_self _
  · exact Nat.lt_succ_of_lt (within entry earlier)

/-- A set of files that were read, with the settings of module resolution. -/
structure Program where
  rooms : List Room
  files : List SourceFile
  byPath : PathIndex
  within : byPath.Within files.length
  mappings : List (String × Path)
  sourceRoot : Option Path
  typingsRoot : Option Path
  next : Nat

namespace Program

/-- A program without files. Position zero belongs to no file. -/
def empty : Program where
  rooms := []
  files := []
  byPath := []
  within := fun _ inside => absurd inside List.not_mem_nil
  mappings := []
  sourceRoot := none
  typingsRoot := none
  next := 1

/-- Reads a text and registers it under a path. A text with a fault registers nothing, but keeps its
    room. -/
def addSource (program : Program) (path : Path) (source : String) :
    Program × Except SyntaxFault SourceFile :=
  let path := path.normalize
  let kind := FileKind.ofPath path
  let text := Text.stripMark source.toList
  let room : Room := ⟨program.next, text⟩
  let grown := { program with rooms := program.rooms ++ [room], next := room.finish + 1 }
  match Grammar.parseText (kind == .typings) room.start text with
  | .error pos => (grown, .error ⟨path, Text.lineColumn text (pos - room.start)⟩)
  | .ok parsed =>
    let file : SourceFile :=
      ⟨program.files.length, path, kind, parsed.isModule, parsed.items, ⟨room.start, room.finish⟩⟩
    ({ grown with
        files := program.files ++ [file]
        byPath := (path, program.files.length) :: program.byPath
        within := program.within.register path file }, .ok file)

/-- The file with a number. -/
def file? (program : Program) (id : Nat) : Option SourceFile := program.files[id]?

/-- The number that the index has for a path in normal form. -/
def lookupId? (program : Program) (path : Path) : Option Nat := program.byPath.lookup path

/-- The file that the index has for a path in normal form. -/
def lookup? (program : Program) (path : Path) : Option SourceFile :=
  (program.lookupId? path).bind program.file?

/-- The file that the index has for a path, however it is spelled. -/
def fileByPath? (program : Program) (path : Path) : Option SourceFile :=
  program.lookup? path.normalize

/-- The file that holds a position. -/
def fileAt? (program : Program) (pos : Nat) : Option SourceFile :=
  program.files.find? (·.span.contains pos)

/-- The last text that starts at or before a position. -/
def roomAt? (program : Program) (pos : Nat) : Option Room :=
  program.rooms.reverse.find? (·.start ≤ pos)

/-- The text of a range, if the range lies inside one text. -/
def sourceText? (program : Program) (span : Span) : Option String := do
  let first ← program.roomAt? span.lo
  let last ← program.roomAt? span.hi
  if first.start = last.start ∧ span.hi ≤ first.finish then
    let behind := Text.dropBytes (span.lo - first.start) first.text
    some (String.ofList (Text.takeBytes (span.hi - span.lo) behind))
  else none

/-- The line and column of a position. -/
def lineColumn (program : Program) (pos : Nat) : Text.LineColumn :=
  match program.roomAt? pos with
  | some room => Text.lineColumn room.text (pos - room.start)
  | none => ⟨0, 1⟩

/-- Maps a bare module name to a path. A later mapping of the name replaces an earlier one. -/
def mapPath (program : Program) (specifier : String) (path : Path) : Program :=
  { program with mappings := (specifier, path.normalize) :: program.mappings }

/-- The path that a bare module name is mapped to. -/
def mapping? (program : Program) (specifier : String) : Option Path :=
  program.mappings.lookup specifier

/-- Sets the directory that bare module names are looked up in. -/
def setSourceRoot (program : Program) (root : Path) : Program :=
  { program with sourceRoot := some root.normalize }

/-- Sets the directory of the declaration files. -/
def setTypingsRoot (program : Program) (root : Path) : Program :=
  { program with typingsRoot := some root.normalize }

/-- The declaration files below the typings root, in the order of registration; all of them if there is
    no such root. -/
def typingsFiles (program : Program) : List SourceFile :=
  program.files.filter fun file =>
    file.isTypings && (program.typingsRoot.map (file.path.startsWith ·)).getD true

end Program
end BundleLens
