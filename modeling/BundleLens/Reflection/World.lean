/-
Module: BundleLens.Reflection.World
Layer: Reflection
Purpose: The program as questions see it, and what is remembered from one question to the next. Every
  file is looked at once: its index and its module wrapper do not change. Export tables are remembered
  apart for the two module formats. A table whose making met a cycle depends on where the cycle was
  entered, so it is not remembered but made again for every question.
Imports: BundleLens.Model.ClassInfo, BundleLens.Scope.Index, BundleLens.Shape.Wrapper,
  BundleLens.Typings.Index
Main exports: HostKind, Format, FileView, FileView.format, World, ExportCache, Memory, Reflect, remember
-/
import BundleLens.Model.ClassInfo
import BundleLens.Scope.Index
import BundleLens.Shape.Wrapper
import BundleLens.Typings.Index

namespace BundleLens

/-- The module formats that a host understands. -/
inductive HostKind where
  /-- Import and export declarations only. -/
  | modules
  /-- Module wrappers, wherever a file has one. -/
  | wrappers
  /-- Module wrappers of code, and declarations in all other files. -/
  | mixed
deriving DecidableEq, Repr, Inhabited

/-- The two module formats. -/
inductive Format where
  | modules
  | wrappers
deriving DecidableEq, Repr, Inhabited

/-- A file with what was found in it. -/
structure FileView where
  file : SourceFile
  index : FileIndex
  wrapper : Option Wrapper

/-- Looks at a file. -/
def FileView.ofFile (file : SourceFile) : FileView := ⟨file, .build file.items, file.wrapper?⟩

/-- The statements of a file: those of the factory if it has a wrapper, else those of the top level. -/
def FileView.statements (view : FileView) : List Stmt :=
  match view.wrapper with
  | some wrapper => wrapper.statements
  | none => view.file.statements

/-- The format that fits a file: code with a wrapper is read by it, everything else by its
    declarations. -/
def FileView.format (view : FileView) : Format :=
  if !view.file.isTypings && view.wrapper.isSome then .wrappers else .modules

/-- A program with all its files looked at, and the formats that are understood. -/
structure World where
  program : Program
  views : List FileView
  typings : TypingsIndex
  host : HostKind

namespace World

/-- The world of a program. -/
def ofProgram (program : Program) (host : HostKind) : World :=
  ⟨program, program.files.map FileView.ofFile, .build program, host⟩

/-- What was found in a file. -/
def view? (w : World) (file : SourceFile) : Option FileView := w.views[file.id]?

/-- What was found in the file that holds a position. -/
def viewAt? (w : World) (pos : Nat) : Option FileView := do w.view? (← w.program.fileAt? pos)

/-- The source of a range; empty if the range is not part of the program. -/
def text (w : World) (span : Span) : String := (w.program.sourceText? span).getD ""

end World

/-! ### Memory -/

/-- The export tables of one format: those made so far, the files whose tables are being made, and how
    often such a file was met again. -/
structure ExportCache where
  tables : List (Nat × ExportTable)
  inProgress : List Nat
  cuts : Nat
deriving Inhabited

namespace ExportCache

/-- At the start no table is made. -/
def empty : ExportCache := ⟨[], [], 0⟩

/-- Marks that the table of a file is being made. -/
def start (cache : ExportCache) (id : Nat) : ExportCache :=
  { cache with inProgress := id :: cache.inProgress }

/-- Counts that a file whose table is being made was met again. -/
def cut (cache : ExportCache) : ExportCache := { cache with cuts := cache.cuts + 1 }

/-- Marks that the table of a file is done. It is remembered if no such file was met since the given
    count. -/
def finish (cache : ExportCache) (id before : Nat) (table : ExportTable) : ExportCache :=
  { cache with
    inProgress := cache.inProgress.erase id
    tables := if cache.cuts = before then (id, table) :: cache.tables else cache.tables }

end ExportCache

/-- What is remembered between questions, and the warnings so far. -/
structure Memory where
  modules : ExportCache
  wrappers : ExportCache
  warnings : List Warning
deriving Inhabited

namespace Memory

/-- At the start nothing is remembered. -/
def empty : Memory := ⟨.empty, .empty, []⟩

/-- The tables of a format. -/
def cache (m : Memory) : Format → ExportCache
  | .modules => m.modules
  | .wrappers => m.wrappers

/-- Changes the tables of a format. -/
def update (m : Memory) (format : Format) (f : ExportCache → ExportCache) : Memory :=
  match format with
  | .modules => { m with modules := f m.modules }
  | .wrappers => { m with wrappers := f m.wrappers }

end Memory

/-- Answers that depend on what is remembered. -/
abbrev Reflect := StateM Memory

/-- Adds a warning. -/
def warn (warning : Warning) : Reflect Unit :=
  modify fun m => { m with warnings := m.warnings ++ [warning] }

/-- Whether the table of the file with a number is being made. -/
def isInProgress (format : Format) (id : Nat) : Reflect Bool := do
  return ((← get).cache format).inProgress.contains id

/-- Makes a table between the marks that it is being made and that it is done. It is remembered if no
    cycle was met on the way. -/
def makeTable (format : Format) (id : Nat) (make : Reflect ExportTable) : Reflect ExportTable := do
  let before := ((← get).cache format).cuts
  modify fun m => m.update format (·.start id)
  let table ← make
  modify fun m => m.update format (·.finish id before table)
  return table

/-- The table of the file with a number: the one that is remembered, none if it is being made already,
    else a new one. -/
def remember (format : Format) (id : Nat) (make : Reflect ExportTable) :
    Reflect (Option ExportTable) := do
  let cache := (← get).cache format
  match cache.tables.lookup id with
  | some table => return some table
  | none =>
    if cache.inProgress.contains id then
      modify fun m => m.update format ExportCache.cut
      return none
    else return some (← makeTable format id make)

end BundleLens
