/-
Module: BundleLens.Project.Disk
Layer: Projects
Purpose: What loading a package needs to know about a disk, and a disk that is a list of files with
  their texts. The directories of such a disk are those that its files and its working directory stand
  in.
Imports: BundleLens.Path
Main exports: Disk, FileTree, FileTree.canonical?, FileTree.disk
-/
import BundleLens.Path

namespace BundleLens

/-- The questions that loading a package asks about a disk. Paths that users write are given as
    texts. -/
structure Disk (m : Type → Type) where
  /-- The absolute path without dots of what a path leads to; none if it leads to nothing. -/
  canonical? : String → m (Option Path)
  /-- Whether there is a file at a path. -/
  isFile : Path → m Bool
  /-- The text of the file that a path leads to. -/
  readText? : String → m (Option String)
  /-- All files at or below a path. -/
  filesBelow : Path → m (List Path)

/-- Files with their texts, by the names of their absolute paths, and a working directory. -/
structure FileTree where
  workingDirectory : List String
  files : List (List String × String)
deriving Inhabited

namespace FileTree

/-- A tree of files with paths that are relative to the working directory. Of two files with one path
    the later one counts. -/
def ofFiles (workingDirectory : Path) (files : List (String × String)) : FileTree :=
  let names := fun (path : Path) => path.normalize.steps.map Path.stepText
  let absolute := files.map fun (path, text) => (names (workingDirectory.joinText path), text)
  ⟨names workingDirectory, absolute.reverse⟩

/-- The text of the file with the given names. -/
def textAt? (tree : FileTree) (names : List String) : Option String := tree.files.lookup names

/-- Whether there is a directory with the given names. -/
def isDirectory (tree : FileTree) (names : List String) : Bool :=
  names.isPrefixOf tree.workingDirectory ||
    tree.files.any fun file => names.isPrefixOf file.1 && names.length < file.1.length

/-- Whether there is a file or a directory with the given names. -/
def hasEntry (tree : FileTree) (names : List String) : Bool :=
  (tree.textAt? names).isSome || tree.isDirectory names

/-- Goes one step. Only directories lead further. -/
def enter? (tree : FileTree) (names : List String) (step : PathStep) : Option (List String) :=
  if tree.isDirectory names then
    match step with
    | .current => some names
    | .parent => some names.dropLast
    | .name text => if tree.hasEntry (names ++ [text]) then some (names ++ [text]) else none
  else none

/-- Where a path leads to. A slash at its end asks for a directory. -/
def follow? (tree : FileTree) (text : String) : Option (List String) :=
  if text.isEmpty then none
  else do
    let path := Path.ofString text
    let start := if path.absolute then [] else tree.workingDirectory
    let names ← path.steps.foldlM tree.enter? start
    if text.toList.getLast? == some '/' && !tree.isDirectory names then none else some names

/-- The absolute path without dots of what a path leads to. -/
def canonical? (tree : FileTree) (text : String) : Option Path :=
  (tree.follow? text).map (Path.ofNames true)

/-- Whether there is a file at an absolute path. -/
def isFile (tree : FileTree) (path : Path) : Bool :=
  path.absolute && (tree.textAt? (path.steps.map Path.stepText)).isSome

/-- The text of the file that a path leads to. -/
def readText? (tree : FileTree) (text : String) : Option String := do
  tree.textAt? (← tree.follow? text)

/-- All files at or below an absolute path. -/
def filesBelow (tree : FileTree) (path : Path) : List Path :=
  let paths := tree.files.map fun file => Path.ofNames true file.1
  (paths.filter fun below => path.absolute && below.startsWith path).eraseDups

/-- The tree as a disk. -/
def disk (tree : FileTree) : Disk Id where
  canonical? text := tree.canonical? text
  isFile path := tree.isFile path
  readText? text := tree.readText? text
  filesBelow path := tree.filesBelow path

end FileTree
end BundleLens
