/-
Module: BundleLens.Path
Layer: Paths
Purpose: Slash-separated paths as lists of components, and their normal form. Nothing here looks at a
  disk: `..` is folded against the name in front of it, and at the root or at the start of a relative
  path it has nothing to fold.
Main exports: Path, Path.ofString, Path.toString, Path.join, Path.normalize, Path.parent?, Path.tidy,
  Path.startsWith, Path.relativeTo?, Path.appendToName, Path.replaceEnding?
-/

namespace BundleLens

/-- One step of a path. -/
inductive PathStep where
  | current
  | parent
  | name (text : String)
deriving DecidableEq, Repr, Inhabited

/-- A path: whether it starts at the root, and its steps. -/
structure Path where
  absolute : Bool
  steps : List PathStep
deriving DecidableEq, Repr, Inhabited

namespace Path

/-- The pieces of a text between slashes. -/
def pieces : List Char → List (List Char)
  | [] => [[]]
  | '/' :: rest => [] :: pieces rest
  | c :: rest =>
    match pieces rest with
    | [] => [[c]]
    | piece :: more => (c :: piece) :: more

/-- The step that a piece between slashes stands for; empty pieces stand for nothing. -/
def stepOf : List Char → Option PathStep
  | [] => none
  | ['.'] => some .current
  | ['.', '.'] => some .parent
  | piece => some (.name (String.ofList piece))

/-- Reads a path. Repeated and trailing slashes add nothing. -/
def ofString (text : String) : Path :=
  let chars := text.toList
  ⟨chars.head? == some '/', (pieces chars).filterMap stepOf⟩

/-- The text of a step. -/
def stepText : PathStep → String
  | .current => "."
  | .parent => ".."
  | .name text => text

/-- Writes a path. The empty relative path is the empty text. -/
def toString (path : Path) : String :=
  (if path.absolute then "/" else "") ++ "/".intercalate (path.steps.map stepText)

instance : ToString Path := ⟨toString⟩

/-- A path made of plain names only. -/
def ofNames (absolute : Bool) (names : List String) : Path := ⟨absolute, names.map .name⟩

/-- Appends a path; an absolute one replaces what is in front of it. -/
def join (base path : Path) : Path :=
  if path.absolute then path else ⟨base.absolute, base.steps ++ path.steps⟩

/-- Appends a path given as text. -/
def joinText (base : Path) (text : String) : Path := base.join (ofString text)

/-- Folds one step into the names so far, last name first. -/
def foldStep (names : List String) : PathStep → List String
  | .current => names
  | .parent => names.tail
  | .name text => text :: names

/-- The normal form: `.` is dropped and `..` takes the name in front of it away. -/
def normalize (path : Path) : Path :=
  ofNames path.absolute (path.steps.foldl foldStep []).reverse

/-- Whether a path is its own normal form. -/
def isNormal (path : Path) : Bool :=
  path.steps.all fun
    | .name _ => true
    | _ => false

/-- The path without its last step; the root and the empty path have none. -/
def parent? (path : Path) : Option Path :=
  if path.steps.isEmpty then none else some ⟨path.absolute, path.steps.dropLast⟩

theorem length_steps_parent? {path directory : Path} (above : path.parent? = some directory) :
    directory.steps.length < path.steps.length := by
  unfold parent? at above
  split at above
  · cases above
  · rename_i notEmpty
    cases above
    have some_step := List.length_pos_iff.2 (mt List.isEmpty_iff.2 notEmpty)
    rw [List.length_dropLast]
    omega

/-- The last name of a path, if it ends in one. -/
def fileName? (path : Path) : Option String :=
  match path.steps.getLast? with
  | some (.name text) => some text
  | _ => none

/-- The path without the `.` steps that lead nowhere. Only one at the start of a relative path stays. -/
def tidy (path : Path) : Path :=
  match path.absolute, path.steps with
  | false, .current :: rest => ⟨false, .current :: rest.filter (· != .current)⟩
  | absolute, steps => ⟨absolute, steps.filter (· != .current)⟩

/-- Whether a path says nothing at all. -/
def isBlank (path : Path) : Bool := !path.absolute && path.steps.isEmpty

/-- Whether `base` stands in front of the path, step by step. The blank path stands in front of all. -/
def startsWith (path base : Path) : Bool :=
  (base.isBlank || path.absolute == base.absolute) && base.steps.isPrefixOf path.steps

/-- What stands behind `base`, if `base` stands in front of the path. It is relative, unless it is the
    whole of an absolute path. -/
def relativeTo? (path base : Path) : Option Path :=
  if path.startsWith base then
    some ⟨path.absolute && !base.absolute, path.steps.drop base.steps.length⟩
  else none

/-- Replaces the last name by another one; a path without names gets it as its only one. -/
def withName (path : Path) (text : String) : Path :=
  ⟨path.absolute, path.steps.dropLast ++ [.name text]⟩

/-- Writes a text directly behind a path: `/a/b` and `.js` give `/a/b.js`. -/
def appendToName (path : Path) (ending : String) : Path :=
  path.withName ((path.fileName?.getD "") ++ ending)

/-- A text without an ending, if it has the ending. -/
def dropEnding? (text ending : String) : Option String :=
  let chars := text.toList
  let tail := ending.toList
  if tail.isSuffixOf chars then some (String.ofList (chars.take (chars.length - tail.length))) else none

/-- The path with one ending of its last name replaced by another, if it has the ending. -/
def replaceEnding? (path : Path) (old new : String) : Option Path := do
  let name ← path.fileName?
  let stem ← dropEnding? name old
  some (path.withName (stem ++ new))

/-- Whether the text of a path ends in the given text, which holds no slash. -/
def hasEnding (path : Path) (ending : String) : Bool :=
  match path.fileName? with
  | some name => (dropEnding? name ending).isSome
  | none => false

/-- Paths in the order of their names, compared one by one. -/
def before (a b : Path) : Bool :=
  (a.steps.map stepText) < (b.steps.map stepText)

end Path
end BundleLens
