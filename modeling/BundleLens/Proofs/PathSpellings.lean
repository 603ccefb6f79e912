/-
Module: BundleLens.Proofs.PathSpellings
Layer: Proofs
Purpose: Spellings of paths. Folding the steps of a joined path goes on where folding the first path
  stopped, so a path may be brought into its normal form before another one is joined to it. The text of
  a normal form is read back as the normal form, and files are registered and found by normal forms
  only, so the spelling of a path never matters.
Imports: BundleLens.Proofs.PathTexts
Main exports: Path.normalize_join, Path.joinedText, Path.ofString_joinedText, Path.normalText,
  Path.ofString_normalText, normalText_spellings
-/
import BundleLens.Proofs.PathTexts

namespace BundleLens

namespace Path

/-! ### Joined paths -/

/-- Folding a normal form gives its names. -/
theorem foldl_normalize (path : Path) :
    path.normalize.steps.foldl foldStep [] = path.steps.foldl foldStep [] := by
  show ((path.steps.foldl foldStep []).reverse.map PathStep.name).foldl foldStep [] = _
  rw [foldl_foldStep_names, List.append_nil, List.reverse_reverse]

/-- A path may be normalized before another one is joined to it. -/
theorem normalize_join (base path : Path) :
    (base.join path).normalize = (base.normalize.join path).normalize := by
  unfold join
  split
  · rfl
  · show ofNames base.absolute ((base.steps ++ path.steps).foldl foldStep []).reverse =
      ofNames base.absolute ((base.normalize.steps ++ path.steps).foldl foldStep []).reverse
    rw [List.foldl_append, List.foldl_append, foldl_normalize]

/-! ### Joined texts -/

/-- The text of a path and a text behind it. A text that starts at the root stands alone; otherwise a
    slash comes between the two, if there is anything to keep apart. -/
def joinedText (base text : String) : String :=
  if text.toList.head? = some '/' then text
  else if base = "" ∨ base.toList.getLast? = some '/' then base ++ text
  else base ++ "/" ++ text

/-- A slash ends the pieces of a text and starts new ones. -/
theorem pieces_append_slash (front behind : List Char) :
    pieces (front ++ '/' :: behind) = pieces front ++ pieces behind := by
  induction front with
  | nil => rfl
  | cons c rest ih =>
      by_cases isSlash : c = '/'
      · subst isSlash
        simp [pieces, ih]
      · obtain ⟨first, more, split⟩ := exists_pieces rest
        rw [split, List.cons_append] at ih
        rw [List.cons_append, pieces_cons isSlash ih, pieces_cons isSlash split, List.cons_append]

theorem ofString_absolute (text : String) :
    (ofString text).absolute = true ↔ text.toList.head? = some '/' := by
  simp [ofString]

/-- What is written behind a slash adds its steps. -/
theorem ofString_behind_slash {base : String} {front : List Char} (ends : base.toList = front ++ ['/'])
    (text : String) :
    ofString (base ++ text) =
      ⟨(ofString base).absolute, (ofString base).steps ++ (ofString text).steps⟩ := by
  have chars : (base ++ text).toList = front ++ '/' :: text.toList := by simp [ends]
  have root : (front ++ '/' :: text.toList).head? = (front ++ ['/']).head? := by cases front <;> rfl
  unfold ofString
  simp only [chars, ends, root, pieces_append_slash, List.filterMap_append]
  simp [pieces, stepOf]

/-- A slash at the end of a path adds nothing. -/
theorem ofString_append_slash {base : String} (given : base ≠ "") :
    ofString (base ++ "/") = ofString base := by
  have chars : (base ++ "/").toList = base.toList ++ ['/'] := by simp
  have root : (base.toList ++ ['/']).head? = base.toList.head? :=
    List.head?_append_of_ne_nil _ fun empty => given (String.toList_eq_nil_iff.1 empty)
  unfold ofString
  simp only [chars, root, pieces_append_slash, List.filterMap_append]
  simp [pieces, stepOf]

/-- Joined texts are read as joined paths. -/
theorem ofString_joinedText (base text : String) :
    ofString (joinedText base text) = (ofString base).join (ofString text) := by
  unfold joinedText join
  simp only [ofString_absolute]
  split
  · rfl
  · rename_i relative
    split
    · rename_i ending
      rcases ending with rfl | slash
      · rw [String.empty_append]
        have read : (ofString text).absolute = false := by
          rwa [← ofString_absolute, Bool.not_eq_true] at relative
        exact congrArg (Path.mk · (ofString text).steps) read
      · obtain ⟨front, ends⟩ := List.getLast?_eq_some_iff.1 slash
        exact ofString_behind_slash ends text
    · rename_i apart
      have ends : (base ++ "/").toList = base.toList ++ ['/'] := by simp
      rw [ofString_behind_slash ends, ofString_append_slash fun empty => apart (.inl empty)]

/-! ### Texts of normal forms -/

/-- The text of the normal form of the path that a text spells. -/
def normalText (text : String) : String := (ofString text).normalize.toString

/-- A path of clean steps is read back from its text. -/
theorem ofString_toString {path : Path} (clean : ∀ step ∈ path.steps, IsClean step) :
    ofString path.toString = path := by
  obtain ⟨absolute, steps⟩ := path
  rcases List.eq_nil_or_concat' steps with rfl | ⟨front, last, rfl⟩
  · cases absolute <;> decide +kernel
  · have isLast := clean last (List.mem_append_right front List.mem_cons_self)
    rw [toString_concat,
      ofString_textOf (fun step inside => clean step (List.mem_append_left _ inside)) isLast.1,
      isLast.2]
    rfl

/-- A normal form is read back from its text. -/
theorem ofString_normalText (text : String) : ofString (normalText text) = (ofString text).normalize :=
  ofString_toString (IsWritten.isClean ⟨text, rfl⟩)

theorem normalText_eq_iff {first second : String} :
    normalText first = normalText second ↔ (ofString first).normalize = (ofString second).normalize := by
  constructor
  · intro same
    rw [← ofString_normalText, same, ofString_normalText]
  · intro same
    rw [normalText, same, normalText]

/-- No piece of the text of a normal form is a step that leads nowhere or back. -/
theorem stepOf_of_mem_normalText {text : String} {piece : List Char}
    (inside : piece ∈ pieces (normalText text).toList) :
    stepOf piece ≠ some .current ∧ stepOf piece ≠ some .parent := by
  have named : ∀ step, stepOf piece = some step → ∃ name, step = .name name := by
    intro step read
    have isStep : step ∈ (ofString (normalText text)).steps := List.mem_filterMap.2 ⟨piece, inside, read⟩
    rw [ofString_normalText] at isStep
    obtain ⟨name, _, rfl⟩ := List.mem_map.1 isStep
    exact ⟨name, rfl⟩
  constructor
  · intro read
    obtain ⟨name, impossible⟩ := named _ read
    cases impossible
  · intro read
    obtain ⟨name, impossible⟩ := named _ read
    cases impossible

end Path

open BundleLens.Path in
/-- The normal form of a joined path is that of the second path joined to the normal form of the first.
    A normal form is its own normal form, no piece of its text is `.` or `..`, and it starts at the root
    just if the path does. So all spellings of one normal form find the same file of a program, and a
    new file is found by the spellings of the path that it is registered under. -/
theorem normalText_spellings (a b : String) :
    normalText (joinedText a b) = normalText (joinedText (normalText a) b) ∧
    normalText (normalText a) = normalText a ∧
    (∀ piece ∈ pieces (normalText a).toList, piece ≠ ['.'] ∧ piece ≠ ['.', '.']) ∧
    ((normalText a).toList.head? = some '/' ↔ a.toList.head? = some '/') ∧
    (∀ program : Program, normalText a = normalText b →
      program.fileByPath? (.ofString a) = program.fileByPath? (.ofString b)) ∧
    ∀ (program : Program) (source : String),
      (program.addSource (.ofString a) source).1.fileByPath? (.ofString b) =
        match (program.addSource (.ofString a) source).2 with
        | .ok file => if normalText a = normalText b then some file else program.fileByPath? (.ofString b)
        | .error _ => program.fileByPath? (.ofString b) := by
  refine ⟨?_, ?_, ?_, ?_, ?_, ?_⟩
  · rw [normalText_eq_iff, ofString_joinedText, ofString_joinedText, ofString_normalText]
    exact normalize_join _ _
  · rw [normalText_eq_iff, ofString_normalText]
    exact normalize_of_isNormal (isNormal_normalize _)
  · intro piece inside
    obtain ⟨notCurrent, notParent⟩ := stepOf_of_mem_normalText inside
    constructor
    · rintro rfl
      exact notCurrent rfl
    · rintro rfl
      exact notParent rfl
  · rw [← ofString_absolute, ofString_normalText, ← ofString_absolute]
    rfl
  · intro program same
    rw [Program.fileByPath?, normalText_eq_iff.1 same, Program.fileByPath?]
  · intro program source
    rw [Program.fileByPath?, Program.lookup?_addSource]
    cases added : (program.addSource (.ofString a) source).2 with
    | error fault => rfl
    | ok file =>
        have place := Program.path_of_ok added
        simp only [place, normalText_eq_iff, Program.fileByPath?]

example : Path.normalText "/pkg/src/../lib/.//a.js" = "/pkg/lib/a.js" ∧ Path.normalText "../a/.." = "" := by
  decide +kernel

end BundleLens
