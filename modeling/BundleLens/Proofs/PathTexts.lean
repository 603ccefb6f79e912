/-
Module: BundleLens.Proofs.PathTexts
Layer: Proofs
Purpose: Paths and their texts. The text of a path is its steps with slashes between them, and reading
  it gives the steps back if no name holds a slash. What is written behind a path belongs to its last
  step, and an ending that is taken off the text of a path is taken off its last step.
Imports: BundleLens.Proofs.ResolutionOrder
Main exports: Path.IsClean, Path.IsWritten, Path.textOf, Path.ofString_textOf, Path.dropEnding?_textOf
-/
import BundleLens.Proofs.ResolutionOrder

namespace BundleLens

namespace Path

/-! ### Pieces between slashes -/

theorem pieces_eq_splitOn (chars : List Char) : pieces chars = chars.splitOn '/' := by
  induction chars with
  | nil => rfl
  | cons c rest ih =>
      rw [List.splitOn_cons_eq_if_modifyHead, ← ih]
      by_cases isSlash : c = '/'
      · subst isSlash
        rfl
      · rw [if_neg (by simpa using isSlash)]
        obtain ⟨piece, more, split⟩ := List.exists_cons_of_ne_nil (ih ▸ List.splitOn_ne_nil '/' rest)
        simp [pieces, split]

theorem exists_pieces (chars : List Char) : ∃ first more, pieces chars = first :: more :=
  List.exists_cons_of_ne_nil (pieces_eq_splitOn chars ▸ List.splitOn_ne_nil '/' chars)

theorem pieces_cons {c : Char} {rest first : List Char} {more : List (List Char)} (noSlash : c ≠ '/')
    (split : pieces rest = first :: more) : pieces (c :: rest) = (c :: first) :: more := by
  simp [pieces, split]

theorem intercalate_pieces (chars : List Char) : ['/'].intercalate (pieces chars) = chars := by
  rw [pieces_eq_splitOn, List.intercalate_splitOn]

theorem pieces_intercalate {parts : List (List Char)} (apart : ∀ part ∈ parts, '/' ∉ part)
    (given : parts ≠ []) : pieces (['/'].intercalate parts) = parts := by
  rw [pieces_eq_splitOn, List.splitOn_intercalate '/' apart given]

/-- No piece holds a slash. -/
theorem slash_not_mem_of_mem_pieces {chars piece : List Char} (inside : piece ∈ pieces chars) :
    '/' ∉ piece := by
  induction chars generalizing piece with
  | nil =>
      cases List.mem_singleton.1 inside
      exact List.not_mem_nil
  | cons c rest ih =>
      by_cases isSlash : c = '/'
      · subst isSlash
        rcases List.mem_cons.1 inside with rfl | behind
        · exact List.not_mem_nil
        · exact ih behind
      · obtain ⟨first, more, split⟩ := exists_pieces rest
        rw [pieces_cons isSlash split] at inside
        rcases List.mem_cons.1 inside with rfl | behind
        · have pure : '/' ∉ first := ih (split ▸ List.mem_cons_self)
          intro slash
          rcases List.mem_cons.1 slash with same | later
          · exact isSlash same.symm
          · exact pure later
        · exact ih (split ▸ List.mem_cons_of_mem first behind)

/-- What is written behind the last of some parts belongs to it. -/
theorem intercalate_concat_append (front : List (List Char)) (last tail : List Char) :
    ['/'].intercalate (front ++ [last ++ tail]) = ['/'].intercalate (front ++ [last]) ++ tail := by
  induction front with
  | nil => simp
  | cons part rest ih =>
      rw [List.cons_append, List.cons_append, List.intercalate_cons_of_ne_nil (by simp),
        List.intercalate_cons_of_ne_nil (by simp), ih]
      simp only [List.append_assoc]

/-! ### Steps and texts -/

/-- A step that is read back from its own text. -/
def IsClean (step : PathStep) : Prop :=
  '/' ∉ (stepText step).toList ∧ stepOf (stepText step).toList = some step

/-- A path in normal form that is read from a text. -/
def IsWritten (path : Path) : Prop := ∃ text, path = (ofString text).normalize

/-- The text of a path of some steps and one more, of which only the text is known. -/
def textOf (absolute : Bool) (steps : List PathStep) (last : String) : String :=
  String.ofList <| ['/'].intercalate <|
    (if absolute then [[]] else []) ++ steps.map (stepText · |>.toList) ++ [last.toList]

theorem stepText_of_stepOf {piece : List Char} {step : PathStep} (read : stepOf piece = some step) :
    (stepText step).toList = piece := by
  unfold stepOf at read
  split at read <;> cases read <;> simp [stepText]

theorem isClean_of_mem {text : String} {step : PathStep} (inside : step ∈ (ofString text).steps) :
    IsClean step := by
  obtain ⟨piece, isPiece, read⟩ := List.mem_filterMap.1 inside
  rw [IsClean, stepText_of_stepOf read]
  exact ⟨slash_not_mem_of_mem_pieces isPiece, read⟩

/-- The names of a normal form are names of the path. -/
theorem mem_of_mem_foldl {steps : List PathStep} {name : String} {folded : List String}
    (inside : name ∈ steps.foldl foldStep folded) : .name name ∈ steps ∨ name ∈ folded := by
  induction steps generalizing folded with
  | nil => exact .inr inside
  | cons step rest ih =>
      rcases ih inside with behind | here
      · exact .inl (List.mem_cons_of_mem step behind)
      · cases step with
        | current => exact .inr here
        | parent => exact .inr (List.mem_of_mem_tail here)
        | name text =>
            rcases List.mem_cons.1 here with rfl | before
            · exact .inl List.mem_cons_self
            · exact .inr before

theorem IsWritten.isNormal {path : Path} (written : path.IsWritten) : path.isNormal = true := by
  obtain ⟨text, rfl⟩ := written
  exact isNormal_normalize _

theorem IsWritten.isClean {path : Path} (written : path.IsWritten) : ∀ step ∈ path.steps, IsClean step := by
  obtain ⟨text, rfl⟩ := written
  intro step inside
  obtain ⟨name, isName, rfl⟩ := List.mem_map.1 inside
  rcases mem_of_mem_foldl (List.mem_reverse.1 isName) with own | nowhere
  · exact isClean_of_mem own
  · cases nowhere

section Texts

variable {absolute : Bool} {steps : List PathStep} {last : String}

theorem toString_concat (absolute : Bool) (steps : List PathStep) (step : PathStep) :
    (⟨absolute, steps ++ [step]⟩ : Path).toString = textOf absolute steps (stepText step) := by
  apply String.toList_injective
  rw [toString, textOf, String.toList_append, String.toList_intercalate, String.toList_ofList]
  cases absolute with
  | false => simp [Function.comp_def]
  | true =>
      rw [if_pos rfl, if_pos rfl, List.append_assoc, List.singleton_append,
        List.intercalate_cons_of_ne_nil (by simp)]
      simp [Function.comp_def]

theorem textOf_append (absolute : Bool) (steps : List PathStep) (last tail : String) :
    textOf absolute steps last ++ tail = textOf absolute steps (last ++ tail) := by
  apply String.toList_injective
  simp only [textOf, String.toList_append, String.toList_ofList, intercalate_concat_append]

theorem pieces_textOf (absolute : Bool) (clean : ∀ step ∈ steps, IsClean step) (apart : '/' ∉ last.toList) :
    pieces (textOf absolute steps last).toList =
      (if absolute then [[]] else []) ++ steps.map (stepText · |>.toList) ++ [last.toList] := by
  rw [textOf, String.toList_ofList]
  refine pieces_intercalate ?_ (by simp)
  intro part inside
  rcases List.mem_append.1 inside with front | own
  · rcases List.mem_append.1 front with root | named
    · cases absolute with
      | false => cases root
      | true =>
          cases List.mem_singleton.1 root
          exact List.not_mem_nil
    · obtain ⟨step, isStep, rfl⟩ := List.mem_map.1 named
      exact (clean step isStep).1
  · cases List.mem_singleton.1 own
    exact apart

/-- A text starts with a slash if its first piece is empty and not its only one. -/
theorem head?_eq_slash_iff (chars : List Char) :
    chars.head? = some '/' ↔ ∃ piece more, pieces chars = [] :: piece :: more := by
  cases chars with
  | nil => simp [pieces]
  | cons c rest =>
      obtain ⟨first, more, split⟩ := exists_pieces rest
      by_cases isSlash : c = '/'
      · subst isSlash
        simp [pieces, split]
      · simp [pieces_cons isSlash split, isSlash]

/-- Reading the text of a path gives its steps back. -/
theorem ofString_textOf (clean : ∀ step ∈ steps, IsClean step) (apart : '/' ∉ last.toList) :
    ofString (textOf absolute steps last) = ⟨absolute, steps ++ (stepOf last.toList).toList⟩ := by
  have parts := pieces_textOf absolute clean apart
  have rooted : (textOf absolute steps last).toList.head? = some '/' ↔ absolute = true := by
    rw [head?_eq_slash_iff, parts]
    cases absolute with
    | true => cases steps <;> simp
    | false =>
        cases steps with
        | nil => simp
        | cons step rest =>
            have given : (stepText step).toList ≠ [] := by
              intro none
              have read := (clean step List.mem_cons_self).2
              rw [none] at read
              cases read
            simp [given]
  have read : (steps.map (stepText · |>.toList)).filterMap stepOf = steps := by
    rw [List.filterMap_map]
    exact (List.filterMap_congr fun step inside => (clean step inside).2).trans List.filterMap_some
  have root : ((if absolute then [[]] else []) : List (List Char)).filterMap stepOf = [] := by
    cases absolute <;> rfl
  unfold ofString
  simp only [parts, Path.mk.injEq]
  constructor
  · cases absolute <;> simpa using rooted
  · rw [List.filterMap_append, List.filterMap_append, read, root, List.nil_append]
    cases stepped : stepOf last.toList <;> simp [stepped]

end Texts

/-! ### Endings -/

theorem dropEnding?_eq_some_iff {text ending stem : String} :
    dropEnding? text ending = some stem ↔ text.toList = stem.toList ++ ending.toList := by
  unfold dropEnding?
  simp only [Option.ite_none_right_eq_some, Option.some.injEq, List.isSuffixOf_iff_suffix]
  constructor
  · rintro ⟨⟨front, whole⟩, rfl⟩
    simp [← whole]
  · intro whole
    refine ⟨⟨stem.toList, whole.symm⟩, ?_⟩
    simp [whole]

/-- An ending without slashes is taken off the last step. -/
theorem dropEnding?_textOf {absolute : Bool} {steps : List PathStep} {last ending : String}
    (clean : ∀ step ∈ steps, IsClean step) (apart : '/' ∉ last.toList) (plain : '/' ∉ ending.toList) :
    dropEnding? (textOf absolute steps last) ending =
      (dropEnding? last ending).map (textOf absolute steps) := by
  apply Option.ext
  intro stem
  rw [dropEnding?_eq_some_iff, Option.map_eq_some_iff]
  constructor
  · intro whole
    -- the ending belongs to the last piece of what is in front of it
    obtain ⟨front, piece, split⟩ : ∃ front piece, pieces stem.toList = front ++ [piece] :=
      (List.eq_nil_or_concat' _).resolve_left (pieces_eq_splitOn _ ▸ List.splitOn_ne_nil '/' _)
    have parts := pieces_textOf absolute clean apart
    have again : (textOf absolute steps last).toList =
        ['/'].intercalate (front ++ [piece ++ ending.toList]) := by
      rw [whole, intercalate_concat_append, ← split, intercalate_pieces]
    rw [again, pieces_intercalate _ (by simp)] at parts
    · obtain ⟨same, own⟩ := List.append_inj' parts rfl
      rw [List.cons.injEq] at own
      refine ⟨String.ofList piece, ?_, ?_⟩
      · rw [dropEnding?_eq_some_iff, String.toList_ofList, own.1]
      · apply String.toList_injective
        rw [textOf, String.toList_ofList, String.toList_ofList, ← same, ← split, intercalate_pieces]
    · intro part inside
      rcases List.mem_append.1 inside with before | own
      · exact slash_not_mem_of_mem_pieces (split ▸ List.mem_append_left _ before)
      · cases List.mem_singleton.1 own
        have pure : '/' ∉ piece :=
          slash_not_mem_of_mem_pieces (split ▸ List.mem_append_right _ List.mem_cons_self)
        simp [pure, plain]
  · rintro ⟨short, isShort, rfl⟩
    rw [dropEnding?_eq_some_iff, ← String.toList_append] at isShort
    rw [← String.toList_append, textOf_append, String.toList_injective isShort]

end Path

end BundleLens
