/-
Module: BundleLens.Proofs.HelperNames
Layer: Proofs
Purpose: How names of helpers are written. A name is split at its last dollar sign, so a suffix of a
  dollar sign and digits is found wherever there is one, and it is taken off only behind something. A
  helper is known by its own name, alone or with one such suffix, and by nothing else.
Imports: BundleLens.Shape.Helper
Main exports: HelperSpelling, Suffixed, KnownDeclaration.helperName?, splitDollar_eq_some_iff,
  HelperSpelling.knownHelper?_eq, helperNames_spelled
-/
import BundleLens.Shape.Helper

namespace BundleLens

/-! ### Suffixes -/

/-- The name of a helper, alone or with a dollar sign and digits behind it. -/
inductive HelperSpelling (name : String) : String → Prop
  | plain : HelperSpelling name name
  | numbered (digits : List Char) : digits ≠ [] → digits.all isAsciiDigit = true →
      HelperSpelling name (name ++ String.ofList ('$' :: digits))

/-- A name, which is not empty, with a dollar sign and one or more digits behind it. -/
inductive Suffixed (name : String) : String → Prop
  | behind (digits : List Char) : name ≠ "" → digits ≠ [] → digits.all isAsciiDigit = true →
      Suffixed name (name ++ String.ofList ('$' :: digits))

theorem splitDollar_eq_none {chars : List Char} (plain : '$' ∉ chars) : splitDollar chars = none := by
  induction chars with
  | nil => rfl
  | cons c rest ih =>
      rw [List.mem_cons, not_or] at plain
      simp [splitDollar, ih plain.2, Ne.symm plain.1]

/-- Names are split at the last dollar sign. -/
theorem splitDollar_append (name : List Char) {digits : List Char} (plain : '$' ∉ digits) :
    splitDollar (name ++ '$' :: digits) = some (name, digits) := by
  induction name with
  | nil => simp [splitDollar, splitDollar_eq_none plain]
  | cons c rest ih => simp [splitDollar, ih]

theorem eq_append_of_splitDollar {chars before behind : List Char}
    (split : splitDollar chars = some (before, behind)) : chars = before ++ '$' :: behind := by
  induction chars generalizing before with
  | nil => cases split
  | cons c rest ih =>
      cases later : splitDollar rest with
      | some parts =>
          simp only [splitDollar, later, Option.some.injEq, Prod.mk.injEq] at split
          obtain ⟨rfl, rfl⟩ := split
          rw [ih later, List.cons_append]
      | none =>
          simp only [splitDollar, later, Option.ite_none_right_eq_some, beq_iff_eq] at split
          obtain ⟨rfl, same⟩ := split
          cases same
          rfl

theorem dollar_not_mem_of_digits {digits : List Char} (allDigits : digits.all isAsciiDigit = true) :
    '$' ∉ digits := by
  intro dollar
  exact absurd (List.all_eq_true.1 allDigits _ dollar) (by decide)

/-- A suffix is split off. -/
theorem splitDollar_suffix (name : String) {digits : List Char}
    (allDigits : digits.all isAsciiDigit = true) :
    splitDollar (name ++ String.ofList ('$' :: digits)).toList = some (name.toList, digits) := by
  rw [String.toList_append, String.toList_ofList,
    splitDollar_append _ (dollar_not_mem_of_digits allDigits)]

theorem Suffixed.stripSuffix_eq {name written : String} (suffixed : Suffixed name written) :
    stripSuffix written = name := by
  cases suffixed with
  | behind digits named some allDigits =>
      rw [stripSuffix, splitDollar_suffix name allDigits]
      have given : name.toList ≠ [] := fun empty => named (String.toList_eq_nil_iff.1 empty)
      simp only [allDigits, List.isEmpty_eq_false_iff.2 given, List.isEmpty_eq_false_iff.2 some,
        Bool.not_false, Bool.and_self, if_true, String.ofList_toList]

/-- A name has a suffix, which is taken off, or it has none and stays as it is. -/
theorem suffixed_or_stripSuffix_eq (written : String) :
    Suffixed (stripSuffix written) written ∨ stripSuffix written = written := by
  cases split : splitDollar written.toList with
  | none => exact .inr (by simp [stripSuffix, split])
  | some parts =>
      obtain ⟨before, behind⟩ := parts
      by_cases whole : (!before.isEmpty && !behind.isEmpty && behind.all isAsciiDigit) = true
      · have stripped : stripSuffix written = String.ofList before := by simp [stripSuffix, split, whole]
        have joined : written = String.ofList before ++ String.ofList ('$' :: behind) := by
          rw [← String.ofList_append, ← eq_append_of_splitDollar split, String.ofList_toList]
        simp only [Bool.and_eq_true, Bool.not_eq_true', List.isEmpty_eq_false_iff] at whole
        obtain ⟨⟨named, some⟩, allDigits⟩ := whole
        left
        rw [stripped, joined]
        exact .behind behind (fun empty => named (by simpa using congrArg String.toList empty)) some
          allDigits
      · exact .inr (by simp [stripSuffix, split, whole])

theorem Suffixed.spelling {name written : String} (suffixed : Suffixed name written) :
    HelperSpelling name written := by
  cases suffixed with
  | behind digits _ some allDigits => exact .numbered digits some allDigits

/-! ### Helpers -/

/-- The name that a helper is declared with. -/
def KnownDeclaration.helperName? : KnownDeclaration → Option String
  | .globalObject => none
  | .assign => some "__assign"
  | .spread => some "__spread"
  | .spreadArray => some "__spreadArray"
  | .spreadArrays => some "__spreadArrays"
  | .read => some "__read"

theorem helperNamed?_eq_some_iff {name : String} {known : KnownDeclaration} :
    helperNamed? name = some known ↔ known.helperName? = some name := by
  constructor
  · intro isHelper
    unfold helperNamed? at isHelper
    split at isHelper <;> cases isHelper <;> rfl
  · intro named
    cases known <;> cases named <;> rfl

/-- A spelling of a helper without a dollar sign in its name is stripped to the name. -/
theorem HelperSpelling.stripSuffix_eq {name written : String} (spelled : HelperSpelling name written)
    (plain : '$' ∉ name.toList) (named : name.toList ≠ []) : stripSuffix written = name := by
  cases spelled with
  | plain => simp [stripSuffix, splitDollar_eq_none plain]
  | numbered digits some allDigits =>
      have given : name ≠ "" := fun empty => named (String.toList_eq_nil_iff.2 empty)
      exact (Suffixed.behind digits given some allDigits).stripSuffix_eq

/-- Every spelling of a helper is known as the helper. -/
theorem HelperSpelling.knownHelper?_eq {name written : String} {known : KnownDeclaration}
    (spelled : HelperSpelling name written) (isHelper : helperNamed? name = some known) :
    knownHelper? written = some known := by
  have stripped : stripSuffix written = name := by
    unfold helperNamed? at isHelper
    split at isHelper
    all_goals first | exact spelled.stripSuffix_eq (by decide +kernel) (by decide +kernel) | cases isHelper
  rw [knownHelper?, stripped, isHelper]

/-- A name means a helper if it is the name of the helper, alone or with a dollar sign and digits behind
    it, and no other name does. A name is stripped to the name in front of its suffix if it has one: to
    what is in front of the last suffix only, if it has several. A name without a suffix stays as it
    is. -/
theorem helperNames_spelled (written : String) :
    (∀ known, knownHelper? written = some known ↔
      ∃ name, known.helperName? = some name ∧ HelperSpelling name written) ∧
    ∀ name, stripSuffix written = name ↔
      Suffixed name written ∨ (written = name ∧ ∀ other, ¬ Suffixed other written) := by
  constructor
  · intro known
    rw [knownHelper?, helperNamed?_eq_some_iff]
    constructor
    · intro named
      refine ⟨_, named, ?_⟩
      rcases suffixed_or_stripSuffix_eq written with suffixed | same
      · exact suffixed.spelling
      · rw [same]
        exact .plain
    · rintro ⟨name, named, spelled⟩
      rw [← helperNamed?_eq_some_iff] at named ⊢
      exact spelled.knownHelper?_eq named
  · intro name
    constructor
    · rintro rfl
      rcases suffixed_or_stripSuffix_eq written with suffixed | same
      · exact .inl suffixed
      · by_cases others : ∃ other, Suffixed other written
        · obtain ⟨other, suffixed⟩ := others
          rw [suffixed.stripSuffix_eq]
          exact .inl suffixed
        · exact .inr ⟨same.symm, not_exists.1 others⟩
    · rintro (suffixed | ⟨rfl, none⟩)
      · exact suffixed.stripSuffix_eq
      · exact (suffixed_or_stripSuffix_eq written).resolve_left (none _)

example : stripSuffix "a$1$2" = "a$1" ∧ stripSuffix "$1" = "$1" ∧ knownHelper? "__read$1$2" = none := by
  decide +kernel

end BundleLens
