/-
Module: BundleLens.Proofs.ParamPositions
Layer: Proofs
Purpose: What an array of metadata tells about constructor parameters, position by position. A parameter
  gets what the object literal at its own position records, as long as no hole and no spread up to there
  has an element behind it: those are left out before the positions are counted.
Imports: BundleLens.Proofs.ParamRecords
Main exports: Expr.givenArray?, World.recordAt, Unbroken, constructorParameters_positions
-/
import BundleLens.Proofs.ParamRecords

namespace BundleLens

/-! ### Arrays of metadata -/

/-- The elements of an array literal, holes and spreads included. -/
def Expr.array? (e : Expr) : Option (List Element) :=
  match e.bare with
  | .array _ elements => some elements
  | _ => none

/-- The array that a value is, or that the function which it is only returns. -/
def Expr.givenArray? (value : Expr) : Option (List Element) :=
  match value.array? with
  | some elements => some elements
  | none => do (← (← value.functionLike?).returned?).array?

theorem Expr.elements?_eq (e : Expr) : e.elements? = e.array?.map (·.filterMap Element.plain?) := by
  unfold Expr.elements? Expr.array?
  cases e.bare <;> rfl

theorem metadataElements?_eq (value : Expr) :
    metadataElements? value = value.givenArray?.map (·.filterMap Element.plain?) := by
  simp only [metadataElements?, Expr.givenArray?, Expr.elements?_eq]
  cases value.array? with
  | some elements => rfl
  | none =>
      simp only [Option.map_none, bind]
      cases value.functionLike? with
      | none => rfl
      | some function => cases returned : function.returned? <;> simp [returned]

/-! ### Positions -/

/-- What the element at a position records. Nothing is recorded behind the last element, by a hole, by a
    spread and by what is no object literal. -/
def World.recordAt (w : World) (elements : List Element) (i : Nat) : ParamInfo :=
  match elements[i]? with
  | some (.item e) => w.paramInfoOf e
  | _ => .blank

/-- No hole and no spread up to a position is followed by an element that is neither. -/
def Unbroken (elements : List Element) (i : Nat) : Prop :=
  ∀ j ≤ i, elements[j]?.bind Element.plain? = none →
    ∀ k, j < k → elements[k]?.bind Element.plain? = none

theorem World.recordAt_eq (w : World) (elements : List Element) (i : Nat) :
    w.recordAt elements i = ((elements[i]?.bind Element.plain?).map w.paramInfoOf).getD .blank := by
  unfold World.recordAt
  rcases elements[i]? with _ | _ | _ | _ <;> rfl

theorem Unbroken.tail {element : Element} {rest : List Element} {i : Nat}
    (unbroken : Unbroken (element :: rest) (i + 1)) : Unbroken rest i := by
  intro j upTo isSkipped k behind
  exact unbroken (j + 1) (Nat.succ_le_succ upTo) isSkipped (k + 1) (Nat.succ_lt_succ behind)

/-- Behind a hole or a spread in front, only such elements follow. -/
theorem Unbroken.all_skipped {element : Element} {rest : List Element} {i : Nat}
    (unbroken : Unbroken (element :: rest) i) (isSkipped : element.plain? = none) :
    ∀ other ∈ rest, other.plain? = none := by
  intro other member
  obtain ⟨k, found⟩ := List.mem_iff_getElem?.1 member
  have here := unbroken 0 (Nat.zero_le i) isSkipped (k + 1) (Nat.succ_pos k)
  simpa [found] using here

/-- Without holes and spreads an element keeps its position, unless one of them is in front of
    others. -/
theorem Unbroken.filterMap_getElem? {elements : List Element} {i : Nat} (unbroken : Unbroken elements i) :
    (elements.filterMap Element.plain?)[i]? = elements[i]?.bind Element.plain? := by
  induction elements generalizing i with
  | nil => rfl
  | cons element rest ih =>
      cases isPlain : element.plain? with
      | none =>
          have skipped := unbroken.all_skipped isPlain
          rw [List.filterMap_cons_none isPlain, List.filterMap_eq_nil_iff.2 skipped]
          cases i with
          | zero => exact isPlain.symm
          | succ i => exact (unbroken 0 (Nat.zero_le _) isPlain (i + 1) (Nat.succ_pos i)).symm
      | some e =>
          rw [List.filterMap_cons_some isPlain]
          cases i with
          | zero => exact isPlain.symm
          | succ i => exact ih unbroken.tail

/-- An array without holes and spreads is unbroken. -/
theorem unbroken_of_items {elements : List Element}
    (items : ∀ element ∈ elements, element.plain?.isSome = true)
    (i : Nat) : Unbroken elements i := by
  intro j _ isSkipped k behind
  have noElement : elements[j]? = none := by
    cases found : elements[j]? with
    | none => rfl
    | some element =>
        have isItem := items element (List.mem_of_getElem? found)
        rw [found, Option.bind_some] at isSkipped
        rw [isSkipped] at isItem
        cases isItem
  have outside : elements.length ≤ k :=
    Nat.le_trans (List.getElem?_eq_none_iff.1 noElement) (Nat.le_of_lt behind)
  rw [List.getElem?_eq_none_iff.2 outside, Option.bind_none]

/-! ### Parameters of a class -/

theorem World.paramInfo_of_array {shape : ClassShape} {value : Expr} {elements : List Element} (w : World)
    (isTold : staticProperty? shape "ctorParameters" = some value)
    (given : value.givenArray? = some elements) (arity : Nat) :
    w.paramInfo shape arity = (some ((elements.filterMap Element.plain?).map w.paramInfoOf), none) := by
  simp only [World.paramInfo, isTold, metadataElements?_eq, given, Option.map_some]

/-- The parameters of a class whose metadata is an array. The question is always answered, and if any
    are told they are those that are written, each with what the element for it records: the one at its
    position among those that are neither holes nor spreads. That is the element at its position in the
    array if no hole and no spread up to there is in front of others. -/
theorem constructorParameters_positions (w : World) (node : DeclNode) (symbol : ClassSymbol) (value : Expr)
    (elements : List Element) :
    w.classSymbol? node = some symbol → staticProperty? symbol.shape "ctorParameters" = some value →
      value.givenArray? = some elements → ∀ memory, ∃ answer,
        ((w.constructorParameters node).run memory).1 = .ok answer ∧
        ∀ told, answer = some told → told.map (·.pat) = symbol.shape.writtenPats ∧
          ∀ i param, told[i]? = some param →
            (⟨param.type, param.decorators⟩ : ParamInfo) =
                (((elements.filterMap Element.plain?)[i]?).map w.paramInfoOf).getD .blank ∧
              (Unbroken elements i →
                (⟨param.type, param.decorators⟩ : ParamInfo) = w.recordAt elements i) := by
  intro isClass isValue given memory
  refine ⟨((w.constructorParams symbol.shape).run memory).1, ?_, ?_⟩
  · rw [World.constructorParameters, World.requireClass, isClass]
    rfl
  intro told isTold
  have pairs := w.constructorParams_pairs isTold
  rw [w.paramInfo_of_array isValue given] at pairs
  have recorded (i : Nat) : (told.map CtorParam.recorded)[i]? = symbol.shape.writtenPats[i]?.map
      (·, (((elements.filterMap Element.plain?)[i]?).map w.paramInfoOf).getD .blank) := by
    rw [pairs, Option.getD_some, getElem?_pairInfo, List.getElem?_map]
  obtain ⟨pats, infos⟩ := CtorParam.eq_of_recorded recorded
  refine ⟨pats, fun i param found => ⟨infos i param found, fun unbroken => ?_⟩⟩
  rw [w.recordAt_eq, ← unbroken.filterMap_getElem?]
  exact infos i param found

/-- The name that the type of a parameter is, and the names of its decorators. -/
def ParamInfo.names (info : ParamInfo) : Option String × Option (List String) :=
  (info.type.bind Expr.ident? |>.map (·.name), info.decorators.map (·.map (·.name)))

/-- The names of the parameters of the class at a node with those of what is told about them, asked at
    first. -/
def World.toldInfo (w : World) (node : DeclNode) :
    List (Option String × Option String × Option (List String)) :=
  ((w.toldParams? node).getD []).map fun p => (p.name, ParamInfo.names ⟨p.type, p.decorators⟩)

/-- A class whose metadata is an array with an element that is no object literal. -/
def arrayOfMetadata : Program :=
  .ofTexts [("/a.js", "class A \x7b constructor(w, x, y, z) \x7b\x7d \x7d A.ctorParameters = () => [" ++
    "\x7b type: W \x7d, null, \x7b type: Y, decorators: [\x7b type: D \x7d] \x7d];")]

/-- The element that is no object literal keeps its place, and nothing is told behind the last
    element. -/
theorem constructorParameters_arrayOfMetadata :
    let w := World.ofProgram arrayOfMetadata .modules
    ∃ file ∈ arrayOfMetadata.files, ∃ shape ∈ (FileIndex.build file.items).classes,
      ∃ symbol value elements told, w.classSymbol? shape.declaration = some symbol ∧
        staticProperty? symbol.shape "ctorParameters" = some value ∧ value.givenArray? = some elements ∧
        w.toldParams? shape.declaration = some told ∧
        w.toldInfo shape.declaration = [(some "w", some "W", none), (some "x", none, none),
          (some "y", some "Y", some ["D"]), (some "z", none, none)] ∧
        told.map (·.pat) = symbol.shape.writtenPats ∧
        ∀ i param, told[i]? = some param →
          (⟨param.type, param.decorators⟩ : ParamInfo) = w.recordAt elements i := by
  have facts :
      let w := World.ofProgram arrayOfMetadata .modules
      ∃ file ∈ arrayOfMetadata.files, ∃ shape ∈ (FileIndex.build file.items).classes,
        ((w.classSymbol? shape.declaration).any fun symbol =>
          (staticProperty? symbol.shape "ctorParameters").any fun value =>
            value.givenArray?.any (·.all (·.plain?.isSome))) = true ∧
        ((w.toldParams? shape.declaration).isSome &&
          w.toldInfo shape.declaration == [(some "w", some "W", none), (some "x", none, none),
            (some "y", some "Y", some ["D"]), (some "z", none, none)]) = true := by
    rw [arrayOfMetadata, Program.ofTexts_eq_ofBytes]
    decide +kernel
  simp only [Option.any_eq_true, List.all_eq_true, Bool.and_eq_true, beq_iff_eq] at facts
  obtain ⟨file, isFile, shape, isShape, given, isTold, infos⟩ := facts
  obtain ⟨symbol, isClass, value, isValue, elements, given, items⟩ := given
  obtain ⟨told, isTold⟩ := Option.isSome_iff_exists.1 isTold
  obtain ⟨answer, answered, each⟩ :=
    constructorParameters_positions _ shape.declaration symbol value elements isClass isValue given .empty
  rw [World.constructorParameters_of_toldParams? isTold] at answered
  obtain ⟨pats, positions⟩ := each told (Except.ok.inj answered).symm
  refine ⟨file, isFile, shape, isShape, symbol, value, elements, told, isClass, isValue, given, isTold,
    infos, pats, ?_⟩
  intro i param found
  exact (positions i param found).2 (unbroken_of_items items i)

/-- Two classes whose metadata has a hole or a spread in front of an object literal. -/
def brokenArrays : Program :=
  .ofTexts [("/a.js", "class A \x7b constructor(x, y) \x7b\x7d \x7d " ++
      "A.ctorParameters = [, \x7b type: B \x7d];"),
    ("/b.js", "class A \x7b constructor(x, y) \x7b\x7d \x7d " ++
      "A.ctorParameters = () => [...d, \x7b type: B \x7d];")]

/-- The object literal is at the second position, and what it records is told about the first
    parameter. -/
theorem constructorParameters_brokenArrays :
    let w := World.ofProgram brokenArrays .modules
    let shapes := brokenArrays.files.flatMap fun file => (FileIndex.build file.items).classes
    let arrays := shapes.filterMap fun shape =>
      (staticProperty? shape "ctorParameters").bind Expr.givenArray?
    arrays.map (fun elements => (List.range 2).map fun i => (w.recordAt elements i).names) =
        [[(none, none), (some "B", none)], [(none, none), (some "B", none)]] ∧
      shapes.map (fun shape => w.toldInfo shape.declaration) =
        [[(some "x", some "B", none), (some "y", none, none)],
          [(some "x", some "B", none), (some "y", none, none)]] := by
  rw [brokenArrays, Program.ofTexts_eq_ofBytes]
  decide +kernel

end BundleLens
