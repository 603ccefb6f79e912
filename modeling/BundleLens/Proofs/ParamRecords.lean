/-
Module: BundleLens.Proofs.ParamRecords
Layer: Proofs
Purpose: What decorating calls record about constructor parameters, position by position. At every
  position the decorators are those of the entries for it, in the order of the text, and the type is the
  one that is recorded last. So entries for no parameter change nothing, and entries may be rearranged
  as long as those for one position, and those for the types, keep their order.
Imports: BundleLens.Proofs.MetadataForms, BundleLens.Proofs.SynthesizedConstructors
Main exports: Expr.isIneffective, DropsIneffective, Rearranges, World.recordedAt,
  ClassShape.writtenPats, ClassShape.Redecorates, classOfValue?_mapEntries,
  constructorParameters_entries
-/
import BundleLens.Proofs.MetadataForms
import BundleLens.Proofs.SynthesizedConstructors

namespace BundleLens

/-! ### Entries of decorating calls -/

/-- The position that an index names: a numeric literal whose value is an integer up to the largest
    position. -/
def Expr.position? (index : Expr) : Option Nat :=
  match index.bare with
  | .number _ value => value.toNat?.filter (· ≤ maxParamIndex)
  | _ => none

/-- `__param(index, applied)`: the index and what is applied. -/
def Expr.paramArgs? (e : Expr) : Option (Expr × Expr) := do
  let call ← e.helperCall? "__param"
  match ← call.plainArgs? with
  | [index, applied] => some (index, applied)
  | _ => none

/-- The types that `__metadata("design:paramtypes", [...])` records. -/
def Expr.paramTypes? (e : Expr) : Option (List Expr) := do
  let (key, value) ← e.metadata?
  if key == "design:paramtypes" then (value.elements?).map (·.map Expr.bare) else none

/-- An entry `__param(index, applied)` for none of the first positions: the index is at or past their
    number, or names no position. -/
def Expr.isIneffective (arity : Nat) (e : Expr) : Bool :=
  e.paramArgs?.any fun (index, _) => index.position?.all (arity ≤ ·)

/-- What an entry applies to the parameter at a position. -/
def World.appliedTo? (w : World) (j : Nat) (e : Expr) : Option Decorator := do
  let (index, applied) ← e.paramArgs?
  if index.position? = some j then w.decoratorOfApplication? applied else none

theorem Expr.paramDecorator?_eq (e : Expr) :
    e.paramDecorator? = e.paramArgs?.bind fun (index, applied) => index.position?.map (·, applied.bare) := by
  unfold Expr.paramDecorator? Expr.paramArgs?
  cases e.helperCall? "__param" with
  | none => rfl
  | some call =>
      simp only [bind, Option.bind_some]
      cases call.plainArgs? with
      | none => rfl
      | some args =>
          rcases args with _ | ⟨index, _ | ⟨applied, _ | ⟨third, rest⟩⟩⟩
          case cons.cons.nil =>
            simp only [Option.bind_some, Expr.position?]
            cases index.bare with
            | number span value =>
                simp only []
                cases value.toNat? with
                | none => rfl
                | some n =>
                    by_cases small : n ≤ maxParamIndex <;>
                      simp [Option.filter_some, small]
            | _ => rfl
          all_goals rfl

theorem World.decoratorOfApplication?_bare (w : World) (e : Expr) :
    w.decoratorOfApplication? e.bare = w.decoratorOfApplication? e := by
  simp only [World.decoratorOfApplication?, Expr.decoratorApplication?, Expr.bare_bare]

/-- A call of `__param` is no metadata. -/
theorem Expr.paramTypes?_of_paramArgs? {e : Expr} (isParam : e.paramArgs?.isSome = true) :
    e.paramTypes? = none := by
  have other : e.helperCall? "__metadata" = none := by
    obtain ⟨args, isParam⟩ := Option.isSome_iff_exists.1 isParam
    obtain ⟨call, isParam, _⟩ := Option.bind_eq_some_iff.1 isParam
    simp only [Expr.helperCall?, bind, Option.bind_eq_some_iff, Option.ite_none_right_eq_some,
      beq_iff_eq] at isParam
    obtain ⟨call, isCall, callee, isFunction, helper, named, rfl, _⟩ := isParam
    simp [Expr.helperCall?, isCall, isFunction, named]
  simp [Expr.paramTypes?, Expr.metadata?, other]

/-- What an entry records, by what it is: a decorator for a position, types, or nothing. -/
theorem World.paramRecord?_eq (w : World) (e : Expr) :
    w.paramRecord? e =
      match e.paramArgs?.bind fun (index, applied) => index.position?.map (·, applied) with
      | some (i, applied) => some (.decorator i (w.decoratorOfApplication? applied))
      | none => e.paramTypes?.map .types := by
  have types : (do
      let (key, value) ← e.metadata?
      if key == "design:paramtypes" then return ParamRecord.types ((← value.elements?).map Expr.bare)
      else none) = e.paramTypes?.map ParamRecord.types := by
    unfold Expr.paramTypes?
    cases e.metadata? with
    | none => rfl
    | some entry =>
        by_cases isTypes : entry.1 = "design:paramtypes"
        · cases elements : entry.2.elements? <;> simp [isTypes, elements]
        · simp [isTypes]
  unfold World.paramRecord?
  rw [Expr.paramDecorator?_eq]
  cases e.paramArgs? with
  | none => exact types
  | some args =>
      simp only [Option.bind_some]
      cases args.1.position? with
      | none => exact types
      | some i => simp [World.decoratorOfApplication?_bare]

/-! ### Records at a position -/

/-- The type that an entry records for a position. -/
def Expr.typeFor? (j : Nat) (e : Expr) : Option Expr := e.paramTypes?.bind (·[j]?)

/-- What entries record for a position: the type that is recorded last, and all decorators. -/
def World.recordedAt (w : World) (entries : List Expr) (j : Nat) : ParamInfo where
  type := (entries.filterMap (·.typeFor? j)).getLast?
  decorators :=
    let applied := entries.filterMap (w.appliedTo? j)
    if applied.isEmpty then none else some applied

/-- What one entry adds to what is noted about the parameter at a position. -/
def World.noteEntry (w : World) (j : Nat) (info : ParamInfo) (e : Expr) : ParamInfo :=
  ((w.paramRecord? e).map (info.note j)).getD info

/-- An entry adds its type and its decorator at the positions that it is for. -/
theorem World.noteEntry_eq (w : World) (j : Nat) (info : ParamInfo) (e : Expr) :
    w.noteEntry j info e =
      { type := (e.typeFor? j).or info.type
        decorators := ((w.appliedTo? j e).map fun d => info.decorators.getD [] ++ [d]).or
          info.decorators } := by
  unfold World.noteEntry
  rw [World.paramRecord?_eq]
  unfold World.appliedTo? Expr.typeFor?
  cases isParam : e.paramArgs? with
  | none =>
      simp only [Option.bind_none]
      cases e.paramTypes? with
      | none => simp
      | some types => simp [ParamInfo.note]
  | some args =>
      have noTypes : e.paramTypes? = none := Expr.paramTypes?_of_paramArgs? (by simp [isParam])
      simp only [Option.bind_some, noTypes]
      cases position : args.1.position? with
      | none => simp [position]
      | some i =>
          cases applied : w.decoratorOfApplication? args.2 with
          | none => simp [ParamInfo.note, applied]
          | some d =>
              by_cases same : i = j
              · simp [ParamInfo.note, same, position, applied, ParamInfo.addDecorator]
              · simp [ParamInfo.note, same, position, applied]

theorem World.recordedAt_cons_type (w : World) (e : Expr) (rest : List Expr) (j : Nat) :
    (w.recordedAt (e :: rest) j).type = (w.recordedAt rest j).type.or (e.typeFor? j) := by
  cases recorded : e.typeFor? j <;>
    simp [World.recordedAt, List.filterMap_cons, recorded, List.getLast?_cons]

theorem World.recordedAt_cons_decorators (w : World) (e : Expr) (rest : List Expr) (j : Nat) :
    (w.recordedAt (e :: rest) j).decorators =
      ((w.appliedTo? j e).map (· :: (w.recordedAt rest j).decorators.getD [])).or
        (w.recordedAt rest j).decorators := by
  cases applied : w.appliedTo? j e with
  | none => simp [World.recordedAt, List.filterMap_cons, applied]
  | some d =>
      cases others : rest.filterMap (w.appliedTo? j) <;>
        simp [World.recordedAt, List.filterMap_cons, applied, others]

/-- A run over all entries records at every position what the entries record for it. -/
theorem World.foldl_noteEntry (w : World) (entries : List Expr) (info : ParamInfo) (j : Nat) :
    entries.foldl (w.noteEntry j) info =
      { type := (w.recordedAt entries j).type.or info.type
        decorators := ((w.recordedAt entries j).decorators.map (info.decorators.getD [] ++ ·)).or
          info.decorators } := by
  induction entries generalizing info with
  | nil => simp [World.recordedAt]
  | cons e rest ih =>
      rw [List.foldl_cons, ih, World.noteEntry_eq, World.recordedAt_cons_type,
        World.recordedAt_cons_decorators]
      cases w.appliedTo? j e <;> cases (w.recordedAt rest j).decorators <;> simp [Option.or_assoc]

/-! ### Parameters of a class -/

/-- The entries of the decorating calls of a class, in the order of the text. -/
def ClassShape.entries (shape : ClassShape) : List Expr := (classDecorations shape).flatMap (·.decorators)

/-- The function or the class body that a class is, without what is around it. -/
def ClassShape.code (shape : ClassShape) : FunctionDecl ⊕ Class :=
  match shape.form with
  | .function inner _ => .inl inner
  | .native cls _ => .inr cls

/-- The parameters that are written for the constructor of a class, without those that also declare a
    property. -/
def ClassShape.writtenPats (shape : ClassShape) : List Pat :=
  match shape.code with
  | .inl inner => inner.func.params.map (·.pat)
  | .inr cls => (cls.ctor?.map fun (params, _) => ctorPats params).getD []

/-- Whether parameters are written for the constructor of a class: a compiler wrote none that only hands
    its arguments on. -/
def World.writesParams (w : World) : FunctionDecl ⊕ Class → Reflect Bool
  | .inl inner => do
    if inner.func.params.isEmpty then return !(← w.forwardsArguments (inner.func.body.getD []))
    else return true
  | .inr cls =>
    return !cls.ctor?.any fun (params, body) => params.isEmpty && (body.map isNativeSuperSpread).getD false

section Params

variable {shape : ClassShape}

/-- Either all written parameters are told or none. -/
theorem World.constructorPats_eq (w : World) (shape : ClassShape) :
    w.constructorPats shape =
      (fun written => if written then some shape.writtenPats else none) <$> w.writesParams shape.code := by
  unfold World.constructorPats ClassShape.writtenPats ClassShape.code
  cases shape.form with
  | function inner iife =>
      by_cases isEmpty : inner.func.params.isEmpty = true
      · have none : inner.func.params = [] := List.isEmpty_iff.1 isEmpty
        simp only [World.writesParams, none, List.isEmpty_nil, ↓reduceIte, map_bind, map_pure, List.map_nil]
        apply bind_congr
        intro forwards
        cases forwards <;> rfl
      · simp only [World.writesParams, isEmpty, Bool.false_eq_true, ↓reduceIte, map_pure]
  | native cls expr =>
      simp only [World.writesParams, map_pure]
      cases cls.ctor? with
      | none => rfl
      | some ctor =>
          simp only [Option.any_some, Option.map_some, Option.getD_some]
          cases ctor.1.isEmpty && (ctor.2.map isNativeSuperSpread).getD false <;> rfl

/-- Calls record at every position what their entries record for it. -/
theorem World.paramInfo_of_calls (w : World) (untold : staticProperty? shape "ctorParameters" = none)
    (arity : Nat) :
    ∃ infos, w.paramInfo shape arity = (infos, none) ∧
      ∀ j < arity, ((infos.getD [])[j]?).getD .blank = w.recordedAt shape.entries j := by
  have byEntry (j : Nat) (info : ParamInfo) :
      ((classDecorations shape).flatMap (·.decorators.filterMap w.paramRecord?)).foldl
          (ParamInfo.note j) info =
        shape.entries.foldl (w.noteEntry j) info := by
    rw [ClassShape.entries, ← List.filterMap_flatMap, List.foldl_filterMap]
    congr 1
    funext info e
    unfold World.noteEntry
    cases w.paramRecord? e <;> rfl
  obtain ⟨infos, isInfo, recorded⟩ := w.paramInfo_of_untold untold arity
  refine ⟨infos, isInfo, fun j inside => ?_⟩
  rw [recorded j inside, byEntry, World.foldl_noteEntry]
  simp [ParamInfo.blank]

theorem getElem?_pairInfo (pats : List Pat) (infos : List ParamInfo) (i : Nat) :
    (pairInfo pats infos)[i]? = pats[i]?.map fun pat => (pat, infos[i]?.getD .blank) := by
  induction pats generalizing infos i with
  | nil => rfl
  | cons pat rest ih =>
      rw [pairInfo_cons]
      cases i with
      | zero => rfl
      | succ i => simp [ih]

/-- Records that agree at the positions of the parameters are paired with them alike. -/
theorem pairInfo_congr {pats : List Pat} {infos infos' : List ParamInfo}
    (agree : ∀ j < pats.length, (infos[j]?).getD .blank = (infos'[j]?).getD .blank) :
    pairInfo pats infos = pairInfo pats infos' := by
  apply List.ext_getElem?
  intro j
  rw [getElem?_pairInfo, getElem?_pairInfo]
  cases found : pats[j]? with
  | none => rfl
  | some pat => rw [Option.map_some, Option.map_some, agree j (List.getElem?_eq_some_iff.1 found).1]

/-- The pattern of a parameter as it is told, with what is recorded about it. -/
def CtorParam.recorded (told : CtorParam) : Pat × ParamInfo := (told.pat, ⟨told.type, told.decorators⟩)

/-- If it is known for every position which pattern is told there and what is recorded about it, then
    these are the patterns, and the type and the decorators of a parameter are what is recorded. -/
theorem CtorParam.eq_of_recorded {told : List CtorParam} {pats : List Pat} {info : Nat → ParamInfo}
    (recorded : ∀ i : Nat, (told.map CtorParam.recorded)[i]? = pats[i]?.map (·, info i)) :
    told.map (·.pat) = pats ∧
      ∀ (i : Nat) (param : CtorParam), told[i]? = some param →
        (⟨param.type, param.decorators⟩ : ParamInfo) = info i := by
  constructor
  · apply List.ext_getElem?
    intro i
    have here := congrArg (Option.map Prod.fst) (recorded i)
    simpa [Function.comp_def, CtorParam.recorded] using here
  · intro i param found
    have here := recorded i
    rw [List.getElem?_map, found, Option.map_some] at here
    obtain ⟨pat, _, same⟩ := Option.map_eq_some_iff.1 here.symm
    exact (congrArg Prod.snd same).symm

/-- Every parameter is told with what is recorded about it. -/
theorem World.run_mapM_constructorParam (w : World) (pairs : List (Pat × ParamInfo)) (memory : Memory) :
    ((pairs.mapM fun (pat, info) => w.constructorParam pat info).run memory).1.map CtorParam.recorded =
      pairs := by
  induction pairs generalizing memory with
  | nil => rfl
  | cons pair rest ih =>
      rw [List.mapM_cons, reflect_run_bind, reflect_run_bind]
      exact congrArg (pair :: ·) (ih _)

/-- The parameters of a class, if any are told: those that are written, each with what the metadata
    records for its position. -/
theorem World.constructorParams_pairs {memory : Memory} {told : List CtorParam} (w : World)
    (isTold : ((w.constructorParams shape).run memory).1 = some told) :
    told.map CtorParam.recorded =
      pairInfo shape.writtenPats ((w.paramInfo shape shape.writtenPats.length).1.getD []) := by
  rw [World.constructorParams, World.constructorPats_eq, bind_map_left, reflect_run_bind] at isTold
  cases written : ((w.writesParams shape.code).run memory).1 with
  | false =>
      rw [written] at isTold
      cases isTold
  | true =>
      rw [written] at isTold
      simp only [↓reduceIte] at isTold
      generalize w.paramInfo shape shape.writtenPats.length = info at isTold ⊢
      obtain ⟨infos, warning⟩ := info
      -- a warning changes only what is remembered
      cases warning with
      | none =>
          rw [reflect_run_bind] at isTold
          cases isTold
          exact w.run_mapM_constructorParam (pairInfo shape.writtenPats (infos.getD [])) _
      | some problem =>
          rw [reflect_run_bind, reflect_run_bind] at isTold
          cases isTold
          exact w.run_mapM_constructorParam (pairInfo shape.writtenPats (infos.getD [])) _

/-- The parameters of a class whose metadata is in calls, if any are told: those that are written, each
    with what the entries record for its position. -/
theorem World.constructorParams_recorded {memory : Memory} {told : List CtorParam} (w : World)
    (untold : staticProperty? shape "ctorParameters" = none)
    (isTold : ((w.constructorParams shape).run memory).1 = some told) (i : Nat) :
    (told.map CtorParam.recorded)[i]? = shape.writtenPats[i]?.map (·, w.recordedAt shape.entries i) := by
  rw [w.constructorParams_pairs isTold, getElem?_pairInfo]
  cases found : shape.writtenPats[i]? with
  | none => rfl
  | some pat =>
      have inside : i < shape.writtenPats.length := (List.getElem?_eq_some_iff.1 found).1
      obtain ⟨infos, isInfo, recorded⟩ := w.paramInfo_of_calls untold shape.writtenPats.length
      rw [Option.map_some, Option.map_some, isInfo, recorded i inside]

end Params

/-! ### Entries that record the same -/

/-- The entries of the second list are those of the first, some that are for no parameter left out. -/
inductive DropsIneffective (arity : Nat) : List Expr → List Expr → Prop where
  | nil : DropsIneffective arity [] []
  | keep (e : Expr) {all kept : List Expr} (rest : DropsIneffective arity all kept) :
      DropsIneffective arity (e :: all) (e :: kept)
  | drop {e : Expr} (ineffective : e.isIneffective arity = true) {all kept : List Expr}
      (rest : DropsIneffective arity all kept) : DropsIneffective arity (e :: all) kept

/-- Whether an entry is for the parameter at a position. -/
def Expr.isFor (j : Nat) (e : Expr) : Bool := e.paramArgs?.any fun (index, _) => index.position? == some j

/-- The entries of the second list are those of the first in another order, in which those for one
    position, and those that record types, still follow each other as before. -/
structure Rearranges (entries moved : List Expr) : Prop where
  perm : moved.Perm entries
  positions : ∀ j, moved.filter (·.isFor j) = entries.filter (·.isFor j)
  types : moved.filter (·.paramTypes?.isSome) = entries.filter (·.paramTypes?.isSome)

/-- Entries that record the same types and, for the first positions, the same decorators. -/
def SameRecords (arity : Nat) (entries others : List Expr) : Prop :=
  (∀ j < arity, ∀ w : World, others.filterMap (w.appliedTo? j) = entries.filterMap (w.appliedTo? j)) ∧
    others.filterMap Expr.paramTypes? = entries.filterMap Expr.paramTypes?

theorem Expr.isFor_of_appliedTo? {w : World} {j : Nat} {e : Expr}
    (applied : (w.appliedTo? j e).isSome = true) :
    e.isFor j = true := by
  obtain ⟨d, applied⟩ := Option.isSome_iff_exists.1 applied
  simp only [World.appliedTo?, bind, Option.bind_eq_some_iff, Option.ite_none_right_eq_some] at applied
  obtain ⟨args, isParam, position, _⟩ := applied
  simp [Expr.isFor, isParam, position]

/-- Only the elements of which something is made count. -/
theorem filterMap_of_filter {α β : Type} {f : α → Option β} {p : α → Bool} {entries moved : List α}
    (made : ∀ e, (f e).isSome = true → p e = true) (same : moved.filter p = entries.filter p) :
    moved.filterMap f = entries.filterMap f := by
  have through (l : List α) : l.filterMap f = (l.filter p).filterMap f := by
    rw [List.filterMap_filter]
    congr 1
    funext e
    cases found : f e with
    | none => simp
    | some b => simp [made e (by simp [found])]
  rw [through, same, ← through]

theorem Rearranges.sameRecords {entries moved : List Expr} (rearranges : Rearranges entries moved)
    (arity : Nat) : SameRecords arity entries moved := by
  constructor
  · intro j _ w
    exact filterMap_of_filter (fun e => Expr.isFor_of_appliedTo?) (rearranges.positions j)
  · exact filterMap_of_filter (fun e made => made) rearranges.types

/-- An ineffective entry records nothing at the first positions. -/
theorem Expr.records_of_isIneffective {arity : Nat} {e : Expr} (ineffective : e.isIneffective arity = true) :
    (∀ (w : World), ∀ j < arity, w.appliedTo? j e = none) ∧ e.paramTypes? = none := by
  obtain ⟨⟨index, applied⟩, isParam, outside⟩ := (Option.any_eq_true _ _).1 ineffective
  refine ⟨?_, Expr.paramTypes?_of_paramArgs? (by simp [isParam])⟩
  intro w j inside
  have other : index.position? ≠ some j := by
    intro position
    simp only [position, Option.all_some, decide_eq_true_eq] at outside
    exact absurd inside (Nat.not_lt.2 outside)
  simp [World.appliedTo?, isParam, other]

theorem DropsIneffective.sameRecords {arity : Nat} {entries kept : List Expr}
    (drops : DropsIneffective arity entries kept) : SameRecords arity entries kept := by
  induction drops with
  | nil => exact ⟨fun _ _ _ => rfl, rfl⟩
  | keep e rest ih =>
      constructor
      · intro j inside w
        simp [List.filterMap_cons, ih.1 j inside w]
      · simp [List.filterMap_cons, ih.2]
  | drop ineffective rest ih =>
      constructor
      · intro j inside w
        simp [ih.1 j inside w, (Expr.records_of_isIneffective ineffective).1 w j inside]
      · simp [ih.2, (Expr.records_of_isIneffective ineffective).2]

/-- Entries that record the same, part by part, give the same records. -/
theorem World.recordedAt_of_sameRecords (w : World) {arity j : Nat} {α : Type} {parts : List α}
    {entries others : α → List Expr} (same : ∀ part ∈ parts, SameRecords arity (entries part) (others part))
    (inside : j < arity) :
    w.recordedAt (parts.flatMap others) j = w.recordedAt (parts.flatMap entries) j := by
  have through {β : Type} {f : Expr → Option β}
      (alike : ∀ part ∈ parts, (others part).filterMap f = (entries part).filterMap f) :
      (parts.flatMap others).filterMap f = (parts.flatMap entries).filterMap f := by
    rw [List.filterMap_flatMap, List.filterMap_flatMap, List.flatMap_def, List.flatMap_def,
      List.map_congr_left alike]
  have typesFor (l : List Expr) : l.filterMap (·.typeFor? j) =
      (l.filterMap Expr.paramTypes?).filterMap (·[j]?) := by
    rw [List.filterMap_filterMap]
    rfl
  simp only [World.recordedAt, typesFor, through fun part member => (same part member).1 j inside w,
    through fun part member => (same part member).2]

/-! ### Classes with changed entries -/

/-- An array literal with its elements changed. -/
def Expr.mapElements (f : List Element → List Element) : Expr → Expr
  | .paren span inner => .paren span (inner.mapElements f)
  | .array span elements => .array span (f elements)
  | e => e

/-- The call at the end of a chain of assignments with the elements of its first argument changed. -/
def Expr.mapEntries (f : List Element → List Element) : Expr → Expr
  | .paren span inner => .paren span (inner.mapEntries f)
  | .assign span op target value => .assign span op target (value.mapEntries f)
  | .call span kind callee (.item list :: rest) =>
    .call span kind callee (.item (list.mapElements f) :: rest)
  | e => e

/-- A call with the elements of its first argument changed. -/
def Call.mapEntries (f : List Element → List Element) (call : Call) : Call :=
  match call.args with
  | .item list :: rest => { call with args := .item (list.mapElements f) :: rest }
  | _ => call

/-- An assignment with the entries of the call that it assigns changed. -/
def Assignment.mapEntries (f : List Element → List Element) (a : Assignment) : Assignment :=
  { a with value := a.value.mapEntries f }

/-- A statement with the entries changed if it decorates a class with one of the names. -/
def Stmt.mapEntries (names : List String) (f : List Element → List Element) : Stmt → Stmt
  | .expr span e =>
    if ((Stmt.expr span e).classDecorate? names).isSome then .expr span (e.mapEntries f) else .expr span e
  | s => s

section MapEntries

variable (f : List Element → List Element)

theorem Expr.bare_mapElements (e : Expr) : (e.mapElements f).bare = e.bare.mapElements f := by
  induction e using Expr.bareInduction with
  | paren span inner ih => exact ih
  | other e isBare =>
      cases e with
      | paren span inner => exact absurd rfl (isBare span inner)
      | _ => rfl

theorem Expr.bare_mapEntries (e : Expr) : (e.mapEntries f).bare = e.bare.mapEntries f := by
  induction e using Expr.bareInduction with
  | paren span inner ih => exact ih
  | other e isBare =>
      cases e with
      | paren span inner => exact absurd rfl (isBare span inner)
      | call span kind callee args => rcases args with _ | ⟨_ | _ | _, _⟩ <;> rfl
      | _ => rfl

theorem aliasChain_mapEntries : (e : Expr) →
    aliasChain (e.mapEntries f) = ((aliasChain e).1, (aliasChain e).2.mapEntries f)
  | .paren _ inner => aliasChain_mapEntries inner
  | .assign span .plain target value => by
      have behind := aliasChain_mapEntries value
      simp only [Expr.mapEntries, aliasChain]
      cases target.ident? with
      | none => rfl
      | some id => simp [behind]
  | .call _ _ _ [] | .call _ _ _ (.hole :: _) | .call _ _ _ (.spread _ :: _)
  | .call _ _ _ (.item _ :: _)
  | .assign _ .compound _ _ | .ident _ | .string _ _ | .number _ _ | .atom _ _ | .array _ _ | .object _ _
  | .function _ _ | .arrow _ _ _ _ | .classExpr _ _ | .unary _ _ _ | .binary _ _ _ _ | .member _ _ _ _
  | .superMember _ _ | .conditional _ _ _ _ | .sequence _ _ | .template _ _ _ | .yield _ _ => rfl

theorem Expr.call?_mapEntries (e : Expr) : (e.mapEntries f).call? = e.call?.map (Call.mapEntries f) := by
  simp only [Expr.call?, Expr.bare_mapEntries]
  cases e.bare with
  | call span kind callee args => rcases args with _ | ⟨_ | _ | _, _⟩ <;> cases kind <;> rfl
  | _ => rfl

theorem Expr.assignment?_mapEntries (e : Expr) :
    (e.mapEntries f).assignment? = e.assignment?.map (Assignment.mapEntries f) := by
  simp only [Expr.assignment?, Expr.bare_mapEntries]
  cases e.bare with
  | assign span op target value => cases op <;> rfl
  | call span kind callee args => rcases args with _ | ⟨_ | _ | _, _⟩ <;> rfl
  | _ => rfl

theorem Call.function?_mapEntries (call : Call) : (call.mapEntries f).function? = call.function? := by
  unfold Call.mapEntries
  split <;> rfl

theorem Expr.helperCall?_mapEntries (e : Expr) (name : String) :
    (e.mapEntries f).helperCall? name = (e.helperCall? name).map (Call.mapEntries f) := by
  simp only [Expr.helperCall?, Expr.call?_mapEntries]
  cases e.call? with
  | none => rfl
  | some call =>
      simp only [Option.map_some, bind, Option.bind_some, Call.function?_mapEntries]
      cases call.function? with
      | none => rfl
      | some callee =>
          simp only [Option.bind_some]
          cases callee.helperName? with
          | none => rfl
          | some helper => by_cases same : helper = name <;> simp [same]

theorem Expr.elements?_mapElements {list : Expr} {entries : List Expr}
    (isArray : list.elements? = some entries) :
    ∃ elements, entries = elements.filterMap Element.plain? ∧
      (list.mapElements f).elements? = some ((f elements).filterMap Element.plain?) := by
  unfold Expr.elements? at isArray ⊢
  rw [Expr.bare_mapElements]
  split at isArray
  · rename_i span elements same
    cases isArray
    exact ⟨elements, rfl, by rw [same]; rfl⟩
  · cases isArray

theorem Call.plainArgs?_mapEntries {call : Call} {list : Expr} {rest : List Expr}
    (plain : call.plainArgs? = some (list :: rest)) :
    (call.mapEntries f).plainArgs? = some (list.mapElements f :: rest) := by
  obtain ⟨span, callee, args⟩ := call
  simp only [Call.plainArgs?] at plain ⊢
  cases args with
  | nil => cases plain
  | cons first others =>
      simp only [List.mapM_cons, bind, Option.bind_eq_some_iff] at plain
      obtain ⟨e, isFirst, exprs, isRest, same⟩ := plain
      cases same
      cases first with
      | item e' =>
          cases isFirst
          simp [Call.mapEntries, Element.plain?, isRest]
      | _ => cases isFirst

/-- The decorating call with the given arguments. -/
theorem Expr.decorateCall?_of_plainArgs? {e : Expr} {call : Call} {list target : Expr} {rest : List Expr}
    (isHelper : e.helperCall? "__decorate" = some call)
    (plain : call.plainArgs? = some (list :: target :: rest)) :
    e.decorateCall? =
      (rest.head?.elim (some none) fun key => key.string?.map some).bind fun member =>
        list.elements?.map fun decorators => ⟨call, decorators, target.bare, member⟩ := by
  unfold Expr.decorateCall?
  simp only [isHelper, plain, bind, Option.bind_some]
  cases rest with
  | nil => cases list.elements? <;> rfl
  | cons key others => cases key.string? <;> cases list.elements? <;> rfl

/-- A decorating call with changed entries decorates the same. -/
theorem Expr.decorateCall?_mapEntries {e : Expr} {decorate : DecorateCall}
    (isCall : e.decorateCall? = some decorate) :
    ∃ elements changed, decorate.decorators = elements.filterMap Element.plain? ∧
      (e.mapEntries f).decorateCall? = some changed ∧
      changed.decorators = (f elements).filterMap Element.plain? ∧
      changed.target = decorate.target ∧ changed.member = decorate.member := by
  have read := isCall
  obtain ⟨call, isHelper, isCall⟩ := Option.bind_eq_some_iff.1 isCall
  obtain ⟨args, plain, isCall⟩ := Option.bind_eq_some_iff.1 isCall
  split at isCall
  · rename_i list target rest
    rw [Expr.decorateCall?_of_plainArgs? isHelper plain] at read
    obtain ⟨member, isMember, read⟩ := Option.bind_eq_some_iff.1 read
    obtain ⟨entries, isArray, same⟩ := Option.map_eq_some_iff.1 read
    subst same
    obtain ⟨elements, entries, changed⟩ := Expr.elements?_mapElements f isArray
    have isHelper' : (e.mapEntries f).helperCall? "__decorate" = some (call.mapEntries f) := by
      rw [Expr.helperCall?_mapEntries, isHelper]
      rfl
    refine ⟨elements, ⟨call.mapEntries f, _, target.bare, member⟩, entries, ?_, rfl, rfl, rfl⟩
    rw [Expr.decorateCall?_of_plainArgs? isHelper' (Call.plainArgs?_mapEntries f plain), isMember, changed]
    rfl
  · cases isCall

/-- A statement that decorates a class decorates it with the changed entries. -/
theorem Stmt.classDecorate?_mapEntries {s : Stmt} {names : List String} {decorate : DecorateCall}
    (decorates : s.classDecorate? names = some decorate) :
    ∃ elements changed, decorate.decorators = elements.filterMap Element.plain? ∧
      (s.mapEntries names f).classDecorate? names = some changed ∧
      changed.decorators = (f elements).filterMap Element.plain? := by
  cases s with
  | expr span e =>
      have isSome : ((Stmt.expr span e).classDecorate? names).isSome = true := by rw [decorates]; rfl
      simp only [Stmt.mapEntries, isSome, ↓reduceIte]
      simp only [Stmt.classDecorate?, Stmt.expr?, bind, Option.bind_some, Option.bind_eq_some_iff,
        Option.ite_none_right_eq_some, Option.some.injEq, Bool.and_eq_true] at decorates
      obtain ⟨assign, assigns, target, isTarget, known, found, isCall, decorated, isDecorated,
        ⟨alsoKnown, isWhole⟩, rfl⟩ := decorates
      obtain ⟨elements, changed, entries, isCall', entries', target', member'⟩ :=
        Expr.decorateCall?_mapEntries f isCall
      refine ⟨elements, changed, entries, ?_, entries'⟩
      have assigns' : (e.mapEntries f).bare.assignment? = some (assign.mapEntries f) := by
        rw [Expr.bare_mapEntries, Expr.assignment?_mapEntries, assigns]
        rfl
      have chain : (aliasChain (assign.mapEntries f).value).2 =
          (aliasChain assign.value).2.mapEntries f := by
        rw [Assignment.mapEntries, aliasChain_mapEntries]
      simp only [Stmt.classDecorate?, Stmt.expr?, bind, Option.bind_some, assigns', chain, isCall', target',
        isDecorated, member', alsoKnown, isWhole, Bool.and_self, ↓reduceIte]
      simp only [Assignment.mapEntries, isTarget, Option.bind_some, known, ↓reduceIte]
  | _ => cases decorates

theorem Stmt.mapEntries_of_other {s : Stmt} {names : List String}
    (other : s.classDecorate? names = none) : s.mapEntries names f = s := by
  cases s with
  | expr span e => simp [Stmt.mapEntries, other]
  | _ => rfl

/-- A statement that decorates a class assigns to no member. -/
theorem Stmt.staticAssignment?_of_classDecorate? {s : Stmt} {names : List String}
    (decorates : (s.classDecorate? names).isSome = true) : s.staticAssignment? names = none := by
  obtain ⟨decorate, decorates⟩ := Option.isSome_iff_exists.1 decorates
  obtain ⟨e, isExpr, decorates⟩ := Option.bind_eq_some_iff.1 decorates
  obtain ⟨assign, assigns, decorates⟩ := Option.bind_eq_some_iff.1 decorates
  obtain ⟨target, isTarget, _⟩ := Option.bind_eq_some_iff.1 decorates
  have noMember : assign.target.member? = none := by
    unfold Pat.ident? at isTarget
    split at isTarget
    · rename_i same
      rw [same]
      rfl
    · cases isTarget
  simp [Stmt.staticAssignment?, isExpr, assigns, noMember]

end MapEntries

/-- The class with the entries of its decorating calls changed. -/
structure ClassShape.Redecorates (changed shape : ClassShape) (f : List Element → List Element) : Prop where
  code : changed.code = shape.code
  names : changed.names = shape.names
  statements : changed.statements = shape.statements.map (Stmt.mapEntries shape.names f)

section Redecorates

variable {f : List Element → List Element} {shape changed : ClassShape}

/-- Class syntax with other statements behind it. -/
theorem ClassShape.redecorates_make (f : List Element → List Element) (outer : ClassOuter) (cls : Class)
    (expr : Option ClassExpr) (aliases : List Ident) (following : List Stmt) :
    let shape := make outer (.native cls expr) aliases following
    (make outer (.native cls expr) aliases (following.map (Stmt.mapEntries shape.names f))).Redecorates
      shape f :=
  ⟨rfl, rfl, rfl⟩

theorem Stmt.functionDecl?_mapEntries (f : List Element → List Element) (names : List String) (s : Stmt) :
    (s.mapEntries names f).functionDecl? = s.functionDecl? := by
  cases s with
  | expr span e =>
      simp only [Stmt.mapEntries]
      split <;> rfl
  | _ => rfl

theorem returnedName?_mapEntries (f : List Element → List Element) (names : List String)
    (body : List Stmt) : returnedName? (body.map (Stmt.mapEntries names f)) = returnedName? body := by
  rw [returnedName?, returnedName?, List.getLast?_map]
  cases body.getLast? with
  | none => rfl
  | some s =>
      cases s with
      | expr span e =>
          by_cases decorates : ((Stmt.expr span e).classDecorate? names).isSome = true <;>
            simp [Stmt.mapEntries, decorates]
      | _ => rfl

theorem Expr.classIife?_mapEntries (f : List Element → List Element) (names : List String) {e : Expr}
    {found : ClassIife} (isClass : e.classIife? = some found) :
    let edit := List.map (Stmt.mapEntries names f)
    (e.editBody edit).classIife? = some ⟨found.iife.editBody edit, found.inner, found.aliases⟩ := by
  intro edit
  simp only [Expr.classIife?, bind, Option.bind_eq_some_iff] at isClass
  obtain ⟨iife, isIife, body, hasBody, name, named, inner, isInner, same⟩ := isClass
  cases same
  have sameName : returnedName? (edit body) = some name := by rw [returnedName?_mapEntries, named]
  have sameInner : (edit body).findSome? (fun s => s.functionDecl?.filter (·.name.name == name)) =
      some inner := by
    simp only [edit, List.findSome?_map, Function.comp_def, Stmt.functionDecl?_mapEntries, isInner]
  simp only [Expr.classIife?, aliasChain_editBody, Expr.iife?_editBody, isIife, Option.map_some,
    bind, Option.bind_some, Iife.editBody, hasBody, sameName, sameInner]

/-- A value that builds a class builds it with the changed entries, where these are changed in the
    function around the class, or in the statements behind class syntax. -/
theorem classOfValue?_mapEntries {outer : ClassOuter} {value : Expr} {following : List Stmt}
    (f : List Element → List Element) (isShape : classOfValue? outer value following = some shape) :
    let edit := List.map (Stmt.mapEntries shape.names f)
    ∃ changed, classOfValue? (outer.editBody edit) (value.editBody edit) (edit following) = some changed ∧
      changed.Redecorates shape f := by
  intro edit
  cases isClass : value.classIife? with
  | some found =>
      have changed := Expr.classIife?_mapEntries f shape.names isClass
      simp only [classOfValue?, isClass, Option.some.injEq] at isShape
      refine ⟨_, by rw [classOfValue?, changed], ?_⟩
      subst isShape
      constructor
      · rfl
      · cases outer <;> rfl
      · cases body : found.iife.func.body <;> simp [ClassShape.make, Iife.editBody, body]
  | none =>
      simp only [classOfValue?, isClass] at isShape
      split at isShape
      · rename_i aliases name cls chain
        have chain' : aliasChain (value.editBody edit) = (aliases, .classExpr name cls) := by
          rw [aliasChain_editBody, chain]
          rfl
        have noFunction : (value.editBody edit).classIife? = none := by
          simp [Expr.classIife?, chain', Expr.iife?, Expr.unnegated, Expr.bare, Expr.call?]
        cases isShape
        refine ⟨_, by simp only [classOfValue?, noFunction, chain']; rfl, ?_⟩
        constructor
        · rfl
        · cases outer <;> rfl
        · rfl
      · cases isShape

/-- A class with changed entries has the same static properties. -/
theorem ClassShape.Redecorates.staticProperty? (redecorates : changed.Redecorates shape f)
    (property : String) :
    BundleLens.staticProperty? changed property = BundleLens.staticProperty? shape property := by
  rw [BundleLens.staticProperty?, BundleLens.staticProperty?, redecorates.names, redecorates.statements,
    List.findSome?_map]
  congr 1
  funext s
  rw [Function.comp_apply]
  cases decorates : s.classDecorate? shape.names with
  | none => rw [Stmt.mapEntries_of_other f decorates]
  | some decorate =>
      obtain ⟨_, decorate', _, decorates', _⟩ := Stmt.classDecorate?_mapEntries f decorates
      have plain : s.staticAssignment? shape.names = none :=
        Stmt.staticAssignment?_of_classDecorate? (by rw [decorates]; rfl)
      have plain' : (s.mapEntries shape.names f).staticAssignment? shape.names = none :=
        Stmt.staticAssignment?_of_classDecorate? (by rw [decorates']; rfl)
      rw [plain, plain']

/-- The entries that a statement gives a class with one of the names. -/
def Stmt.entriesFor (names : List String) (s : Stmt) : List Expr :=
  ((s.classDecorate? names).map (·.decorators)).getD []

/-- The entries of a class, statement by statement. -/
theorem ClassShape.entries_eq (shape : ClassShape) :
    shape.entries = shape.statements.flatMap (Stmt.entriesFor shape.names) := by
  unfold ClassShape.entries classDecorations
  induction shape.statements with
  | nil => rfl
  | cons s rest ih =>
      rw [List.flatMap_cons, ← ih, List.filterMap_cons]
      cases decorates : s.classDecorate? shape.names <;> simp [Stmt.entriesFor, decorates]

/-- Entries that are changed, and record the same as before, give the same parameters. -/
theorem World.constructorParams_of_sameRecords (w : World) (redecorates : changed.Redecorates shape f)
    (untold : BundleLens.staticProperty? shape "ctorParameters" = none)
    (same : ∀ elements : List Element, SameRecords shape.writtenPats.length
      (elements.filterMap Element.plain?) ((f elements).filterMap Element.plain?)) :
    w.constructorParams changed = w.constructorParams shape := by
  have pats : changed.writtenPats = shape.writtenPats := by
    rw [ClassShape.writtenPats, ClassShape.writtenPats, redecorates.code]
  have untold' : BundleLens.staticProperty? changed "ctorParameters" = none :=
    (redecorates.staticProperty? _).trans untold
  have recorded (j : Nat) (inside : j < shape.writtenPats.length) :
      w.recordedAt changed.entries j = w.recordedAt shape.entries j := by
    rw [ClassShape.entries_eq, ClassShape.entries_eq, redecorates.names, redecorates.statements,
      List.flatMap_map]
    apply w.recordedAt_of_sameRecords _ inside
    intro s _
    cases decorates : s.classDecorate? shape.names with
    | none =>
        rw [Stmt.mapEntries_of_other f decorates]
        exact ⟨fun _ _ _ => rfl, rfl⟩
    | some decorate =>
        obtain ⟨elements, decorate', entries, decorates', entries'⟩ :=
          Stmt.classDecorate?_mapEntries f decorates
        simp only [Stmt.entriesFor, decorates, decorates', Option.map_some, Option.getD_some, entries,
          entries']
        exact same elements
  simp only [World.constructorParams, World.constructorPats_eq, bind_map_left, redecorates.code, pats]
  apply bind_congr
  intro written
  cases written with
  | false => rfl
  | true =>
      obtain ⟨infos, isInfo, told⟩ := w.paramInfo_of_calls untold shape.writtenPats.length
      obtain ⟨infos', isInfo', told'⟩ := w.paramInfo_of_calls untold' shape.writtenPats.length
      have paired : pairInfo shape.writtenPats (infos'.getD []) =
          pairInfo shape.writtenPats (infos.getD []) :=
        pairInfo_congr fun j inside => by rw [told' j inside, told j inside, recorded j inside]
      simp only [↓reduceIte, isInfo, isInfo', paired]

end Redecorates

/-- The parameters of a class whose metadata is in decorating calls. If any are told, they are those
    that are written, each with what is applied to its position, in the order of the text. Entries for
    no parameter may be left out, and entries may be rearranged, without any change of what is told. -/
theorem constructorParameters_entries (w : World) (node : DeclNode) (symbol : ClassSymbol) :
    w.classSymbol? node = some symbol → staticProperty? symbol.shape "ctorParameters" = none →
      (∀ memory told, ((w.constructorParameters node).run memory).1 = .ok (some told) →
        told.map (·.pat) = symbol.shape.writtenPats ∧
        ∀ i param, told[i]? = some param →
          let applied := symbol.shape.entries.filterMap (w.appliedTo? i)
          param.decorators = if applied.isEmpty then none else some applied) ∧
      ∀ (f : List Element → List Element) (changed : ClassShape), changed.Redecorates symbol.shape f →
        (∀ elements : List Element, DropsIneffective symbol.shape.writtenPats.length
            (elements.filterMap Element.plain?) ((f elements).filterMap Element.plain?)) ∨
          (∀ elements : List Element,
            Rearranges (elements.filterMap Element.plain?) ((f elements).filterMap Element.plain?)) →
        w.constructorParams changed = w.constructorParams symbol.shape := by
  intro isClass untold
  constructor
  · intro memory told isTold
    have isTold' : ((w.constructorParams symbol.shape).run memory).1 = some told := by
      rw [World.constructorParameters, World.requireClass, isClass] at isTold
      exact Except.ok.inj isTold
    obtain ⟨pats, infos⟩ := CtorParam.eq_of_recorded (w.constructorParams_recorded untold isTold')
    exact ⟨pats, fun i param found => congrArg (·.decorators) (infos i param found)⟩
  · intro f changed redecorates same
    apply w.constructorParams_of_sameRecords redecorates untold
    intro elements
    rcases same with drops | rearranges
    · exact (drops elements).sameRecords
    · exact (rearranges elements).sameRecords _

/-- Whether an element of a decorating array records types. -/
def Element.recordsTypes (element : Element) : Bool := element.plain?.any (·.paramTypes?.isSome)

/-- The elements that record types, in front of all others. -/
def typesFirst (elements : List Element) : List Element :=
  elements.filter (·.recordsTypes) ++ elements.filter (!·.recordsTypes)

/-- The elements without those for none of the first positions. -/
def dropIneffective (arity : Nat) (elements : List Element) : List Element :=
  elements.filter fun element => !element.plain?.any (·.isIneffective arity)

/-- A choice among elements chooses among the entries that they are. -/
theorem filterMap_plain_filter {q : Element → Bool} {p : Expr → Bool}
    (same : ∀ element e, element.plain? = some e → q element = p e) (elements : List Element) :
    (elements.filter q).filterMap Element.plain? = (elements.filterMap Element.plain?).filter p := by
  induction elements with
  | nil => rfl
  | cons element rest ih =>
      cases plain : element.plain? with
      | none => cases chosen : q element <;> simp [chosen, plain, ih]
      | some e => cases chosen : p e <;> simp [plain, ih, same element e plain, chosen]

theorem Expr.noTypes_of_isFor {j : Nat} {e : Expr} (isFor : e.isFor j = true) :
    e.paramTypes?.isSome = false := by
  obtain ⟨args, isParam, _⟩ := (Option.any_eq_true _ _).1 isFor
  rw [Expr.paramTypes?_of_paramArgs? (by simp [isParam])]
  rfl

theorem rearranges_typesFirst (elements : List Element) :
    Rearranges (elements.filterMap Element.plain?) ((typesFirst elements).filterMap Element.plain?) := by
  have moved : (typesFirst elements).filterMap Element.plain? =
      (elements.filterMap Element.plain?).filter (·.paramTypes?.isSome) ++
        (elements.filterMap Element.plain?).filter (!·.paramTypes?.isSome) := by
    rw [typesFirst, List.filterMap_append, filterMap_plain_filter, filterMap_plain_filter]
    · intro element e plain
      simp [Element.recordsTypes, plain]
    · intro element e plain
      simp [Element.recordsTypes, plain]
  rw [moved]
  constructor
  · exact List.filter_append_perm _ _
  · intro j
    rw [List.filter_append, List.filter_filter, List.filter_filter]
    have first : (elements.filterMap Element.plain?).filter
        (fun e => e.isFor j && e.paramTypes?.isSome) = [] := by
      rw [List.filter_eq_nil_iff]
      intro e _ both
      rw [Bool.and_eq_true] at both
      rw [Expr.noTypes_of_isFor both.1] at both
      exact absurd both.2 Bool.false_ne_true
    rw [first, List.nil_append]
    congr 1
    funext e
    cases isFor : e.isFor j with
    | false => rfl
    | true => simp [Expr.noTypes_of_isFor isFor]
  · have none : (elements.filterMap Element.plain?).filter (fun _ => false) = [] := by
      rw [List.filter_eq_nil_iff]
      nofun
    simp only [List.filter_append, List.filter_filter, Bool.and_self, Bool.and_not_self, none,
      List.append_nil]

theorem dropsIneffective_dropIneffective (arity : Nat) (elements : List Element) :
    DropsIneffective arity (elements.filterMap Element.plain?)
      ((dropIneffective arity elements).filterMap Element.plain?) := by
  rw [dropIneffective, filterMap_plain_filter (p := fun e => !e.isIneffective arity)]
  · induction elements.filterMap Element.plain? with
    | nil => exact .nil
    | cons e rest ih =>
        cases ineffective : e.isIneffective arity with
        | true => simpa [List.filter_cons, ineffective] using .drop ineffective ih
        | false => simpa [List.filter_cons, ineffective] using .keep e ih
  · intro element e plain
    simp [plain]

/-- The parameters that are told for the constructor of the class at a node, asked at first. -/
def World.toldParams? (w : World) (node : DeclNode) : Option (List CtorParam) :=
  ((w.constructorParameters node).run .empty).1.toOption.join

theorem World.constructorParameters_of_toldParams? {w : World} {node : DeclNode} {told : List CtorParam}
    (isTold : w.toldParams? node = some told) :
    ((w.constructorParameters node).run .empty).1 = .ok (some told) := by
  unfold World.toldParams? at isTold
  cases answer : ((w.constructorParameters node).run .empty).1 with
  | error problem =>
      rw [answer] at isTold
      cases isTold
  | ok found =>
      rw [answer] at isTold
      exact congrArg Except.ok isTold

/-- A class with entries for its parameters in disorder, among them some for no parameter. -/
def disorderedEntries : Program :=
  .ofTexts [("/a.js", "class A \x7b constructor(x, y, z) \x7b\x7d \x7d A = __decorate([__param(1, E), D, " ++
    "__param(0, F()), __param(7, G), __metadata('design:paramtypes', [P, Q]), __param(0, H), " ++
    "__param('2', I)], A);")]

/-- The parameters are told with what is applied to them, and still so when the types come first, or
    when the entries for no parameter are left out. -/
theorem constructorParameters_disorderedEntries :
    let w := World.ofProgram disorderedEntries .modules
    ∃ file ∈ disorderedEntries.files, ∃ shape ∈ (FileIndex.build file.items).classes,
      ∃ symbol told, w.classSymbol? shape.declaration = some symbol ∧
        staticProperty? symbol.shape "ctorParameters" = none ∧
        ((w.constructorParameters shape.declaration).run .empty).1 = .ok (some told) ∧
        symbol.shape.writtenPats.length = 3 ∧
        (List.range 3).map (fun i => (symbol.shape.entries.filterMap (w.appliedTo? i)).map (·.name)) =
          [["F", "H"], ["E"], []] ∧
        told.map (·.pat) = symbol.shape.writtenPats ∧
        (∀ i param, told[i]? = some param →
          let applied := symbol.shape.entries.filterMap (w.appliedTo? i)
          param.decorators = if applied.isEmpty then none else some applied) ∧
        (∀ f ∈ [typesFirst, dropIneffective 3], w.constructorParams
            { symbol.shape with
              statements := symbol.shape.statements.map (Stmt.mapEntries symbol.shape.names f) } =
          w.constructorParams symbol.shape) := by
  have facts :
      let w := World.ofProgram disorderedEntries .modules
      ∃ file ∈ disorderedEntries.files, ∃ shape ∈ (FileIndex.build file.items).classes,
        ((w.classSymbol? shape.declaration).any fun symbol =>
          (staticProperty? symbol.shape "ctorParameters").isNone &&
          symbol.shape.writtenPats.length == 3 &&
          (List.range 3).map (fun i => (symbol.shape.entries.filterMap (w.appliedTo? i)).map (·.name)) ==
            [["F", "H"], ["E"], []]) = true ∧
        (w.toldParams? shape.declaration).isSome = true := by
    rw [disorderedEntries, Program.ofTexts_eq_ofBytes]
    decide +kernel
  obtain ⟨file, isFile, shape, isShape, recorded, isTold⟩ := facts
  simp only [Option.any_eq_true, Bool.and_eq_true, beq_iff_eq, Option.isNone_iff_eq_none] at recorded
  obtain ⟨symbol, isClass, ⟨untold, arity⟩, applied⟩ := recorded
  obtain ⟨told, isTold⟩ := Option.isSome_iff_exists.1 isTold
  have answered := World.constructorParameters_of_toldParams? isTold
  obtain ⟨written, changes⟩ := constructorParameters_entries _ shape.declaration symbol isClass untold
  obtain ⟨pats, decorators⟩ := written .empty told answered
  refine ⟨file, isFile, shape, isShape, symbol, told, isClass, untold, answered, arity, applied, pats,
    decorators, ?_⟩
  intro f isOneOf
  refine changes f _ ⟨rfl, rfl, rfl⟩ ?_
  rcases List.mem_cons.1 isOneOf with rfl | isOneOf
  · exact .inr rearranges_typesFirst
  · cases List.mem_singleton.1 isOneOf
    exact .inl fun elements => arity ▸ dropsIneffective_dropIneffective 3 elements

/-- Two classes: one whose constructor has a parameter that also declares a property, and one with a
    call of a helper for annotations where a decorator belongs. -/
def unusualParameters : Program :=
  .ofTexts [("/a.d.ts", "export declare class A \x7b constructor(private x: any, y: any); \x7d"),
    ("/b.js", "class B \x7b constructor(x) \x7b\x7d \x7d " ++
      "B = __decorate([__param(0, __metadata(1)), __param(0, D)], B);")]

/-- The parameters that a constructor declares, those included that also declare a property. -/
def ClassShape.declaredParams (shape : ClassShape) : List Param :=
  match shape.code with
  | .inl inner => inner.func.params
  | .inr cls => (cls.ctor?.map Prod.fst).getD []

/-- The name of what an entry applies to a parameter. -/
def Expr.appliedName? (e : Expr) : Option String := do
  let (_, applied) ← e.paramDecorator?
  let (callee, _) ← applied.decoratorApplication?
  return referenceName callee

/-- The names of the parameters of the class at a node and of their decorators, asked at first. -/
def World.toldNames (w : World) (node : DeclNode) : List (Option String × Option (List String)) :=
  ((w.toldParams? node).getD []).map fun p => (p.name, p.decorators.map (·.map (·.name)))

/-- The constructor of the first class declares two parameters, and one of them is told. The annotation
    in the second class is an application, and is no decorator of the parameter. -/
theorem constructorParameters_unusualParameters :
    let w := World.ofProgram unusualParameters .modules
    let shapes := unusualParameters.files.flatMap fun file => (FileIndex.build file.items).classes
    shapes.map (fun shape => (staticProperty? shape "ctorParameters").isNone) = [true, true] ∧
    shapes.map (fun shape => shape.declaredParams.length) = [2, 1] ∧
    shapes.map (fun shape => shape.entries.filterMap Expr.appliedName?) = [[], ["__metadata", "D"]] ∧
    shapes.map (fun shape => w.toldNames shape.declaration) =
      [[(some "y", none)], [(some "x", some ["D"])]] := by
  rw [unusualParameters, Program.ofTexts_eq_ofBytes]
  decide +kernel

end BundleLens
