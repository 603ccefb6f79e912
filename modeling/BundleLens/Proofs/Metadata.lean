/-
Module: BundleLens.Proofs.Metadata
Layer: Proofs
Purpose: The metadata of a class, and the two forms in which compilers emit it: static properties of the
  class, and a call of `__decorate`. What is read of the parts of the two forms is what the metadata
  says. The entries of a call are noted in a list that grows as they need it; what it holds for each
  parameter is what a place of its own would hold.
Imports: BundleLens.Proofs.Draft, BundleLens.Proofs.Unparen, BundleLens.Reflection.Decorators,
  Mathlib.Algebra.Group.Nat.Defs
Main exports: ClassMetadata, ClassMetadata.Proper, ClassMetadata.staticForm, ClassMetadata.decorateForm,
  ClassMetadata.Lists, Decorator.reading, World.readingOf, ParamInfo.reading, World.paramReading,
  decoratorArray?_objects, decorators_entriesOf, ParamInfo.note, ParamNotes.getD_foldl_note,
  getElem?_objects, reading_records
-/
import BundleLens.Proofs.Draft
import BundleLens.Proofs.Unparen
import BundleLens.Reflection.Decorators
import Mathlib.Algebra.Group.Nat.Defs

namespace BundleLens

/-! ### Metadata and its two forms -/

/-- A decorator with its arguments. -/
structure DecoratorUse where
  reference : Expr
  args : List Expr

/-- What is recorded about a constructor parameter. -/
structure ParamUse where
  type : Expr
  decorators : List DecoratorUse

/-- What is recorded about a class. -/
structure ClassMetadata where
  decorators : List DecoratorUse
  params : List ParamUse

/-- The decorator is named by an identifier or by members of one, and not like one of the helpers that
    record other things, also where a bundler gave these a number. -/
structure DecoratorUse.Proper (use : DecoratorUse) : Prop where
  isReference : use.reference.isReference = true
  noHelper : stripSuffix (referenceName use.reference) ∉ ["__param", "__metadata"]

instance (use : DecoratorUse) : Decidable use.Proper :=
  decidable_of_iff (use.reference.isReference = true ∧
      stripSuffix (referenceName use.reference) ∉ ["__param", "__metadata"])
    ⟨fun ⟨isReference, noHelper⟩ => ⟨isReference, noHelper⟩, fun proper => ⟨proper.1, proper.2⟩⟩

/-- All decorators are proper. -/
structure ClassMetadata.Proper (md : ClassMetadata) : Prop where
  decorators : ∀ use ∈ md.decorators, use.Proper
  params : ∀ p ∈ md.params, ∀ use ∈ p.decorators, use.Proper

instance (md : ClassMetadata) : Decidable md.Proper :=
  decidable_of_iff ((∀ use ∈ md.decorators, use.Proper) ∧
      ∀ p ∈ md.params, ∀ use ∈ p.decorators, use.Proper)
    ⟨fun ⟨decorators, params⟩ => ⟨decorators, params⟩, fun proper => ⟨proper.1, proper.2⟩⟩

section Forms

open Draft

/-- `{ type: Decorator, args: [...] }` -/
def DecoratorUse.object (use : DecoratorUse) : Draft Expr :=
  Draft.object [property "type" (given use.reference), property "args" (array (use.args.map given))]

/-- `Decorator(...)` -/
def DecoratorUse.application (use : DecoratorUse) : Draft Expr :=
  call (given use.reference) (use.args.map given)

/-- `{ type: Type, decorators: [...] }`, where no decorators are left out. -/
def ParamUse.object (p : ParamUse) : Draft Expr :=
  Draft.object (property "type" (given p.type) ::
    if p.decorators.isEmpty then []
    else [property "decorators" (array (p.decorators.map DecoratorUse.object))])

/-- `Name.decorators = [...]` and `Name.ctorParameters = function () { return [...]; }` -/
def ClassMetadata.staticForm (md : ClassMetadata) (name : String) : List (Draft Stmt) :=
  let params := array (md.params.map ParamUse.object)
  [statement (assignMember (ident name) "decorators" (array (md.decorators.map DecoratorUse.object))),
    statement (assignMember (ident name) "ctorParameters" (ofFunc (funcOf [] [returned params])))]

/-- `__param(index, Decorator(...))` -/
def paramEntry (entry : Nat × DecoratorUse) : Draft Expr :=
  call (ident "__param") [number entry.1, entry.2.application]

/-- `__metadata("design:paramtypes", [...])` -/
def typesEntry (params : List ParamUse) : Draft Expr :=
  call (ident "__metadata")
    [string "design:paramtypes", array (params.map fun p => given p.type)]

/-- The entries of the decorating call. -/
def ClassMetadata.entriesOf (md : ClassMetadata) (entries : List (Nat × DecoratorUse)) :
    List (Draft Expr) :=
  md.decorators.map DecoratorUse.application ++ entries.map paramEntry ++ [typesEntry md.params]

/-- `Name = __decorate([...], Name)` with the decorators of the parameters in the order of the
    entries. -/
def ClassMetadata.decorateForm (md : ClassMetadata) (entries : List (Nat × DecoratorUse))
    (name : String) : List (Draft Stmt) :=
  [statement (assign name (call (ident "__decorate") [array (md.entriesOf entries), ident name]))]

end Forms

/-- The entries give every parameter its decorators in their order. Entries of different parameters may
    stand in any order. -/
def ClassMetadata.Lists (md : ClassMetadata) (entries : List (Nat × DecoratorUse)) : Prop :=
  ∀ i, (entries.filter (·.1 == i)).map (·.2) = ((md.params[i]?).map (·.decorators)).getD []

/-! ### Positions as literals -/

namespace Double

theorem roundDiv_one (n : Nat) : roundDiv n 1 = n := by
  simp [roundDiv, Nat.mod_one]

/-- The mantissa of a natural number, at an exponent that is no larger than zero, is exact. -/
theorem mantissaAt_neg (n shift : Nat) : mantissaAt n 1 (-(shift : Int)) = n * 2 ^ shift := by
  unfold mantissaAt
  split
  · have none : shift = 0 := by omega
    simp [none, roundDiv_one]
  · rw [show (-(-(shift : Int))).toNat = shift by omega, roundDiv_one]
    rfl

theorem exponentOf_small {n : Nat} (positive : 0 < n) (small : n < 2 ^ 53) :
    exponentOf n 1 = -((52 - n.log2 : Nat) : Int) := by
  have bits : n.log2 < 53 := (Nat.log2_lt (Nat.pos_iff_ne_zero.mp positive)).mpr small
  have guess : ((n.log2 : Int) - (Nat.log2 1 : Nat) - 53) = -((53 - n.log2 : Nat) : Int) := by
    rw [show Nat.log2 1 = 0 by decide]
    omega
  have large : ¬ n * 2 ^ (53 - n.log2) < Nat.pow 2 53 := by
    have lower : 2 ^ n.log2 ≤ n := Nat.log2_self_le (Nat.pos_iff_ne_zero.mp positive)
    have : 2 ^ 53 ≤ n * 2 ^ (53 - n.log2) := calc
      2 ^ 53 = 2 ^ n.log2 * 2 ^ (53 - n.log2) := by rw [← Nat.pow_add]; congr 1; omega
      _ ≤ n * 2 ^ (53 - n.log2) := Nat.mul_le_mul_right _ lower
    exact Nat.not_lt.mpr this
  unfold exponentOf
  simp only [guess, mantissaAt_neg, if_neg large, minExponent]
  omega

/-- A natural number of at most 53 bits is read back from its literal. -/
theorem toNat?_ofNat {n : Nat} (small : n < 2 ^ 53) : (Double.ofNat n).toNat? = some n := by
  by_cases zero : n = 0
  · subst zero
    rfl
  · have positive : 0 < n := Nat.pos_of_ne_zero zero
    have bits : n.log2 < 53 := (Nat.log2_lt zero).mpr small
    have exact : n * 2 ^ (52 - n.log2) ≠ Nat.pow 2 53 := by
      have upper : n < 2 ^ (n.log2 + 1) := Nat.lt_log2_self
      have : n * 2 ^ (52 - n.log2) < 2 ^ 53 := calc
        n * 2 ^ (52 - n.log2) < 2 ^ (n.log2 + 1) * 2 ^ (52 - n.log2) :=
          Nat.mul_lt_mul_of_pos_right upper (Nat.two_pow_pos _)
        _ = 2 ^ 53 := by rw [← Nat.pow_add]; congr 1; omega
      exact Nat.ne_of_lt this
    have value : Double.ofNat n = .finite (n * 2 ^ (52 - n.log2)) (-((52 - n.log2 : Nat) : Int)) := by
      unfold ofNat ofRatio
      rw [if_neg (by omega), exponentOf_small positive small]
      simp only [mantissaAt_neg, if_neg exact]
      rw [if_neg (by omega)]
    rw [value, toNat?]
    generalize 52 - n.log2 = shift
    split
    · have none : shift = 0 := by omega
      simp [none]
    · rw [show (-(-(shift : Int))).toNat = shift by omega, show Nat.pow 2 shift = 2 ^ shift from rfl,
        if_pos (Nat.mul_mod_left _ _), Nat.mul_div_cancel _ (Nat.two_pow_pos shift)]

end Double

/-! ### Single decorators -/

theorem Expr.isReference_bare (e : Expr) : e.bare.isReference = e.isReference := by
  induction e using Expr.bareInduction with
  | paren span inner ih => exact ih
  | other e isBare => rw [isBare.bare_eq]

theorem Expr.ident?_bare (e : Expr) : e.bare.ident? = e.ident? := by
  rw [Expr.ident?, Expr.ident?, e.bare_bare]

theorem Expr.member?_bare (e : Expr) : e.bare.member? = e.member? := by
  rw [Expr.member?, Expr.member?, e.bare_bare]

theorem referenceName_bare (e : Expr) : referenceName e.bare = referenceName e := by
  rw [referenceName, referenceName, e.ident?_bare, e.member?_bare]

theorem importOfExpression?_bare (w : World) (e : Expr) :
    w.importOfExpression? e.bare = w.importOfExpression? e := by
  have declared : w.declaredImportOf? e.bare = w.declaredImportOf? e := by
    rw [World.declaredImportOf?, World.declaredImportOf?, e.ident?_bare, e.member?_bare]
  have byWrapper : w.wrappedImportOf? e.bare = w.wrappedImportOf? e := by
    rw [World.wrappedImportOf?, World.wrappedImportOf?, e.ident?_bare, e.member?_bare, declared]
  rw [World.importOfExpression?, World.importOfExpression?, World.delegatedImportOf?,
    World.delegatedImportOf?, e.bare_bare, declared, byWrapper]

/-- The helper that a reference may be taken for is its name, up to a number. -/
theorem helperName?_bare {e : Expr} (isReference : e.isReference = true) {helper : String}
    (named : e.bare.helperName? = some helper) : helper = stripSuffix (referenceName e) := by
  rw [← e.isReference_bare] at isReference
  rw [← referenceName_bare]
  have isBare := e.isBare_bare
  generalize e.bare = e at isReference named isBare
  cases e with
  | paren span inner => exact absurd rfl (isBare span inner)
  | ident id => exact (Option.some.inj named).symm
  | member span optional owner key =>
      cases optional with
      | true => exact absurd isReference Bool.false_ne_true
      | false =>
          cases key with
          | ident key =>
              simp only [Expr.helperName?, Expr.bare] at named
              split at named
              · exact (Option.some.inj named).symm
              · cases named
          | _ => exact absurd isReference Bool.false_ne_true
  | _ => exact absurd isReference Bool.false_ne_true

theorem DecoratorUse.Proper.helperName?_ne {use : DecoratorUse} (proper : use.Proper) {helper : String}
    (isHelper : helper ∈ ["__param", "__metadata"]) : use.reference.bare.helperName? ≠ some helper := by
  intro named
  rw [helperName?_bare proper.isReference named] at isHelper
  exact proper.noHelper isHelper

/-- A decorator as it is told: its name, the reference, where it is imported from, and its arguments. -/
abbrev DecoratorReading : Type := String × Expr × Option Import × List Expr

/-- All that is told about a decorator, the node apart that it was read from. -/
def Decorator.reading (d : Decorator) : DecoratorReading :=
  (d.name, d.identifier, d.imported, d.args)

/-- What a decorator should be read as. -/
def World.readingOf (w : World) (use : DecoratorUse) : DecoratorReading :=
  (referenceName use.reference, use.reference.bare, w.importOfExpression? use.reference, use.args)

namespace DecoratorUse

open Draft

theorem decoratorObject?_object {use : DecoratorUse} (proper : use.Proper) (place : List Nat → Span) :
    (use.object place).decoratorObject? = some ⟨use.object place, use.reference.bare, use.args⟩ := by
  have type : propertyValue? (list 0 [property "type" (given use.reference),
      property "args" (array (use.args.map given))] place) "type" = some use.reference := rfl
  have args : propertyValue? (list 0 [property "type" (given use.reference),
      property "args" (array (use.args.map given))] place) "args" =
        some (array (use.args.map given) fun way => place (1 :: 0 :: way)) := rfl
  have isReference : use.reference.bare.isReference = true :=
    use.reference.isReference_bare.trans proper.isReference
  simp only [object, Draft.object, Expr.decoratorObject?, Expr.bare, type, args, bind, Option.bind_some,
    isReference, if_true, elements?_array_given, Option.getD_some]

theorem function?_given {use : DecoratorUse} (proper : use.Proper) (args : List (Draft Expr))
    (place : List Nat → Span) :
    (callOf (given use.reference) args place).function? = some use.reference.bare := by
  have isReference : use.reference.bare.isReference = true :=
    use.reference.isReference_bare.trans proper.isReference
  simp only [Call.function?, callOf, part, given]
  cases under : use.reference.bare with
  | atom span kind =>
      rw [under] at isReference
      exact absurd isReference Bool.false_ne_true
  | _ => rfl

theorem decoratorApplication?_application {use : DecoratorUse} (proper : use.Proper)
    (place : List Nat → Span) :
    (use.application place).decoratorApplication? = some (use.reference.bare, use.args) := by
  have called := function?_given proper (use.args.map given) place
  have args := plainArgs?_callOf (given use.reference) (use.args.map given) place
  have isReference : use.reference.bare.isReference = true :=
    use.reference.isReference_bare.trans proper.isReference
  rw [list_given] at args
  simp only [application, call, ofCall, Expr.decoratorApplication?, Expr.bare, called, bind,
    Option.bind_some, isReference, if_true, args, Option.getD_some]

theorem decoratorOfObject_reading (w : World) (use : DecoratorUse) (node : Expr) :
    (w.decoratorOfObject ⟨node, use.reference.bare, use.args⟩).reading = w.readingOf use := by
  simp only [World.decoratorOfObject, Decorator.reading, World.readingOf, referenceName_bare,
    importOfExpression?_bare]

theorem decoratorOfApplication?_application (w : World) {use : DecoratorUse} (proper : use.Proper)
    (place : List Nat → Span) :
    ∃ d, w.decoratorOfApplication? (use.application place) = some d ∧ d.reading = w.readingOf use := by
  have noHelper : annotates use.reference.bare = false := by
    simp [annotates, proper.helperName?_ne]
  refine ⟨⟨referenceName use.reference.bare, use.reference.bare,
    w.importOfExpression? use.reference.bare, (use.application place).bare, use.args⟩, ?_, ?_⟩
  · simp only [World.decoratorOfApplication?, decoratorApplication?_application proper, bind,
      Option.bind_some, noHelper, Bool.false_eq_true, if_false]
  · simp only [Decorator.reading, World.readingOf, referenceName_bare, importOfExpression?_bare]

end DecoratorUse

/-! ### Lists of decorators -/

section Lists

open Draft

variable (w : World)

theorem decoratorArray?_objects {uses : List DecoratorUse} (proper : ∀ use ∈ uses, use.Proper)
    (place : List Nat → Span) :
    ∃ ds, w.decoratorArray? (array (uses.map DecoratorUse.object) place) = some ds ∧
      ds.map Decorator.reading = uses.map w.readingOf := by
  refine ⟨_, by rw [World.decoratorArray?, elements?_array]; rfl, ?_⟩
  generalize 0 = number
  induction uses generalizing number with
  | nil => rfl
  | cons use rest ih =>
      have first := DecoratorUse.decoratorObject?_object (proper use List.mem_cons_self)
        fun way => place (number :: way)
      have others := ih (fun use isRest => proper use (List.mem_cons_of_mem _ isRest)) (number + 1)
      simp only [List.map_cons, list_cons, part, List.filterMap_cons, first, others,
        DecoratorUse.decoratorOfObject_reading]

theorem filterMap_applications {uses : List DecoratorUse} (proper : ∀ use ∈ uses, use.Proper)
    (number : Nat) (place : List Nat → Span) :
    ((list number (uses.map DecoratorUse.application) place).filterMap
      w.decoratorOfApplication?).map Decorator.reading = uses.map w.readingOf := by
  induction uses generalizing number with
  | nil => rfl
  | cons use rest ih =>
      obtain ⟨d, applied, same⟩ := DecoratorUse.decoratorOfApplication?_application w
        (proper use List.mem_cons_self) fun way => place (number :: way)
      have others := ih (fun use isRest => proper use (List.mem_cons_of_mem _ isRest)) (number + 1)
      simp only [List.map_cons, list_cons, part, List.filterMap_cons, applied, others, same]

/-- An entry that calls one of the helpers is no decorator of the class. -/
theorem decoratorOfApplication?_helper {name : String}
    (helper : stripSuffix name = "__param" ∨ stripSuffix name = "__metadata") (args : List (Draft Expr))
    (place : List Nat → Span) : w.decoratorOfApplication? (call (ident name) args place) = none := by
  have isHelper : annotates (.ident ⟨name, place [0]⟩) = true := by
    rcases helper with same | same <;> simp [annotates, Expr.helperName?, Expr.bare, same]
  have applied : (call (ident name) args place).decoratorApplication? =
      some (.ident ⟨name, place [0]⟩, list 1 args place) := by
    have given := plainArgs?_callOf (ident name) args place
    simp only [callOf] at given
    simp only [call, ofCall, callOf, Expr.decoratorApplication?, Expr.bare, given, Option.getD_some]
    rfl
  simp only [World.decoratorOfApplication?, applied, bind, Option.bind_some, isHelper, if_true]

theorem decoratorOfApplication?_paramEntry (entry : Nat × DecoratorUse) (place : List Nat → Span) :
    w.decoratorOfApplication? (paramEntry entry place) = none :=
  decoratorOfApplication?_helper w (.inl (by decide)) _ place

theorem decoratorOfApplication?_typesEntry (params : List ParamUse) (place : List Nat → Span) :
    w.decoratorOfApplication? (typesEntry params place) = none :=
  decoratorOfApplication?_helper w (.inr (by decide)) _ place

theorem filterMap_list_none {α β : Type} {f : α → Option β} {drafts : List (Draft α)} (number : Nat)
    (place : List Nat → Span) (nothing : ∀ draft ∈ drafts, ∀ place, f (draft place) = none) :
    (list number drafts place).filterMap f = [] := by
  induction drafts generalizing number with
  | nil => rfl
  | cons draft rest ih =>
      have first : f (draft.part number place) = none := nothing draft List.mem_cons_self _
      rw [list_cons, List.filterMap_cons_none first]
      exact ih (number + 1) fun draft isRest => nothing draft (List.mem_cons_of_mem _ isRest)

/-! ### Records about parameters -/

theorem helperCall?_application {use : DecoratorUse} (proper : use.Proper) (place : List Nat → Span)
    {name : String} (isHelper : name ∈ ["__param", "__metadata"]) :
    (use.application place).helperCall? name = none := by
  have called := DecoratorUse.function?_given proper (use.args.map given) place
  have isCall : (use.application place).call? =
    some (callOf (given use.reference) (use.args.map given) place) := rfl
  simp only [Expr.helperCall?, isCall, bind, Option.bind_some, called]
  cases named : use.reference.bare.helperName? with
  | none => rfl
  | some helper =>
      have other : helper ≠ name := by
        rintro rfl
        exact proper.helperName?_ne isHelper named
      simp [other]

theorem helperCall?_call (helper name : String) (args : List (Draft Expr)) (place : List Nat → Span) :
    (call (ident helper) args place).helperCall? name =
      if stripSuffix helper == name then some (callOf (ident helper) args place) else none := rfl

theorem paramRecord?_application {use : DecoratorUse} (proper : use.Proper) (place : List Nat → Span) :
    w.paramRecord? (use.application place) = none := by
  have noParam := helperCall?_application proper place (show "__param" ∈ _ from List.mem_cons_self)
  have noMetadata := helperCall?_application proper place
    (show "__metadata" ∈ _ from List.mem_cons_of_mem _ List.mem_cons_self)
  simp [World.paramRecord?, Expr.paramDecorator?, Expr.metadata?, noParam, noMetadata]

theorem paramRecord?_paramEntry {index : Nat} (small : index ≤ maxParamIndex) (use : DecoratorUse)
    (place : List Nat → Span) :
    ∃ place', w.paramRecord? (paramEntry (index, use) place) =
      some (.decorator index (w.decoratorOfApplication? (use.application place'))) := by
  have isCall : (paramEntry (index, use) place).helperCall? "__param" =
      some (callOf (ident "__param") [number index, use.application] place) := by
    rw [paramEntry, helperCall?_call, if_pos (by decide)]
  have args := plainArgs?_callOf (ident "__param") [number index, use.application] place
  have read : (Double.ofNat index).toNat? = some index :=
    Double.toNat?_ofNat (Nat.lt_of_le_of_lt small (by decide))
  refine ⟨fun way => place (2 :: way), ?_⟩
  simp only [World.paramRecord?, Expr.paramDecorator?, isCall, args, bind, Option.bind_some, list, part,
    number, Expr.bare, read, if_pos small]
  rfl

theorem paramRecord?_typesEntry (params : List ParamUse) (place : List Nat → Span) :
    w.paramRecord? (typesEntry params place) = some (.types (params.map (·.type.bare))) := by
  have noParam : (typesEntry params place).helperCall? "__param" = none := by
    rw [typesEntry, helperCall?_call, if_neg (by decide)]
  have isCall : (typesEntry params place).helperCall? "__metadata" =
      some (callOf (ident "__metadata")
        [string "design:paramtypes", array (params.map fun p => given p.type)] place) := by
    rw [typesEntry, helperCall?_call, if_pos (by decide)]
  have args := plainArgs?_callOf (ident "__metadata")
    [string "design:paramtypes", array (params.map fun p => given p.type)] place
  have types := elements?_array_given (params.map (·.type)) fun way => place (2 :: way)
  rw [List.map_map] at types
  have text : ∀ place : List Nat → Span, (string "design:paramtypes" place).string? =
    some "design:paramtypes" := fun _ => rfl
  have unwrapped : ∀ (es : List (Draft Expr)) (place : List Nat → Span),
    (array es place).bare = array es place := fun _ _ => rfl
  simp only [World.paramRecord?, Expr.paramDecorator?, noParam, Expr.metadata?, isCall, args, bind,
    Option.bind_some, Option.bind_none, list, part, text, unwrapped, beq_self_eq_true, if_true]
  rw [show (array (params.map fun p => given p.type) fun way => place (2 :: way)).elements? = _ from types,
    Option.bind_some, List.map_map]
  rfl

theorem filterMap_paramEntries {entries : List (Nat × DecoratorUse)}
    (proper : ∀ entry ∈ entries, entry.1 ≤ maxParamIndex ∧ entry.2.Proper) (number : Nat)
    (place : List Nat → Span) :
    ∃ noted : List (Nat × Decorator),
      (list number (entries.map paramEntry) place).filterMap w.paramRecord? =
        noted.map (fun (i, d) => .decorator i (some d)) ∧
      noted.map (Prod.map id Decorator.reading) = entries.map (Prod.map id w.readingOf) := by
  induction entries generalizing number with
  | nil => exact ⟨[], rfl, rfl⟩
  | cons entry rest ih =>
      obtain ⟨index, use⟩ := entry
      obtain ⟨small, isDecorator⟩ := proper (index, use) List.mem_cons_self
      obtain ⟨place', recorded⟩ := paramRecord?_paramEntry w small use fun way => place (number :: way)
      obtain ⟨d, applied, same⟩ := DecoratorUse.decoratorOfApplication?_application w isDecorator place'
      obtain ⟨noted, others, readings⟩ := ih
        (fun entry isRest => proper entry (List.mem_cons_of_mem _ isRest)) (number + 1)
      refine ⟨(index, d) :: noted, ?_, ?_⟩
      · simp only [List.map_cons, list_cons, part, List.filterMap_cons, recorded, applied, others]
      · simp only [List.map_cons, readings, Prod.map_apply, id_eq, same]

theorem decorators_entriesOf {md : ClassMetadata} (proper : md.Proper)
    (entries : List (Nat × DecoratorUse)) (place : List Nat → Span) :
    ((list 0 (md.entriesOf entries) place).filterMap w.decoratorOfApplication?).map Decorator.reading =
      md.decorators.map w.readingOf := by
  have noEntries (number : Nat) : (list number (entries.map paramEntry ++ [typesEntry md.params])
      place).filterMap w.decoratorOfApplication? = [] := by
    apply filterMap_list_none
    intro draft isEntry place
    rcases List.mem_append.mp isEntry with isParam | isTypes
    · obtain ⟨entry, -, rfl⟩ := List.mem_map.mp isParam
      exact decoratorOfApplication?_paramEntry w entry place
    · rw [List.mem_singleton.mp isTypes]
      exact decoratorOfApplication?_typesEntry w md.params place
  rw [ClassMetadata.entriesOf, List.append_assoc, list_append, List.filterMap_append, noEntries,
    List.append_nil]
  exact filterMap_applications w proper.decorators 0 place

/-- The entries are about parameters that the metadata has, and apply its decorators. -/
theorem ClassMetadata.Lists.mem {md : ClassMetadata} {entries : List (Nat × DecoratorUse)}
    (lists : md.Lists entries) {entry : Nat × DecoratorUse} (isEntry : entry ∈ entries) :
    ∃ p, md.params[entry.1]? = some p ∧ entry.2 ∈ p.decorators := by
  have isListed : entry.2 ∈ (entries.filter (·.1 == entry.1)).map (·.2) :=
    List.mem_map_of_mem (List.mem_filter.mpr ⟨isEntry, beq_self_eq_true entry.1⟩)
  rw [lists entry.1] at isListed
  cases found : md.params[entry.1]? with
  | none => simp [found] at isListed
  | some p => exact ⟨p, rfl, by simpa [found] using isListed⟩

theorem records_entriesOf {md : ClassMetadata} (proper : md.Proper)
    {entries : List (Nat × DecoratorUse)} (lists : md.Lists entries)
    (few : md.params.length ≤ maxParamIndex + 1) (place : List Nat → Span) :
    ∃ noted : List (Nat × Decorator),
      (list 0 (md.entriesOf entries) place).filterMap w.paramRecord? =
        noted.map (fun (i, d) => .decorator i (some d)) ++ [.types (md.params.map (·.type.bare))] ∧
      noted.map (Prod.map id Decorator.reading) = entries.map (Prod.map id w.readingOf) := by
  have noDecorators : (list 0 (md.decorators.map DecoratorUse.application) place).filterMap
      w.paramRecord? = [] := by
    apply filterMap_list_none
    intro draft isDecorator place
    obtain ⟨use, isUse, rfl⟩ := List.mem_map.mp isDecorator
    exact paramRecord?_application w (proper.decorators use isUse) place
  -- An index is only read back up to a limit, hence the bound on the number of parameters.
  have properEntries : ∀ entry ∈ entries, entry.1 ≤ maxParamIndex ∧ entry.2.Proper := by
    intro entry isEntry
    obtain ⟨p, found, isDecorator⟩ := lists.mem isEntry
    have inside : entry.1 < md.params.length := (List.getElem?_eq_some_iff.mp found).1
    exact ⟨by omega, proper.params p (List.mem_of_getElem? found) entry.2 isDecorator⟩
  obtain ⟨noted, recorded, readings⟩ := filterMap_paramEntries w properEntries
    (0 + (md.decorators.map DecoratorUse.application).length) place
  refine ⟨noted, ?_, readings⟩
  rw [ClassMetadata.entriesOf, list_append, list_append, List.filterMap_append, List.filterMap_append,
    noDecorators, recorded, List.nil_append, list_cons, list_nil, part, List.filterMap_cons,
    paramRecord?_typesEntry, List.filterMap_nil]

end Lists

/-! ### Noting records -/

/-- What is recorded about a parameter: its type and its decorators. -/
abbrev ParamReading : Type := Option Expr × Option (List DecoratorReading)

/-- All that is recorded about a parameter, the nodes apart that decorators were read from. -/
def ParamInfo.reading (info : ParamInfo) : ParamReading :=
  (info.type, info.decorators.map (·.map Decorator.reading))

/-- What a record adds to what is noted about the parameter at a position. -/
def ParamInfo.note (j : Nat) (info : ParamInfo) : ParamRecord → ParamInfo
  | .decorator index (some d) => if index = j then info.addDecorator d else info
  | .decorator _ none => info
  | .types types => { info with type := (types[j]?).or info.type }

theorem foldl_addDecorator (ds : List Decorator) (info : ParamInfo) :
    (ds.foldl ParamInfo.addDecorator info) =
      { info with decorators :=
          if ds.isEmpty then info.decorators else some (info.decorators.getD [] ++ ds) } := by
  induction ds generalizing info with
  | nil => rfl
  | cons d rest ih =>
      rw [List.foldl_cons, ih]
      cases rest <;> simp [ParamInfo.addDecorator]

theorem foldl_noteDecorators (noted : List (Nat × Decorator)) (info : ParamInfo) (j : Nat) :
    (noted.map fun (i, d) => ParamRecord.decorator i (some d)).foldl (ParamInfo.note j) info =
      ((noted.filter (·.1 == j)).map (·.2)).foldl ParamInfo.addDecorator info := by
  induction noted generalizing info with
  | nil => rfl
  | cons entry rest ih =>
      obtain ⟨index, d⟩ := entry
      rw [List.map_cons, List.foldl_cons, ih, ParamInfo.note]
      by_cases same : index = j <;> simp [same]

theorem getElem?_setTypes (infos : List ParamInfo) (types : List Expr) (j : Nat) :
    (setTypes infos types)[j]? = (infos[j]?).map fun info =>
      { info with type := (types[j]?).or info.type } := by
  induction infos generalizing types j with
  | nil => cases types <;> rfl
  | cons info rest ih =>
      cases types with
      | nil => simp [setTypes]
      | cons type types =>
          cases j with
          | zero => rfl
          | succ j => exact ih types j

theorem length_growTo (count : Nat) (infos : List ParamInfo) :
    (growTo count infos).length = max count infos.length := by
  rw [growTo, List.length_append, List.length_replicate]
  omega

/-- Nothing is recorded about new parameters, as about those behind the last. -/
theorem getD_growTo (count : Nat) (infos : List ParamInfo) (j : Nat) :
    ((growTo count infos)[j]?).getD .blank = (infos[j]?).getD .blank := by
  rw [growTo, List.getElem?_append, List.getElem?_replicate]
  by_cases inside : j < infos.length
  · rw [if_pos inside]
  · rw [if_neg inside, List.getElem?_eq_none_iff.2 (Nat.le_of_not_lt inside)]
    split <;> rfl

/-- A record changes what is noted about each of the constructor's parameters as it would if the
    parameter had a place of its own from the start. -/
theorem ParamNotes.getD_note {arity j : Nat} (inside : j < arity) (notes : ParamNotes)
    (record : ParamRecord) :
    ((notes.note arity record).infos[j]?).getD .blank =
      ((notes.infos[j]?).getD .blank).note j record := by
  cases record with
  | decorator index applied =>
      by_cases outside : index ≥ arity
      · have other : index ≠ j := by omega
        cases applied <;> simp [ParamNotes.note, ParamInfo.note, outside, other]
      · simp only [ParamNotes.note, if_neg outside]
        cases applied with
        | none => exact getD_growTo (index + 1) notes.infos j
        | some d =>
            rw [List.getElem?_modify, ← getD_growTo (index + 1) notes.infos j]
            by_cases same : index = j
            · subst same
              have reached : index < (growTo (index + 1) notes.infos).length := by
                rw [length_growTo]
                omega
              simp [ParamInfo.note, List.getElem?_eq_getElem reached]
            · simp [ParamInfo.note, same]
  | types types =>
      rw [ParamNotes.note, getElem?_setTypes, ParamInfo.note, ← getD_growTo types.length notes.infos j]
      cases found : (growTo types.length notes.infos)[j]? with
      | some info => rfl
      | none =>
          -- the list has at least as many parameters as there are types
          have behind : types.length ≤ j := by
            have past := List.getElem?_eq_none_iff.1 found
            rw [length_growTo] at past
            omega
          rw [List.getElem?_eq_none_iff.2 behind]
          rfl

/-- All records together, whatever their order and however far the list has grown in between. -/
theorem ParamNotes.getD_foldl_note {arity j : Nat} (inside : j < arity) (records : List ParamRecord)
    (notes : ParamNotes) :
    ((records.foldl (ParamNotes.note arity) notes).infos[j]?).getD .blank =
      records.foldl (ParamInfo.note j) ((notes.infos[j]?).getD .blank) := by
  induction records generalizing notes with
  | nil => rfl
  | cons record rest ih => rw [List.foldl_cons, ih, notes.getD_note inside, List.foldl_cons]

/-- Every record is about parameters, also one that is dropped. -/
theorem ParamNotes.found_note (arity : Nat) (notes : ParamNotes) (record : ParamRecord) :
    (notes.note arity record).found = true := by
  cases record with
  | decorator index applied =>
      rw [ParamNotes.note]
      split
      · rfl
      · cases applied <;> rfl
  | types types => rfl

theorem ParamNotes.found_foldl_note (arity : Nat) (records : List ParamRecord) (notes : ParamNotes) :
    (records.foldl (ParamNotes.note arity) notes).found = (notes.found || !records.isEmpty) := by
  induction records generalizing notes with
  | nil => simp
  | cons record rest ih =>
      rw [List.foldl_cons, ih, notes.found_note]
      simp

/-- Without static metadata, what is known of each parameter is what the records of the calls add to
    nothing. -/
theorem World.paramInfo_of_untold (w : World) {shape : ClassShape}
    (untold : staticProperty? shape "ctorParameters" = none) (arity : Nat) :
    ∃ infos, w.paramInfo shape arity = (infos, none) ∧ ∀ j < arity,
      ((infos.getD [])[j]?).getD .blank =
        ((classDecorations shape).flatMap (·.decorators.filterMap w.paramRecord?)).foldl
          (ParamInfo.note j) .blank := by
  rw [World.paramInfo, untold]
  refine ⟨_, rfl, fun j inside => ?_⟩
  generalize (classDecorations shape).flatMap (·.decorators.filterMap w.paramRecord?) = records
  have noted := ParamNotes.getD_foldl_note inside records .start
  cases records with
  | nil => rfl
  | cons record rest =>
      rw [ParamNotes.found_foldl_note]
      exact noted

/-- What should be recorded at a position. -/
def World.paramReading (w : World) : Option ParamUse → ParamReading
  | none => (none, none)
  | some p =>
    (some p.type.bare, if p.decorators.isEmpty then none else some (p.decorators.map w.readingOf))

section Records

open Draft

variable (w : World)

theorem paramInfoOf_object {p : ParamUse} (proper : ∀ use ∈ p.decorators, use.Proper)
    (place : List Nat → Span) :
    (w.paramInfoOf (p.object place)).reading = w.paramReading (some p) := by
  obtain ⟨type, decorators⟩ := p
  cases decorators with
  | nil => rfl
  | cons use rest =>
      obtain ⟨ds, listed, same⟩ := decoratorArray?_objects w proper fun way => place (1 :: 0 :: way)
      have value : propertyValue? (list 0 [property "type" (given type),
          property "decorators" (array ((use :: rest).map DecoratorUse.object))] place) "decorators" =
            some (array ((use :: rest).map DecoratorUse.object) fun way => place (1 :: 0 :: way)) := rfl
      have typed : propertyValue? (list 0 [property "type" (given type),
          property "decorators" (array ((use :: rest).map DecoratorUse.object))] place) "type" =
            some type := rfl
      simp only [ParamUse.object, List.isEmpty_cons, Bool.false_eq_true, if_false, Draft.object,
        World.paramInfoOf, Expr.bare, value, typed, Option.bind_some, listed, ParamInfo.reading,
        Option.map_some, same, World.paramReading]

/-- Recorded by objects in an array. -/
theorem getElem?_objects {params : List ParamUse}
    (proper : ∀ p ∈ params, ∀ use ∈ p.decorators, use.Proper) (place : List Nat → Span) (j : Nat) :
    ((((list 0 (params.map ParamUse.object) place).map w.paramInfoOf)[j]?).getD .blank).reading =
      w.paramReading params[j]? := by
  rw [List.getElem?_map, getElem?_list, List.getElem?_map]
  cases found : params[j]? with
  | none => rfl
  | some p => exact paramInfoOf_object w (proper p (List.mem_of_getElem? found)) _

/-- A change of the values does not change which of them stand at a position. -/
theorem map_filter_position {α β : Type} (f : α → β) (noted : List (Nat × α)) (j : Nat) :
    ((noted.map (Prod.map id f)).filter (·.1 == j)).map (·.2) =
      ((noted.filter (·.1 == j)).map (·.2)).map f := by
  rw [List.filter_map, List.map_map, List.map_map]
  rfl

/-- Recorded by entries of a call. -/
theorem reading_records {md : ClassMetadata} {entries : List (Nat × DecoratorUse)}
    (lists : md.Lists entries) {noted : List (Nat × Decorator)}
    (readings : noted.map (Prod.map id Decorator.reading) = entries.map (Prod.map id w.readingOf))
    (j : Nat) :
    (((noted.map fun (i, d) => ParamRecord.decorator i (some d)) ++
      [ParamRecord.types (md.params.map fun p : ParamUse => p.type.bare)]).foldl (ParamInfo.note j)
        .blank).reading = w.paramReading md.params[j]? := by
  have same : ((noted.filter (·.1 == j)).map (·.2)).map Decorator.reading =
      (((md.params[j]?).map (·.decorators)).getD []).map w.readingOf := by
    rw [← map_filter_position, readings, map_filter_position, lists j]
  -- The types are set behind all decorators, and leave these as they are.
  rw [List.foldl_append, List.foldl_cons, List.foldl_nil]
  rw [foldl_noteDecorators, foldl_addDecorator, ParamInfo.note, List.getElem?_map]
  generalize (noted.filter (·.1 == j)).map (·.2) = ds at same
  cases found : md.params[j]? with
  | none =>
      have nothing : ds = [] := by simpa [found] using same
      simp [nothing, ParamInfo.reading, ParamInfo.blank, World.paramReading]
  | some p =>
      simp only [found, Option.map_some, Option.getD_some] at same
      have empty : ds.isEmpty = p.decorators.isEmpty := by
        rw [← List.isEmpty_map (f := Decorator.reading), same, List.isEmpty_map]
      cases isEmpty : p.decorators.isEmpty <;>
        simp [ParamInfo.reading, ParamInfo.blank, World.paramReading, empty, isEmpty, same]

end Records

end BundleLens
