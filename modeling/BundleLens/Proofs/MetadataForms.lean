/-
Module: BundleLens.Proofs.MetadataForms
Layer: Proofs
Purpose: The same metadata in its two forms gives the same answers about a class: the same decorators,
  and the same types and decorators of the constructor's parameters.
Imports: BundleLens.Proofs.Built, BundleLens.Proofs.ClassEdit, BundleLens.Proofs.Metadata,
  BundleLens.Reflection.Constructor
Main exports: CtorParam.reading, World.paramsTold, World.Tells, metadata_forms
-/
import BundleLens.Proofs.Built
import BundleLens.Proofs.ClassEdit
import BundleLens.Proofs.Metadata
import BundleLens.Reflection.Constructor

namespace BundleLens

/-! ### The statements of the two forms -/

section Statements

open Draft

variable {names : List String} {name : String} (known : names.contains name = true)
include known

theorem static_assignMember {property : String} (ordinary : property ≠ "prototype") (asked : String)
    (value : Draft Expr) (place : List Nat → Span) :
    (statement (assignMember (ident name) property value) place).staticValue? names asked =
      if property == asked then some (aliasChain (value fun way => place (0 :: 1 :: way))).2 else none := by
  have side : ∀ place : List Nat → Span, (ident name place).classSide? names = some true := by
    intro place
    simp only [ident, Expr.classSide?, Expr.ident?, Expr.bare, known, if_true]
  have isAssignment : (statement (assignMember (ident name) property value) place).expr?.bind
      Expr.assignment? = some ⟨place [0], .plain,
        .expr ((member (ident name) property) fun way => place (0 :: 0 :: way)),
        value fun way => place (0 :: 1 :: way)⟩ := rfl
  obtain ⟨e, shown, assigned⟩ := Option.bind_eq_some_iff.mp isAssignment
  simp only [Stmt.staticValue?, Stmt.staticAssignment?, shown, assigned, bind, Option.bind_some, member,
    Pat.member?, Member.name?, part, side, beq_iff_eq, if_neg ordinary, Bool.not_false, Bool.true_and]

/-- The static form assigns the two properties. -/
theorem static_staticForm (md : ClassMetadata) (place : List Nat → Span) (asked : String) :
    (list 0 (md.staticForm name) place).findSome? (·.staticValue? names asked) =
    if "decorators" == asked then
      some (array (md.decorators.map DecoratorUse.object) fun way => place (0 :: 0 :: 1 :: way))
    else if "ctorParameters" == asked then
      some (ofFunc (funcOf [] [returned (array (md.params.map ParamUse.object))])
        fun way => place (1 :: 0 :: 1 :: way))
    else none := by
  simp only [ClassMetadata.staticForm, list_cons, list_nil, part, List.findSome?_cons, List.findSome?_nil,
    static_assignMember known (show "decorators" ≠ "prototype" by decide),
    static_assignMember known (show "ctorParameters" ≠ "prototype" by decide)]
  cases "decorators" == asked <;> cases "ctorParameters" == asked <;> rfl

omit known in
/-- The decorating call is no static property. -/
theorem static_decorateForm (md : ClassMetadata) (entries : List (Nat × DecoratorUse))
    (place : List Nat → Span) (asked : String) :
    (list 0 (md.decorateForm entries name) place).findSome? (·.staticValue? names asked) = none := rfl

omit known in
theorem decorateCall?_call (elements : List (Draft Expr)) (target : Draft Expr)
    (place : List Nat → Span) :
    ∃ decorate place' place'', (call (ident "__decorate") [array elements, target] place).decorateCall? =
      some decorate ∧ decorate.decorators = list 0 elements place' ∧
      decorate.target = (target place'').bare ∧ decorate.member = none := by
  have isCall := helperCall?_call "__decorate" "__decorate" [array elements, target] place
  rw [if_pos (by decide)] at isCall
  have plain := plainArgs?_callOf (ident "__decorate") [array elements, target] place
  have listed := elements?_array elements fun way => place (1 :: way)
  refine ⟨⟨callOf (ident "__decorate") [array elements, target] place,
    list 0 elements fun way => place (1 :: way), (target fun way => place (2 :: way)).bare, none⟩,
    fun way => place (1 :: way), fun way => place (2 :: way), ?_, rfl, rfl, rfl⟩
  simp only [Expr.decorateCall?, isCall, plain, bind, Option.bind_some, list_cons, list_nil, part, listed]

/-- The decorating call of the other form. -/
theorem classDecorate?_decorateForm (md : ClassMetadata) (entries : List (Nat × DecoratorUse))
    (place : List Nat → Span) :
    ∃ decorate place', (list 0 (md.decorateForm entries name) place).filterMap (·.classDecorate? names) =
      [decorate] ∧ decorate.decorators = list 0 (md.entriesOf entries) place' := by
  obtain ⟨decorate, place', place'', isDecorate, listed, target, noMember⟩ :=
    decorateCall?_call (md.entriesOf entries) (ident name) fun way => place (0 :: 0 :: 1 :: way)
  let value := call (ident "__decorate") [array (md.entriesOf entries), ident name]
  have isAssignment : (statement (assign name value) fun way => place (0 :: way)).expr?.bind
      Expr.assignment? = some ⟨place [0, 0], .plain, .ident (place [0, 0, 0]) ⟨name, place [0, 0, 0, 0]⟩,
        value fun way => place (0 :: 0 :: 1 :: way)⟩ := rfl
  obtain ⟨e, shown, assigned⟩ := Option.bind_eq_some_iff.mp isAssignment
  have unaliased : (aliasChain (value fun way => place (0 :: 0 :: 1 :: way))).2 =
    value fun way => place (0 :: 0 :: 1 :: way) := rfl
  have decorates : (statement (assign name value) fun way => place (0 :: way)).classDecorate? names =
      some decorate := by
    simp only [Stmt.classDecorate?, shown, assigned, bind, Option.bind_some, Pat.ident?, known, if_true,
      unaliased, value, isDecorate, target, ident, Expr.bare, Expr.ident?, noMember, Option.isNone_none,
      Bool.and_self]
  refine ⟨decorate, place', ?_, listed⟩
  rw [ClassMetadata.decorateForm, list_cons, list_nil, part, List.filterMap_cons, decorates,
    List.filterMap_nil]

end Statements

/-! ### What is read of the class -/

/-- The decorators of a class are read as those of the metadata. -/
def World.ReadsDecorators (w : World) (shape : ClassShape) (md : ClassMetadata) : Prop :=
  ∃ ds, w.classDecorators? shape = some ds ∧ ds.map Decorator.reading = md.decorators.map w.readingOf

/-- The records about parameters that a class gives are those of the metadata. -/
def World.ReadsParams (w : World) (shape : ClassShape) (md : ClassMetadata) : Prop :=
  ∀ arity, ∃ infos, w.paramInfo shape arity = (infos, none) ∧
    ∀ j < arity, (((infos.getD [])[j]?).getD .blank).reading = w.paramReading md.params[j]?

section Readings

open Draft

variable (w : World) {md : ClassMetadata} {extended shape : ClassShape} {position : Nat} {name : String}
  {entries : List (Nat × DecoratorUse)} {place : List Nat → Span}

theorem readsDecorators_staticForm
    (isExtended : extended.Extends shape position (list 0 (md.staticForm name) place))
    (unannotated : shape.Unannotated) (known : shape.names.contains name = true) (proper : md.Proper) :
    w.ReadsDecorators extended md := by
  have property := staticProperty?_extends isExtended unannotated.noDecorators
  rw [static_staticForm known, if_pos (by decide)] at property
  simp only [World.ReadsDecorators, World.classDecorators?, property]
  exact decoratorArray?_objects w proper.decorators _

theorem readsParams_staticForm
    (isExtended : extended.Extends shape position (list 0 (md.staticForm name) place))
    (unannotated : shape.Unannotated) (known : shape.names.contains name = true) (proper : md.Proper) :
    w.ReadsParams extended md := by
  intro arity
  have property := staticProperty?_extends isExtended unannotated.noParameters
  rw [static_staticForm known, if_neg (by decide), if_pos (by decide)] at property
  have elements : ∀ place : List Nat → Span, ∃ place',
      metadataElements? (ofFunc (funcOf [] [returned (array (md.params.map ParamUse.object))]) place) =
        some (list 0 (md.params.map ParamUse.object) place') := by
    intro place
    exact ⟨fun way => place (0 :: 0 :: way), elements?_array _ _⟩
  obtain ⟨place', isArray⟩ := elements fun way => place (1 :: 0 :: 1 :: way)
  refine ⟨_, by rw [World.paramInfo, property]; simp only [isArray]; rfl, ?_⟩
  intro j _
  exact getElem?_objects w proper.params place' j

theorem readsDecorators_decorateForm
    (isExtended : extended.Extends shape position (list 0 (md.decorateForm entries name) place))
    (unannotated : shape.Unannotated) (known : shape.names.contains name = true) (proper : md.Proper) :
    w.ReadsDecorators extended md := by
  have property := staticProperty?_extends isExtended unannotated.noDecorators
  rw [static_decorateForm] at property
  obtain ⟨decorate, place', calls, listed⟩ := classDecorate?_decorateForm known md entries place
  rw [← classDecorations_extends isExtended unannotated.noCalls] at calls
  simp only [World.ReadsDecorators, World.classDecorators?, property, calls]
  refine ⟨_, rfl, ?_⟩
  rw [List.flatMap_singleton, listed]
  exact decorators_entriesOf w proper entries place'

theorem readsParams_decorateForm
    (isExtended : extended.Extends shape position (list 0 (md.decorateForm entries name) place))
    (unannotated : shape.Unannotated) (known : shape.names.contains name = true) (proper : md.Proper)
    (lists : md.Lists entries) (few : md.params.length ≤ maxParamIndex + 1) :
    w.ReadsParams extended md := by
  intro arity
  have property := staticProperty?_extends isExtended unannotated.noParameters
  rw [static_decorateForm] at property
  obtain ⟨decorate, place', calls, listed⟩ := classDecorate?_decorateForm known md entries place
  rw [← classDecorations_extends isExtended unannotated.noCalls] at calls
  obtain ⟨noted, records, readings⟩ := records_entriesOf w proper lists few place'
  obtain ⟨infos, isInfo, recorded⟩ := w.paramInfo_of_untold property arity
  rw [calls, List.flatMap_singleton, listed, records] at recorded
  refine ⟨infos, isInfo, ?_⟩
  intro j inside
  rw [recorded j inside]
  exact reading_records w lists readings j

end Readings

/-! ### Constructor parameters -/

/-- A parameter as it is told: its name, its pattern, what is recorded about it, and the value that its
    type refers to. -/
abbrev CtorParamReading : Type := Option String × Pat × ParamReading × TypeReference

/-- All that is told about a parameter, the nodes apart that decorators were read from. -/
def CtorParam.reading (p : CtorParam) : CtorParamReading :=
  (p.name, p.pat, (p.type, p.decorators.map (·.map Decorator.reading)), p.reference)

/-- What a parameter should be told as, for what should be recorded about it. -/
def World.paramTold (w : World) (pat : Pat) (recorded : ParamReading) : Reflect CtorParamReading := do
  return (pat.ident?.map (·.name), pat, recorded, ← w.typeReference recorded.1)

/-- What the parameters of a constructor should be told as, for the metadata of the class. -/
def World.paramsTold (w : World) (shape : ClassShape) (md : ClassMetadata) :
    Reflect (Option (List CtorParamReading)) := do
  let some pats ← w.constructorPats shape | return none
  return some (← pats.zipIdx.mapM fun (pat, j) => w.paramTold pat (w.paramReading md.params[j]?))

theorem pairInfo_cons (pat : Pat) (pats : List Pat) (infos : List ParamInfo) :
    pairInfo (pat :: pats) infos = (pat, (infos[0]?).getD .blank) :: pairInfo pats infos.tail := by
  cases infos <;> rfl

theorem constructorParam_reading (w : World) (pat : Pat) (info : ParamInfo) :
    CtorParam.reading <$> w.constructorParam pat info = w.paramTold pat info.reading := rfl

theorem mapM_constructorParam (w : World) (recorded : Nat → ParamReading) (pats : List Pat)
    (infos : List ParamInfo) (first : Nat)
    (same : ∀ j < pats.length, ((infos[j]?).getD .blank).reading = recorded (first + j)) :
    (List.map CtorParam.reading) <$> (pairInfo pats infos).mapM
        (fun (pat, info) => w.constructorParam pat info) =
      (pats.zipIdx first).mapM fun (pat, j) => w.paramTold pat (recorded j) := by
  -- By induction on the patterns: the records may end before them, and are blank from there on.
  induction pats generalizing infos first with
  | nil => rfl
  | cons pat pats ih =>
      have here : ((infos[0]?).getD ParamInfo.blank).reading = recorded first := same 0 (Nat.succ_pos _)
      have others := ih infos.tail (first + 1) (by
        intro j inside
        rw [List.getElem?_tail, same (j + 1) (Nat.succ_lt_succ inside), Nat.add_assoc, Nat.add_comm 1])
      simp only [pairInfo_cons, List.zipIdx_cons, List.mapM_cons, ← here, ← others,
        ← constructorParam_reading, map_bind, map_pure, bind_map_left, List.map_cons]

/-- A class that gives the records of the metadata tells its parameters so. -/
theorem constructorParams_reading (w : World) {extended shape : ClassShape} {position : Nat}
    {new : List Stmt} {md : ClassMetadata} (isExtended : extended.Extends shape position new)
    (reads : w.ReadsParams extended md) :
    (Option.map (List.map CtorParam.reading)) <$> w.constructorParams extended =
      w.paramsTold shape md := by
  obtain ⟨function, iife, iife', form, form'⟩ := isExtended.inner
  have samePats : w.constructorPats extended = w.constructorPats shape := by
    rw [World.constructorPats, World.constructorPats, form, form']
  rw [World.constructorParams, World.paramsTold, samePats, map_bind]
  apply bind_congr
  intro pats
  cases pats with
  | none => rfl
  | some pats =>
      obtain ⟨infos, isInfo, readings⟩ := reads pats.length
      have same := mapM_constructorParam w (fun j => w.paramReading md.params[j]?) pats (infos.getD []) 0 (by
        intro j inside
        rw [Nat.zero_add]
        exact readings j inside)
      simp only [isInfo]
      rw [← same]
      rfl

/-! ### Both forms -/

/-- The class with the statements of a form in its body, wherever they stand in front of its end and at
    whatever places, is told as the metadata says: its decorators, and the parameters of its
    constructor. -/
def World.Tells (w : World) (outer : ClassOuter) (value : Expr) (following : List Stmt)
    (shape : ClassShape) (md : ClassMetadata) (form : List (Draft Stmt)) : Prop :=
  ∀ position < shape.statements.length, ∀ place : List Nat → Span,
    let edit := insertAt position (Draft.list 0 form place)
    ∃ extended, classOfValue? (outer.editBody edit) (value.editBody edit) following = some extended ∧
      (w.classDecorators? extended).map (List.map Decorator.reading) =
        some (md.decorators.map w.readingOf) ∧
      (Option.map (List.map CtorParam.reading)) <$> w.constructorParams extended = w.paramsTold shape md

section Both

variable (w : World) {outer : ClassOuter} {value : Expr} {following : List Stmt} {found : ClassIife}
  {shape : ClassShape} {md : ClassMetadata}

theorem World.tells_of_reads (isClass : value.classIife? = some found)
    (isShape : classOfValue? outer value following = some shape) {form : List (Draft Stmt)}
    (noFunction : ∀ place, ∀ s ∈ Draft.list 0 form place, s.functionDecl? = none)
    (decorators : ∀ {extended position place},
      extended.Extends shape position (Draft.list 0 form place) → w.ReadsDecorators extended md)
    (params : ∀ {extended position place},
      extended.Extends shape position (Draft.list 0 form place) → w.ReadsParams extended md) :
    w.Tells outer value following shape md form := by
  intro position inside place
  obtain ⟨extended, isClass', isExtended⟩ :=
    classOfValue?_insertAt isClass isShape inside (noFunction place)
  obtain ⟨ds, read, same⟩ := decorators isExtended
  refine ⟨extended, isClass', ?_, ?_⟩
  · rw [read, Option.map_some, same]
  · exact constructorParams_reading w isExtended (params isExtended)

/-- The two forms of the metadata of a class tell the same about it: what the metadata says. -/
theorem metadata_forms (isClass : value.classIife? = some found)
    (isShape : classOfValue? outer value following = some shape) (unannotated : shape.Unannotated)
    (proper : md.Proper) {entries : List (Nat × DecoratorUse)} (lists : md.Lists entries)
    (few : md.params.length ≤ maxParamIndex + 1) :
    w.Tells outer value following shape md (md.staticForm found.inner.name.name) ∧
      w.Tells outer value following shape md (md.decorateForm entries found.inner.name.name) := by
  have known : shape.names.contains found.inner.name.name = true := by
    simp only [classOfValue?, isClass, Option.some.injEq] at isShape
    rw [← isShape]
    exact List.contains_iff_mem.mpr (ClassShape.mem_names_make ..)
  constructor
  · apply w.tells_of_reads isClass isShape
    · intro place s isNew
      simp only [ClassMetadata.staticForm, Draft.list_cons, Draft.list_nil, List.mem_cons] at isNew
      rcases isNew with rfl | rfl | isNew
      · rfl
      · rfl
      · cases isNew
    · intro extended position place isExtended
      exact readsDecorators_staticForm w isExtended unannotated known proper
    · intro extended position place isExtended
      exact readsParams_staticForm w isExtended unannotated known proper
  · apply w.tells_of_reads isClass isShape
    · intro place s isNew
      rw [List.mem_singleton.mp isNew]
      rfl
    · intro extended position place isExtended
      exact readsDecorators_decorateForm w isExtended unannotated known proper
    · intro extended position place isExtended
      exact readsParams_decorateForm w isExtended unannotated known proper lists few

end Both

/-- A file that refers to members of a module. -/
def decoratorFile : Program :=
  .ofTexts [("/a.js", "import * as core from 'core'; core.Injectable; core.Inject;")]

/-- A member of the module, where the file refers to it. -/
def coreMember (start : Nat) (name : String) : Expr :=
  .member ⟨start, start + 5 + name.length⟩ false (.ident ⟨"core", ⟨start, start + 4⟩⟩)
    (.ident ⟨name, ⟨start + 5, start + 5 + name.length⟩⟩)

/-- `function () { function Service(a, b) {} return Service; }()` -/
def plainService : Expr :=
  let constructor := Draft.funcOf [Draft.given ⟨"a", default⟩, Draft.given ⟨"b", default⟩] []
  Draft.call (Draft.ofFunc (Draft.funcOf []
    [fun place => .function ⟨"Service", place []⟩ (constructor place),
      Draft.returned (Draft.ident "Service")])) [] fun _ => default

/-- `var Service = ...` -/
def plainServiceHolder : ClassOuter :=
  .variable ⟨default, .ident default ⟨"Service", default⟩, some plainService⟩ ⟨"Service", default⟩

/-- The class that the variable holds. -/
def plainServiceShape : ClassShape := (classOfValue? plainServiceHolder plainService []).get rfl

/-- Metadata with imported decorators, some of them on parameters. -/
def serviceMetadata : ClassMetadata where
  decorators := [⟨coreMember 30 "Injectable", [.string default (some "root")]⟩]
  params := [⟨.ident ⟨"Dependency", default⟩, [⟨.ident ⟨"Self", default⟩, []⟩]⟩,
    ⟨.ident ⟨"undefined", default⟩,
      [⟨coreMember 47 "Inject", [.string default (some "token")]⟩, ⟨.ident ⟨"Optional", default⟩, []⟩]⟩]

/-- The decorators of the parameters, not in the order of the parameters. -/
def serviceEntries : List (Nat × DecoratorUse) :=
  [(1, ⟨coreMember 47 "Inject", [.string default (some "token")]⟩),
    (0, ⟨.ident ⟨"Self", default⟩, []⟩), (1, ⟨.ident ⟨"Optional", default⟩, []⟩)]

/-- What both forms of this metadata tell. -/
theorem metadata_forms_service :
    let w := World.ofProgram decoratorFile .modules
    plainServiceShape.statements.length = 2 ∧
      (serviceMetadata.decorators.map w.readingOf).map (fun told => (told.1, told.2.2.1)) =
        [("Injectable", some ⟨"Injectable", "core"⟩)] ∧
      w.Tells plainServiceHolder plainService [] plainServiceShape serviceMetadata
        (serviceMetadata.staticForm "Service") ∧
      w.Tells plainServiceHolder plainService [] plainServiceShape serviceMetadata
        (serviceMetadata.decorateForm serviceEntries "Service") := by
  intro w
  have isClass : plainService.classIife? = some (plainService.classIife?.get rfl) := rfl
  have isShape : classOfValue? plainServiceHolder plainService [] = some plainServiceShape := rfl
  have unannotated : plainServiceShape.Unannotated := ⟨rfl, rfl, rfl⟩
  have proper : serviceMetadata.Proper := by decide +kernel
  have lists : serviceMetadata.Lists serviceEntries := by
    intro i
    rcases i with _ | _ | i
    · rfl
    · rfl
    · rfl
  have imported : (serviceMetadata.decorators.map w.readingOf).map (fun told => (told.1, told.2.2.1)) =
      [("Injectable", some ⟨"Injectable", "core"⟩)] := by
    decide +kernel
  exact ⟨rfl, imported, metadata_forms w isClass isShape unannotated proper lists (by decide)⟩

/-- A decorator that is named like a helper with a number is told by one of the forms only. -/
theorem metadata_forms_numberedHelper :
    let w := World.ofProgram decoratorFile .modules
    let use : DecoratorUse := ⟨.ident ⟨"__param$1", default⟩, []⟩
    let md : ClassMetadata := ⟨[use], []⟩
    let static := insertAt 1 (Draft.list 0 (md.staticForm "Service") fun _ => default)
    let decorate := insertAt 1 (Draft.list 0 (md.decorateForm [] "Service") fun _ => default)
    let namesTold (edit : List Stmt → List Stmt) :=
      (classOfValue? (plainServiceHolder.editBody edit) (plainService.editBody edit) []).map
        fun shape => (w.classDecorators? shape).map (List.map Decorator.name)
    plainServiceShape.Unannotated ∧ use.reference.isReference = true ∧
      referenceName use.reference ∉ ["__param", "__metadata"] ∧ md.Lists [] ∧
      namesTold static = some (some ["__param$1"]) ∧ namesTold decorate = some (some []) := by
  intro w use md static decorate namesTold
  have unannotated : plainServiceShape.Unannotated := ⟨rfl, rfl, rfl⟩
  have otherName : referenceName use.reference ∉ ["__param", "__metadata"] := by decide
  have lists : md.Lists [] := fun i => by cases i <;> rfl
  exact ⟨unannotated, rfl, otherName, lists, rfl, rfl⟩

end BundleLens
