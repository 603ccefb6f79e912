/-
Module: BundleLens.Proofs.ClassReports
Layer: Proofs
Purpose: The report on the classes of a file is complete. Every class of the index is reported, in the
  order of the index, and each report is about its own class; nothing fails on the way. A report that is
  asked for by name consists of the reports with the name. Only the constructors of a report depend on
  what is remembered, and only where a cycle runs through files of both formats: there a class that is
  reported alone may have another constructor than in the report on all classes.
Imports: BundleLens.Proofs.ClassKeys, BundleLens.Proofs.History, BundleLens.Report.Classes,
  Mathlib.Data.List.Forall2
Main exports: World.reportOf, World.Describes, World.classReports_run, classReports_complete
-/
import BundleLens.Proofs.ClassKeys
import BundleLens.Proofs.History
import BundleLens.Report.Classes
import Mathlib.Data.List.Forall2

namespace BundleLens

/-! ### The report on one class -/

/-- The report on a class, with the parameters of its constructor. -/
def World.reportOf (w : World) (shape : ClassShape) (ctor : Option (List CtorParam)) : ClassReport where
  name := shape.name
  location := w.program.location? shape.declaration.span
  internalName := shape.internalName?.getD shape.name
  adjacentName := shape.name
  base := shape.base?.bind fun e => w.program.sourceText? e.span
  decorators := (w.classDecorators? shape).map (·.map Decorator.report)
  members := (w.membersOf shape).map MemberInfo.report
  ctor := ctor.map (·.map w.paramReport)

/-- A report tells of a class what is known of it; its constructor is told as some memory lets it be. -/
def World.Describes (w : World) (shape : ClassShape) (report : ClassReport) : Prop :=
  ∃ memory, report = w.reportOf shape ((w.constructorParams shape).run memory).1

section One

variable {w : World} {shape : ClassShape} {symbol : ClassSymbol}

/-- A class that its own node leads to is reported as what it is. -/
theorem World.shapeReport_run (leads : w.classSymbol? shape.declaration = some symbol)
    (same : symbol.shape = shape) :
    (w.shapeReport shape).run = (do return .ok [w.reportOf shape (← w.constructorParams shape)]) := by
  subst same
  have required : ∀ question, w.requireClass symbol.shape.declaration question = .ok symbol := by
    intro question
    simp [World.requireClass, leads]
  unfold World.shapeReport World.classReport World.baseExpression World.decorators World.members
    World.constructorParameters World.internalName World.adjacentName
  simp only [leads, required, Except.map]
  rfl

end One

/-! ### The report on all classes -/

section All

variable {w : World} {shapes : List ClassShape}

/-- Every class is one that its own node leads to. -/
def World.LeadsBack (w : World) (shapes : List ClassShape) : Prop :=
  ∀ shape ∈ shapes, ∃ symbol, w.classSymbol? shape.declaration = some symbol ∧ symbol.shape = shape

/-- Classes are reported one after the other, and nothing fails. -/
theorem World.mapM_shapeReport (leads : w.LeadsBack shapes) (memory : Memory) :
    (shapes.mapM w.shapeReport).run.run memory =
      (.ok (List.zipWith (fun shape ctor => [w.reportOf shape ctor]) shapes
        ((shapes.mapM w.constructorParams).run memory).1),
        ((shapes.mapM w.constructorParams).run memory).2) := by
  induction shapes generalizing memory with
  | nil => rfl
  | cons shape rest ih =>
      obtain ⟨symbol, found, same⟩ := leads shape List.mem_cons_self
      have later := ih (fun other member => leads other (List.mem_cons_of_mem _ member))
        ((w.constructorParams shape).run memory).2
      rw [List.mapM_cons, List.mapM_cons, ExceptT.run_bind, shapeReport_run found same]
      simp only [bind_pure_comp, ExceptT.run_map]
      -- What is left of the loop goes on with the memory that the first class left.
      exact congrArg (fun answer => (answer.1.map (List.cons [w.reportOf shape
        ((w.constructorParams shape).run memory).1]), answer.2)) later

theorem flatten_zipWith_singleton {α β γ : Type} (f : α → β → γ) (xs : List α) (ys : List β) :
    (List.zipWith (fun x y => [f x y]) xs ys).flatten = List.zipWith f xs ys := by
  induction xs generalizing ys with
  | nil => rfl
  | cons x xs ih => cases ys with
    | nil => rfl
    | cons y ys => exact congrArg (f x y :: ·) (ih ys)

/-- The report on the classes of a file, if all of them lead back to themselves. -/
theorem World.classReports_run {view : FileView} {only : Option String}
    (leads : w.LeadsBack (view.classesNamed only)) (memory : Memory) :
    ((w.classReports view only).run.run memory).1 =
      .ok (List.zipWith w.reportOf (view.classesNamed only)
        (((view.classesNamed only).mapM w.constructorParams).run memory).1) := by
  rw [World.classReports, bind_pure_comp, ExceptT.run_map]
  have loop := congrArg Prod.fst (mapM_shapeReport leads memory)
  rw [← flatten_zipWith_singleton]
  exact congrArg (Except.map List.flatten) loop

/-- Each answer of a sequence is the answer in some memory. -/
theorem forall₂_mapM {α β : Type} (f : α → Reflect β) (xs : List α) (memory : Memory) :
    List.Forall₂ (fun x y => ∃ m, y = ((f x).run m).1) xs ((xs.mapM f).run memory).1 := by
  induction xs generalizing memory with
  | nil => exact .nil
  | cons x xs ih =>
      rw [List.mapM_cons]
      exact .cons ⟨memory, rfl⟩ (ih _)

theorem forall₂_describes {ctors : List (Option (List CtorParam))}
    (told : List.Forall₂ (fun shape ctor => ∃ m, ctor = ((w.constructorParams shape).run m).1)
      shapes ctors) :
    List.Forall₂ w.Describes shapes (List.zipWith w.reportOf shapes ctors) := by
  induction told with
  | nil => exact .nil
  | cons first _ ih =>
      obtain ⟨m, same⟩ := first
      exact .cons ⟨m, congrArg _ same⟩ ih

end All

/-! ### Answers that do not depend on the memory -/

/-- A computation that has one answer in all memories between two questions, and leaves such a
    memory. -/
def World.Firm (w : World) {α : Type} (c : Reflect α) : Prop :=
  ∃ answer, ∀ m, w.Rested m → (c.run m).1 = answer ∧ w.Rested (c.run m).2

namespace World.Firm

variable {w : World} {α β : Type}

theorem closed (w : World) : Closed fun _ c => w.Firm c where
  pure value := ⟨value, fun _ rested => ⟨rfl, rested⟩⟩
  bind := by
    rintro α β c rest ⟨first, firstFirm⟩ later
    obtain ⟨answer, laterFirm⟩ := later first
    refine ⟨answer, fun m rested => ?_⟩
    obtain ⟨same, restedThen⟩ := firstFirm m rested
    have after := laterFirm _ restedThen
    rwa [← same] at after

/-- Where no cycle runs through files of both formats, every inquiry has one answer. -/
theorem run (proper : w.Proper) (unmixed : ∀ id, w.Unmixed id) (q : Inquiry α) :
    w.Firm (q.run w.exportsOf) := by
  induction q with
  | done found => exact (closed w).pure found
  | table file next ih =>
      apply (closed w).bind ?_ ih
      refine ⟨w.freshTable file.id, fun m rested => ⟨?_, exportsOf_keeps_rested proper file m rested⟩⟩
      exact exportsOf_eq_fresh proper rested (unmixed file.id)
  | unfinished file next ih =>
      apply (closed w).bind ?_ ih
      refine ⟨false, fun m rested => ⟨?_, rested⟩⟩
      change (m.cache .wrappers).inProgress.contains file.id = false
      rw [rested.unmarked .wrappers]
      rfl

/-- Where no cycle runs through files of both formats, the parameters of a constructor are always the
    same. -/
theorem constructorParams (proper : w.Proper) (unmixed : ∀ id, w.Unmixed id) (shape : ClassShape) :
    w.Firm (w.constructorParams shape) :=
  (closed w).constructorParams (fun e => run proper unmixed (w.expressionInquiry e))
    (fun problem => ⟨(), fun m rested => ⟨rfl, warn_keeps_rested w problem m rested⟩⟩) shape

/-- What is firm for each of some things is told of all of them alike. -/
theorem mapM_run {f : α → Reflect β} {told : α → β}
    (firm : ∀ x m, w.Rested m → ((f x).run m).1 = told x ∧ w.Rested ((f x).run m).2) (xs : List α)
    {m : Memory} (rested : w.Rested m) : ((xs.mapM f).run m).1 = xs.map told := by
  induction xs generalizing m with
  | nil => rfl
  | cons x xs ih =>
      obtain ⟨same, restedThen⟩ := firm x m rested
      have later := ih restedThen
      rw [List.mapM_cons, List.map_cons, ← same, ← later]
      rfl

end World.Firm

/-! ### Files -/

section Files

variable {program : Program} {file : SourceFile}

theorem FileView.classesNamed_subset (view : FileView) (only : Option String) :
    view.classesNamed only ⊆ view.index.classes := by
  cases only with
  | none => exact List.Subset.refl _
  | some name => exact List.filter_subset_self _

/-- Every class that a report is asked for is one that its own node leads to. -/
theorem World.leadsBack (built : program.Built) (member : file ∈ program.files)
    (distinct : file.HasDistinctKeys) (host : HostKind) (only : Option String) :
    (ofProgram program host).LeadsBack ((FileView.ofFile file).classesNamed only) := by
  intro shape asked
  obtain ⟨i, listed⟩ := List.getElem?_of_mem ((FileView.ofFile file).classesNamed_subset only asked)
  exact ⟨_, classSymbol?_declaration built member distinct listed, rfl⟩

/-- The report on a file has one report on each class that it is asked for, in the order of the index,
    and nothing fails. Where no cycle runs through files of both formats, the reports are the same after
    any questions, and those that are asked for by name are the ones with the name. -/
theorem classReports_complete (built : program.Built) (member : file ∈ program.files)
    (distinct : file.HasDistinctKeys) (host : HostKind) :
    let w := World.ofProgram program host
    let view := FileView.ofFile file
    (∀ only memory, ∃ reports, ((w.classReports view only).run.run memory).1 = .ok reports ∧
        List.Forall₂ w.Describes (view.classesNamed only) reports) ∧
      ((∀ id, w.Unmixed id) → ∃ reports, List.Forall₂ w.Describes view.index.classes reports ∧
        ∀ questions,
          ((w.classReports view none).run.run (w.memoryAfter questions)).1 = .ok reports ∧
          ∀ name, ((w.classReports view (some name)).run.run (w.memoryAfter questions)).1 =
            .ok (reports.filter (·.name == name))) := by
  intro w view
  have leads : ∀ only, w.LeadsBack (view.classesNamed only) := World.leadsBack built member distinct host
  constructor
  · intro only memory
    exact ⟨_, World.classReports_run (leads only) memory, forall₂_describes (forall₂_mapM _ _ memory)⟩
  · intro unmixed
    have proper : w.Proper := World.ofProgram_proper built host
    choose told firm using World.Firm.constructorParams proper unmixed
    have made : ∀ only questions,
        ((w.classReports view only).run.run (w.memoryAfter questions)).1 =
          .ok ((view.classesNamed only).map fun shape => w.reportOf shape (told shape)) := by
      intro only questions
      have rested := World.rested_memoryAfter proper questions
      rw [World.classReports_run (leads only), World.Firm.mapM_run firm _ rested, List.zipWith_map_right,
        List.zipWith_self]
    refine ⟨view.index.classes.map fun shape => w.reportOf shape (told shape), ?_, ?_⟩
    · rw [List.forall₂_map_right_iff, List.forall₂_same]
      intro shape _
      exact ⟨.empty, congrArg _ (firm shape .empty (.empty w)).1.symm⟩
    · intro questions
      refine ⟨made none questions, fun name => ?_⟩
      rw [made (some name) questions, List.filter_map]
      rfl

/-- A wrapped file with a class inside a function call and one that is written as a class under another
    name. -/
def wrappedClasses : Program :=
  .ofTexts [("/a.js", wrappedText ("var A = (function () \x7b function A(x) \x7b\x7d return A; \x7d()); " ++
    "var B = class C extends A \x7b\x7d;"))]

/-- Both classes are reported, each alone if it is asked for by its name. -/
theorem classReports_wrappedClasses :
    let w := World.ofProgram wrappedClasses .mixed
    wrappedClasses.Built ∧ (∀ id, w.Unmixed id) ∧
      ∀ file ∈ wrappedClasses.files, file.HasDistinctKeys ∧
        (FileIndex.build file.items).classes.map (·.name) = ["A", "B"] ∧
        ∃ reports, List.Forall₂ w.Describes (FileIndex.build file.items).classes reports ∧
          ∀ questions,
            ((w.classReports (.ofFile file) none).run.run (w.memoryAfter questions)).1 = .ok reports ∧
            ∀ name, ((w.classReports (.ofFile file) (some name)).run.run (w.memoryAfter questions)).1 =
              .ok (reports.filter (·.name == name)) := by
  intro w
  have built : wrappedClasses.Built := .ofTexts _
  have facts : ∀ file ∈ wrappedClasses.files, (file.wrapper?.isSome = true ∧ file.isTypings = false) ∧
      file.HasDistinctKeys ∧ (FileIndex.build file.items).classes.map (·.name) = ["A", "B"] := by
    rw [wrappedClasses, Program.ofTexts_eq_ofBytes]
    decide +kernel
  have unmixed : ∀ id, w.Unmixed id := by
    refine World.unmixed_of_wrapped fun file member => ?_
    obtain ⟨⟨wrapped, code⟩, _⟩ := facts file member
    simpa [FileView.wrapperFor?, FileView.ofFile, code] using wrapped
  refine ⟨built, unmixed, fun file member => ?_⟩
  obtain ⟨_, distinct, names⟩ := facts file member
  exact ⟨distinct, names, (classReports_complete built member distinct .mixed).2 unmixed⟩

/-- A cycle of both formats, and two classes whose constructors it takes the tables of its files to
    tell. -/
def mixedClasses : Program :=
  .ofTexts [("/a.js", wrappedText "__export(require('./b'))"),
    ("/b.js", "export * from './a'; export class __spread \x7b\x7d"),
    ("/m.js", "import * as a from './a'; import * as b from './b'; " ++
      "class I \x7b constructor(x) \x7b\x7d \x7d I.ctorParameters = () => [\x7b type: b.x \x7d]; " ++
      "var K = (function (s) \x7b function K() \x7b " ++
      "return s.apply(this, a.__spread(arguments)) || this; \x7d " ++
      "return K; \x7d(I));")]

/-- The class that is reported last has another constructor if it is reported alone. -/
theorem classReports_mixedClasses :
    let w := World.ofProgram mixedClasses .mixed
    mixedClasses.Built ∧ (∀ file ∈ mixedClasses.files, file.HasDistinctKeys) ∧
      ∃ file ∈ mixedClasses.files,
        ((w.classReports (.ofFile file) none).run.run .empty).1.toOption.map
            (fun reports => (reports.filter (·.name == "K")).map (·.ctor)) = some [none] ∧
          ((w.classReports (.ofFile file) (some "K")).run.run .empty).1.toOption.map
            (fun reports => reports.map (·.ctor)) = some [some []] := by
  refine ⟨.ofTexts _, ?_⟩
  rw [mixedClasses, Program.ofTexts_eq_ofBytes]
  decide +kernel

end Files

end BundleLens
