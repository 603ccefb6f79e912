/-
Module: BundleLens.Proofs.History
Layer: Proofs
Purpose: Answers do not depend on the questions that came before. After any questions no table is in the
  making and what is remembered is sound, so the table of every file that leads to no cycle of both
  formats is the one that is made from nothing. Where all files are of one format that is every table,
  and every remembered table as well. A cycle through both formats can make a difference: a cut is
  counted under the format of the file that is met again, and a table of the other format is remembered
  in spite of it.
Imports: BundleLens.Proofs.Memoization, BundleLens.Reflection.ClassSymbol
Main exports: Question, World.memoryAfter, World.Rested, World.exportsOf_eq_fresh,
  exportsOf_after_questions, Program.OneFormat, exportsOf_of_oneFormat
-/
import BundleLens.Proofs.Memoization
import BundleLens.Reflection.ClassSymbol

namespace BundleLens

/-! ### Questions -/

/-- The questions that may change what is remembered. All others look only at the world. -/
inductive Question where
  | exports (file : SourceFile)
  | identifier (id : Ident)
  | expression (e : Expr)
  | constructorParameters (node : DeclNode)

/-- Puts a question and drops its answer. -/
def World.pose (w : World) : Question → Reflect Unit
  | .exports file => do let _ ← w.exportsOf file
  | .identifier id => do let _ ← w.declarationOfIdentifier id
  | .expression e => do let _ ← w.declarationOfExpression e
  | .constructorParameters node => do let _ ← w.constructorParameters node

/-- What is remembered after some questions, put one after the other. -/
def World.memoryAfter (w : World) (questions : List Question) : Memory :=
  questions.foldl (fun m question => ((w.pose question).run m).2) .empty

/-! ### What all questions keep -/

/-- A property of the memory that a computation keeps. -/
def Keeps {α : Type} (Holds : Memory → Prop) (c : Reflect α) : Prop :=
  ∀ m, Holds m → Holds (c.run m).2

section Keeps

variable {α β : Type} {Holds : Memory → Prop}

theorem Keeps.pure (value : α) : Keeps Holds (pure value : Reflect α) := fun _ held => held

theorem Keeps.bind {c : Reflect α} {rest : α → Reflect β} (first : Keeps Holds c)
    (second : ∀ value, Keeps Holds (rest value)) : Keeps Holds (c >>= rest) :=
  fun m held => second _ _ (first m held)

/-- What every question for a table keeps, an inquiry keeps. -/
theorem Keeps.run {exports : Exports} (step : ∀ file, Keeps Holds (exports file)) (q : Inquiry α) :
    Keeps Holds (q.run exports) :=
  Inquiry.run_respects (R := fun before after => Holds before → Holds after) (fun _ held => held)
    (fun first second held => second (first held)) step q

end Keeps

/-! ### What is true of constructors -/

/-- A property of computations that holds of answers at once and of one computation after the other. -/
structure Closed (Holds : (α : Type) → Reflect α → Prop) : Prop where
  pure : ∀ {α : Type} (value : α), Holds α (pure value)
  bind : ∀ {α β : Type} {c : Reflect α} {rest : α → Reflect β}, Holds α c →
    (∀ value, Holds β (rest value)) → Holds β (c >>= rest)

theorem Keeps.closed (Holds : Memory → Prop) : Closed fun _ c => Keeps Holds c := ⟨.pure, .bind⟩

section Constructors

variable {w : World} {Holds : (α : Type) → Reflect α → Prop}

theorem Closed.mapM {α β : Type} (closed : Closed Holds) {f : β → Reflect α}
    (each : ∀ x, Holds α (f x)) (xs : List β) : Holds (List α) (xs.mapM f) := by
  induction xs with
  | nil => exact closed.pure []
  | cons x xs ih =>
      rw [List.mapM_cons]
      exact closed.bind (each x) fun _ => closed.bind ih fun _ => closed.pure _

theorem Closed.helperCall (closed : Closed Holds) (step : ∀ e, Holds _ (w.declarationOfExpression e))
    (e : Expr) : Holds _ (w.helperCall e) := by
  unfold World.helperCall
  split
  · split
    · exact closed.bind (step _) fun _ => closed.pure _
    · exact closed.pure none
  · exact closed.pure none

theorem Closed.spreadsArguments (closed : Closed Holds)
    (step : ∀ e, Holds _ (w.declarationOfExpression e)) (e : Expr) : Holds _ (w.spreadsArguments e) := by
  unfold World.spreadsArguments
  refine closed.bind (closed.helperCall step e) fun found => ?_
  split
  · exact closed.pure _
  · exact closed.pure _
  · split
    · split
      · exact closed.pure true
      · unfold World.readsArguments
        refine closed.bind (closed.helperCall step _) fun inner => ?_
        split <;> exact closed.pure _
    · exact closed.pure false
  · exact closed.pure false

theorem Closed.constructorParam (closed : Closed Holds)
    (step : ∀ e, Holds _ (w.declarationOfExpression e)) (pat : Pat) (info : ParamInfo) :
    Holds _ (w.constructorParam pat info) := by
  refine closed.bind ?_ fun _ => closed.pure _
  unfold World.typeReference
  split
  · exact closed.pure _
  · split
    · exact closed.pure _
    · split
      · exact closed.pure _
      · split
        · exact closed.bind (step _) fun _ => closed.pure _
        · exact closed.pure _

theorem Closed.constructorPats (closed : Closed Holds)
    (step : ∀ e, Holds _ (w.declarationOfExpression e)) (shape : ClassShape) :
    Holds _ (w.constructorPats shape) := by
  unfold World.constructorPats
  split
  · split
    · refine closed.bind ?_ fun _ => closed.pure _
      unfold World.forwardsArguments
      split
      · split
        · exact closed.pure true
        · exact closed.spreadsArguments step _
      · exact closed.pure false
    · exact closed.pure _
  · split
    · split <;> exact closed.pure _
    · exact closed.pure _

/-- What is true of questions for expressions and of warnings is true of questions for the parameters of
    a constructor. -/
theorem Closed.constructorParams (closed : Closed Holds)
    (step : ∀ e, Holds _ (w.declarationOfExpression e)) (warned : ∀ problem, Holds _ (warn problem))
    (shape : ClassShape) : Holds _ (w.constructorParams shape) := by
  unfold World.constructorParams
  refine closed.bind (closed.constructorPats step shape) fun found => ?_
  cases found with
  | none => exact closed.pure none
  | some pats =>
      simp only
      generalize w.paramInfo shape pats.length = recorded
      have params := closed.mapM
        (fun pair : Pat × ParamInfo => closed.constructorParam step pair.1 pair.2)
        (pairInfo pats (recorded.1.getD []))
      cases recorded.2 with
      | none => exact closed.bind params fun _ => closed.pure _
      | some problem => exact closed.bind (warned problem) fun _ => closed.bind params fun _ => closed.pure _

end Constructors

section Posing

variable {w : World} {Holds : Memory → Prop}

theorem declarationOfExpression_keeps (step : ∀ file, Keeps Holds (w.exportsOf file)) (e : Expr) :
    Keeps Holds (w.declarationOfExpression e) :=
  .run step _

/-- Asking for the parameters of a constructor keeps what questions for tables and warnings keep. -/
theorem constructorParams_keeps (step : ∀ file, Keeps Holds (w.exportsOf file))
    (warned : ∀ problem, Keeps Holds (warn problem)) (shape : ClassShape) :
    Keeps Holds (w.constructorParams shape) :=
  (Keeps.closed Holds).constructorParams (declarationOfExpression_keeps step) warned shape

/-- Every question keeps what questions for tables and warnings keep. -/
theorem pose_keeps (step : ∀ file, Keeps Holds (w.exportsOf file))
    (warned : ∀ problem, Keeps Holds (warn problem)) (question : Question) :
    Keeps Holds (w.pose question) := by
  cases question with
  | exports file => exact (step file).bind fun _ => .pure ()
  | identifier id => exact (Keeps.run step (w.identifierInquiry id)).bind fun _ => .pure ()
  | expression e => exact (declarationOfExpression_keeps step e).bind fun _ => .pure ()
  | constructorParameters node =>
      refine Keeps.bind ?_ fun _ => .pure ()
      unfold World.constructorParameters
      split
      · exact (constructorParams_keeps step warned _).bind fun _ => .pure _
      · exact .pure _

/-- What holds at the start and is kept by questions for tables and warnings holds after all
    questions. -/
theorem memoryAfter_holds (start : Holds .empty) (step : ∀ file, Keeps Holds (w.exportsOf file))
    (warned : ∀ problem, Keeps Holds (warn problem)) (questions : List Question) :
    Holds (w.memoryAfter questions) := by
  have keeps : ∀ m, Holds m → Holds (questions.foldl (fun m q => ((w.pose q).run m).2) m) := by
    induction questions with
    | nil => exact fun _ held => held
    | cons question rest ih =>
        intro m held
        exact ih _ (pose_keeps step warned question m held)
  exact keeps .empty start

end Posing

/-! ### Answers after questions -/

namespace World

variable {w : World} {m : Memory}

/-- A memory between two questions: no table is in the making, and what is remembered is sound. -/
structure Rested (w : World) (m : Memory) : Prop where
  unmarked : ∀ format, (m.cache format).inProgress = []
  sound : w.Sound m

theorem Rested.empty (w : World) : w.Rested .empty := by
  constructor
  · intro format
    cases format <;> rfl
  · intro format id table member
    cases format <;> cases member

theorem Rested.amid (rested : w.Rested m) : w.Amid m [] := by
  intro id
  unfold isMarked
  split
  · simp [rested.unmarked]
  · rfl

/-- Between two questions tables can be nested as deep as a question needs. -/
theorem exportsOf_answered (proper : w.Proper) (rested : w.Rested m) (file : SourceFile) :
    w.Answered [] file.id m ((w.exportsOf file).run m) := by
  refine exportsWithin_answered proper ?_ rested.amid rested.sound (.nil w file.id)
  have bound := w.remaining_le (w.isMarked m)
  rw [proper.complete] at bound
  exact Nat.lt_succ_of_le bound

/-- A question for a table leaves a memory between two questions. -/
theorem exportsOf_keeps_rested (proper : w.Proper) (file : SourceFile) :
    Keeps w.Rested (w.exportsOf file) := by
  intro m rested
  refine ⟨fun format => ?_, (exportsOf_answered proper rested file).sound⟩
  have later := exportsWithin_later w (w.program.files.length + 1) file m
  rw [exportsOf, later.marks, rested.unmarked]

theorem warn_keeps_rested (w : World) (problem : Warning) : Keeps w.Rested (warn problem) := by
  intro m rested
  constructor
  · intro format
    have unmarked := rested.unmarked format
    cases format <;> exact unmarked
  · intro format
    have sound := rested.sound format
    cases format <;> exact sound

/-- After any questions the memory is one between two questions. -/
theorem rested_memoryAfter (proper : w.Proper) (questions : List Question) :
    w.Rested (w.memoryAfter questions) :=
  memoryAfter_holds (.empty w) (exportsOf_keeps_rested proper) (warn_keeps_rested w) questions

/-- The table of an unmixed file is the one made from nothing. -/
theorem exportsOf_eq_fresh (proper : w.Proper) (rested : w.Rested m) {file : SourceFile}
    (unmixed : w.Unmixed file.id) : ((w.exportsOf file).run m).1 = w.freshTable file.id :=
  (exportsOf_answered proper rested file).fresh unmixed

end World

/-! ### Tables of unmixed files -/

/-- Where all files are read by their wrappers no file leads to a cycle of both formats. -/
theorem World.unmixed_of_wrapped {program : Program} {host : HostKind}
    (wrapped : ∀ file ∈ program.files, ((FileView.ofFile file).wrapperFor? host).isSome = true)
    (id : Nat) : (World.ofProgram program host).Unmixed id := by
  refine .of_format .wrappers (fun id recipe found => ?_) id
  obtain ⟨view, member, format⟩ := World.recipe?_format found
  obtain ⟨file, inside, rfl⟩ := List.mem_map.1 member
  rw [format]
  exact if_pos (wrapped file inside)

/-- The table of a file that leads to no cycle of both formats is the same after any questions as for
    one who asks for it first. -/
theorem exportsOf_after_questions {program : Program} (built : program.Built) (host : HostKind)
    (questions : List Question) (file : SourceFile)
    (unmixed : (World.ofProgram program host).Unmixed file.id) :
    (((World.ofProgram program host).exportsOf file).run
        ((World.ofProgram program host).memoryAfter questions)).1 =
      (((World.ofProgram program host).exportsOf file).run .empty).1 := by
  have proper := World.ofProgram_proper built host
  rw [World.exportsOf_eq_fresh proper (World.rested_memoryAfter proper questions) unmixed,
    World.exportsOf_eq_fresh proper (.empty _) unmixed]

/-- A text whose statements are those of a factory. -/
def wrappedText (statements : String) : String :=
  "!function (f) \x7b f(); \x7d(function () \x7b" ++ statements ++ "\x7d);"

/-- Two wrapped files that copy each other's exports. -/
def wrappedCycle : Program :=
  .ofTexts [("/a.js", wrappedText "exports.A = 1; __export(require('./b'));"),
    ("/b.js", wrappedText "exports.B = 2; __export(require('./a'));")]

/-- A module with declarations and a wrapped file that copy each other's exports. -/
def mixedCycle : Program :=
  .ofTexts [("/a.js", wrappedText "exports.A = 1; __export(require('./b'));"),
    ("/b.js", "export * from './a'; export class B \x7b\x7d")]

theorem wrappedCycle_wrapped :
    ∀ file ∈ wrappedCycle.files, file.wrapper?.isSome = true ∧ file.isTypings = false := by
  rw [wrappedCycle, Program.ofTexts_eq_ofBytes]
  decide +kernel

/-- A cycle of wrapped files gives the same tables in every order of the questions. -/
theorem exportsOf_wrappedCycle :
    let w := World.ofProgram wrappedCycle .mixed
    wrappedCycle.Built ∧ (∀ id, w.Unmixed id) ∧
      ∀ first ∈ wrappedCycle.files, ∀ second ∈ wrappedCycle.files,
        ((w.exportsOf second).run (w.memoryAfter [.exports first])).1 =
          ((w.exportsOf second).run .empty).1 := by
  have unmixed : ∀ id, (World.ofProgram wrappedCycle .mixed).Unmixed id := by
    refine World.unmixed_of_wrapped fun file member => ?_
    obtain ⟨wrapped, code⟩ := wrappedCycle_wrapped file member
    simpa [FileView.wrapperFor?, FileView.ofFile, code] using wrapped
  exact ⟨.ofTexts _, unmixed, fun first _ second _ =>
    exportsOf_after_questions (.ofTexts _) .mixed [.exports first] second (unmixed second.id)⟩

/-- A cycle of both formats does not: who asks for the module with declarations first misses its class
    in the table of the wrapped file. -/
theorem exportsOf_mixedCycle :
    let w := World.ofProgram mixedCycle .mixed
    mixedCycle.Built ∧ ∃ wrapped ∈ mixedCycle.files, ∃ declared ∈ mixedCycle.files,
      ((w.exportsOf wrapped).run (w.memoryAfter [.exports declared])).1.map Table.names =
          some ["A"] ∧
        ((w.exportsOf wrapped).run .empty).1.map Table.names = some ["A", "B"] := by
  refine ⟨.ofTexts _, ?_⟩
  rw [mixedCycle, Program.ofTexts_eq_ofBytes]
  decide +kernel

/-! ### Tables of one format -/

/-- A program whose tables are all remembered together: a host that reads declarations only, or one that
    reads wrappers and finds them in all files. -/
def Program.OneFormat (program : Program) (host : HostKind) : Prop :=
  host = .modules ∨ host = .wrappers ∧ ∀ file ∈ program.files, file.wrapper?.isSome = true

theorem Program.OneFormat.unmixed {program : Program} {host : HostKind}
    (oneFormat : program.OneFormat host) (id : Nat) : (World.ofProgram program host).Unmixed id := by
  rcases oneFormat with rfl | ⟨rfl, wrapped⟩
  · refine .of_format .modules (fun id recipe found => ?_) id
    obtain ⟨view, _, format⟩ := World.recipe?_format found
    simpa [World.ofProgram, FileView.wrapperFor?] using format
  · exact World.unmixed_of_wrapped wrapped id

/-- Where all tables are remembered together, every table is the same after any questions as for one who
    asks for it first, and whatever is remembered is such a table. -/
theorem exportsOf_of_oneFormat {program : Program} (built : program.Built) {host : HostKind}
    (oneFormat : program.OneFormat host) (questions : List Question) :
    let w := World.ofProgram program host
    (∀ file, ((w.exportsOf file).run (w.memoryAfter questions)).1 =
        ((w.exportsOf file).run .empty).1) ∧
      ∀ format id table, (id, table) ∈ ((w.memoryAfter questions).cache format).tables →
        ∀ file : SourceFile, file.id = id → ((w.exportsOf file).run .empty).1 = some table := by
  intro w
  have proper : w.Proper := World.ofProgram_proper built host
  have rested : w.Rested (w.memoryAfter questions) := World.rested_memoryAfter proper questions
  have fresh : ∀ file, ((w.exportsOf file).run .empty).1 = w.freshTable file.id :=
    fun file => World.exportsOf_eq_fresh proper (.empty w) (oneFormat.unmixed file.id)
  constructor
  · intro file
    rw [World.exportsOf_eq_fresh proper rested (oneFormat.unmixed file.id), fresh]
  · rintro format id table member file rfl
    obtain ⟨rank, settled⟩ := rested.sound format file.id table member (oneFormat.unmixed file.id)
    rw [fresh]
    exact World.tableAmid_of_settled? (.nil w file.id) settled

/-- A cycle of wrapped files where wrappers are read, and a cycle of both where declarations are. -/
theorem exportsOf_cycles :
    wrappedCycle.OneFormat .wrappers ∧ mixedCycle.OneFormat .modules ∧
      (∀ file, (((World.ofProgram wrappedCycle .wrappers).exportsOf file).run
          ((World.ofProgram wrappedCycle .wrappers).memoryAfter
            (wrappedCycle.files.map .exports))).1 =
        (((World.ofProgram wrappedCycle .wrappers).exportsOf file).run .empty).1) ∧
      ∀ file, (((World.ofProgram mixedCycle .modules).exportsOf file).run
          ((World.ofProgram mixedCycle .modules).memoryAfter (mixedCycle.files.map .exports))).1 =
        (((World.ofProgram mixedCycle .modules).exportsOf file).run .empty).1 := by
  have wrapped : wrappedCycle.OneFormat .wrappers :=
    .inr ⟨rfl, fun file member => (wrappedCycle_wrapped file member).1⟩
  have declared : mixedCycle.OneFormat .modules := .inl rfl
  exact ⟨wrapped, declared, (exportsOf_of_oneFormat (.ofTexts _) wrapped _).1,
    (exportsOf_of_oneFormat (.ofTexts _) declared _).1⟩

end BundleLens
