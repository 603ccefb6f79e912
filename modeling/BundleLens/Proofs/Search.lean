/-
Module: BundleLens.Proofs.Search
Layer: Proofs
Purpose: Questions end. A search answers a question step by step, with the tables in the making on a
  stack of any depth, so nothing bounds it from outside. Its marks are those of the stack on top of
  those it found, hence no file is on the stack twice and the stack is no deeper than there are files.
  Every search comes to its end, with the answer and the memory of the bounded recursion, and there it
  leaves the marks it found.
Imports: BundleLens.Proofs.Remember, Mathlib.Data.List.Perm.Subperm, Mathlib.Logic.Relation
Main exports: Search, Search.step?, Search.Steps, Search.Orderly, Search.Slot, World.Ends, questions_end
-/
import BundleLens.Proofs.Remember
import Mathlib.Data.List.Perm.Subperm
import Mathlib.Logic.Relation

namespace BundleLens

variable {α β : Type}

/-! ### Searches -/

/-- A table in the making: its format and its file, the cuts counted when it was begun, and what is left
    to ask for it. -/
structure Build where
  format : Format
  id : Nat
  before : Nat
  rest : Inquiry ExportTable

/-- A question on the way to its answer: the tables in the making, innermost first, what is left to ask
    for the question itself, and what is remembered. All but the innermost wait for a table. -/
structure Search (α : Type) where
  builds : List Build
  goal : Inquiry α
  memory : Memory

/-- Goes on with the table that was asked for. -/
def Inquiry.receive (found : Option ExportTable) : Inquiry α → Inquiry α
  | .table _ next => next found
  | q => q

namespace Search

/-- A question that nothing is done for yet. -/
def begin (q : Inquiry α) (m : Memory) : Search α := ⟨[], q, m⟩

/-- Hands a table to the innermost of those that wait. -/
def receive (s : Search α) (found : Option ExportTable) : Search α :=
  match s.builds with
  | [] => { s with goal := s.goal.receive found }
  | build :: outer => { s with builds := { build with rest := build.rest.receive found } :: outer }

/-- Asks for the table of a file: a table that is remembered is handed over, a file in the making is cut
    off, and any other table is begun. -/
def ask (w : World) (s : Search α) (file : SourceFile) : Search α :=
  match w.recipe? file.id with
  | none => s.receive none
  | some recipe =>
    let cache := s.memory.cache recipe.format
    match cache.tables.lookup file.id with
    | some table => s.receive (some table)
    | none =>
      if cache.inProgress.contains file.id then
        { s with memory := s.memory.update recipe.format ExportCache.cut }.receive none
      else
        { s with
          builds := ⟨recipe.format, file.id, cache.cuts, recipe.steps⟩ :: s.builds
          memory := s.memory.update recipe.format (·.start file.id) }

/-- Takes a table that is done off the stack and hands it over. -/
def finish (s : Search α) (build : Build) (outer : List Build) (table : ExportTable) : Search α :=
  let memory := s.memory.update build.format (·.finish build.id build.before table)
  receive { s with builds := outer, memory := memory } (some table)

/-- The next step of a search; none if the question has its answer. -/
def step? (w : World) (s : Search α) : Option (Search α) :=
  match s.builds with
  | [] =>
    match s.goal with
    | .done _ => none
    | .table file _ => some (s.ask w file)
    | .unfinished file next =>
      some { s with goal := next (s.memory.wrappers.inProgress.contains file.id) }
  | build :: outer =>
    match build.rest with
    | .done table => some (s.finish build outer table)
    | .table file _ => some (s.ask w file)
    | .unfinished file next =>
      let rest := next (s.memory.wrappers.inProgress.contains file.id)
      some { s with builds := { build with rest := rest } :: outer }

/-- One search comes from another one by any number of steps. -/
def Steps (w : World) : Search α → Search α → Prop :=
  Relation.ReflTransGen fun s next => s.step? w = some next

/-! ### The stack -/

/-- The formats and files of the tables in the making, innermost first. -/
def stack (s : Search α) : List (Format × Nat) := s.builds.map fun build => (build.format, build.id)

variable {w : World} {start : Memory} {s next : Search α}

@[simp] theorem receive_memory (s : Search α) (found : Option ExportTable) :
    (s.receive found).memory = s.memory := by
  unfold receive
  split <;> rfl

@[simp] theorem receive_stack (s : Search α) (found : Option ExportTable) :
    (s.receive found).stack = s.stack := by
  unfold receive stack
  split
  · rfl
  · rename_i shown
    simp [shown]

/-- What a step does to the stack and the memory: it leaves the stack and at most counts a cut, or it
    begins the table of a file that is not marked, or it finishes the innermost table. -/
inductive Move (w : World) (s next : Search α) : Prop where
  | stay (stack : next.stack = s.stack) (memory : next.memory = s.memory)
  | cut (format : Format) (stack : next.stack = s.stack)
      (memory : next.memory = s.memory.update format ExportCache.cut)
  | push (id : Nat) (recipe : Recipe) (found : w.recipe? id = some recipe)
      (unmarked : id ∉ (s.memory.cache recipe.format).inProgress)
      (stack : next.stack = (recipe.format, id) :: s.stack)
      (memory : next.memory = s.memory.update recipe.format (·.start id))
  | pop (format : Format) (id before : Nat) (table : ExportTable)
      (stack : s.stack = (format, id) :: next.stack)
      (memory : next.memory = s.memory.update format (·.finish id before table))

theorem ask_move (w : World) (s : Search α) (file : SourceFile) : Move w s (s.ask w file) := by
  unfold ask
  split
  · exact .stay (receive_stack s _) (receive_memory s _)
  · rename_i recipe found
    simp only
    split
    · exact .stay (receive_stack s _) (receive_memory s _)
    · split
      · exact .cut recipe.format (receive_stack _ _) (receive_memory _ _)
      · rename_i unmarked
        exact .push file.id recipe found (by simpa using unmarked) rfl rfl

/-- Every step is such a move. -/
theorem step_move (step : s.step? w = some next) : Move w s next := by
  unfold step? at step
  split at step
  · split at step
    · cases step
    · cases step
      exact ask_move w s _
    · cases step
      exact .stay rfl rfl
  · rename_i build outer shown
    split at step
    · rename_i table _
      cases step
      refine .pop build.format build.id build.before table ?_ (receive_memory _ _)
      rw [finish, receive_stack]
      simp [stack, shown]
    · cases step
      exact ask_move w s _
    · cases step
      refine .stay ?_ rfl
      simp [stack, shown]

/-- A search in good order, begun in the given memory: the marks are those of the stack on top of those
    at the start, and every table on the stack is made by the recipe of its file, no two for one
    file. -/
structure Orderly (w : World) (start : Memory) (s : Search α) : Prop where
  marks : ∀ format, (s.memory.cache format).inProgress =
    (s.stack.filter (·.1 = format)).map (·.2) ++ (start.cache format).inProgress
  made : ∀ format id, (format, id) ∈ s.stack →
    ∃ recipe, w.recipe? id = some recipe ∧ recipe.format = format
  apart : (s.stack.map (·.2)).Nodup

theorem Orderly.begin (w : World) (start : Memory) (q : Inquiry α) :
    (Search.begin q start).Orderly w start := by
  refine ⟨fun format => rfl, fun format id member => ?_, List.nodup_nil⟩
  cases member

/-- Order depends on the stack and the marks only. -/
theorem Orderly.of_same (orderly : s.Orderly w start) (stack : next.stack = s.stack)
    (marks : ∀ format, (next.memory.cache format).inProgress = (s.memory.cache format).inProgress) :
    next.Orderly w start := by
  refine ⟨fun format => ?_, ?_, ?_⟩
  · rw [marks, stack]
    exact orderly.marks format
  · rw [stack]
    exact orderly.made
  · rw [stack]
    exact orderly.apart

/-- A file that is not marked is not on the stack: a table of the file there is made by the same recipe,
    so its mark is under the same format. -/
theorem Orderly.not_mem (orderly : s.Orderly w start) {id : Nat} {recipe : Recipe}
    (found : w.recipe? id = some recipe) (unmarked : id ∉ (s.memory.cache recipe.format).inProgress) :
    id ∉ s.stack.map (·.2) := by
  intro member
  obtain ⟨⟨format, number⟩, below, same⟩ := List.mem_map.1 member
  cases same
  obtain ⟨other, foundOther, formatOther⟩ := orderly.made format number below
  rw [found] at foundOther
  cases foundOther
  apply unmarked
  rw [orderly.marks]
  exact List.mem_append_left _ (List.mem_map.2 ⟨(format, number), by simp [below, formatOther], rfl⟩)

theorem Orderly.push (orderly : s.Orderly w start) {id : Nat} {recipe : Recipe}
    (found : w.recipe? id = some recipe) (unmarked : id ∉ (s.memory.cache recipe.format).inProgress)
    (stack : next.stack = (recipe.format, id) :: s.stack)
    (memory : next.memory = s.memory.update recipe.format (·.start id)) : next.Orderly w start := by
  refine ⟨fun format => ?_, fun format number member => ?_, ?_⟩
  · have marks := orderly.marks format
    rw [stack, memory]
    by_cases same : format = recipe.format
    · subst same
      simp [ExportCache.start, marks]
    · simp [same, Ne.symm same, marks]
  · rw [stack] at member
    rcases List.mem_cons.1 member with here | below
    · cases here
      exact ⟨recipe, found, rfl⟩
    · exact orderly.made format number below
  · rw [stack, List.map_cons, List.nodup_cons]
    exact ⟨orderly.not_mem found unmarked, orderly.apart⟩

theorem Orderly.pop (orderly : s.Orderly w start) {format : Format} {id before : Nat}
    {table : ExportTable} (stack : s.stack = (format, id) :: next.stack)
    (memory : next.memory = s.memory.update format (·.finish id before table)) :
    next.Orderly w start := by
  refine ⟨fun other => ?_, fun other number member => ?_, ?_⟩
  · have marks := orderly.marks other
    rw [stack] at marks
    rw [memory]
    by_cases same : other = format
    · subst same
      simp [ExportCache.finish, marks]
    · simpa [same, Ne.symm same] using marks
  · apply orderly.made other number
    rw [stack]
    exact List.mem_cons_of_mem _ member
  · have apart := orderly.apart
    rw [stack, List.map_cons, List.nodup_cons] at apart
    exact apart.2

/-- A step keeps a search in good order. -/
theorem Orderly.step (orderly : s.Orderly w start) (step : s.step? w = some next) :
    next.Orderly w start := by
  cases step_move step with
  | stay stack memory => exact orderly.of_same stack fun format => by rw [memory]
  | cut format stack memory =>
      apply orderly.of_same stack
      rw [memory]
      exact (Memory.Later.cut s.memory format).marks
  | push id recipe found unmarked stack memory => exact orderly.push found unmarked stack memory
  | pop format id before table stack memory => exact orderly.pop stack memory

theorem Orderly.of_steps {q : Inquiry α} (steps : Steps w (.begin q start) s) : s.Orderly w start := by
  induction steps with
  | refl => exact .begin w start q
  | tail _ step ih => exact ih.step step

/-- A stack in good order is no deeper than there are files. -/
theorem Orderly.length_le (orderly : s.Orderly w start) : s.stack.length ≤ w.views.length := by
  have inside : s.stack.map (·.2) ⊆ List.range w.views.length := by
    intro id member
    obtain ⟨⟨format, number⟩, below, same⟩ := List.mem_map.1 member
    cases same
    obtain ⟨recipe, found, _⟩ := orderly.made format number below
    exact List.mem_range.2 (World.recipe?_lt found)
  have bound := (orderly.apart.subperm inside).length_le
  simpa using bound

/-! ### The end -/

/-- A place of a search where an inquiry stands that goes on: with the memory it makes a search, and
    what is done at the place does not depend on what else is in the search. -/
structure Slot (w : World) (place : Inquiry β → Memory → Search α) : Prop where
  table : ∀ file next m,
    (place (.table file next) m).step? w = some ((place (.table file next) m).ask w file)
  unfinished : ∀ file next m, (place (.unfinished file next) m).step? w =
    some (place (next (m.wrappers.inProgress.contains file.id)) m)
  receive : ∀ file next m found, (place (.table file next) m).receive found = place (next found) m
  memory : ∀ q m other, ⟨(place q m).builds, (place q m).goal, other⟩ = place q other

theorem Slot.goal (w : World) : Slot w fun (q : Inquiry α) m => ⟨[], q, m⟩ :=
  ⟨fun _ _ _ => rfl, fun _ _ _ => rfl, fun _ _ _ _ => rfl, fun _ _ _ => rfl⟩

theorem Slot.build (w : World) (format : Format) (id before : Nat) (outer : List Build)
    (goal : Inquiry α) : Slot w fun q m => ⟨⟨format, id, before, q⟩ :: outer, goal, m⟩ :=
  ⟨fun _ _ _ => rfl, fun _ _ _ => rfl, fun _ _ _ _ => rfl, fun _ _ _ => rfl⟩

section Slots

variable {place : Inquiry β → Memory → Search α} {m : Memory} {file : SourceFile} {recipe : Recipe}

/-- Where a table is asked for, a search comes to have it, if the making of a table that has to be begun
    comes to its end. -/
theorem Slot.asked (slot : Slot w place) {depth : Nat} {next : Option ExportTable → Inquiry β}
    (making : ∀ recipe, w.recipe? file.id = some recipe →
      file.id ∉ (m.cache recipe.format).inProgress → ∀ outer (goal : Inquiry α) before,
        let made := (recipe.steps.run (exportsWithin w depth)).run
          (m.update recipe.format (·.start file.id))
        Steps w ⟨⟨recipe.format, file.id, before, recipe.steps⟩ :: outer, goal,
            m.update recipe.format (·.start file.id)⟩
          ⟨⟨recipe.format, file.id, before, .done made.1⟩ :: outer, goal, made.2⟩) :
    Steps w (place (.table file next) m)
      (place (next ((exportsWithin w (depth + 1) file).run m).1)
        ((exportsWithin w (depth + 1) file).run m).2) := by
  refine .head (slot.table file next m) ?_
  have memory : (place (.table file next) m).memory = m := by
    rw [← slot.memory _ m m]
  unfold ask
  rw [memory]
  cases found : w.recipe? file.id with
  | none =>
      rw [exportsWithin_none found, slot.receive]
  | some recipe =>
      rw [exportsWithin_succ found]
      cases kept : (m.cache recipe.format).tables.lookup file.id with
      | some table =>
          rw [remember_hit kept]
          simp only [kept, slot.receive]
          exact .refl
      | none =>
          by_cases marked : file.id ∈ (m.cache recipe.format).inProgress
          · rw [remember_cut kept marked]
            simp only [kept, marked, List.contains_iff_mem, if_true, slot.memory, slot.receive]
            exact .refl
          · rw [remember_make kept marked]
            simp only [kept, marked, List.contains_iff_mem, if_false]
            refine (making recipe found marked _ _ _).tail (congrArg some ?_)
            rw [← slot.receive file]
            exact congrArg (Search.receive · _) (slot.memory (.table file next) m _)

/-- Wherever an inquiry stands, a search brings it to its end, with the answer and the memory of a run
    that can nest tables deep enough. -/
theorem Slot.steps (slot : Slot w place) {depth : Nat} (enough : w.remaining (w.isMarked m) < depth)
    (q : Inquiry β) :
    Steps w (place q m) (place (.done ((q.run (exportsWithin w depth)).run m).1)
      ((q.run (exportsWithin w depth)).run m).2) := by
  -- by induction on the depth, and for each depth on the inquiry
  induction depth generalizing β m with
  | zero => exact absurd enough (Nat.not_lt_zero _)
  | succ depth ih =>
      induction q generalizing m with
      | done found => exact .refl
      | table file next answers =>
          rw [Inquiry.run_table]
          have later := exportsWithin_later w (depth + 1) file m
          refine .trans (slot.asked fun recipe found unmarked outer goal before => ?_)
            (answers _ (by rw [World.isMarked_later later]; exact enough))
          have fewer := World.remaining_start_lt found unmarked
          exact ih (.build w recipe.format file.id before outer goal) (by omega) recipe.steps
      | unfinished file next answers =>
          rw [Inquiry.run_unfinished]
          exact .head (slot.unfinished file next m) (answers _ enough)

end Slots

/-- There is one way to go on, so a search that can come to a halt comes to it from wherever it
    stands. -/
theorem steps_of_halted {last : Search α} (toLast : Steps w s last) (halted : last.step? w = none)
    (toNext : Steps w s next) : Steps w next last := by
  have unique : Relator.RightUnique fun a b : Search α => a.step? w = some b := by
    intro a b c first second
    exact Option.some.inj (first.symm.trans second)
  rcases Relation.ReflTransGen.total_of_right_unique unique toNext toLast with onward | beyond
  · exact onward
  · rcases Relation.ReflTransGen.cases_head beyond with same | ⟨after, step, _⟩
    · exact same ▸ .refl
    · rw [halted] at step
      cases step

end Search

/-- A question ends: from wherever its search stands, the search comes to a halt with the given answer
    and memory. On the way no file is twice among those with a table in the making, and these are never
    more than there are files. In the end the marks are what they were. -/
structure World.Ends (w : World) (q : Inquiry α) (m : Memory) (result : α × Memory) : Prop where
  halted : (⟨[], .done result.1, result.2⟩ : Search α).step? w = none
  reached : ∀ s, Search.Steps w (.begin q m) s → Search.Steps w s ⟨[], .done result.1, result.2⟩
  apart : ∀ s, Search.Steps w (.begin q m) s → (s.builds.map (·.id)).Nodup
  nested : ∀ s, Search.Steps w (.begin q m) s → s.builds.length ≤ w.program.files.length
  marks : ∀ format, (result.2.cache format).inProgress = (m.cache format).inProgress

/-- Every inquiry ends in the world of a program. -/
theorem World.run_ends (program : Program) (host : HostKind) (q : Inquiry α) (m : Memory) :
    (ofProgram program host).Ends q m ((q.run (ofProgram program host).exportsOf).run m) := by
  have complete : (ofProgram program host).views.length = program.files.length := by
    simp [ofProgram]
  have bound := (ofProgram program host).remaining_le ((ofProgram program host).isMarked m)
  have reached := (Search.Slot.goal (ofProgram program host)).steps
    (Nat.lt_succ_of_le (complete ▸ bound)) q
  refine ⟨rfl, fun s steps => Search.steps_of_halted reached rfl steps, fun s steps => ?_,
    fun s steps => ?_, fun format => ?_⟩
  · have apart := (Search.Orderly.of_steps steps).apart
    rwa [Search.stack, List.map_map] at apart
  · have deep := (Search.Orderly.of_steps steps).length_le
    rwa [complete, Search.stack, List.length_map] at deep
  · have orderly := Search.Orderly.of_steps reached
    exact orderly.marks format

/-- Every question for a table, for an identifier or for an expression ends. -/
theorem questions_end (program : Program) (host : HostKind) (m : Memory) :
    let w := World.ofProgram program host
    (∀ file, w.Ends (.tableOf file) m ((w.exportsOf file).run m)) ∧
      (∀ id, w.Ends (w.identifierInquiry id) m ((w.declarationOfIdentifier id).run m)) ∧
      ∀ e, w.Ends (w.expressionInquiry e) m ((w.declarationOfExpression e).run m) :=
  ⟨fun file => World.run_ends program host (.tableOf file) m,
    fun _ => World.run_ends program host _ m, fun _ => World.run_ends program host _ m⟩

end BundleLens
