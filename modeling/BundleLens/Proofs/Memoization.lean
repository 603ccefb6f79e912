/-
Module: BundleLens.Proofs.Memoization
Layer: Proofs
Purpose: When remembered tables are as good as new ones. A table is remembered if no cut was counted
  under its own format while it was made, so the count is to be trusted where no cycle runs through
  files of both formats: there only tables that settle are remembered, and every answer is the table
  that is made from nothing, whatever is remembered and whatever is being made.
Imports: BundleLens.Proofs.Settled
Main exports: World.Unmixed, World.Sound, World.Fits, World.Answered, World.exportsWithin_answered
-/
import BundleLens.Proofs.Settled

namespace BundleLens
namespace World

variable {w : World} {opened : List Nat} {id other : Nat} {recipe : Recipe} {m : Memory}

/-! ### Cycles of one format -/

/-- No cycle that a file leads to runs through files of both formats. -/
def Unmixed (w : World) (id : Nat) : Prop :=
  ∀ a b, w.Leads id a → w.Leads a b → w.Leads b a →
    ∀ first second, w.recipe? a = some first → w.recipe? b = some second → first.format = second.format

/-- What an unmixed file leads to is unmixed. -/
theorem Unmixed.leads (unmixed : w.Unmixed id) (leads : w.Leads id other) : w.Unmixed other :=
  fun a b toFirst around back => unmixed a b (leads.trans toFirst) around back

/-- Where all tables are made by one format every file is unmixed. -/
theorem Unmixed.of_format (format : Format)
    (all : ∀ id recipe, w.recipe? id = some recipe → recipe.format = format) (id : Nat) :
    w.Unmixed id := by
  intro a b _ _ _ first second foundFirst foundSecond
  rw [all a first foundFirst, all b second foundSecond]

/-! ### The memory while tables are made -/

/-- What is remembered for unmixed files are tables that settle. -/
def Sound (w : World) (m : Memory) : Prop :=
  ∀ format id table, (id, table) ∈ (m.cache format).tables → w.Unmixed id →
    ∃ rank, w.settled? rank id = some (some table)

/-- The tables that are being made are those of the open files. -/
def Amid (w : World) (m : Memory) (opened : List Nat) : Prop :=
  ∀ id, w.isMarked m id = decide (id ∈ opened)

theorem Amid.later {after : Memory} (amid : w.Amid m opened) (later : m.Later after) :
    w.Amid after opened := by
  intro id
  rw [isMarked_later later]
  exact amid id

theorem Amid.start (amid : w.Amid m opened) (found : w.recipe? id = some recipe) :
    w.Amid (m.update recipe.format (·.start id)) (id :: opened) := by
  intro other
  rw [isMarked_start found, amid other]
  by_cases same : other = id <;> simp [same]

/-- A file of the world is open if its table is being made. -/
theorem Amid.mem_iff (amid : w.Amid m opened) (found : w.recipe? id = some recipe) :
    id ∈ (m.cache recipe.format).inProgress ↔ id ∈ opened := by
  have marked := amid id
  simp only [isMarked, found] at marked
  rw [← List.contains_iff_mem, marked, decide_eq_true_eq]

/-- The files that may be open while the table of a file is asked for: they do not disturb an unmixed
    file, and while an unmixed file is open only unmixed files are asked for. -/
def Fits (w : World) (opened : List Nat) (id : Nat) : Prop :=
  (w.Unmixed id → w.Undisturbed opened id) ∧
    (¬ w.Unmixed id → ∀ other ∈ opened, ¬ w.Unmixed other)

theorem Fits.nil (w : World) (id : Nat) : w.Fits [] id := by
  refine ⟨fun _ => .nil w id, fun _ other member => ?_⟩
  cases member

/-- An unmixed file asks for tables of unmixed files that are undisturbed. -/
theorem Fits.asked (fits : w.Fits opened id) (unmixed : w.Unmixed id)
    (found : w.recipe? id = some recipe)
    (asks : other ∈ recipe.steps.asked (w.tableAmid (id :: opened))) :
    w.Fits (id :: opened) other := by
  refine ⟨fun _ => (fits.1 unmixed).asked found asks, fun mixed => ?_⟩
  exact absurd (unmixed.leads (reads_of_asked found asks).leads) mixed

/-- A file that is not unmixed may ask for any table. -/
theorem Fits.of_mixed (fits : w.Fits opened id) (mixed : ¬ w.Unmixed id) (other : Nat) :
    w.Fits (id :: opened) other := by
  have allMixed : ∀ next ∈ id :: opened, ¬ w.Unmixed next := by
    intro next member
    rcases List.mem_cons.1 member with rfl | member
    · exact mixed
    · exact fits.2 mixed next member
  refine ⟨fun unmixed next member leads => ?_, fun _ => allMixed⟩
  exact absurd (unmixed.leads leads) (allMixed next member)

/-! ### One answer -/

/-- What can be relied on in the answer to the question for a table amid open files, and in the memory
    that it leaves: for an unmixed file it is the table made from nothing, and if that table does not
    settle then a cut was counted under its format. -/
structure Answered (w : World) (opened : List Nat) (id : Nat) (m : Memory)
    (result : Option ExportTable × Memory) : Prop where
  sound : w.Sound result.2
  fresh : w.Unmixed id → result.1 = w.tableAmid opened id
  counted : w.Unmixed id → ¬ w.Settled id → ∀ recipe, w.recipe? id = some recipe →
    (m.cache recipe.format).cuts < (result.2.cache recipe.format).cuts

theorem Answered.none (sound : w.Sound m) (absent : w.recipe? id = none) :
    w.Answered opened id m (none, m) := by
  refine ⟨sound, fun _ => (tableAmid_none absent).symm, fun _ _ recipe found => ?_⟩
  rw [absent] at found
  cases found

/-- A remembered table of an unmixed file settles, so it is the one made from nothing. -/
theorem Answered.hit {table : ExportTable} {format : Format} (sound : w.Sound m)
    (fits : w.Fits opened id) (kept : (m.cache format).tables.lookup id = some table) :
    w.Answered opened id m (some table, m) := by
  have member : (id, table) ∈ (m.cache format).tables := by
    obtain ⟨before, after, split, _⟩ := List.lookup_eq_some_iff.1 kept
    rw [split]
    simp
  refine ⟨sound, fun unmixed => ?_, fun unmixed unsettled => ?_⟩
  · obtain ⟨rank, settled⟩ := sound format id table member unmixed
    exact (tableAmid_of_settled? (fits.1 unmixed) settled).symm
  · obtain ⟨rank, settled⟩ := sound format id table member unmixed
    exact absurd ⟨rank, by rw [SettledBy, settled]; rfl⟩ unsettled

theorem Sound.cut (sound : w.Sound m) (format : Format) :
    w.Sound (m.update format ExportCache.cut) := by
  intro other id table member
  refine sound other id table ?_
  by_cases same : other = format
  · subst same
    simpa [ExportCache.cut] using member
  · simpa [same] using member

/-- An open file is cut off, and that is counted under its format. -/
theorem Answered.cut (sound : w.Sound m) (found : w.recipe? id = some recipe) (isOpen : id ∈ opened) :
    w.Answered opened id m (Option.none, m.update recipe.format ExportCache.cut) := by
  refine ⟨sound.cut recipe.format, fun _ => (tableAmid_open isOpen).symm, fun _ _ other same => ?_⟩
  rw [found] at same
  cases same
  simp [ExportCache.cut]

/-! ### The making of a table -/

/-- The questions that are asked while the given files are open are answered as they should be, in every
    memory that can come after the given one. -/
structure Reliable (w : World) (exports : Exports) (opened : List Nat) (start : Memory) : Prop where
  later : ∀ (file : SourceFile) (m : Memory), m.Later ((exports file).run m).2
  answered : ∀ (file : SourceFile) (m : Memory), start.Later m → w.Sound m → w.Fits opened file.id →
    w.Answered opened file.id m ((exports file).run m)

section Making

variable {exports : Exports} {start : Memory}

/-- A run keeps the memory sound if every question that it may ask does. -/
theorem Reliable.sound_run (reliable : w.Reliable exports opened start)
    (fits : ∀ other, w.Fits opened other) (sound : w.Sound start) {α : Type} (q : Inquiry α) :
    w.Sound ((q.run exports).run start).2 := by
  have keeps := Inquiry.run_respects
    (R := fun before after => start.Later before ∧ w.Sound before → start.Later after ∧ w.Sound after)
    (fun _ held => held) (fun first second held => second (first held))
    (fun file m held => ⟨held.1.trans (reliable.later file m),
      (reliable.answered file m held.1 held.2 (fits file.id)).sound⟩) q start
  exact (keeps ⟨.refl start, sound⟩).2

/-- The making of the table of an unmixed file gives the table made from nothing, keeps the memory
    sound, and counts a cut under the format of the file if that table does not settle. -/
theorem Reliable.make (proper : w.Proper) (reliable : w.Reliable exports (id :: opened) start)
    (found : w.recipe? id = some recipe) (unmixed : w.Unmixed id) (fits : w.Fits opened id)
    (sound : w.Sound start) (mark : id ∈ (start.cache recipe.format).inProgress) :
    ((recipe.steps.run exports).run start).1 = recipe.steps.answer (w.tableAmid (id :: opened)) ∧
      w.Sound ((recipe.steps.run exports).run start).2 ∧
      (¬ w.Settled id → (start.cache recipe.format).cuts <
        (((recipe.steps.run exports).run start).2.cache recipe.format).cuts) := by
  let Fit : Memory → Prop := fun after => w.Sound after ∧ start.Later after
  have fit : Fit start := ⟨sound, .refl start⟩
  have only := recipe?_unfinishedOnly proper found
  have marked : ∀ (file : SourceFile) (after : Memory),
      file.id = id ∧ recipe.format = .wrappers → Fit after → file.id ∈ after.wrappers.inProgress := by
    rintro file after ⟨rfl, wrapped⟩ fit
    have marks := fit.2.marks recipe.format
    rw [← marks, wrapped] at mark
    exact mark
  have step : ∀ file : SourceFile, file.id ∈ recipe.steps.asked (w.tableAmid (id :: opened)) →
      ∀ after, Fit after → ((exports file).run after).1 = w.tableAmid (id :: opened) file.id ∧
        Fit ((exports file).run after).2 := by
    intro file asks after fit
    have answered := reliable.answered file after fit.2 fit.1 (fits.asked unmixed found asks)
    have unmixedFile : w.Unmixed file.id := unmixed.leads (reads_of_asked found asks).leads
    exact ⟨answered.fresh unmixedFile, answered.sound, fit.2.trans (reliable.later file after)⟩
  obtain ⟨result, fitAfter⟩ := Inquiry.run_eq_answer only marked step fit
  refine ⟨result, fitAfter.1, fun unsettled => ?_⟩
  obtain ⟨other, asks, back, unsettledOther⟩ :=
    exists_asked_not_settled (fits.1 unmixed) found unsettled
  have leads : w.Leads id other := (reads_of_asked found asks).leads
  refine Inquiry.run_lt_of_asked (c := fun after => (after.cache recipe.format).cuts) only marked step
    (fun file after => (reliable.later file after).cuts recipe.format) asks ?_ fit
  -- the unsettled table on the cycle is of the same format, so its cut counts here too
  rintro file rfl after fitThere
  have answered := reliable.answered file after fitThere.2 fitThere.1 (fits.asked unmixed found asks)
  cases foundOther : w.recipe? file.id with
  | none =>
      refine absurd ⟨1, ?_⟩ unsettledOther
      rw [SettledBy, settled?, foundOther]
      rfl
  | some second =>
      have sameFormat : recipe.format = second.format :=
        unmixed id file.id (.refl id) leads back recipe second found foundOther
      rw [sameFormat]
      exact answered.counted (unmixed.leads leads) unsettledOther second foundOther

end Making

/-- A table may be remembered if it settles, for an unmixed file. -/
theorem Sound.finish {format : Format} {before : Nat} {table : ExportTable} (sound : w.Sound m)
    (settles : (m.cache format).cuts = before → w.Unmixed id →
      ∃ rank, w.settled? rank id = some (some table)) :
    w.Sound (m.update format (·.finish id before table)) := by
  intro other number kept member unmixed
  by_cases same : other = format
  · subst same
    simp only [Memory.cache_update_self, ExportCache.finish] at member
    split at member
    · rename_i uncut
      rcases List.mem_cons.1 member with added | old
      · cases added
        exact settles uncut unmixed
      · exact sound other number kept old unmixed
    · exact sound other number kept member unmixed
  · simp only [Memory.cache_update_other same] at member
    exact sound other number kept member unmixed

theorem Sound.start (sound : w.Sound m) (format : Format) (id : Nat) :
    w.Sound (m.update format (·.start id)) := by
  intro other number kept member
  refine sound other number kept ?_
  by_cases same : other = format
  · subst same
    simpa [ExportCache.start] using member
  · simpa [same] using member

/-- A table that is made anew is answered as it should be, if the questions on the way are. -/
theorem Answered.make {exports : Exports} (proper : w.Proper)
    (reliable : w.Reliable exports (id :: opened) (m.update recipe.format (·.start id)))
    (found : w.recipe? id = some recipe) (closed : id ∉ opened) (fits : w.Fits opened id)
    (sound : w.Sound m) {made : ExportTable × Memory}
    (making : (recipe.steps.run exports).run (m.update recipe.format (·.start id)) = made) :
    w.Answered opened id m
      (some made.1, made.2.update recipe.format (·.finish id (m.cache recipe.format).cuts made.1)) := by
  have soundStart := sound.start recipe.format id
  have mark : id ∈ ((m.update recipe.format (·.start id)).cache recipe.format).inProgress := by
    simp [ExportCache.start]
  have begun : ((m.update recipe.format (·.start id)).cache recipe.format).cuts =
      (m.cache recipe.format).cuts := by
    simp [ExportCache.start]
  by_cases unmixed : w.Unmixed id
  · obtain ⟨result, soundMade, counted⟩ :=
      reliable.make proper found unmixed fits soundStart mark
    rw [making] at result soundMade counted
    rw [begun] at counted
    have table : w.tableAmid opened id = some made.1 := by
      rw [tableAmid_some closed found, result]
    refine ⟨soundMade.finish fun uncut _ => ?_, fun _ => table.symm, fun _ unsettled other same => ?_⟩
    · have settled : w.Settled id := by
        refine Classical.byContradiction fun unsettled => ?_
        exact Nat.lt_irrefl _ (uncut ▸ counted unsettled)
      obtain ⟨rank, settledBy⟩ := settled
      obtain ⟨kept, settledKept⟩ := Option.isSome_iff_exists.1 settledBy
      refine ⟨rank, ?_⟩
      rw [settledKept, ← tableAmid_of_settled? (fits.1 unmixed) settledKept, table]
    · rw [found] at same
      cases same
      simpa [ExportCache.finish] using counted unsettled
  · have soundMade := reliable.sound_run (fits.of_mixed unmixed) soundStart recipe.steps
    rw [making] at soundMade
    refine ⟨soundMade.finish fun _ known => absurd known unmixed, fun known => absurd known unmixed,
      fun known => absurd known unmixed⟩

/-- Every question for a table is answered as it should be, if tables can be nested as deep as there are
    files that are not open. -/
theorem exportsWithin_answered (proper : w.Proper) {depth : Nat} {file : SourceFile}
    (enough : w.remaining (w.isMarked m) < depth) (amid : w.Amid m opened) (sound : w.Sound m)
    (fits : w.Fits opened file.id) :
    w.Answered opened file.id m ((exportsWithin w depth file).run m) := by
  induction depth generalizing m opened file with
  | zero => exact absurd enough (Nat.not_lt_zero _)
  | succ depth ih =>
      cases found : w.recipe? file.id with
      | none =>
          rw [exportsWithin_none found]
          exact .none sound found
      | some recipe =>
          rw [exportsWithin_succ found]
          cases kept : (m.cache recipe.format).tables.lookup file.id with
          | some table =>
              rw [remember_hit kept]
              exact .hit sound fits kept
          | none =>
              by_cases isOpen : file.id ∈ opened
              · rw [remember_cut kept ((amid.mem_iff found).2 isOpen)]
                exact .cut sound found isOpen
              · have unmarked : file.id ∉ (m.cache recipe.format).inProgress :=
                  fun mark => isOpen ((amid.mem_iff found).1 mark)
                have fewer := remaining_start_lt found unmarked
                rw [remember_make kept unmarked]
                refine .make proper ⟨exportsWithin_later w depth, ?_⟩ found isOpen fits sound rfl
                intro other after later soundAfter fitsOther
                refine ih ?_ ((amid.start found).later later) soundAfter fitsOther
                rw [isMarked_later later]
                omega

end World
end BundleLens
