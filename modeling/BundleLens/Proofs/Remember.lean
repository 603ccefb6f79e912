/-
Module: BundleLens.Proofs.Remember
Layer: Proofs
Purpose: What a question for a table does to the memory. There are three ways: a remembered table is
  handed out, a file whose table is being made is cut off and counted, and any other table is made
  between two marks. From these it follows that every question leaves exactly the marks that it found,
  and that counts only grow. The files without a mark are as many as tables can still be nested.
Imports: BundleLens.Reflection.ExportTable, BundleLens.Proofs.Inquiry, BundleLens.Proofs.Recipe
Main exports: remember_hit, remember_cut, remember_make, Memory.Later, exportsWithin_later,
  World.Marked, World.remaining, World.remaining_start_lt
-/
import BundleLens.Reflection.ExportTable
import BundleLens.Proofs.Inquiry
import BundleLens.Proofs.Recipe

namespace BundleLens

/-! ### The two caches -/

namespace Memory

variable {m : Memory} {format other : Format} {change : ExportCache → ExportCache}

@[simp] theorem cache_update_self : (m.update format change).cache format = change (m.cache format) := by
  cases format <;> rfl

@[simp] theorem cache_update_other (different : other ≠ format) :
    (m.update format change).cache other = m.cache other := by
  cases format <;> cases other <;> first | rfl | exact absurd rfl different

end Memory

/-! ### One question -/

section Question

variable {format : Format} {id : Nat} {make : Reflect ExportTable} {m : Memory}

/-- What is remembered comes first, then the cut at a mark, then the making. -/
theorem remember_run (format : Format) (id : Nat) (make : Reflect ExportTable) (m : Memory) :
    (remember format id make).run m =
      match (m.cache format).tables.lookup id with
      | some table => (some table, m)
      | none =>
        if (m.cache format).inProgress.contains id then (none, m.update format ExportCache.cut)
        else
          let made := make.run (m.update format (·.start id))
          (some made.1, made.2.update format (·.finish id (m.cache format).cuts made.1)) := by
  unfold remember
  simp only [StateT.run_bind, StateT.run_get, pure_bind]
  cases (m.cache format).tables.lookup id with
  | some table => rfl
  | none =>
      cases (m.cache format).inProgress.contains id with
      | true => rfl
      | false => rfl

theorem remember_hit {table : ExportTable} (found : (m.cache format).tables.lookup id = some table) :
    (remember format id make).run m = (some table, m) := by
  rw [remember_run, found]

theorem remember_cut (absent : (m.cache format).tables.lookup id = none)
    (marked : id ∈ (m.cache format).inProgress) :
    (remember format id make).run m = (none, m.update format ExportCache.cut) := by
  have contained : (m.cache format).inProgress.contains id = true := by simpa using marked
  simp only [remember_run, absent, contained, if_true]

/-- Any other table is made between the marks that it is being made and that it is done. -/
theorem remember_make (absent : (m.cache format).tables.lookup id = none)
    (unmarked : id ∉ (m.cache format).inProgress) :
    (remember format id make).run m =
      (some (make.run (m.update format (·.start id))).1,
        (make.run (m.update format (·.start id))).2.update format
          (·.finish id (m.cache format).cuts (make.run (m.update format (·.start id))).1)) := by
  have apart : (m.cache format).inProgress.contains id = false := by simpa using unmarked
  simp only [remember_run, absent, apart, Bool.false_eq_true, if_false]

end Question

theorem exportsWithin_none {w : World} {file : SourceFile} (absent : w.recipe? file.id = none)
    (depth : Nat) (m : Memory) : (exportsWithin w depth file).run m = (none, m) := by
  cases depth with
  | zero => rfl
  | succ depth => simp only [exportsWithin, absent]; rfl

theorem exportsWithin_succ {w : World} {file : SourceFile} {recipe : Recipe}
    (found : w.recipe? file.id = some recipe) (depth : Nat) :
    exportsWithin w (depth + 1) file =
      remember recipe.format file.id (recipe.steps.run (exportsWithin w depth)) := by
  simp only [exportsWithin, found]

/-! ### Marks and counts -/

/-- A memory that a question may leave behind: the same marks, and no smaller count. -/
structure Memory.Later (before after : Memory) : Prop where
  marks : ∀ format, (after.cache format).inProgress = (before.cache format).inProgress
  cuts : ∀ format, (before.cache format).cuts ≤ (after.cache format).cuts

namespace Memory.Later

theorem refl (m : Memory) : m.Later m := ⟨fun _ => rfl, fun _ => Nat.le_refl _⟩

theorem trans {a b c : Memory} (first : a.Later b) (second : b.Later c) : a.Later c :=
  ⟨fun format => (second.marks format).trans (first.marks format),
    fun format => Nat.le_trans (first.cuts format) (second.cuts format)⟩

/-- A cut leaves the marks and adds to one count. -/
theorem cut (m : Memory) (format : Format) : m.Later (m.update format ExportCache.cut) := by
  constructor
  · intro other
    by_cases same : other = format
    · subst same
      simp [ExportCache.cut]
    · simp [same]
  · intro other
    by_cases same : other = format
    · subst same
      simp [ExportCache.cut]
    · simp [same]

/-- What happens between the two marks of a table leaves the marks that were there before. -/
theorem between {m after : Memory} {format : Format} {id before : Nat} {table : ExportTable}
    (inside : (m.update format (·.start id)).Later after) :
    m.Later (after.update format (·.finish id before table)) := by
  constructor
  · intro other
    have marks := inside.marks other
    by_cases same : other = format
    · subst same
      simp only [cache_update_self, ExportCache.start] at marks
      simp [ExportCache.finish, marks]
    · simpa [same] using marks
  · intro other
    have cuts := inside.cuts other
    by_cases same : other = format
    · subst same
      simpa [ExportCache.finish, ExportCache.start] using cuts
    · simpa [same] using cuts

end Memory.Later

/-- Every question for a table leaves the marks that it found, and lets the counts grow. -/
theorem exportsWithin_later (w : World) (depth : Nat) (file : SourceFile) (m : Memory) :
    m.Later ((exportsWithin w depth file).run m).2 := by
  induction depth generalizing file m with
  | zero => exact .refl m
  | succ depth ih =>
      cases found : w.recipe? file.id with
      | none =>
          rw [exportsWithin_none found]
          exact .refl m
      | some recipe =>
          rw [exportsWithin_succ found]
          cases kept : (m.cache recipe.format).tables.lookup file.id with
          | some table =>
              rw [remember_hit kept]
              exact .refl m
          | none =>
              by_cases marked : file.id ∈ (m.cache recipe.format).inProgress
              · rw [remember_cut kept marked]
                exact .cut m recipe.format
              · rw [remember_make kept marked]
                exact .between (Inquiry.run_respects .refl .trans ih recipe.steps _)

/-! ### How deep tables can be nested -/

/-- The number of files that are not open, for a test that tells which are. -/
def World.remaining (w : World) (isOpen : Nat → Bool) : Nat :=
  (List.range w.views.length).countP fun id => !isOpen id

theorem World.remaining_le (w : World) (isOpen : Nat → Bool) :
    w.remaining isOpen ≤ w.views.length := by
  have bound : w.remaining isOpen ≤ (List.range w.views.length).length := List.countP_le_length
  simpa using bound

/-- Opening one more file leaves fewer files that are not open. -/
theorem World.remaining_lt (w : World) {isOpen opened : Nat → Bool} {id : Nat}
    (inside : id < w.views.length) (closed : isOpen id = false) (opens : opened id = true)
    (keeps : ∀ other, isOpen other = true → opened other = true) :
    w.remaining opened < w.remaining isOpen :=
  countP_not_lt closed opens keeps _ (List.mem_range.2 inside)

/-- Whether the table of a file is being made, under the format that it is remembered by. -/
def World.isMarked (w : World) (m : Memory) (id : Nat) : Bool :=
  match w.recipe? id with
  | some recipe => (m.cache recipe.format).inProgress.contains id
  | none => false

theorem World.isMarked_later {w : World} {before after : Memory} (later : before.Later after) :
    w.isMarked after = w.isMarked before := by
  funext id
  unfold World.isMarked
  split
  · rw [later.marks]
  · rfl

/-- When the making of a table starts, exactly that table is in the making besides the others. -/
theorem World.isMarked_start {w : World} {m : Memory} {id : Nat} {recipe : Recipe}
    (found : w.recipe? id = some recipe) (other : Nat) :
    w.isMarked (m.update recipe.format (·.start id)) other = (other == id || w.isMarked m other) := by
  unfold World.isMarked
  by_cases same : other = id
  · subst same
    simp [found, ExportCache.start]
  · cases made : w.recipe? other with
    | none => simp [same]
    | some others =>
        by_cases format : others.format = recipe.format
        · simp [format, ExportCache.start, same]
        · simp [format, same]

/-- The making of a table leaves fewer tables that are not in the making. -/
theorem World.remaining_start_lt {w : World} {m : Memory} {id : Nat} {recipe : Recipe}
    (found : w.recipe? id = some recipe) (unmarked : id ∉ (m.cache recipe.format).inProgress) :
    w.remaining (w.isMarked (m.update recipe.format (·.start id))) < w.remaining (w.isMarked m) := by
  refine w.remaining_lt (World.recipe?_lt found) ?_ ?_ ?_
  · simpa [World.isMarked, found] using unmarked
  · simp [World.isMarked_start found]
  · intro other shown
    simp [World.isMarked_start found, shown]

end BundleLens
