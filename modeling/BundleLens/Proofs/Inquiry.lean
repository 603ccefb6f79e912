/-
Module: BundleLens.Proofs.Inquiry
Layer: Proofs
Purpose: The theory of inquiries. Beside the run of an inquiry, which may remember tables on the way,
  stand two readings without a memory: the answer by tables that are all known, with the files that are
  asked for on the way, and the answer by tables of which only some are known. They agree wherever the
  tables agree on the files that are asked for. A file's inquiry is read where its own table is being
  made, so in both readings every table that is asked about is unfinished; `UnfinishedOnly` says when
  that is right. `Always` says what holds of the answer however the questions are answered.
Imports: BundleLens.Reflection.Inquiry
Main exports: Inquiry.answer, Inquiry.asked, Inquiry.answer?, Inquiry.UnfinishedOnly, Inquiry.Always,
  Inquiry.answer_eq_of_agree, Inquiry.answer?_eq_some, Inquiry.answer_of_answer?, Inquiry.run_respects,
  Inquiry.run_eq_answer, Inquiry.run_lt_of_asked
-/
import BundleLens.Reflection.Inquiry

namespace BundleLens
namespace Inquiry

variable {α β : Type}

/-! ### Readings without a memory -/

/-- The answer by known tables, while the table that the inquiry is for is being made. -/
def answer (tables : Nat → Option ExportTable) : Inquiry α → α
  | .done found => found
  | .table file next => (next (tables file.id)).answer tables
  | .unfinished _ next => (next true).answer tables

/-- The numbers of the files whose tables are asked for on the way to the answer, in order. -/
def asked (tables : Nat → Option ExportTable) : Inquiry α → List Nat
  | .done _ => []
  | .table file next => file.id :: (next (tables file.id)).asked tables
  | .unfinished _ next => (next true).asked tables

/-- The answer by tables of which only some are known; none if an unknown one is asked for. -/
def answer? (tables : Nat → Option (Option ExportTable)) : Inquiry α → Option α
  | .done found => some found
  | .table file next => (tables file.id).bind fun table => (next table).answer? tables
  | .unfinished _ next => (next true).answer? tables

@[simp] theorem pure_eq_done (found : α) : (pure found : Inquiry α) = .done found := rfl

@[simp] theorem done_bind (found : α) (rest : α → Inquiry β) :
    (Inquiry.done found >>= rest) = rest found := rfl

@[simp] theorem table_bind (file : SourceFile) (next : Option ExportTable → Inquiry α)
    (rest : α → Inquiry β) :
    (Inquiry.table file next >>= rest) = .table file fun found => next found >>= rest := rfl

@[simp] theorem unfinished_bind (file : SourceFile) (next : Bool → Inquiry α)
    (rest : α → Inquiry β) :
    (Inquiry.unfinished file next >>= rest) = .unfinished file fun found => next found >>= rest := rfl

theorem bind_pure_self (q : Inquiry α) : q >>= pure = q := by
  induction q with
  | done found => rfl
  | table file next ih => exact congrArg (Inquiry.table file) (funext ih)
  | unfinished file next ih => exact congrArg (Inquiry.unfinished file) (funext ih)

theorem bind_bind {γ : Type} (q : Inquiry α) (rest : α → Inquiry β) (last : β → Inquiry γ) :
    q >>= rest >>= last = q >>= fun found => rest found >>= last := by
  induction q with
  | done found => rfl
  | table file next ih => exact congrArg (Inquiry.table file) (funext ih)
  | unfinished file next ih => exact congrArg (Inquiry.unfinished file) (funext ih)

instance : LawfulMonad Inquiry :=
  LawfulMonad.mk' Inquiry bind_pure_self (fun _ _ => rfl) bind_bind

/-- The answer of an inquiry that goes on is the answer of its second part. -/
@[simp] theorem answer_bind (tables : Nat → Option ExportTable) (q : Inquiry α)
    (rest : α → Inquiry β) :
    (q >>= rest).answer tables = (rest (q.answer tables)).answer tables := by
  induction q with
  | done found => rfl
  | table file next ih => exact ih (tables file.id)
  | unfinished file next ih => exact ih true

@[simp] theorem answer_done (tables : Nat → Option ExportTable) (found : α) :
    (done found).answer tables = found := rfl

@[simp] theorem answer_tableOf (tables : Nat → Option ExportTable) (file : SourceFile) :
    (tableOf file).answer tables = tables file.id := rfl

theorem answer_mapM (tables : Nat → Option ExportTable) (f : β → Inquiry α) (xs : List β) :
    (xs.mapM f).answer tables = xs.map fun x => (f x).answer tables := by
  induction xs with
  | nil => rfl
  | cons x xs ih =>
      rw [List.mapM_cons]
      simp [ih]

/-- What is asked by an inquiry that goes on is what its first part asks and then what its second part
    asks. -/
theorem asked_bind (tables : Nat → Option ExportTable) (q : Inquiry α) (rest : α → Inquiry β) :
    (q >>= rest).asked tables = q.asked tables ++ (rest (q.answer tables)).asked tables := by
  induction q with
  | done found => rfl
  | table file next ih => exact congrArg (file.id :: ·) (ih (tables file.id))
  | unfinished file next ih => exact ih true

theorem mem_asked_mapM {tables : Nat → Option ExportTable} {f : β → Inquiry α} {xs : List β} {x : β}
    (member : x ∈ xs) {id : Nat} (asks : id ∈ (f x).asked tables) : id ∈ (xs.mapM f).asked tables := by
  induction xs with
  | nil => cases member
  | cons head rest ih =>
      rw [List.mapM_cons, asked_bind, asked_bind]
      rcases List.mem_cons.1 member with rfl | later
      · exact List.mem_append_left _ asks
      · exact List.mem_append_right _ (List.mem_append_left _ (ih later))

/-! ### Agreement of the readings -/

/-- Tables that agree on the files that are asked for give the same answer and the same questions. -/
theorem answer_eq_of_agree {tables others : Nat → Option ExportTable} {q : Inquiry α}
    (agree : ∀ id ∈ q.asked tables, tables id = others id) :
    q.answer tables = q.answer others ∧ q.asked tables = q.asked others := by
  induction q with
  | done found => exact ⟨rfl, rfl⟩
  | table file next ih =>
      have head : tables file.id = others file.id := agree file.id (by simp [asked])
      have tail := ih (tables file.id) fun id member => agree id (by simp [asked, member])
      rw [head] at tail
      simp only [answer, asked, head]
      exact ⟨tail.1, by rw [tail.2]⟩
  | unfinished file next ih => exact ih true agree

/-- If every table that is asked for is known, then so is the answer. -/
theorem answer?_eq_some {tables : Nat → Option ExportTable}
    {known : Nat → Option (Option ExportTable)} {q : Inquiry α}
    (agree : ∀ id ∈ q.asked tables, known id = some (tables id)) :
    q.answer? known = some (q.answer tables) := by
  induction q with
  | done found => rfl
  | table file next ih =>
      have head : known file.id = some (tables file.id) := agree file.id (by simp [asked])
      simp only [answer?, answer, head, Option.bind_some]
      exact ih (tables file.id) fun id member => agree id (by simp [asked, member])
  | unfinished file next ih => exact ih true agree

/-- A known answer is the answer by all tables that agree with the known ones, and every table that it
    asks for is known. -/
theorem answer_of_answer? {tables : Nat → Option ExportTable}
    {known : Nat → Option (Option ExportTable)} {q : Inquiry α} {found : α}
    (agree : ∀ id ∈ q.asked tables, ∀ table, known id = some table → tables id = table)
    (answered : q.answer? known = some found) :
    q.answer tables = found ∧ ∀ id ∈ q.asked tables, known id = some (tables id) := by
  induction q with
  | done other =>
      simp only [answer?, Option.some.injEq] at answered
      exact ⟨answered, by simp [asked]⟩
  | table file next ih =>
      simp only [answer?] at answered
      obtain ⟨table, head, tail⟩ := Option.bind_eq_some_iff.1 answered
      have same : tables file.id = table := agree file.id (by simp [asked]) table head
      rw [← same] at tail head
      obtain ⟨result, rest⟩ := ih (tables file.id)
        (fun id member => agree id (by simp [asked, member])) tail
      refine ⟨result, fun id member => ?_⟩
      rcases List.mem_cons.1 member with rfl | member
      · exact head
      · exact rest id member
  | unfinished file next ih => exact ih true agree answered

/-- An answer stays the same when more tables become known. -/
theorem answer?_mono {known more : Nat → Option (Option ExportTable)} {q : Inquiry α} {found : α}
    (grow : ∀ id table, known id = some table → more id = some table)
    (answered : q.answer? known = some found) : q.answer? more = some found := by
  induction q with
  | done other => exact answered
  | table file next ih =>
      simp only [answer?] at answered ⊢
      obtain ⟨table, head, tail⟩ := Option.bind_eq_some_iff.1 answered
      rw [grow file.id table head]
      exact ih table tail
  | unfinished file next ih => exact ih true answered

/-! ### Questions about unfinished tables -/

/-- Whether a table is unfinished is only asked about files with the given property. -/
def UnfinishedOnly (about : SourceFile → Prop) : Inquiry α → Prop
  | .done _ => True
  | .table _ next => ∀ found, (next found).UnfinishedOnly about
  | .unfinished file next => about file ∧ ∀ found, (next found).UnfinishedOnly about

theorem UnfinishedOnly.bind {about : SourceFile → Prop} {q : Inquiry α} {rest : α → Inquiry β}
    (first : q.UnfinishedOnly about) (second : ∀ found, (rest found).UnfinishedOnly about) :
    (q >>= rest).UnfinishedOnly about := by
  induction q with
  | done found => exact second found
  | table file next ih => exact fun found => ih found (first found)
  | unfinished file next ih => exact ⟨first.1, fun found => ih found (first.2 found)⟩

theorem UnfinishedOnly.mapM {about : SourceFile → Prop} {f : β → Inquiry α}
    (each : ∀ x, (f x).UnfinishedOnly about) (xs : List β) : (xs.mapM f).UnfinishedOnly about := by
  induction xs with
  | nil => exact trivial
  | cons x xs ih =>
      rw [List.mapM_cons]
      exact (each x).bind fun _ => ih.bind fun _ => trivial

theorem UnfinishedOnly.mono {about more : SourceFile → Prop} {q : Inquiry α}
    (only : q.UnfinishedOnly about) (weaken : ∀ file, about file → more file) :
    q.UnfinishedOnly more := by
  induction q with
  | done found => exact trivial
  | table file next ih => exact fun found => ih found (only found)
  | unfinished file next ih => exact ⟨weaken file only.1, fun found => ih found (only.2 found)⟩

/-- An inquiry that asks about no unfinished table asks only about files with any property. -/
theorem UnfinishedOnly.of_none {about : SourceFile → Prop} {q : Inquiry α}
    (silent : q.UnfinishedOnly fun _ => False) : q.UnfinishedOnly about :=
  silent.mono fun _ impossible => impossible.elim

/-! ### Answers by any tables -/

/-- However the questions are answered, the answer has a property. -/
def Always (Holds : α → Prop) : Inquiry α → Prop
  | .done found => Holds found
  | .table _ next => ∀ found, (next found).Always Holds
  | .unfinished _ next => ∀ found, (next found).Always Holds

theorem Always.of_forall {Holds : α → Prop} (all : ∀ found, Holds found) (q : Inquiry α) :
    q.Always Holds := by
  induction q with
  | done found => exact all found
  | table file next ih => exact ih
  | unfinished file next ih => exact ih

theorem Always.bind {Holds : α → Prop} {Then : β → Prop} {q : Inquiry α} {rest : α → Inquiry β}
    (first : q.Always Holds) (second : ∀ found, Holds found → (rest found).Always Then) :
    (q >>= rest).Always Then := by
  induction q with
  | done found => exact second found first
  | table file next ih => exact fun found => ih found (first found)
  | unfinished file next ih => exact fun found => ih found (first found)

theorem Always.mono {Holds Then : α → Prop} {q : Inquiry α} (always : q.Always Holds)
    (weaken : ∀ found, Holds found → Then found) : q.Always Then := by
  induction q with
  | done found => exact weaken found always
  | table file next ih => exact fun found => ih found (always found)
  | unfinished file next ih => exact fun found => ih found (always found)

/-- The answer by known tables is one of the answers. -/
theorem Always.answer {Holds : α → Prop} {q : Inquiry α} (always : q.Always Holds)
    (tables : Nat → Option ExportTable) : Holds (q.answer tables) := by
  induction q with
  | done found => exact always
  | table file next ih => exact ih _ (always _)
  | unfinished file next ih => exact ih _ (always _)

/-- What each of some inquiries always finds, their answers hold together. -/
theorem Always.mapM {Fits : β → α → Prop} {f : β → Inquiry α} {xs : List β}
    (each : ∀ x ∈ xs, (f x).Always (Fits x)) :
    (xs.mapM f).Always fun found => ∀ x ∈ xs, ∃ y ∈ found, Fits x y := by
  induction xs with
  | nil =>
      intro x member
      cases member
  | cons x xs ih =>
      rw [List.mapM_cons]
      refine (each x List.mem_cons_self).bind fun y fits => ?_
      refine (ih fun other member => each other (List.mem_cons_of_mem x member)).bind fun ys others => ?_
      intro other member
      rcases List.mem_cons.1 member with rfl | member
      · exact ⟨y, List.mem_cons_self, fits⟩
      · obtain ⟨z, inside, fitsToo⟩ := others other member
        exact ⟨z, List.mem_cons_of_mem y inside, fitsToo⟩

/-- What some inquiries find together, each of them found a part of. -/
theorem Always.mapM_origin {Fits : β → α → Prop} {f : β → Inquiry α} {xs : List β}
    (each : ∀ x ∈ xs, (f x).Always (Fits x)) :
    (xs.mapM f).Always fun found => ∀ y ∈ found, ∃ x ∈ xs, Fits x y := by
  induction xs with
  | nil =>
      intro y member
      cases member
  | cons x xs ih =>
      rw [List.mapM_cons]
      apply (each x List.mem_cons_self).bind
      intro first fits
      apply (ih fun other member => each other (List.mem_cons_of_mem x member)).bind
      intro others origins y member
      rcases List.mem_cons.1 member with rfl | later
      · exact ⟨x, List.mem_cons_self, fits⟩
      · obtain ⟨origin, inside, fitsToo⟩ := origins y later
        exact ⟨origin, List.mem_cons_of_mem x inside, fitsToo⟩

/-! ### Runs -/

variable {exports : Exports}

theorem run_table (file : SourceFile) (next : Option ExportTable → Inquiry α) (m : Memory) :
    ((table file next).run exports).run m =
      ((next ((exports file).run m).1).run exports).run ((exports file).run m).2 := rfl

theorem run_unfinished (file : SourceFile) (next : Bool → Inquiry α) (m : Memory) :
    ((unfinished file next).run exports).run m =
      ((next (m.wrappers.inProgress.contains file.id)).run exports).run m := rfl

/-- A run finds what is found however the questions are answered. -/
theorem Always.run {Holds : α → Prop} {q : Inquiry α} (always : q.Always Holds) (exports : Exports)
    (m : Memory) : Holds ((q.run exports).run m).1 := by
  induction q generalizing m with
  | done found => exact always
  | table file next ih =>
      rw [run_table]
      exact ih _ (always _) _
  | unfinished file next ih =>
      rw [run_unfinished]
      exact ih _ (always _) _

/-- What every question keeps or lets grow, a whole run keeps or lets grow. -/
theorem run_respects {R : Memory → Memory → Prop} (refl : ∀ m, R m m)
    (trans : ∀ {a b c}, R a b → R b c → R a c) (step : ∀ file m, R m ((exports file).run m).2)
    (q : Inquiry α) (m : Memory) : R m ((q.run exports).run m).2 := by
  induction q generalizing m with
  | done found => exact refl m
  | table file next ih =>
      rw [run_table]
      exact trans (step file m) (ih _ _)
  | unfinished file next ih =>
      rw [run_unfinished]
      exact ih _ _

/-- A run gives the answer by known tables, if in every memory it can be in the questions are answered
    by these tables and the files it asks about are unfinished. -/
theorem run_eq_answer {tables : Nat → Option ExportTable} {Fits : Memory → Prop}
    {about : SourceFile → Prop} {q : Inquiry α} (only : q.UnfinishedOnly about)
    (marked : ∀ file m, about file → Fits m → file.id ∈ m.wrappers.inProgress)
    (step : ∀ file : SourceFile, file.id ∈ q.asked tables → ∀ m, Fits m →
      ((exports file).run m).1 = tables file.id ∧ Fits ((exports file).run m).2)
    {m : Memory} (fits : Fits m) :
    ((q.run exports).run m).1 = q.answer tables ∧ Fits ((q.run exports).run m).2 := by
  induction q generalizing m with
  | done found => exact ⟨rfl, fits⟩
  | table file next ih =>
      obtain ⟨found, fits'⟩ := step file (by simp [asked]) m fits
      rw [run_table, found]
      exact ih _ (only _) (fun other member => step other (by simp [asked, member])) fits'
  | unfinished file next ih =>
      have isMarked : m.wrappers.inProgress.contains file.id = true := by
        simpa using marked file m only.1 fits
      rw [run_unfinished, isMarked]
      exact ih true (only.2 true) step fits

/-- A count that no question lowers grows in a run that asks for a table whose question raises it. -/
theorem run_lt_of_asked {tables : Nat → Option ExportTable} {Fits : Memory → Prop}
    {about : SourceFile → Prop} {q : Inquiry α} (only : q.UnfinishedOnly about)
    (marked : ∀ file m, about file → Fits m → file.id ∈ m.wrappers.inProgress)
    (step : ∀ file : SourceFile, file.id ∈ q.asked tables → ∀ m, Fits m →
      ((exports file).run m).1 = tables file.id ∧ Fits ((exports file).run m).2)
    {c : Memory → Nat} (mono : ∀ file m, c m ≤ c ((exports file).run m).2)
    {id : Nat} (asks : id ∈ q.asked tables)
    (raises : ∀ file : SourceFile, file.id = id → ∀ m, Fits m → c m < c ((exports file).run m).2)
    {m : Memory} (fits : Fits m) : c m < c ((q.run exports).run m).2 := by
  induction q generalizing m with
  | done found => cases asks
  | table file next ih =>
      obtain ⟨found, fits'⟩ := step file (by simp [asked]) m fits
      rw [run_table, found]
      by_cases same : file.id = id
      · have rest : c ((exports file).run m).2 ≤
            c (((next (tables file.id)).run exports).run ((exports file).run m).2).2 :=
          run_respects (R := fun a b => c a ≤ c b) (fun _ => Nat.le_refl _) Nat.le_trans mono _ _
        exact Nat.lt_of_lt_of_le (raises file same m fits) rest
      · have later : id ∈ (next (tables file.id)).asked tables := by
          rcases List.mem_cons.1 asks with here | later
          · exact absurd here.symm same
          · exact later
        refine Nat.lt_of_le_of_lt (mono file m) ?_
        exact ih _ (only _) (fun other member => step other (by simp [asked, member])) later fits'
  | unfinished file next ih =>
      have isMarked : m.wrappers.inProgress.contains file.id = true := by
        simpa using marked file m only.1 fits
      rw [run_unfinished, isMarked]
      exact ih true (only.2 true) step asks fits

end Inquiry
end BundleLens
