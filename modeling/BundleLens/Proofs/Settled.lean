/-
Module: BundleLens.Proofs.Settled
Layer: Proofs
Purpose: The tables that no cut has an influence on. A table settles by a rank: every table that it asks
  for is either off the cycles through its file, and then fresh, or on such a cycle and settled by a
  lower rank. A table that settles is the same amid all open files that do not disturb its file, and a
  table that does not settle asks for one on a cycle through its file that does not settle either.
Imports: BundleLens.Proofs.FreshTable
Main exports: World.settled?, World.Settled, World.Undisturbed, World.tableAmid_of_settled?,
  World.settledBy_asked, World.exists_asked_not_settled, World.Undisturbed.cons
-/
import BundleLens.Proofs.FreshTable

namespace BundleLens
namespace World

variable {w : World} {opened : List Nat} {id other rank : Nat} {recipe : Recipe}
  {table : Option ExportTable}

open Classical in
/-- The table of a file as far as it settles by a rank. Off the cycles through the file tables are
    fresh; on them they must settle by a lower rank. -/
noncomputable def settled? (w : World) : Nat → Nat → Option (Option ExportTable)
  | 0, _ => none
  | rank + 1, id =>
    match w.recipe? id with
    | some recipe =>
      (recipe.steps.answer? fun other =>
        if w.Leads other id then w.settled? rank other else some (w.freshTable other)).map some
    | none => some none

/-- The table of a file settles by a rank. -/
def SettledBy (w : World) (rank id : Nat) : Prop := (w.settled? rank id).isSome = true

/-- The table of a file settles. -/
def Settled (w : World) (id : Nat) : Prop := ∃ rank, w.SettledBy rank id

open Classical in
/-- The tables that a file's table is made from when it settles by the next rank. -/
noncomputable def lowerTables (w : World) (rank id other : Nat) : Option (Option ExportTable) :=
  if w.Leads other id then w.settled? rank other else some (w.freshTable other)

theorem settled?_succ (found : w.recipe? id = some recipe) :
    w.settled? (rank + 1) id = (recipe.steps.answer? (w.lowerTables rank id)).map some := by
  rw [settled?, found]
  rfl

theorem lowerTables_of_leads (back : w.Leads other id) :
    w.lowerTables rank id other = w.settled? rank other := if_pos back

theorem lowerTables_of_not_leads (apart : ¬ w.Leads other id) :
    w.lowerTables rank id other = some (w.freshTable other) := if_neg apart

/-! ### Ranks -/

/-- A table that settles by a rank settles by the next one. -/
theorem settled?_step (settled : w.settled? rank id = some table) :
    w.settled? (rank + 1) id = some table := by
  induction rank generalizing id table with
  | zero => cases settled
  | succ rank ih =>
      cases found : w.recipe? id with
      | none =>
          rw [settled?, found] at settled ⊢
          exact settled
      | some recipe =>
          rw [settled?_succ found, Option.map_eq_some_iff] at settled ⊢
          obtain ⟨made, answered, same⟩ := settled
          refine ⟨made, Inquiry.answer?_mono (fun other lower known => ?_) answered, same⟩
          by_cases back : w.Leads other id
          · rw [lowerTables_of_leads back] at known ⊢
            exact ih known
          · rw [lowerTables_of_not_leads back] at known ⊢
            exact known

theorem settled?_mono {higher : Nat} (below : rank ≤ higher) (settled : w.settled? rank id = some table) :
    w.settled? higher id = some table := by
  induction below with
  | refl => exact settled
  | step _ ih => exact settled?_step ih

theorem SettledBy.mono {higher : Nat} (below : rank ≤ higher) (settled : w.SettledBy rank id) :
    w.SettledBy higher id := by
  obtain ⟨table, found⟩ := Option.isSome_iff_exists.1 settled
  rw [SettledBy, settled?_mono below found]
  rfl

/-- A table that settles does so by a least rank, behind one by which it does not. -/
theorem exists_least_rank (settled : w.settled? rank id = some table) :
    ∃ least, least < rank ∧ w.settled? least id = none ∧ w.settled? (least + 1) id = some table := by
  induction rank with
  | zero => cases settled
  | succ rank ih =>
      cases earlier : w.settled? rank id with
      | none => exact ⟨rank, Nat.lt_succ_self rank, earlier, settled⟩
      | some before =>
          have same : some before = some table := by
            rw [← settled?_step earlier, settled]
          obtain ⟨least, below, unsettled, found⟩ := ih (earlier.trans same)
          exact ⟨least, Nat.lt_succ_of_lt below, unsettled, found⟩

/-- Every rank by which a table settles lies above the ranks by which it does not. -/
theorem lt_of_settledBy {least : Nat} (unsettled : w.settled? least id = none)
    (settled : w.SettledBy rank id) : least < rank := by
  refine Nat.lt_of_not_le fun above => ?_
  have settledAbove : w.SettledBy least id := settled.mono above
  rw [SettledBy, unsettled] at settledAbove
  cases settledAbove

/-! ### Undisturbed files -/

/-- The open files do not disturb a file: those that it leads to are on a cycle with it, and if they
    settle by a rank then it settles by a lower one. -/
def Undisturbed (w : World) (opened : List Nat) (id : Nat) : Prop :=
  ∀ other ∈ opened, w.Leads id other →
    w.Leads other id ∧ ∀ rank, w.SettledBy rank other → ∃ lower < rank, w.SettledBy lower id

theorem Undisturbed.nil (w : World) (id : Nat) : w.Undisturbed [] id := by
  intro other member
  cases member

/-- A file that settles and is undisturbed is not open itself. -/
theorem Undisturbed.not_mem (undisturbed : w.Undisturbed opened id) (settled : w.Settled id) :
    id ∉ opened := by
  intro member
  have descend := (undisturbed id member (.refl id)).2
  obtain ⟨rank, settledBy⟩ := settled
  -- the file would settle by ever lower ranks
  induction rank using Nat.strongRecOn with
  | ind rank ih =>
      obtain ⟨lower, below, settledLower⟩ := descend rank settledBy
      exact ih lower below settledLower

/-- What an undisturbed file reads is undisturbed while the file is open, if on a cycle it settles by a
    lower rank than the file. -/
theorem Undisturbed.cons (undisturbed : w.Undisturbed opened id) (reads : w.Reads id other)
    (earlier : w.Leads other id → ∀ rank, w.SettledBy rank id → ∃ lower < rank, w.SettledBy lower other) :
    w.Undisturbed (id :: opened) other := by
  intro next member leads
  rcases List.mem_cons.1 member with rfl | member
  · exact ⟨reads.leads, earlier leads⟩
  · obtain ⟨back, later⟩ := undisturbed next member (reads.leads.trans leads)
    refine ⟨back.trans reads.leads, fun rank settled => ?_⟩
    obtain ⟨middle, belowRank, settledMiddle⟩ := later rank settled
    obtain ⟨lower, belowMiddle, settledLower⟩ := earlier (leads.trans back) middle settledMiddle
    exact ⟨lower, Nat.lt_trans belowMiddle belowRank, settledLower⟩

/-- Off the cycles through an undisturbed file, what it reads has its fresh table. -/
theorem Undisturbed.tableAmid_eq_fresh (undisturbed : w.Undisturbed opened id)
    (reads : w.Reads id other) (apart : ¬ w.Leads other id) :
    w.tableAmid (id :: opened) other = w.freshTable other := by
  refine tableAmid_congr fun next leads => ⟨fun member => ?_, fun member => ?_⟩
  · rcases List.mem_cons.1 member with rfl | member
    · exact absurd leads apart
    · have back := (undisturbed next member (reads.leads.trans leads)).1
      exact absurd (leads.trans back) apart
  · cases member

/-! ### What settling means -/

/-- A table that settles by the rank behind one by which it does not is made of what it asks for: its
    answer is the settled one, and on a cycle every table that it asks for settles by the lower rank. -/
theorem answer_of_settled? {least : Nat} {made : ExportTable} (undisturbed : w.Undisturbed opened id)
    (found : w.recipe? id = some recipe) (unsettled : w.settled? least id = none)
    (settled : w.settled? (least + 1) id = some (some made))
    (lower : ∀ other table, w.Undisturbed (id :: opened) other → w.settled? least other = some table →
      w.tableAmid (id :: opened) other = table) :
    recipe.steps.answer (w.tableAmid (id :: opened)) = made ∧
      ∀ other ∈ recipe.steps.asked (w.tableAmid (id :: opened)), w.Leads other id →
        w.SettledBy least other := by
  rw [settled?_succ found, Option.map_eq_some_iff] at settled
  obtain ⟨_, answered, same⟩ := settled
  cases same
  have agree : ∀ other ∈ recipe.steps.asked (w.tableAmid (id :: opened)), ∀ table,
      w.lowerTables least id other = some table → w.tableAmid (id :: opened) other = table := by
    intro other asks table known
    have reads : w.Reads id other := reads_of_asked found asks
    by_cases back : w.Leads other id
    · rw [lowerTables_of_leads back] at known
      refine lower other table (undisturbed.cons reads fun _ rank settledBy => ?_) known
      refine ⟨least, lt_of_settledBy unsettled settledBy, ?_⟩
      rw [SettledBy, known]
      rfl
    · rw [lowerTables_of_not_leads back] at known
      rw [undisturbed.tableAmid_eq_fresh reads back]
      exact Option.some.inj known
  obtain ⟨result, allKnown⟩ := Inquiry.answer_of_answer? agree answered
  refine ⟨result, fun other asks back => ?_⟩
  have known := allKnown other asks
  rw [lowerTables_of_leads back] at known
  rw [SettledBy, known]
  rfl

/-- A table that settles is the same amid all open files that do not disturb its file. -/
theorem tableAmid_of_settled? (undisturbed : w.Undisturbed opened id)
    (settled : w.settled? rank id = some table) : w.tableAmid opened id = table := by
  induction rank using Nat.strongRecOn generalizing opened id table with
  | ind rank ih =>
      obtain ⟨least, below, unsettled, settledNext⟩ := exists_least_rank settled
      cases found : w.recipe? id with
      | none =>
          rw [settled?, found] at settledNext
          rw [tableAmid_none found]
          exact Option.some.inj settledNext
      | some recipe =>
          have closed : id ∉ opened :=
            undisturbed.not_mem ⟨rank, by rw [SettledBy, settled]; rfl⟩
          obtain ⟨made, rfl⟩ : ∃ made, table = some made := by
            rw [settled?_succ found, Option.map_eq_some_iff] at settledNext
            obtain ⟨made, _, same⟩ := settledNext
            exact ⟨made, same.symm⟩
          rw [tableAmid_some closed found]
          exact congrArg some (answer_of_settled? undisturbed found unsettled settledNext
            fun other table undisturbedOther settledOther => ih least below undisturbedOther settledOther).1

/-- On a cycle, what a file that settles asks for settles by a lower rank. -/
theorem settledBy_asked (undisturbed : w.Undisturbed opened id) (found : w.recipe? id = some recipe)
    (asks : other ∈ recipe.steps.asked (w.tableAmid (id :: opened))) (back : w.Leads other id)
    (settled : w.SettledBy rank id) : ∃ lower < rank, w.SettledBy lower other := by
  obtain ⟨table, settledTable⟩ := Option.isSome_iff_exists.1 settled
  obtain ⟨least, below, unsettled, settledNext⟩ := exists_least_rank settledTable
  obtain ⟨made, rfl⟩ : ∃ made, table = some made := by
    rw [settled?_succ found, Option.map_eq_some_iff] at settledNext
    obtain ⟨made, _, same⟩ := settledNext
    exact ⟨made, same.symm⟩
  have lower := (answer_of_settled? undisturbed found unsettled settledNext
    fun other table undisturbedOther settledOther => tableAmid_of_settled? undisturbedOther settledOther).2
  exact ⟨least, below, lower other asks back⟩

/-- What an undisturbed file asks for is undisturbed while the file is open. -/
theorem Undisturbed.asked (undisturbed : w.Undisturbed opened id) (found : w.recipe? id = some recipe)
    (asks : other ∈ recipe.steps.asked (w.tableAmid (id :: opened))) :
    w.Undisturbed (id :: opened) other :=
  undisturbed.cons (reads_of_asked found asks) fun back _ settled =>
    settledBy_asked undisturbed found asks back settled

/-- Finitely many tables that settle do so by one rank. -/
theorem exists_common_rank {ids : List Nat} {Matters : Nat → Prop}
    (settled : ∀ id ∈ ids, Matters id → w.Settled id) :
    ∃ rank, ∀ id ∈ ids, Matters id → w.SettledBy rank id := by
  induction ids with
  | nil => exact ⟨0, fun id member => by cases member⟩
  | cons head tail ih =>
      obtain ⟨rank, tailSettled⟩ := ih fun id member => settled id (List.mem_cons_of_mem _ member)
      by_cases matters : Matters head
      · obtain ⟨first, headSettled⟩ := settled head List.mem_cons_self matters
        refine ⟨max first rank, fun id member matter => ?_⟩
        rcases List.mem_cons.1 member with rfl | member
        · exact headSettled.mono (Nat.le_max_left _ _)
        · exact (tailSettled id member matter).mono (Nat.le_max_right _ _)
      · refine ⟨rank, fun id member matter => ?_⟩
        rcases List.mem_cons.1 member with rfl | member
        · exact absurd matter matters
        · exact tailSettled id member matter

/-- A table that does not settle asks for one on a cycle that does not settle either. -/
theorem exists_asked_not_settled (undisturbed : w.Undisturbed opened id)
    (found : w.recipe? id = some recipe) (unsettled : ¬ w.Settled id) :
    ∃ other ∈ recipe.steps.asked (w.tableAmid (id :: opened)), w.Leads other id ∧ ¬ w.Settled other := by
  refine Classical.byContradiction fun none => ?_
  have allSettled : ∀ other ∈ recipe.steps.asked (w.tableAmid (id :: opened)), w.Leads other id →
      w.Settled other := by
    intro other asks back
    exact Classical.byContradiction fun unsettledOther => none ⟨other, asks, back, unsettledOther⟩
  obtain ⟨rank, settled⟩ := exists_common_rank allSettled
  have known : ∀ other ∈ recipe.steps.asked (w.tableAmid (id :: opened)),
      w.lowerTables rank id other = some (w.tableAmid (id :: opened) other) := by
    intro other asks
    by_cases back : w.Leads other id
    · obtain ⟨table, settledTable⟩ := Option.isSome_iff_exists.1 (settled other asks back)
      rw [lowerTables_of_leads back, settledTable,
        tableAmid_of_settled? (undisturbed.asked found asks) settledTable]
    · rw [lowerTables_of_not_leads back,
        undisturbed.tableAmid_eq_fresh (reads_of_asked found asks) back]
  refine unsettled ⟨rank + 1, ?_⟩
  rw [SettledBy, settled?_succ found, Inquiry.answer?_eq_some known]
  rfl

end World
end BundleLens
