/-
Module: BundleLens.Proofs.FreshTable
Layer: Proofs
Purpose: Export tables without a memory. The table of a file amid open ones is made from nothing: every
  table that it asks for is made anew, and an open file that is met again has none. It is what the
  making of tables is compared with, since it depends on nothing but the open files. A file reads
  another one if its table asks for the other's in some such making. Open files that a file does not
  lead to have no influence on its table.
Imports: BundleLens.Proofs.Remember, Mathlib.Logic.Relation
Main exports: World.tableAmid, World.freshTable, World.Reads, World.Leads, World.tableAmid_congr
-/
import BundleLens.Proofs.Remember
import Mathlib.Logic.Relation

namespace BundleLens
namespace World

variable {w : World} {opened others : List Nat} {id other : Nat} {recipe : Recipe}

theorem remaining_cons_lt (found : w.recipe? id = some recipe) (closed : id ∉ opened) :
    w.remaining (fun other => decide (other ∈ id :: opened)) <
      w.remaining fun other => decide (other ∈ opened) := by
  refine w.remaining_lt (recipe?_lt found) ?_ ?_ ?_
  · simpa using closed
  · simp
  · intro other shown
    simp only [decide_eq_true_eq] at shown
    simp [shown]

/-- The export table of a file that is made while the tables of the given files are being made, with
    nothing remembered. -/
def tableAmid (w : World) (opened : List Nat) (id : Nat) : Option ExportTable :=
  if _ : id ∈ opened then none
  else
    match _ : w.recipe? id with
    | some recipe => some (recipe.steps.answer fun other => w.tableAmid (id :: opened) other)
    | none => none
termination_by w.remaining fun other => decide (other ∈ opened)
decreasing_by exact remaining_cons_lt ‹_› ‹_›

/-- The export table of a file that is made from nothing. -/
def freshTable (w : World) (id : Nat) : Option ExportTable := w.tableAmid [] id

theorem tableAmid_open (member : id ∈ opened) : w.tableAmid opened id = none := by
  rw [tableAmid, dif_pos member]

theorem tableAmid_none (absent : w.recipe? id = none) : w.tableAmid opened id = none := by
  rw [tableAmid]
  split
  · rfl
  · split
    · rename_i found
      rw [absent] at found
      cases found
    · rfl

/-- Any other file has the table that its recipe gives while it is open too. -/
theorem tableAmid_some (closed : id ∉ opened) (found : w.recipe? id = some recipe) :
    w.tableAmid opened id = some (recipe.steps.answer (w.tableAmid (id :: opened))) := by
  rw [tableAmid, dif_neg closed]
  split
  · rename_i same
    rw [found] at same
    cases same
    rfl
  · rename_i absent
    rw [found] at absent
    cases absent

/-! ### Which files a table depends on -/

/-- A file reads another one: in some making of its table, the table of the other is asked for. -/
def Reads (w : World) (id other : Nat) : Prop :=
  ∃ opened recipe, w.recipe? id = some recipe ∧
    other ∈ recipe.steps.asked (w.tableAmid (id :: opened))

/-- A file leads to those that it reads, to those that these read, and so on, and to itself. -/
def Leads (w : World) : Nat → Nat → Prop := Relation.ReflTransGen w.Reads

theorem Leads.refl (id : Nat) : w.Leads id id := Relation.ReflTransGen.refl

theorem Leads.trans {a b c : Nat} (first : w.Leads a b) (second : w.Leads b c) : w.Leads a c :=
  Relation.ReflTransGen.trans first second

theorem Reads.leads (reads : w.Reads id other) : w.Leads id other :=
  Relation.ReflTransGen.single reads

/-- A file reads what the making of its table asks for. -/
theorem reads_of_asked (found : w.recipe? id = some recipe)
    (asks : other ∈ recipe.steps.asked (w.tableAmid (id :: opened))) : w.Reads id other :=
  ⟨opened, recipe, found, asks⟩

/-- Only the open files that a file leads to have an influence on its table. -/
theorem tableAmid_congr
    (agree : ∀ other, w.Leads id other → (other ∈ opened ↔ other ∈ others)) :
    w.tableAmid opened id = w.tableAmid others id := by
  -- by induction on the number of files that are not open, since every recipe opens one more
  induction size : w.remaining (fun other => decide (other ∈ opened)) using Nat.strongRecOn
    generalizing opened others id with
  | ind size ih =>
      subst size
      by_cases closed : id ∈ opened
      · rw [tableAmid_open closed, tableAmid_open ((agree id (.refl id)).1 closed)]
      · cases found : w.recipe? id with
        | none => rw [tableAmid_none found, tableAmid_none found]
        | some recipe =>
            have apart : id ∉ others := fun member => closed ((agree id (.refl id)).2 member)
            rw [tableAmid_some closed found, tableAmid_some apart found]
            refine congrArg some (Inquiry.answer_eq_of_agree fun other asks => ?_).1
            have reads : w.Reads id other := reads_of_asked found asks
            refine ih _ ?_ (fun next leads => ?_) rfl
            · exact remaining_cons_lt found closed
            · have same := agree next (reads.leads.trans leads)
              simp only [List.mem_cons, same]

end World
end BundleLens
