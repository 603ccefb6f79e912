/-
Module: BundleLens.Proofs.ExportedEnums
Layer: Proofs
Purpose: No exported enumeration is lost. Where an enumeration is recognized with an exported name, the
  argument of its function is read a second time for the assignment that creates its object, and that
  reading finds it behind any parentheses and behind the variable that may hold the object too. So the
  statement adds one entry to the export table: this assignment, with the members of the enumeration.
Imports: BundleLens.Proofs.Built, BundleLens.Proofs.StatementExports
Main exports: Stmt.others_of_enumIife?, stmtExports_of_enumIife?
-/
import BundleLens.Proofs.Built
import BundleLens.Proofs.StatementExports

namespace BundleLens

variable {s : Stmt} {shape : EnumIife} {name : String}

/-- An enumeration exports in no other way. -/
theorem Stmt.others_of_enumIife? (found : s.enumIife? = some shape) :
    s.exportsAssignment? = none ∧ s.reexport? = none ∧ s.wildcard? = none := by
  have isEnum : s.enumIife? ≠ none := by simp [found]
  refine ⟨?_, ?_, ?_⟩
  · cases assigned : s.exportsAssignment? with
    | none => rfl
    | some assignment => exact absurd (Stmt.others_of_exportsAssignment? assigned).2.2 isEnum
  · cases defined : s.reexport? with
    | none => rfl
    | some reexport => exact absurd (Stmt.others_of_reexport? defined).2 isEnum
  · cases copied : s.wildcard? with
    | none => rfl
    | some source => exact absurd (Stmt.others_of_wildcard? copied) isEnum

/-- What a statement with an enumeration adds is the entry of the enumeration. -/
theorem stmtExports_enumExport (w : World) (view : FileView) (found : s.enumIife? = some shape) :
    stmtExports w view s = pure (enumExport shape) := by
  obtain ⟨notAssigned, notDefined, notCopied⟩ := Stmt.others_of_enumIife? found
  unfold stmtExports
  simp only [notAssigned, notDefined, notCopied, found, Option.map_some, Option.getD_some]

/-- An enumeration with an exported name has an entry in the export table: a declaration of its own,
    whose node is the assignment that creates its object and exports it under the name, and whose
    members are those of the enumeration. The statement adds this entry and nothing else, so the name is
    in the table of every module that has the statement. -/
theorem stmtExports_of_enumIife? (found : s.enumIife? = some shape) (exported : shape.exported = some name)
    (w : World) (view : FileView) :
    (∃ a : Assignment, shape.exportAssignment? = some a ∧ a.Creates name ∧
      (DeclNode.assign a).name? = some name ∧
      stmtExports w view s = pure [(name, ⟨.concrete (some shape.members), .assign a, none, none⟩)]) ∧
    ∀ (wrapper : Wrapper) (tables : Nat → Option ExportTable), s ∈ wrapper.statements →
      name ∈ ((factoryTable w view wrapper).answer tables).names := by
  obtain ⟨a, assigned, creates⟩ := Stmt.enumIife?_exportAssignment? found exported
  have entry : enumExport shape = [(name, .enumeration (.assign a) shape.members)] := by
    rw [enumExport, exported, assigned]
    rfl
  have added := stmtExports_enumExport w view found
  rw [entry] at added
  refine ⟨⟨a, assigned, creates, creates.exported, added⟩, ?_⟩
  intro wrapper tables inside
  rw [mem_names_factoryTable]
  refine ⟨s, inside, ?_⟩
  rw [added]
  exact List.mem_singleton.2 rfl

/-- An enumeration that a variable holds too, with parentheses wherever they may stand. -/
def storedEnum : Program :=
  .ofTexts [("/a.js", "(function (E) \x7b E[E['A'] = 0] = 'A'; E.B = (1); \x7d)" ++
    "((E = (((exports).X) || ((exports['X'] = (\x7b\x7d))))));")]

theorem stmtExports_of_enumIife?_storedEnum :
    ∃ s shape, storedEnum.files.flatMap SourceFile.statements = [s] ∧ s.enumIife? = some shape ∧
      shape.exported = some "X" ∧ shape.members.map (·.name) = ["A", "B"] ∧
      ∀ w view, ∃ a : Assignment, shape.exportAssignment? = some a ∧ a.Creates "X" ∧
        stmtExports w view s = pure [("X", ⟨.concrete (some shape.members), .assign a, none, none⟩)] := by
  have facts : (storedEnum.files.flatMap SourceFile.statements).map
      (fun s => s.enumIife?.map fun shape => (shape.exported, shape.members.map (·.name))) =
        [some (some "X", ["A", "B"])] := by
    rw [storedEnum, Program.ofTexts_eq_ofBytes]
    decide +kernel
  obtain ⟨s, only, read⟩ := List.map_eq_singleton_iff.1 facts
  obtain ⟨shape, found, told⟩ := Option.map_eq_some_iff.1 read
  obtain ⟨exported, members⟩ := Prod.mk.injEq .. ▸ told
  refine ⟨s, shape, only, found, exported, members, fun w view => ?_⟩
  obtain ⟨⟨a, assigned, creates, _, added⟩, _⟩ := stmtExports_of_enumIife? found exported w view
  exact ⟨a, assigned, creates, added⟩

end BundleLens
