/-
Module: BundleLens.Proofs.TypingsExports
Layer: Proofs
Purpose: Which names a declaration file exports, read off the items of the files and without tables. A
  file exports what it declares in place or names in a list, and what it takes out of another file,
  along re-exports that come to no file twice. These are the names of the table that the file has, on
  whatever cycles it is.
Imports: BundleLens.Proofs.TypingsReexports
Main exports: Program.Exports, isSome_get?_typingsBy, isSome_get?_typingsAmid
-/
import BundleLens.Proofs.TypingsReexports

namespace BundleLens

/-- A file exports a name, along re-exports that come to no file twice and to none of those that were
    passed. The names that a destructuring declaration binds are left out. -/
inductive Program.Exports (program : Program) : List Nat → SourceFile → String → Prop where
  /-- `export declare class X {}` -/
  | placed {passed : List Nat} {file : SourceFile} {s : Stmt} {d : TypingsDecl} (fresh : file.id ∉ passed)
      (item : .exportDecl s ∈ file.items) (declared : d ∈ declaredNames file.path s) :
      Exports program passed file d.name
  /-- `export { X as Y }` -/
  | listed {passed : List Nat} {file : SourceFile} {specifiers : List ExportSpecifier} {name : ModuleName}
      {exported : Option ModuleName} {declaring : Item} {s : Stmt} {d : TypingsDecl}
      (fresh : file.id ∉ passed)
      (item : .exportList specifiers ∈ file.items) (entry : .named name exported ∈ specifiers)
      (own : declaring ∈ file.items) (declares : declaring.declaration? = some s)
      (declared : d ∈ declaredNames file.path s) (named : d.name = name.textOrEmpty) :
      Exports program passed file (exported.getD name).textOrEmpty
  /-- `export { X as Y } from 'm'` -/
  | handedOn {passed : List Nat} {file other : SourceFile} {specifiers : List ExportSpecifier}
      {source : Option String} {name : ModuleName} {exported : Option ModuleName} (fresh : file.id ∉ passed)
      (item : .exportFrom specifiers source ∈ file.items) (entry : .named name exported ∈ specifiers)
      (resolved : source.bind (program.resolve? · file) = some other)
      (behind : Exports program (file.id :: passed) other name.textOrEmpty) :
      Exports program passed file (exported.getD name).textOrEmpty
  /-- `export * from 'm'` -/
  | copied {passed : List Nat} {file other : SourceFile} {source : Option String} {name : String}
      (fresh : file.id ∉ passed) (item : .exportAll source ∈ file.items)
      (resolved : source.bind (program.resolve? · file) = some other)
      (behind : Exports program (file.id :: passed) other name) : Exports program passed file name

section Entries

variable {program : Program} {file : SourceFile} {tables : Nat → TypingsTable} {name : String}

theorem not_isSome_get?_empty (name : String) :
    ¬ ((Table.empty : TypingsTable).get? name).isSome = true := nofun

/-- The names of an export list are those of its entries whose own names the table has. -/
theorem isSome_lookup_listedEntries (source : TypingsTable) (specifiers : List ExportSpecifier) :
    ((listedEntries source specifiers).reverse.lookup name).isSome = true ↔
      ∃ own exported, .named own exported ∈ specifiers ∧ (source.get? own.textOrEmpty).isSome = true ∧
        (exported.getD own).textOrEmpty = name := by
  rw [List.lookup_isSome_iff]
  constructor
  · rintro ⟨entry, inside, same⟩
    obtain ⟨specifier, listed, found⟩ := List.mem_filterMap.1 (List.mem_reverse.1 inside)
    cases specifier with
    | whole _ => cases found
    | named own exported =>
        obtain ⟨d, present, rfl⟩ := Option.map_eq_some_iff.1 found
        exact ⟨own, exported, listed, by rw [present]; rfl, (beq_iff_eq.1 same).symm⟩
  · rintro ⟨own, exported, listed, present, rfl⟩
    obtain ⟨d, present⟩ := Option.isSome_iff_exists.1 present
    refine ⟨⟨(exported.getD own).textOrEmpty, d⟩, ?_, BEq.rfl⟩
    rw [List.mem_reverse]
    exact List.mem_filterMap.2 ⟨_, listed, by simp only [present]; rfl⟩

theorem isSome_get?_ownDeclarations :
    ((ownDeclarations file).get? name).isSome = true ↔
      ∃ item ∈ file.items, ∃ s, item.declaration? = some s ∧
        ∃ d ∈ declaredNames file.path s, d.name = name := by
  rw [ownDeclarations, addDeclared, Table.get?_insertAll, ← List.map_reverse, lookup_map_name,
    Option.isSome_or, Bool.or_eq_true, or_iff_left (not_isSome_get?_empty name), List.find?_isSome]
  simp only [List.mem_reverse, List.mem_flatMap, List.mem_filterMap, beq_iff_eq]
  constructor
  · rintro ⟨d, ⟨s, ⟨item, inside, declares⟩, declared⟩, named⟩
    exact ⟨item, inside, s, declares, d, declared, named⟩
  · rintro ⟨item, inside, s, declares, d, declared, named⟩
    exact ⟨d, ⟨s, ⟨item, inside, declares⟩, declared⟩, named⟩

/-- An item gives a name a meaning, by itself or by the table of the file that it takes exports from. -/
def Program.Offers (program : Program) (tables : Nat → TypingsTable) (file : SourceFile) (name : String)
    (item : Item) : Prop :=
  let source := ((program.drawnFrom? file item).map (tables ·.id)).getD .empty
  (file.replaced? source name item).isSome = true ∨ (SourceFile.filled? source name item).isSome = true

/-- An item keeps all names and adds those that it offers. -/
theorem isSome_get?_addItem {table : TypingsTable} {item : Item} :
    ((program.addItem tables file table item).get? name).isSome = true ↔
      (table.get? name).isSome = true ∨ program.Offers tables file name item := by
  rw [Program.addItem, SourceFile.get?_withItem, Option.isSome_or, Option.isSome_or, Bool.or_eq_true,
    Bool.or_eq_true, or_assoc, or_left_comm]
  rfl

theorem isSome_get?_addItems_iff {items : List Item} {table : TypingsTable} :
    ((items.foldl (program.addItem tables file) table).get? name).isSome = true ↔
      (table.get? name).isSome = true ∨ ∃ item ∈ items, program.Offers tables file name item := by
  induction items generalizing table with
  | nil => simp
  | cons item rest ih =>
      rw [List.foldl_cons, ih, isSome_get?_addItem, or_assoc]
      simp only [List.mem_cons, exists_eq_or_imp]

/-- The table of a module names what its items offer. -/
theorem isSome_get?_typingsBy :
    ((program.typingsBy tables file).get? name).isSome = true ↔
      file.isModule = true ∧ ∃ item ∈ file.items, program.Offers tables file name item := by
  unfold Program.typingsBy
  split
  · rename_i isModule
    rw [isSome_get?_addItems_iff, or_iff_right (not_isSome_get?_empty name), and_iff_right isModule]
  · rename_i isScript
    exact iff_of_false (not_isSome_get?_empty name) fun offered => isScript offered.1

end Entries

section Exports

variable {program : Program} {file : SourceFile} {name : String} {passed : List Nat}

/-- The table of a source is asked only if there is one. -/
theorem exists_of_isSome_source {tables : Nat → TypingsTable} {found : Option SourceFile}
    (present : (((found.map (tables ·.id)).getD .empty).get? name).isSome = true) :
    ∃ other, found = some other ∧ ((tables other.id).get? name).isSome = true := by
  cases found with
  | none => exact absurd present (not_isSome_get?_empty name)
  | some other => exact ⟨other, rfl, present⟩

/-- A name that a file exports is in its table. -/
theorem Program.Exports.isSome_get? (built : program.Built) (exported : program.Exports passed file name)
    (member : file ∈ program.files) : ((program.typingsAmid passed file.id).get? name).isSome = true := by
  have offered {passed : List Nat} {file : SourceFile} {name : String} {item : Item}
      (member : file ∈ program.files) (fresh : file.id ∉ passed) (inside : item ∈ file.items)
      (isExport : item.isModuleDecl = true)
      (offers : program.Offers (program.typingsAmid (file.id :: passed)) file name item) :
      ((program.typingsAmid passed file.id).get? name).isSome = true := by
    rw [Program.typingsAmid_closed built member fresh, isSome_get?_typingsBy]
    exact ⟨built.isModule_of_item member inside isExport, item, inside, offers⟩
  induction exported with
  | @placed passed file s d fresh item declared =>
      exact offered member fresh item rfl
        (.inl (List.find?_isSome.2 ⟨d, List.mem_reverse.2 declared, BEq.rfl⟩))
  | listed fresh item entry own declares declared named =>
      refine offered member fresh item rfl (.inl ?_)
      rw [SourceFile.replaced?, isSome_lookup_listedEntries]
      exact ⟨_, _, entry, isSome_get?_ownDeclarations.2 ⟨_, own, _, declares, _, declared, named⟩, rfl⟩
  | handedOn fresh item entry resolved behind ih =>
      obtain ⟨_, _, found⟩ := Option.bind_eq_some_iff.1 resolved
      refine offered member fresh item rfl (.inl ?_)
      rw [SourceFile.replaced?, isSome_lookup_listedEntries, Program.drawnFrom?, resolved]
      exact ⟨_, _, entry, ih (Program.mem_of_resolve? found), rfl⟩
  | copied fresh item resolved behind ih =>
      obtain ⟨_, _, found⟩ := Option.bind_eq_some_iff.1 resolved
      refine offered member fresh item rfl (.inr ?_)
      rw [SourceFile.filled?, Program.drawnFrom?, resolved]
      exact ih (Program.mem_of_resolve? found)

/-- The table of a file amid open files names what the file exports along re-exports around them. -/
theorem isSome_get?_typingsAmid (built : program.Built) (member : file ∈ program.files) :
    ((program.typingsAmid passed file.id).get? name).isSome = true ↔ program.Exports passed file name := by
  refine ⟨fun present => ?_, fun exported => exported.isSome_get? built member⟩
  -- by induction on the number of files that are not open
  induction size : program.closed passed using Nat.strongRecOn generalizing passed file name with
  | ind size ih =>
      subst size
      by_cases fresh : file.id ∈ passed
      · rw [Program.typingsAmid_open fresh] at present
        exact absurd present (not_isSome_get?_empty name)
      rw [Program.typingsAmid_closed built member fresh, isSome_get?_typingsBy] at present
      obtain ⟨_, item, inside, offers⟩ := present
      have place := (List.getElem?_eq_some_iff.1 (built.getElem? member)).1
      have behind {other : SourceFile} {name : String} {specifier : String}
          (resolved : program.resolve? specifier file = some other)
          (present : ((program.typingsAmid (file.id :: passed) other.id).get? name).isSome = true) :
          program.Exports (file.id :: passed) other name :=
        ih _ (Program.closed_cons_lt place fresh) (Program.mem_of_resolve? resolved) present rfl
      rcases offers with replaces | fills
      · cases item with
        | exportDecl s =>
            obtain ⟨d, declared, same⟩ := List.find?_isSome.1 replaces
            exact beq_iff_eq.1 same ▸ .placed fresh inside (List.mem_reverse.1 declared)
        | exportList specifiers =>
            obtain ⟨own, exported, entry, declares, rfl⟩ := (isSome_lookup_listedEntries _ _).1 replaces
            obtain ⟨declaring, member, s, declares, d, declared, named⟩ :=
              isSome_get?_ownDeclarations.1 declares
            exact .listed fresh inside entry member declares declared named
        | exportFrom specifiers source =>
            obtain ⟨own, exported, entry, present, rfl⟩ := (isSome_lookup_listedEntries _ _).1 replaces
            obtain ⟨other, resolved, present⟩ := exists_of_isSome_source present
            obtain ⟨specifier, _, found⟩ := Option.bind_eq_some_iff.1 resolved
            exact .handedOn fresh inside entry resolved (behind found present)
        | _ => cases replaces
      · cases item with
        | exportAll source =>
            obtain ⟨other, resolved, present⟩ := exists_of_isSome_source fills
            obtain ⟨specifier, _, found⟩ := Option.bind_eq_some_iff.1 resolved
            exact .copied fresh inside resolved (behind found present)
        | _ => cases fills

end Exports

end BundleLens
