/-
Module: BundleLens.Proofs.TableParts
Layer: Proofs
Purpose: Export tables by their parts. In both formats a table is made part by part, of the items of a
  module or of the statements of a factory, and the last part that gives a name anything decides what
  the name stands for. Where only declarations are read, open files take names away and never bring any.
Imports: BundleLens.Proofs.ExportPrecedence
Main exports: TablePart, FileView.tableParts, World.gives?, World.exists_tableAmid, FewerNames,
  World.tableAmid_fewerNames, World.gives?_eq_none_of_alone
-/
import BundleLens.Proofs.ExportPrecedence

namespace BundleLens

/-! ### Parts -/

/-- A part of what the export table of a file is made of: an item of a module, or a statement of a
    factory. -/
inductive TablePart where
  | item (i : Item)
  | statement (s : Stmt)

/-- What a part adds to the export table of its file. -/
def TablePart.exports (w : World) (view : FileView) : TablePart → Inquiry Entries
  | .item i => itemExports w view i
  | .statement s => stmtExports w view s

/-- The parts that the export table of a file is made of, if it has one. -/
def FileView.tableParts (host : HostKind) (view : FileView) : List TablePart :=
  match view.wrapperFor? host with
  | some wrapper => wrapper.statements.map .statement
  | none => view.file.items.map .item

/-- What a part gives a name, while the table of its file is being made and those of the open files too.
    Of several entries the last counts. -/
def World.gives? (w : World) (opened : List Nat) (file : SourceFile) (name : String) (part : TablePart) :
    Option Declaration :=
  ((part.exports w (.ofFile file)).answer (w.tableAmid (file.id :: opened))).reverse.lookup name

theorem FileView.steps_of_recipe? {w : World} {view : FileView} {recipe : Recipe}
    (found : view.recipe? w = some recipe) :
    recipe.steps = do
      return Table.empty.insertAll (← (view.tableParts w.host).mapM (TablePart.exports w view)).flatten := by
  unfold FileView.tableParts
  obtain ⟨wrapper, wrapped, rfl⟩ | ⟨unwrapped, rfl⟩ := FileView.recipe?_cases found
  · simp only [wrapped, List.mapM_map]
    rfl
  · simp only [unwrapped, List.mapM_map]
    rfl

section Tables

variable {program : Program} {host : HostKind} {file : SourceFile} {opened : List Nat} {name : String}
  {part : TablePart}

/-- A file has a table if one of its parts gives anything. -/
theorem World.exists_recipe?_of_gives (built : program.Built) (member : file ∈ program.files)
    (inside : part ∈ (FileView.ofFile file).tableParts host) {d : Declaration}
    (given : (World.ofProgram program host).gives? opened file name part = some d) :
    ∃ recipe, (World.ofProgram program host).recipe? file.id = some recipe := by
  rw [World.recipe?_of_mem built host member]
  unfold FileView.tableParts at inside
  cases wrapped : (FileView.ofFile file).wrapperFor? (World.ofProgram program host).host with
  | some wrapper => exact ⟨_, FileView.recipe?_of_wrapped wrapped⟩
  | none =>
      rw [show (FileView.ofFile file).wrapperFor? host = none from wrapped] at inside
      obtain ⟨item, here, rfl⟩ := List.mem_map.1 inside
      have declares : item.isModuleDecl = true := by
        cases item with
        | stmt s => cases given
        | _ => rfl
      have isModule : (FileView.ofFile file).file.isModule = true :=
        built.isModule_of_item member here declares
      exact ⟨_, (FileView.recipe?_of_unwrapped wrapped).trans (if_pos isModule)⟩

/-- The entry of a name in a table is what the last part gives that gives the name anything. -/
theorem World.exists_tableAmid (built : program.Built) (member : file ∈ program.files)
    (closed : file.id ∉ opened) (inside : part ∈ (FileView.ofFile file).tableParts host) {d : Declaration}
    (given : (World.ofProgram program host).gives? opened file name part = some d) :
    ∃ table, (World.ofProgram program host).tableAmid opened file.id = some table ∧
      ∀ name, table.get? name = ((FileView.ofFile file).tableParts host).reverse.findSome?
        ((World.ofProgram program host).gives? opened file name) := by
  obtain ⟨recipe, found⟩ := World.exists_recipe?_of_gives built member inside given
  have steps := FileView.steps_of_recipe? ((World.recipe?_of_mem built host member).symm.trans found)
  refine ⟨_, tableAmid_some closed found, fun name => ?_⟩
  rw [steps]
  simp only [Inquiry.answer_bind, Inquiry.pure_eq_done, Inquiry.answer_done, Inquiry.answer_mapM,
    Table.get?_insertAll, lookup_reverse_flatten]
  show (List.findSome? _ _).or none = _
  rw [Option.or_none, ← List.map_reverse, List.findSome?_map]
  rfl

/-- What a part gives a name is what all parts give it, unless a later one gives the name anything. -/
theorem World.findSome?_gives?_of_part {w : World} {parts before behind : List TablePart} {d : Declaration}
    (split : parts = before ++ part :: behind) (given : w.gives? opened file name part = some d) :
    parts.reverse.findSome? (w.gives? opened file name) =
      some ((behind.reverse.findSome? (w.gives? opened file name)).getD d) := by
  rw [split, List.reverse_append, List.reverse_cons, List.append_assoc, List.singleton_append,
    List.findSome?_append, List.findSome?_cons, given]
  cases behind.reverse.findSome? (w.gives? opened file name) <;> rfl

/-- The last part that gives a name anything decides. -/
theorem World.findSome?_gives?_of_last {w : World} {parts before behind : List TablePart} {d : Declaration}
    (split : parts = before ++ part :: behind) (given : w.gives? opened file name part = some d)
    (silent : ∀ later ∈ behind, w.gives? opened file name later = none) :
    parts.reverse.findSome? (w.gives? opened file name) = some d := by
  have none : behind.reverse.findSome? (w.gives? opened file name) = none :=
    List.findSome?_eq_none_iff.2 fun later inside => silent later (List.mem_reverse.1 inside)
  rw [World.findSome?_gives?_of_part split given, none, Option.getD_none]

end Tables

/-! ### Names that open files take away -/

/-- There are tables for fewer files, with fewer names. -/
def FewerNames (tables others : Nat → Option ExportTable) : Prop :=
  ∀ id table, tables id = some table → ∃ whole, others id = some whole ∧ table.names ⊆ whole.names

section Fewer

variable {w : World} {view : FileView} {tables others : Nat → Option ExportTable}

/-- In a module, whether it is known what a name stands for depends on no table. -/
theorem isSome_identifierDeclaration (unwrapped : view.wrapperFor? w.host = none) (id : Ident) :
    ((identifierDeclaration w view id).answer tables).isSome =
      ((identifierDeclaration w view id).answer others).isSome := by
  rw [identifierDeclaration_of_unwrapped unwrapped]
  unfold lexicalDeclaration bindingDeclaration
  split
  · split
    · rfl
    · unfold importedDeclaration
      split
      · split
        · split
          · rfl
          · split
            · simp only [Inquiry.answer_bind]
              cases (exportedBy _ _).answer tables <;> cases (exportedBy _ _).answer others <;> rfl
            · rfl
        · rfl
      · rfl
  · rfl

theorem names_entryOf (name : Option String) (declaration : Option Declaration) :
    Entries.names (entryOf name declaration) = if declaration.isSome then name.toList else [] := by
  cases name <;> cases declaration <;> rfl

theorem names_flatten_subset {α : Type} {f g : α → Entries} {xs : List α}
    (each : ∀ x ∈ xs, (f x).names ⊆ (g x).names) :
    Entries.names (xs.map f).flatten ⊆ Entries.names (xs.map g).flatten := by
  intro name listed
  obtain ⟨entry, inside, rfl⟩ := List.mem_map.1 listed
  obtain ⟨entries, given, here⟩ := List.mem_flatten.1 inside
  obtain ⟨x, member, rfl⟩ := List.mem_map.1 given
  obtain ⟨other, there, same⟩ := List.mem_map.1 (each x member (List.mem_map_of_mem here))
  exact List.mem_map.2 ⟨other, List.mem_flatten.2 ⟨g x, List.mem_map_of_mem member, there⟩, same⟩

/-- An entry of an export list with a source gives a name wherever it gives it with fewer names. -/
theorem names_foreignSpecifier (fewer : FewerNames tables others) (target : SourceFile)
    (via : Option String) (specifier : ExportSpecifier) :
    Entries.names (foreignSpecifier target via (tables target.id) specifier) ⊆
      Entries.names (foreignSpecifier target via (others target.id) specifier) := by
  cases specifier with
  | whole exported => exact List.Subset.refl _
  | named own exported =>
      simp only [foreignSpecifier, names_entryOf]
      intro name listed
      split at listed
      · rename_i known
        rw [Option.isSome_map] at known
        obtain ⟨d, found⟩ := Option.isSome_iff_exists.1 known
        simp only [Option.bind_eq_bind, Option.bind_eq_some_iff] at found
        obtain ⟨table, made, inner, text, entry⟩ := found
        obtain ⟨whole, madeToo, names⟩ := fewer target.id table made
        have named : inner ∈ whole.names := names (Table.mem_names_iff.2 (by rw [entry]; rfl))
        simp only [madeToo, text, Option.bind_eq_bind, Option.bind_some, Option.isSome_map,
          Table.mem_names_iff.1 named, if_true]
        exact listed
      · cases listed

/-- What is copied of a table has a name wherever it has it with fewer names in the table. -/
theorem names_copied_subset {table whole : ExportTable} (fewer : table.names ⊆ whole.names)
    (via : Option String) :
    Entries.names ((table.entries.filter (·.1 != "default")).map fun (name, d) =>
        (name, d.inheritVia via)) ⊆
      Entries.names ((whole.entries.filter (·.1 != "default")).map fun (name, d) =>
        (name, d.inheritVia via)) := by
  intro name listed
  obtain ⟨copied, inside, rfl⟩ := List.mem_map.1 listed
  obtain ⟨entry, kept, rfl⟩ := List.mem_map.1 inside
  obtain ⟨here, apart⟩ := List.mem_filter.1 kept
  obtain ⟨other, there, name⟩ := List.mem_map.1 (fewer (List.mem_map_of_mem here))
  have keptToo : other ∈ whole.entries.filter (·.1 != "default") :=
    List.mem_filter.2 ⟨there, name ▸ apart⟩
  exact List.mem_map.2 ⟨_, List.mem_map_of_mem keptToo, name⟩

/-- An item of a module gives a name wherever it gives it with fewer names in the tables it asks for. -/
theorem names_itemExports (unwrapped : view.wrapperFor? w.host = none) (fewer : FewerNames tables others)
    (item : Item) :
    Entries.names ((itemExports w view item).answer tables) ⊆
      Entries.names ((itemExports w view item).answer others) := by
  have same (id : Ident) : ((identifierDeclaration w view id).answer tables).isSome =
      ((identifierDeclaration w view id).answer others).isSome := isSome_identifierDeclaration unwrapped id
  cases item with
  | exportDecl decl =>
      cases decl with
      | vars span kind ds =>
          simp only [itemExports, declExports, variableExports, Inquiry.answer_bind, Inquiry.answer_mapM,
            Inquiry.pure_eq_done, Inquiry.answer_done]
          refine names_flatten_subset fun id _ => ?_
          rw [names_entryOf, names_entryOf, same id]
          exact List.Subset.refl _
      | _ => exact List.Subset.refl _
  | exportList specifiers =>
      simp only [itemExports, Inquiry.answer_bind, Inquiry.answer_mapM, Inquiry.pure_eq_done,
        Inquiry.answer_done]
      refine names_flatten_subset fun specifier _ => ?_
      unfold ownSpecifier
      split
      · simp only [Inquiry.answer_bind, Inquiry.pure_eq_done, Inquiry.answer_done, names_entryOf, same]
        exact List.Subset.refl _
      · exact List.Subset.refl _
  | exportFrom specifiers source =>
      simp only [itemExports]
      split
      · rename_i specifier target _
        exact names_flatten_subset fun other _ =>
          names_foreignSpecifier fewer target (bareName? specifier) other
      · exact List.Subset.refl _
  | exportAll source =>
      simp only [itemExports]
      split
      · rename_i specifier target _
        simp only [Inquiry.answer_bind, Inquiry.answer_tableOf]
        cases made : tables target.id with
        | none => exact List.nil_subset _
        | some table =>
            obtain ⟨whole, madeToo, names⟩ := fewer target.id table made
            rw [madeToo]
            exact names_copied_subset names _
      · exact List.Subset.refl _
  | exportValue value =>
      simp only [itemExports, valueExport]
      cases value.ident? with
      | none => exact List.Subset.refl _
      | some id =>
          simp only [Inquiry.answer_bind, Inquiry.pure_eq_done, Inquiry.answer_done]
          exact List.Subset.refl _
  | _ => exact List.Subset.refl _

end Fewer

section Declared

variable {program : Program} {file : SourceFile} {opened others : List Nat}

/-- Where only declarations are read, more open files leave fewer names. -/
theorem World.tableAmid_fewerNames (program : Program) (more : opened ⊆ others) :
    FewerNames ((World.ofProgram program .modules).tableAmid others)
      ((World.ofProgram program .modules).tableAmid opened) := by
  intro id table made
  -- by induction on the number of files that are not open, since every recipe opens one more
  induction size : (World.ofProgram program .modules).remaining (fun other => decide (other ∈ others))
    using Nat.strongRecOn generalizing opened others id table with
  | ind size ih =>
      subst size
      have closed : id ∉ others := by
        intro isOpen
        rw [tableAmid_open isOpen] at made
        cases made
      cases found : (World.ofProgram program .modules).recipe? id with
      | none =>
          rw [tableAmid_none found] at made
          cases made
      | some recipe =>
          rw [tableAmid_some closed found] at made
          cases made
          refine ⟨_, tableAmid_some (fun isOpen => closed (more isOpen)) found, ?_⟩
          have fewer : FewerNames ((World.ofProgram program .modules).tableAmid (id :: others))
              ((World.ofProgram program .modules).tableAmid (id :: opened)) := fun next table made =>
            ih _ (remaining_cons_lt found closed) (List.cons_subset_cons id more) next table made rfl
          obtain ⟨view, place, made⟩ := Option.bind_eq_some_iff.1 found
          have unwrapped : view.wrapperFor? (World.ofProgram program .modules).host = none := rfl
          rw [FileView.steps_of_recipe? made]
          simp only [Inquiry.answer_bind, Inquiry.pure_eq_done, Inquiry.answer_done, Inquiry.answer_mapM]
          intro name listed
          refine (Table.mem_names_insertAll _ _ _).2 (.inr ?_)
          rcases (Table.mem_names_insertAll _ _ _).1 listed with nowhere | given
          · cases nowhere
          · refine names_flatten_subset (fun part inside => ?_) given
            unfold FileView.tableParts at inside
            rw [unwrapped] at inside
            obtain ⟨item, _, rfl⟩ := List.mem_map.1 inside
            exact names_itemExports unwrapped fewer item

theorem gives?_eq_none_iff {w : World} {name : String} {part : TablePart} :
    w.gives? opened file name part = none ↔
      name ∉ Entries.names ((part.exports w (.ofFile file)).answer (w.tableAmid (file.id :: opened))) := by
  unfold World.gives?
  rw [List.lookup_eq_none_iff]
  simp only [List.mem_reverse, bne_iff_ne, Entries.names, List.mem_map, not_exists, not_and]
  exact forall₂_congr fun entry _ => ⟨Ne.symm, Ne.symm⟩

/-- Where only declarations are read, an item that gives a name nothing while its file alone is open
    gives it nothing while others are open. -/
theorem World.gives?_eq_none_of_alone {name : String} {part : TablePart}
    (inside : part ∈ (FileView.ofFile file).tableParts .modules)
    (alone : (World.ofProgram program .modules).gives? [] file name part = none) :
    (World.ofProgram program .modules).gives? opened file name part = none := by
  obtain ⟨item, _, rfl⟩ := List.mem_map.1 inside
  have fewer := World.tableAmid_fewerNames program (List.cons_subset_cons file.id (List.nil_subset opened))
  rw [gives?_eq_none_iff] at alone ⊢
  exact fun given => alone (names_itemExports rfl fewer item given)

end Declared

end BundleLens
