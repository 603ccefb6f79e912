/-
Module: BundleLens.Proofs.TypingsReexports
Layer: Proofs
Purpose: What declaration files pass on to each other. Only exports in place and export lists replace
  what a file exports under a name; what `export *` brings fills free names. So the last export in place
  of a name counts, unless a list behind it gives the name, and a file exports whatever is exported in
  place by a file that it reaches by `export *`. The names that a destructuring declaration binds are
  left out.
Imports: BundleLens.Proofs.TypingsTables, BundleLens.Proofs.ExportPrecedence,
  BundleLens.Proofs.BoundExports
Main exports: Item.placedNames, Item.givenNames, Program.starred, SourceFile.get?_withItem,
  names_of_starred, typingsIndex_reexports
-/
import BundleLens.Proofs.TypingsTables
import BundleLens.Proofs.ExportPrecedence
import BundleLens.Proofs.BoundExports

namespace BundleLens

/-! ### Names that items export -/

/-- The names that an exported declaration binds. -/
def Stmt.placedNames : Stmt → List String
  | .classDecl name _ => [name.name]
  | .function name _ => [name.name]
  | .vars _ _ ds => ds.flatMap (·.pat.boundNames)
  | .typeDecl _ _ name => name.toList
  | _ => []

/-- The names that a declaration binds by patterns that are no plain names. -/
def Stmt.destructuredNames : Stmt → List String
  | .vars _ _ ds => (ds.filter (·.pat.ident?.isNone)).flatMap (·.pat.boundNames)
  | _ => []

namespace Item

/-- The names that an item exports in place. -/
def placedNames : Item → List String
  | .exportDecl s => s.placedNames
  | _ => []

/-- Those of them that are destructured. -/
def destructuredNames : Item → List String
  | .exportDecl s => s.destructuredNames
  | _ => []

/-- The declarations that an item exports in place. -/
def inPlace (path : Path) : Item → List TypingsDecl
  | .exportDecl s => declaredNames path s
  | _ => []

end Item

/-- The name that an entry of an export list gives. -/
def ExportSpecifier.givenName? : ExportSpecifier → Option String
  | .named name exported => some (exported.getD name).textOrEmpty
  | .whole _ => none

/-- The names that an export list gives, with or without a source. -/
def Item.givenNames : Item → List String
  | .exportList specifiers => specifiers.filterMap ExportSpecifier.givenName?
  | .exportFrom specifiers _ => specifiers.filterMap ExportSpecifier.givenName?
  | _ => []

/-- The files whose exports a file copies by `export *`. -/
def Program.starred (program : Program) (file : SourceFile) : List SourceFile :=
  (file.items.filterMap Item.star?).filterMap fun source => source.bind (program.resolve? · file)

/-! ### Entries of a table -/

namespace Table

variable {α : Type}

theorem get?_insertNew (table : Table α) (key name : String) (value : α) :
    (table.insertNew key value).get? name =
      (table.get? name).or (if name = key then some value else none) := by
  unfold insertNew
  split
  · rename_i found
    by_cases same : name = key
    · rw [same, found]
      rfl
    · rw [if_neg same, Option.or_none]
  · show (table.entries ++ [(key, value)]).lookup name = _
    rw [List.lookup_append]
    by_cases same : name = key
    · simp [get?, same]
    · simp [get?, List.lookup_cons, beq_eq_false_iff_ne.2 same, same]

/-- Entries that fill free names leave the other names as they are. -/
theorem get?_insertAllNew (table : Table α) (entries : List (String × α)) (name : String) :
    (entries.foldl (fun acc (name, d) => acc.insertNew name d) table).get? name =
      (table.get? name).or (entries.lookup name) := by
  induction entries generalizing table with
  | nil => simp
  | cons entry rest ih =>
      obtain ⟨key, value⟩ := entry
      rw [List.foldl_cons, ih, get?_insertNew, Option.or_assoc]
      by_cases same : name = key
      · simp [same]
      · simp [List.lookup_cons, beq_eq_false_iff_ne.2 same, same]

end Table

theorem lookup_map_name (found : List TypingsDecl) (name : String) :
    (found.map fun d => (d.name, d)).lookup name = found.find? (·.name == name) := by
  induction found with
  | nil => rfl
  | cons d rest ih =>
      rw [List.map_cons, List.lookup_cons, List.find?_cons, ih, Bool.beq_comm]

section Items

variable {file : SourceFile} {source table : TypingsTable} {item : Item} {name : String}

/-- What an item makes a name stand for, whatever the name stood for before. -/
def SourceFile.replaced? (file : SourceFile) (source : TypingsTable) (name : String) :
    Item → Option TypingsDecl
  | .exportDecl s => (declaredNames file.path s).reverse.find? (·.name == name)
  | .exportList specifiers => (listedEntries (ownDeclarations file) specifiers).reverse.lookup name
  | .exportFrom specifiers _ => (listedEntries source specifiers).reverse.lookup name
  | _ => none

/-- What an item makes a name stand for if the name is free. -/
def SourceFile.filled? (source : TypingsTable) (name : String) : Item → Option TypingsDecl
  | .exportAll _ => source.get? name
  | _ => none

/-- An item replaces the entry of a name, or keeps it, or fills it. -/
theorem SourceFile.get?_withItem (file : SourceFile) (source table : TypingsTable) (item : Item)
    (name : String) :
    (file.withItem source table item).get? name =
      ((file.replaced? source name item).or (table.get? name)).or (filled? source name item) := by
  cases item with
  | exportDecl s =>
      simp only [withItem, addDeclared, Table.get?_insertAll, ← List.map_reverse, lookup_map_name,
        replaced?, filled?, Option.or_none]
  | exportList specifiers | exportFrom specifiers _ =>
      simp only [withItem, Table.get?_insertAll, replaced?, filled?, Option.or_none]
  | exportAll _ => exact Table.get?_insertAllNew table source.entries name
  | _ => simp only [withItem, replaced?, filled?, Option.none_or, Option.or_none]

/-- No item takes a name away. -/
theorem SourceFile.isSome_get?_withItem (present : (table.get? name).isSome = true) :
    ((file.withItem source table item).get? name).isSome = true := by
  rw [get?_withItem, Option.isSome_or, Option.isSome_or, present, Bool.or_true, Bool.true_or]

/-! ### What replaces a name -/

theorem mem_placedNames_of_declared {path : Path} {s : Stmt} {d : TypingsDecl}
    (declared : d ∈ declaredNames path s) : d.name ∈ s.placedNames := by
  cases s with
  | classDecl own cls | function own func =>
      cases List.mem_singleton.1 declared
      exact List.mem_singleton_self _
  | vars span kind ds =>
      obtain ⟨declarator, inside, found⟩ := List.mem_filterMap.1 declared
      obtain ⟨id, plain, rfl⟩ := Option.map_eq_some_iff.1 found
      refine List.mem_flatMap.2 ⟨declarator, inside, ?_⟩
      rw [boundNames_of_ident? plain]
      exact List.mem_singleton_self _
  | typeDecl span kind own =>
      obtain ⟨name, named, rfl⟩ := Option.map_eq_some_iff.1 (Option.mem_toList.1 declared)
      exact Option.mem_toList.2 named
  | _ => cases declared

/-- A name that an item exports in place, not by destructuring, is declared there. -/
theorem exists_inPlace_of_placed (path : Path) (placed : name ∈ item.placedNames)
    (plain : name ∉ item.destructuredNames) :
    ∃ d, (item.inPlace path).reverse.find? (·.name == name) = some d := by
  have declared : ∃ d ∈ item.inPlace path, d.name = name := by
    cases item with
    | exportDecl s =>
        cases s with
        | classDecl own cls | function own func =>
            exact ⟨_, List.mem_singleton_self _, (List.mem_singleton.1 placed).symm⟩
        | vars span kind ds =>
            obtain ⟨declarator, inside, bound⟩ := List.mem_flatMap.1 placed
            cases named : declarator.pat.ident? with
            | none =>
                have destructured : declarator ∈ ds.filter (·.pat.ident?.isNone) := by
                  simp [inside, named]
                exact absurd (List.mem_flatMap.2 ⟨declarator, destructured, bound⟩) plain
            | some id =>
                rw [boundNames_of_ident? named] at bound
                exact ⟨⟨path, id.name, .variable, declarator.span⟩,
                  List.mem_filterMap.2 ⟨declarator, inside, Option.map_eq_some_iff.2 ⟨id, named, rfl⟩⟩,
                  (List.mem_singleton.1 bound).symm⟩
        | typeDecl span kind own =>
            have named := Option.mem_toList.1 placed
            exact ⟨⟨path, name, .ofTypeDecl kind, span⟩,
              Option.mem_toList.2 (Option.map_eq_some_iff.2 ⟨name, named, rfl⟩), rfl⟩
        | _ => cases placed
    | _ => cases placed
  obtain ⟨d, inside, same⟩ := declared
  apply Option.isSome_iff_exists.1
  exact List.find?_isSome.2 ⟨d, List.mem_reverse.2 inside, beq_iff_eq.2 same⟩

theorem replaced?_of_inPlace {d : TypingsDecl}
    (declared : (item.inPlace file.path).reverse.find? (·.name == name) = some d) :
    file.replaced? source name item = some d := by
  cases item with
  | exportDecl s => exact declared
  | _ => cases declared

theorem isModuleDecl_of_placed (placed : name ∈ item.placedNames) : item.isModuleDecl = true := by
  cases item with
  | exportDecl s => rfl
  | _ => cases placed

/-- The entries of an export list have the names that the list gives. -/
theorem lookup_listedEntries (source : TypingsTable) {specifiers : List ExportSpecifier}
    (absent : name ∉ specifiers.filterMap ExportSpecifier.givenName?) :
    (listedEntries source specifiers).reverse.lookup name = none := by
  refine List.lookup_eq_none_iff.2 fun entry listed => bne_iff_ne.2 ?_
  rintro rfl
  obtain ⟨specifier, inside, found⟩ := List.mem_filterMap.1 (List.mem_reverse.1 listed)
  cases specifier with
  | whole _ => cases found
  | named own exported =>
      obtain ⟨d, _, rfl⟩ := Option.map_eq_some_iff.1 found
      exact absent (List.mem_filterMap.2 ⟨_, inside, rfl⟩)

/-- An item that exports a name neither in place nor by a list does not replace it. -/
theorem replaced?_of_other (placed : name ∉ item.placedNames) (given : name ∉ item.givenNames) :
    file.replaced? source name item = none := by
  cases item with
  | exportDecl s =>
      refine List.find?_eq_none.2 fun d declared same => placed ?_
      have own := mem_placedNames_of_declared (List.mem_reverse.1 declared)
      rwa [beq_iff_eq.1 same] at own
  | exportList specifiers => exact lookup_listedEntries (ownDeclarations file) given
  | exportFrom specifiers _ => exact lookup_listedEntries source given
  | _ => rfl

end Items

/-! ### Tables -/

section Tables

variable {program : Program} {file other : SourceFile} {tables : Nat → TypingsTable} {name : String}
  {opened : List Nat}

/-- Items keep the entry of a name that they do not export themselves. -/
theorem get?_addItems_of_other {items : List Item} {table : TypingsTable} {d : TypingsDecl}
    (others : ∀ item ∈ items, name ∉ item.placedNames ∧ name ∉ item.givenNames)
    (present : table.get? name = some d) :
    (items.foldl (program.addItem tables file) table).get? name = some d := by
  induction items generalizing table with
  | nil => exact present
  | cons item rest ih =>
      obtain ⟨placed, given⟩ := others item List.mem_cons_self
      refine ih (fun next later => others next (List.mem_cons_of_mem item later)) ?_
      unfold Program.addItem
      rw [SourceFile.get?_withItem, replaced?_of_other placed given, present]
      rfl

/-- Items keep all names. -/
theorem isSome_get?_addItems {items : List Item} {table : TypingsTable}
    (present : (table.get? name).isSome = true) :
    ((items.foldl (program.addItem tables file) table).get? name).isSome = true := by
  induction items generalizing table with
  | nil => exact present
  | cons item rest ih => exact ih (SourceFile.isSome_get?_withItem present)

/-- The last export in place of a name counts, unless an export list behind it gives the name. -/
theorem get?_typingsBy_of_last {before behind : List Item} {item : Item} {d : TypingsDecl}
    (isModule : file.isModule = true) (split : file.items = before ++ item :: behind)
    (declared : (item.inPlace file.path).reverse.find? (·.name == name) = some d)
    (last : ∀ later ∈ behind, name ∉ later.placedNames ∧ name ∉ later.givenNames) :
    (program.typingsBy tables file).get? name = some d := by
  unfold Program.typingsBy
  rw [if_pos isModule, split, List.foldl_append, List.foldl_cons]
  refine get?_addItems_of_other last ?_
  unfold Program.addItem
  rw [SourceFile.get?_withItem, replaced?_of_inPlace declared]
  rfl

/-- What an item gives a name, by itself or by its source, makes the table name it. -/
theorem mem_names_typingsBy {item : Item} (isModule : file.isModule = true) (member : item ∈ file.items)
    (gives : ∀ table : TypingsTable,
      ((program.addItem tables file table item).get? name).isSome = true) :
    name ∈ (program.typingsBy tables file).names := by
  obtain ⟨before, behind, split⟩ := List.append_of_mem member
  unfold Program.typingsBy
  rw [if_pos isModule, split, List.foldl_append, List.foldl_cons, Table.mem_names_iff]
  exact isSome_get?_addItems (gives _)

theorem mem_names_typingsBy_of_placed {item : Item} (isModule : file.isModule = true)
    (member : item ∈ file.items) (placed : name ∈ item.placedNames)
    (plain : name ∉ item.destructuredNames) : name ∈ (program.typingsBy tables file).names := by
  refine mem_names_typingsBy isModule member fun table => ?_
  obtain ⟨d, declared⟩ := exists_inPlace_of_placed file.path placed plain
  unfold Program.addItem
  rw [SourceFile.get?_withItem, replaced?_of_inPlace declared]
  rfl

theorem mem_names_typingsBy_of_starred (isModule : file.isModule = true)
    (copies : other ∈ program.starred file) (listed : name ∈ (tables other.id).names) :
    name ∈ (program.typingsBy tables file).names := by
  obtain ⟨source, star, resolved⟩ := List.mem_filterMap.1 copies
  obtain ⟨item, member, starred⟩ := List.mem_filterMap.1 star
  refine mem_names_typingsBy isModule member fun table => ?_
  cases item with
  | exportAll from' =>
      cases starred
      unfold Program.addItem
      rw [Program.drawnFrom?, resolved, SourceFile.get?_withItem, Option.isSome_or]
      exact Bool.or_eq_true_iff.2 (.inr (Table.mem_names_iff.1 listed))
  | _ => cases starred

theorem Program.mem_of_starred (copies : other ∈ program.starred file) : other ∈ program.files := by
  obtain ⟨source, _, resolved⟩ := List.mem_filterMap.1 copies
  obtain ⟨_, _, found⟩ := Option.bind_eq_some_iff.1 resolved
  exact mem_of_resolve? found

theorem Program.Built.isModule_of_starred (built : program.Built) (member : file ∈ program.files)
    (copies : other ∈ program.starred file) : file.isModule = true := by
  obtain ⟨source, star, _⟩ := List.mem_filterMap.1 copies
  obtain ⟨item, inside, starred⟩ := List.mem_filterMap.1 star
  refine built.isModule_of_item member inside ?_
  cases item with
  | exportAll _ => rfl
  | _ => cases starred

/-- Amid open files a table names what is exported in place by any file that is reached around them. -/
theorem names_of_starred (built : program.Built) (member : file ∈ program.files)
    (closed : file.id ∉ opened)
    (reaches : Relation.ReflTransGen (fun file next => next ∈ program.starred file ∧ next.id ∉ opened)
      file other)
    {item : Item} (inside : item ∈ other.items) (placed : name ∈ item.placedNames)
    (plain : name ∉ item.destructuredNames) : name ∈ (program.typingsAmid opened file.id).names := by
  -- by induction on the number of files that are not open
  induction size : program.closed opened using Nat.strongRecOn generalizing opened file with
  | ind size ih =>
      subst size
      rw [Program.typingsAmid_closed built member closed]
      have place := (List.getElem?_eq_some_iff.1 (built.getElem? member)).1
      have mems : ∀ file next, next ∈ program.starred file → next ∈ program.files :=
        fun _ _ => Program.mem_of_starred
      rcases built.last_visit mems member reaches with rfl | ⟨target, copies, outside, onward⟩
      · have isModule := built.isModule_of_item member inside (isModuleDecl_of_placed placed)
        exact mem_names_typingsBy_of_placed isModule inside placed plain
      · have isModule := built.isModule_of_starred member copies
        refine mem_names_typingsBy_of_starred isModule copies ?_
        exact ih _ (Program.closed_cons_lt place closed) (mems _ _ copies) outside onward rfl

theorem lookup_tables (built : program.Built) (member : file ∈ program.typingsFiles) :
    (TypingsIndex.build program).tables.lookup file.id = some (program.typingsAmid [] file.id) := by
  have inside : ∀ file ∈ program.typingsFiles, file ∈ program.files :=
    fun file member => (List.mem_filter.1 member).1
  rw [tables_build built]
  generalize program.typingsFiles = files at member inside
  induction files with
  | nil => cases member
  | cons first rest ih =>
      rw [List.map_cons, List.lookup_cons]
      by_cases same : file.id = first.id
      · rw [beq_iff_eq.2 same, same]
      · rw [beq_eq_false_iff_ne.2 same]
        have later : file ∈ rest := by
          rcases List.mem_cons.1 member with rfl | later
          · exact absurd rfl same
          · exact later
        exact ih later fun next behind => inside next (List.mem_cons_of_mem first behind)

/-- The index holds a table for each declaration file. A name that the file exports in place, not by
    destructuring, stands for what the last such export declares, wherever the file's `export *` stand
    and whatever they bring, unless an export list behind it gives the name too. And the table names
    whatever is exported in place, not by destructuring, by a file that is reached by `export *`, around
    whatever cycles. -/
theorem typingsIndex_reexports (built : program.Built) (member : file ∈ program.typingsFiles) :
    ∃ table, (TypingsIndex.build program).tables.lookup file.id = some table ∧
      (∀ before item behind name, file.items = before ++ item :: behind →
        name ∈ item.placedNames → name ∉ item.destructuredNames →
        (∀ later ∈ behind, name ∉ later.placedNames ∧ name ∉ later.givenNames) →
        ∃ d, (item.inPlace file.path).reverse.find? (·.name == name) = some d ∧
          table.get? name = some d) ∧
      ∀ other, Relation.ReflTransGen (fun file next => next ∈ program.starred file) file other →
        ∀ item ∈ other.items, ∀ name ∈ item.placedNames, name ∉ item.destructuredNames →
          name ∈ table.names := by
  have inside : file ∈ program.files := (List.mem_filter.1 member).1
  refine ⟨_, lookup_tables built member, ?_, ?_⟩
  · intro before item behind name split placed plain last
    obtain ⟨d, declared⟩ := exists_inPlace_of_placed file.path placed plain
    have here : item ∈ file.items := by
      rw [split]
      exact List.mem_append_right before List.mem_cons_self
    have isModule := built.isModule_of_item inside here (isModuleDecl_of_placed placed)
    refine ⟨d, declared, ?_⟩
    rw [Program.typingsAmid_closed built inside List.not_mem_nil]
    exact get?_typingsBy_of_last isModule split declared last
  · intro other reaches item here name placed plain
    refine names_of_starred built inside List.not_mem_nil ?_ here placed plain
    simpa using reaches

end Tables

/-- Three declaration files, each of which copies the exports of the next. The first one declares a
    function twice and copies, in front of each of its declarations, exports of the same names. -/
def reexportingTypings : Program :=
  (Program.ofTexts [("/t/a.d.ts", "export * from './b'; export declare function f(): void; " ++
      "export \x7b Q as A \x7d from './c'; export * from './c'; export declare function f(x: any): void; " ++
      "export declare class A \x7b\x7d export * from './b'; export \x7b A as Z \x7d;"),
    ("/t/b.d.ts", "export * from './c'; export declare class A \x7b\x7d " ++
      "export declare const B: any, f: any;"),
    ("/t/c.d.ts", "export * from './a'; export declare interface Q \x7b\x7d")]).setTypingsRoot
      (.ofString "/t")

set_option synthInstance.maxSize 512 in
/-- Copies of other files do not replace the function of the first file, which stands for its second
    declaration, and the first file exports the names of the others. -/
theorem typingsIndex_reexportingTypings :
    reexportingTypings.Built ∧ ∃ file ∈ reexportingTypings.typingsFiles,
      file.path = .ofString "/t/a.d.ts" ∧
      ∃ table, (TypingsIndex.build reexportingTypings).tables.lookup file.id = some table ∧
        (∃ d, table.get? "f" = some d ∧ file.items[4]?.map (·.inPlace file.path) = some [d]) ∧
        ∀ name ∈ ["B", "Q"], name ∈ table.names := by
  have built : reexportingTypings.Built := .setTypingsRoot _ (.ofTexts _)
  have facts : ∃ file ∈ reexportingTypings.typingsFiles, file.path = .ofString "/t/a.d.ts" ∧
      (file.items[4]?.any fun item => "f" ∈ item.placedNames ∧ "f" ∉ item.destructuredNames ∧
        (item.inPlace file.path).length = 1) = true ∧
      (∀ later ∈ file.items.drop 5, "f" ∉ later.placedNames ∧ "f" ∉ later.givenNames) ∧
      ∃ second ∈ reexportingTypings.starred file, ∃ third ∈ reexportingTypings.starred second,
        (∃ item ∈ second.items, "B" ∈ item.placedNames ∧ "B" ∉ item.destructuredNames) ∧
        ∃ item ∈ third.items, "Q" ∈ item.placedNames ∧ "Q" ∉ item.destructuredNames := by
    rw [reexportingTypings, Program.ofTexts_eq_ofBytes]
    decide +kernel
  obtain ⟨file, member, path, fifth, last, second, copies, third, onward, ⟨one, inSecond, namesOne⟩,
    two, inThird, namesTwo⟩ := facts
  obtain ⟨item, found, shown⟩ := (Option.any_eq_true _ _).1 fifth
  obtain ⟨placed, plain, single⟩ := of_decide_eq_true shown
  obtain ⟨place, here⟩ := List.getElem?_eq_some_iff.1 found
  have split : file.items = file.items.take 4 ++ item :: file.items.drop 5 := by
    rw [← here, ← List.drop_eq_getElem_cons place, List.take_append_drop]
  obtain ⟨table, stored, kept, names⟩ := typingsIndex_reexports built member
  obtain ⟨d, declared, entry⟩ := kept _ item _ "f" split placed plain last
  obtain ⟨only, alone⟩ := List.length_eq_one_iff.1 single
  rw [alone] at declared
  cases List.mem_singleton.1 (List.mem_reverse.1 (List.mem_of_find?_eq_some declared))
  refine ⟨built, file, member, path, table, stored, ⟨d, entry, by rw [found, Option.map_some, alone]⟩, ?_⟩
  intro name listed
  have reached : Relation.ReflTransGen (fun before next => next ∈ reexportingTypings.starred before)
      file second := .single copies
  rcases List.mem_cons.1 listed with rfl | later
  · exact names second reached one inSecond _ namesOne.1 namesOne.2
  · cases List.mem_singleton.1 later
    exact names third (reached.tail onward) two inThird _ namesTwo.1 namesTwo.2

/-- A declaration file that exports a destructured variable in place, and one that copies its
    exports. -/
def destructuringTypings : Program :=
  (Program.ofTexts [("/t/a.d.ts", "export declare const \x7b a \x7d: any;"),
    ("/t/b.d.ts", "export * from './a';")]).setTypingsRoot (.ofString "/t")

/-- The condition cannot be left out: the name of a destructured variable is missing in the table of its
    own file and in that of the other, though no other item gives it. -/
theorem typingsIndex_destructuringTypings :
    destructuringTypings.Built ∧ ∃ file ∈ destructuringTypings.typingsFiles,
      file.items.map Item.placedNames = [["a"]] ∧
      ((TypingsIndex.build destructuringTypings).tables.lookup file.id).map (·.get? "a") = some none ∧
      ∃ other ∈ destructuringTypings.typingsFiles,
        (destructuringTypings.starred other).map (·.id) = [file.id] ∧
        ((TypingsIndex.build destructuringTypings).tables.lookup other.id).map Table.names = some [] := by
  refine ⟨.setTypingsRoot _ (.ofTexts _), ?_⟩
  rw [destructuringTypings, Program.ofTexts_eq_ofBytes]
  decide +kernel

end BundleLens
