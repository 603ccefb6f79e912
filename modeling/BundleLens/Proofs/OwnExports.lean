/-
Module: BundleLens.Proofs.OwnExports
Layer: Proofs
Purpose: When a file with import or export declarations is read by these. A host that reads both formats
  does so unless the first statement behind the directives, with all declarations left out, is a module
  wrapper. Then every class, function and plain variable that the file exports by declaring it is a name
  of its table, in whatever order tables are asked for and also where a cycle is cut, as long as its
  imports name their modules by texts: what such a declaration adds does not depend on other tables.
Imports: BundleLens.Proofs.FileBindings, BundleLens.Proofs.History, BundleLens.Proofs.Registry,
  BundleLens.Proofs.StatementExports
Main exports: SourceFile.declaredExports, SourceFile.importsAreTexts, moduleTable_declaredExports,
  Memory.Every, exportsWithin_every, World.format_of_declared, declaredExports_of_unwrapped
-/
import BundleLens.Proofs.FileBindings
import BundleLens.Proofs.History
import BundleLens.Proofs.Registry
import BundleLens.Proofs.StatementExports

namespace BundleLens

open Inquiry (Always)

/-- The names that an item exports by declaring them: a class, a function, or variables with plain
    names. -/
def Item.declaredExports : Item → List String
  | .exportDecl (.classDecl name _) => [name.name]
  | .exportDecl (.function name _) => [name.name]
  | .exportDecl (.vars _ _ ds) => (ds.filterMap (·.pat.ident?)).map (·.name)
  | _ => []

/-- The names that a file exports by declaring them. -/
def SourceFile.declaredExports (file : SourceFile) : List String :=
  file.items.flatMap Item.declaredExports

/-- Whether an import names what it takes by a text; a whole module needs no name. -/
def ImportSpecifier.isText (s : ImportSpecifier) : Bool :=
  match s.kind with
  | .whole => true
  | _ => s.imported?.isSome

/-- Whether an item that is an import declaration names its module, and all that it takes from it, by
    texts. An unpaired surrogate is no text. -/
def Item.importsTexts : Item → Bool
  | .importDecl decl => decl.source.isSome && decl.specifiers.all ImportSpecifier.isText
  | _ => true

/-- Whether all import declarations of a file name modules, and what they take from them, by texts. -/
def SourceFile.importsAreTexts (file : SourceFile) : Bool := file.items.all Item.importsTexts

/-! ### Names that stand for something -/

theorem ImportSpecifier.exists_imported? {s : ImportSpecifier} (text : s.isText = true)
    (part : s.kind ≠ .whole) : ∃ name, s.imported? = some name := by
  unfold ImportSpecifier.isText at text
  split at text
  · contradiction
  · exact Option.isSome_iff_exists.1 text

/-- An import by texts stands for something, if only for an import that is missing. -/
theorem importedDeclaration_isSome (w : World) (file : SourceFile) {decl : ImportDecl}
    {specifier : ImportSpecifier} (source : decl.source.isSome = true) (text : specifier.isText = true) :
    (importedDeclaration w file decl specifier).Always (·.isSome = true) := by
  unfold importedDeclaration
  split
  · split
    · split
      · exact rfl
      · rename_i part
        obtain ⟨name, imported⟩ := ImportSpecifier.exists_imported? text part
        rw [imported]
        apply Always.bind (.of_forall (fun _ => trivial) (exportedBy _ name))
        intro found _
        cases found <;> exact rfl
    · exact rfl
  · rename_i absent
    obtain ⟨named, known⟩ := Option.isSome_iff_exists.1 source
    exact absurd known (absent named)

theorem Item.importsTexts_of_mem {file : SourceFile} {decl : ImportDecl} {specifier : ImportSpecifier}
    (texts : file.importsAreTexts = true) (member : Item.importDecl decl ∈ file.items)
    (listed : specifier ∈ decl.specifiers) : decl.source.isSome = true ∧ specifier.isText = true := by
  have item : (Item.importDecl decl).importsTexts = true := List.all_eq_true.1 texts _ member
  obtain ⟨source, specifiers⟩ := Bool.and_eq_true_iff.1 item
  exact ⟨source, List.all_eq_true.1 specifiers specifier listed⟩

/-- A name that is declared at the top level of a file without a wrapper stands for something. -/
theorem identifierDeclaration_isSome {w : World} {file : SourceFile}
    (unwrapped : (FileView.ofFile file).wrapperFor? w.host = none)
    (texts : file.importsAreTexts = true) {binding : Binding} {id : Ident}
    (declared : binding ∈ partsDeclared (fun _ => true) (itemsParts file.items))
    (named : binding.name = id.name) :
    (identifierDeclaration w (.ofFile file) id).Always (·.isSome = true) := by
  obtain ⟨primary, bound⟩ := FileIndex.primary?_of_declared declared named
  have inside := FileIndex.mem_bindings_of_primary? bound
  have index : (FileView.ofFile file).index.primary? id = some primary := bound
  rw [identifierDeclaration_of_unwrapped unwrapped, lexicalDeclaration, index]
  simp only [bindingDeclaration]
  split
  · exact rfl
  · rename_i decl specifier origin
    obtain ⟨member, listed⟩ := originOf_imported inside origin
    obtain ⟨source, text⟩ := Item.importsTexts_of_mem texts member listed
    exact importedDeclaration_isSome w _ source text

/-! ### Variables of the top level -/

theorem partsDeclared_append (here : Home → Bool) (ps qs : List Part) :
    partsDeclared here (ps ++ qs) = partsDeclared here ps ++ partsDeclared here qs := by
  induction ps with
  | nil => rfl
  | cons p rest ih => simp [partsDeclared, ih]

theorem mem_partsDeclared_of_item {here : Home → Bool} {items : List Item} {item : Item}
    {binding : Binding} (member : item ∈ items) (declared : binding ∈ partsDeclared here item.parts) :
    binding ∈ partsDeclared here (itemsParts items) := by
  induction items with
  | nil => cases member
  | cons first rest ih =>
      rw [show itemsParts (first :: rest) = first.parts ++ itemsParts rest from rfl,
        partsDeclared_append]
      rcases List.mem_cons.1 member with rfl | later
      · exact List.mem_append_left _ declared
      · exact List.mem_append_right _ (ih later)

theorem name_patBinding (declarator : Option Declarator) (span : Span) (id : Ident) :
    (patBinding declarator span id).name = id.name := by
  unfold patBinding
  split
  · split <;> rfl
  · rfl

/-- A variable with a plain name declares that name in its home. -/
theorem mem_partsDeclared_of_declarator {home : Home} {ds : List Declarator} {d : Declarator}
    {id : Ident} (member : d ∈ ds) (plain : d.pat.ident? = some id) :
    ∃ binding ∈ partsDeclared (fun _ => true) (declaratorsParts home ds), binding.name = id.name := by
  induction ds with
  | nil => cases member
  | cons first rest ih =>
      simp only [declaratorsParts, partsDeclared_append, List.mem_append]
      rcases List.mem_cons.1 member with rfl | later
      · obtain ⟨span, pat, init⟩ := d
        cases pat with
        | ident patSpan bound =>
            cases plain
            exact ⟨_, Or.inl List.mem_cons_self, name_patBinding _ patSpan id⟩
        | _ => cases plain
      · obtain ⟨binding, declared, named⟩ := ih later
        exact ⟨binding, Or.inr declared, named⟩

theorem mem_partsDeclared_of_vars {span : Span} {kind : VarKind} {ds : List Declarator}
    {d : Declarator} {id : Ident} (member : d ∈ ds) (plain : d.pat.ident? = some id) :
    ∃ binding ∈ partsDeclared (fun _ => true) (Stmt.vars span kind ds).parts,
      binding.name = id.name := by
  cases kind with
  | var => exact mem_partsDeclared_of_declarator member plain
  | letKind => exact mem_partsDeclared_of_declarator member plain
  | const => exact mem_partsDeclared_of_declarator member plain

/-! ### Tables of modules with declarations -/

/-- What an item adds names all that it declares. -/
theorem itemExports_declaredExports {w : World} {file : SourceFile} {item : Item}
    (unwrapped : (FileView.ofFile file).wrapperFor? w.host = none)
    (texts : file.importsAreTexts = true) (member : item ∈ file.items) :
    (itemExports w (.ofFile file) item).Always fun entries =>
      ∀ name ∈ item.declaredExports, name ∈ entries.map (·.1) := by
  cases item with
  | exportDecl decl =>
      cases decl with
      | classDecl name cls => exact fun other listed => listed
      | function name func => exact fun other listed => listed
      | vars span kind ds =>
          have each : ∀ id ∈ ds.filterMap (·.pat.ident?),
              (do return entryOf (some id.name) (← identifierDeclaration w (.ofFile file) id) :
                Inquiry Entries).Always fun entries => id.name ∈ entries.map (·.1) := by
            intro id listed
            obtain ⟨d, inside, plain⟩ := List.mem_filterMap.1 listed
            obtain ⟨binding, declared, named⟩ := mem_partsDeclared_of_vars inside plain
            have top := mem_partsDeclared_of_item member declared
            apply (identifierDeclaration_isSome unwrapped texts top named).bind
            intro found something
            obtain ⟨declaration, rfl⟩ := Option.isSome_iff_exists.1 something
            exact List.mem_cons_self
          apply (Always.mapM each).bind
          intro found all name listed
          obtain ⟨id, inside, rfl⟩ := List.mem_map.1 listed
          obtain ⟨entries, given, named⟩ := all id inside
          obtain ⟨entry, here, same⟩ := List.mem_map.1 named
          exact List.mem_map.2 ⟨entry, List.mem_flatten.2 ⟨entries, given, here⟩, same⟩
      | _ =>
          apply Always.of_forall
          intro entries name listed
          cases listed
  | _ =>
      apply Always.of_forall
      intro entries name listed
      cases listed

/-- The table of a module names all that the exports of each of its items name. -/
theorem moduleTable_names_of_items {w : World} {file : SourceFile} {names : Item → List String}
    (each : ∀ item ∈ file.items, (itemExports w (.ofFile file) item).Always fun entries =>
      ∀ name ∈ names item, name ∈ entries.map (·.1)) :
    (moduleTable w (.ofFile file)).Always fun table =>
      ∀ name ∈ file.items.flatMap names, name ∈ table.names := by
  apply (Always.mapM each).bind
  intro found all name listed
  obtain ⟨item, member, own⟩ := List.mem_flatMap.1 listed
  obtain ⟨entries, given, named⟩ := all item member
  obtain ⟨entry, here, same⟩ := List.mem_map.1 (named name own)
  apply (Table.mem_names_insertAll _ _ _).2
  exact Or.inr (List.mem_map.2 ⟨entry, List.mem_flatten.2 ⟨entries, given, here⟩, same⟩)

/-- The table of a module with declarations names all that the module exports by declaring it. -/
theorem moduleTable_declaredExports {w : World} {file : SourceFile}
    (unwrapped : (FileView.ofFile file).wrapperFor? w.host = none)
    (texts : file.importsAreTexts = true) :
    (moduleTable w (.ofFile file)).Always fun table =>
      ∀ name ∈ file.declaredExports, name ∈ table.names :=
  moduleTable_names_of_items fun _ member => itemExports_declaredExports unwrapped texts member

/-! ### Tables that are remembered -/

/-- Every remembered table has a property. -/
def Memory.Every (Holds : Nat → ExportTable → Prop) (m : Memory) : Prop :=
  ∀ format id table, (id, table) ∈ (m.cache format).tables → Holds id table

section Every

variable {Holds : Nat → ExportTable → Prop} {m : Memory} {w : World}

/-- A change of one cache keeps the property if the tables of that cache have it afterwards. -/
theorem Memory.Every.update {format : Format} {change : ExportCache → ExportCache}
    (every : m.Every Holds)
    (changed : ∀ id table, (id, table) ∈ (change (m.cache format)).tables → Holds id table) :
    (m.update format change).Every Holds := by
  intro other id table member
  by_cases same : other = format
  · subst same
    rw [Memory.cache_update_self] at member
    exact changed id table member
  · rw [Memory.cache_update_other same] at member
    exact every other id table member

theorem Memory.Every.finish {format : Format} {id before : Nat} {table : ExportTable}
    (every : m.Every Holds) (made : Holds id table) :
    (m.update format (·.finish id before table)).Every Holds := by
  apply every.update
  intro other kept member
  unfold ExportCache.finish at member
  simp only at member
  split at member
  · rcases List.mem_cons.1 member with added | old
    · cases added
      exact made
    · exact every format other kept old
  · exact every format other kept member

/-- What the making of every table ensures holds of all answers and of all that is remembered. -/
theorem exportsWithin_every
    (makes : ∀ id recipe, w.recipe? id = some recipe → recipe.steps.Always (Holds id)) (depth : Nat)
    (file : SourceFile) {m : Memory} (every : m.Every Holds) :
    (∀ table, ((exportsWithin w depth file).run m).1 = some table → Holds file.id table) ∧
      ((exportsWithin w depth file).run m).2.Every Holds := by
  induction depth generalizing file m with
  | zero => exact ⟨nofun, every⟩
  | succ depth ih =>
      cases found : w.recipe? file.id with
      | none =>
          rw [exportsWithin_none found]
          exact ⟨nofun, every⟩
      | some recipe =>
          rw [exportsWithin_succ found]
          cases kept : (m.cache recipe.format).tables.lookup file.id with
          | some table =>
              rw [remember_hit kept]
              constructor
              · intro other same
                cases same
                obtain ⟨before, after, split, _⟩ := List.lookup_eq_some_iff.1 kept
                apply every recipe.format
                rw [split]
                exact List.mem_append_right _ List.mem_cons_self
              · exact every
          | none =>
              by_cases marked : file.id ∈ (m.cache recipe.format).inProgress
              · rw [remember_cut kept marked]
                exact ⟨nofun, every.update (every recipe.format)⟩
              · rw [remember_make kept marked]
                -- Tables made on the way are remembered before this one is.
                have started : (m.update recipe.format (·.start file.id)).Every Holds :=
                  every.update (every recipe.format)
                have made := (makes file.id recipe found).run (exportsWithin w depth)
                  (m.update recipe.format (·.start file.id))
                have kept : Keeps (Memory.Every Holds) (recipe.steps.run (exportsWithin w depth)) :=
                  .run (fun other m every => (ih other every).2) _
                constructor
                · intro table same
                  cases same
                  exact made
                · exact (kept _ started).finish made

/-- After any questions every remembered table has the property that the making of tables ensures. -/
theorem every_memoryAfter
    (makes : ∀ id recipe, w.recipe? id = some recipe → recipe.steps.Always (Holds id))
    (questions : List Question) : (w.memoryAfter questions).Every Holds := by
  apply memoryAfter_holds
  · intro format id table member
    cases format <;> cases member
  · intro file m every
    exact (exportsWithin_every makes _ file every).2
  · intro problem m every format
    have kept := every format
    cases format <;> exact kept

end Every

/-- Between two questions a table is found for every file whose format is understood. -/
theorem World.Rested.exists_table {w : World} {m : Memory} (rested : w.Rested m) {file : SourceFile}
    {recipe : Recipe} (found : w.recipe? file.id = some recipe) :
    ∃ table, ((w.exportsOf file).run m).1 = some table := by
  unfold World.exportsOf
  rw [exportsWithin_succ found]
  cases kept : (m.cache recipe.format).tables.lookup file.id with
  | some table =>
      rw [remember_hit kept]
      exact ⟨table, rfl⟩
  | none =>
      have unmarked : file.id ∉ (m.cache recipe.format).inProgress := by
        rw [rested.unmarked]
        exact List.not_mem_nil
      rw [remember_make kept unmarked]
      exact ⟨_, rfl⟩

/-! ### The format of a file -/

theorem Grammar.isModule_of_parseText {typings : Bool} {base : Nat} {text : List Char}
    {parsed : Grammar.Parsed} (read : Grammar.parseText typings base text = .ok parsed)
    (declares : parsed.items.any Item.isModuleDecl = true) : parsed.isModule = true := by
  unfold Grammar.parseText at read
  simp only at read
  split at read
  · cases read
    exact Bool.or_eq_true_iff.2 (Or.inr declares)
  · cases read

/-- A file with an import or export declaration is a module. -/
theorem Program.Built.isModule {program : Program} (built : program.Built) {file : SourceFile}
    (member : file ∈ program.files) (declares : file.items.any Item.isModuleDecl = true) :
    file.isModule = true := by
  obtain ⟨before, path, source, parsed, ok, rfl⟩ := built.exists_nextFile member
  exact Grammar.isModule_of_parseText ok declares

theorem Program.Built.isModule_of_item {program : Program} (built : program.Built) {file : SourceFile}
    (member : file ∈ program.files) {item : Item} (inside : item ∈ file.items)
    (declares : item.isModuleDecl = true) : file.isModule = true :=
  built.isModule member (List.any_eq_true.2 ⟨item, inside, declares⟩)

/-- How the table of a module is made that the host does not read by a wrapper. -/
theorem World.recipe?_of_unwrapped {program : Program} (built : program.Built) {host : HostKind}
    {file : SourceFile} (member : file ∈ program.files) (isModule : file.isModule = true)
    (unwrapped : (FileView.ofFile file).wrapperFor? host = none) :
    (World.ofProgram program host).recipe? file.id =
      some ⟨.modules, moduleTable (.ofProgram program host) (.ofFile file)⟩ := by
  rw [World.recipe?_of_mem built host member, FileView.recipe?_of_unwrapped unwrapped]
  exact if_pos isModule

/-- A host that reads both formats leaves the wrapper of a file aside exactly if it is a declaration
    file or has none. -/
theorem wrapperFor?_mixed_eq_none (file : SourceFile) :
    (FileView.ofFile file).wrapperFor? .mixed = none ↔ file.isTypings = true ∨ file.wrapper? = none := by
  show (if file.isTypings then none else file.wrapper?) = none ↔ _
  cases file.isTypings <;> simp

/-- A file with an import or export declaration is read by its declarations exactly if it is a
    declaration file or its first statement behind the directives is no wrapper. -/
theorem World.format_of_declared {program : Program} (built : program.Built) {file : SourceFile}
    (member : file ∈ program.files) (declares : file.items.any Item.isModuleDecl = true) :
    ((World.ofProgram program .mixed).recipe? file.id).map Recipe.format = some .modules ↔
      file.isTypings = true ∨ file.wrapper? = none := by
  rw [← wrapperFor?_mixed_eq_none]
  have isModule := built.isModule member declares
  constructor
  · intro format
    cases wrapped : (FileView.ofFile file).wrapperFor? .mixed with
    | none => rfl
    | some wrapper =>
        rw [World.recipe?_of_mem built .mixed member, FileView.recipe?_of_wrapped wrapped] at format
        cases format
  · intro unwrapped
    rw [recipe?_of_unwrapped built member isModule unwrapped]
    rfl

/-- A file with an import or export declaration is read by its declarations exactly if it is a
    declaration file or its first statement behind the directives is no wrapper. Then, if its imports
    name modules by texts, it has a table after any questions, and in it every class, function and plain
    variable that it exports by declaring it. -/
theorem declaredExports_of_unwrapped {program : Program} (built : program.Built) {file : SourceFile}
    (member : file ∈ program.files) (declares : file.items.any Item.isModuleDecl = true) :
    let w := World.ofProgram program .mixed
    ((w.recipe? file.id).map Recipe.format = some .modules ↔
      file.isTypings = true ∨ file.wrapper? = none) ∧
    ((file.isTypings = true ∨ file.wrapper? = none) → file.importsAreTexts = true →
      ∀ questions, ∃ table, ((w.exportsOf file).run (w.memoryAfter questions)).1 = some table ∧
        ∀ name ∈ file.declaredExports, name ∈ table.names) := by
  intro w
  apply And.intro (World.format_of_declared built member declares)
  intro plain texts questions
  have proper : w.Proper := World.ofProgram_proper built .mixed
  have unwrapped : (FileView.ofFile file).wrapperFor? .mixed = none :=
    (wrapperFor?_mixed_eq_none file).2 plain
  have recipe := World.recipe?_of_unwrapped built member (built.isModule member declares) unwrapped
  -- Asked of all tables, the property says something of this file only.
  have makes : ∀ id other, w.recipe? id = some other → other.steps.Always fun table =>
      id = file.id → ∀ name ∈ file.declaredExports, name ∈ table.names := by
    intro id other found
    by_cases same : id = file.id
    · subst same
      rw [recipe] at found
      cases found
      exact (moduleTable_declaredExports unwrapped texts).mono fun table names _ => names
    · exact .of_forall (fun table here => absurd here same) _
  obtain ⟨table, answered⟩ := (World.rested_memoryAfter proper questions).exists_table recipe
  refine ⟨table, answered, ?_⟩
  exact (exportsWithin_every makes _ file (every_memoryAfter makes questions)).1 table answered rfl

/-- A module on a cycle, with a directive and an immediate call that takes no factory in front of its
    exports, one of which receives an import. -/
def declaringCycle : Program :=
  .ofTexts [("/a.js", "'use strict'; import \x7b y \x7d from './b'; (function () \x7b\x7d()); " ++
      "export var x; x = y; export class A \x7b\x7d export function f() \x7b\x7d"),
    ("/b.js", "export * from './a'; export const y = 1;")]

/-- Its table names them all, whatever is asked for before. -/
theorem declaredExports_declaringCycle :
    let w := World.ofProgram declaringCycle .mixed
    declaringCycle.Built ∧ ∃ file ∈ declaringCycle.files,
      file.items.any Item.isModuleDecl = true ∧ file.declaredExports = ["x", "A", "f"] ∧
      (w.recipe? file.id).map Recipe.format = some .modules ∧
      ∀ questions, ∃ table, ((w.exportsOf file).run (w.memoryAfter questions)).1 = some table ∧
        ∀ name ∈ ["x", "A", "f"], name ∈ table.names := by
  have facts : ∃ file ∈ declaringCycle.files, file.items.any Item.isModuleDecl = true ∧
      file.declaredExports = ["x", "A", "f"] ∧ file.wrapper?.isNone = true ∧
      file.importsAreTexts = true := by
    rw [declaringCycle, Program.ofTexts_eq_ofBytes]
    decide +kernel
  obtain ⟨file, member, declares, names, unwrapped, texts⟩ := facts
  have plain : file.isTypings = true ∨ file.wrapper? = none :=
    Or.inr (Option.isNone_iff_eq_none.1 unwrapped)
  obtain ⟨format, tables⟩ := declaredExports_of_unwrapped (.ofTexts _) member declares
  refine ⟨.ofTexts _, file, member, declares, names, format.2 plain, ?_⟩
  rw [← names]
  exact tables plain texts

/-- A class that is exported beside a wrapper, and a variable that receives an import from a module
    whose name is no text. -/
def lostExports : Program :=
  .ofTexts [("/a.js", "export class A \x7b\x7d " ++ wrappedText ""),
    ("/b.js", "import \x7b y \x7d from '\\uD800'; export var x; x = y;")]

/-- Neither condition can be left out: beside a wrapper no export declaration counts, since the file is
    read by the wrapper, and a variable that stands for an import without a name is left out. -/
theorem declaredExports_lostExports :
    let w := World.ofProgram lostExports .mixed
    lostExports.Built ∧
      (∃ file ∈ lostExports.files, file.items.any Item.isModuleDecl = true ∧
        file.declaredExports = ["A"] ∧ (w.recipe? file.id).map Recipe.format = some .wrappers ∧
        ((w.exportsOf file).run .empty).1.map Table.names = some []) ∧
      ∃ file ∈ lostExports.files, file.items.any Item.isModuleDecl = true ∧
        file.declaredExports = ["x"] ∧ (w.recipe? file.id).map Recipe.format = some .modules ∧
        ((w.exportsOf file).run .empty).1.map Table.names = some [] := by
  refine ⟨.ofTexts _, ?_⟩
  rw [lostExports, Program.ofTexts_eq_ofBytes]
  decide +kernel

end BundleLens
