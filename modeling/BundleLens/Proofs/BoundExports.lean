/-
Module: BundleLens.Proofs.BoundExports
Layer: Proofs
Purpose: What the table of a module names if the module exports nothing of other modules. It names every
  class, function and plain variable that is exported where it is declared, and `default` for a default
  export of whatever kind. Beyond these it names at most what an export list gives a name. So the names
  that a destructuring declaration binds are left out, unless an export list brings them.
Imports: BundleLens.Proofs.OwnExports
Main exports: Pat.boundNames, SourceFile.boundExports, SourceFile.plainExports, SourceFile.listedNames,
  moduleTable_plainExports, moduleTable_names, World.exists_table_after, boundExports_of_plain
-/
import BundleLens.Proofs.OwnExports

namespace BundleLens

open Inquiry (Always)

variable {α : Type}

/-! ### Names of exports -/

mutual

/-- The names that a declared pattern binds, however deep they stand in it. -/
def Pat.boundNames : Pat → List String
  | .ident _ id => [id.name]
  | .array _ elements => patsBoundNames elements
  | .object _ properties => patPropertiesBoundNames properties
  | .rest _ inner => inner.boundNames
  | .default _ left _ => left.boundNames
  | .expr _ => []
  | .blank _ => []

def patsBoundNames : List Pat → List String
  | [] => []
  | p :: rest => p.boundNames ++ patsBoundNames rest

def patPropertiesBoundNames : List PatProperty → List String
  | [] => []
  | p :: rest => p.boundNames ++ patPropertiesBoundNames rest

def PatProperty.boundNames : PatProperty → List String
  | .keyValue _ value => value.boundNames
  | .shorthand id _ => [id.name]
  | .rest inner => inner.boundNames

end

/-- The name of a default export of a class, a function or a value. -/
def Item.defaultExports : Item → List String
  | .exportClass _ _ => ["default"]
  | .exportFunction _ _ => ["default"]
  | .exportValue _ => ["default"]
  | _ => []

/-- The names that an item binds and exports, and `default` for a default export. -/
def Item.boundExports : Item → List String
  | .exportDecl (.vars _ _ ds) => ds.flatMap (·.pat.boundNames)
  | item => item.declaredExports ++ item.defaultExports

/-- The names of an item's classes, functions and plain variables, and `default` for a default
    export. -/
def Item.plainExports (item : Item) : List String := item.declaredExports ++ item.defaultExports

/-- The name that an entry of an export list gives to a name of the file itself. -/
def ExportSpecifier.listedName? : ExportSpecifier → Option String
  | .named (.ident id) exported =>
    match exported with
    | some other => other.text?
    | none => some id.name
  | _ => none

/-- The names of an export list without a source. -/
def Item.listedNames : Item → List String
  | .exportList specifiers => specifiers.filterMap ExportSpecifier.listedName?
  | _ => []

/-- Whether an item exports names of another module. -/
def Item.isForeign : Item → Bool
  | .exportFrom _ _ => true
  | .exportAll _ => true
  | _ => false

/-- Whether an item exports variables some of which are destructured. -/
def Item.destructures : Item → Bool
  | .exportDecl (.vars _ _ ds) => ds.any (·.pat.ident?.isNone)
  | _ => false

namespace SourceFile

/-- The names that a file's exported declarations bind, and `default` if it has a default export. -/
def boundExports (file : SourceFile) : List String := file.items.flatMap Item.boundExports

/-- The names of a file's exported classes, functions and plain variables, and `default` if it has a
    default export. -/
def plainExports (file : SourceFile) : List String := file.items.flatMap Item.plainExports

/-- The names of a file's export lists without a source. -/
def listedNames (file : SourceFile) : List String := file.items.flatMap Item.listedNames

/-- Whether all that a file exports is its own. -/
def exportsOwn (file : SourceFile) : Bool := file.items.all (!·.isForeign)

/-- Whether a file exports destructured variables. -/
def destructuresExports (file : SourceFile) : Bool := file.items.any Item.destructures

end SourceFile

theorem boundNames_of_ident? {pat : Pat} {id : Ident} (plain : pat.ident? = some id) :
    pat.boundNames = [id.name] := by
  cases pat with
  | ident span bound =>
      cases plain
      exact Pat.boundNames.eq_1 span id
  | _ => cases plain

/-- Plain variables bind their names and nothing else. -/
theorem flatMap_boundNames_of_plain {ds : List Declarator} (plain : ds.any (·.pat.ident?.isNone) = false) :
    ds.flatMap (·.pat.boundNames) = (ds.filterMap (·.pat.ident?)).map (·.name) := by
  induction ds with
  | nil => rfl
  | cons d rest ih =>
      obtain ⟨first, others⟩ := Bool.or_eq_false_iff.1 (List.any_cons.symm.trans plain)
      cases named : d.pat.ident? with
      | none => simp [named] at first
      | some id =>
          rw [List.flatMap_cons, ih others, boundNames_of_ident? named, List.filterMap_cons, named]
          rfl

theorem Item.boundExports_eq_plainExports {item : Item} (plain : item.destructures = false) :
    item.boundExports = item.plainExports := by
  cases item with
  | exportDecl decl =>
      cases decl with
      | vars span kind ds =>
          have names := flatMap_boundNames_of_plain plain
          simpa [Item.boundExports, Item.plainExports, Item.declaredExports, Item.defaultExports]
            using names
      | _ => rfl
  | _ => rfl

/-- A file that exports no destructured variables binds just the plain names. -/
theorem SourceFile.boundExports_eq {file : SourceFile} (plain : file.destructuresExports = false) :
    file.boundExports = file.plainExports := by
  apply List.flatMap_congr
  intro item member
  apply Item.boundExports_eq_plainExports
  exact Bool.eq_false_iff.2 (List.any_eq_false.1 plain item member)

/-! ### What an item adds -/

theorem entry_names (name : Option String) (declaration : Option Declaration) :
    ∀ other ∈ (entryOf name declaration).map (·.1), name = some other := by
  intro other listed
  cases name with
  | none => cases listed
  | some own =>
      cases declaration with
      | none => cases listed
      | some d =>
          rw [List.mem_singleton.1 listed]

/-- A default export is named `default`, whatever its value stands for. -/
theorem valueExport_names (w : World) (view : FileView) (value : Expr) :
    (valueExport w view value).Always fun entries => entries.map (·.1) = ["default"] := by
  unfold valueExport
  split
  · apply Always.bind (.of_forall (fun _ => trivial) _)
    intro found _
    exact rfl
  · exact rfl

/-- What is found one after the other is named by the names of its origins. -/
theorem names_of_origins {f : α → Inquiry Entries} {Named : α → String → Prop} {xs : List α}
    (each : ∀ x ∈ xs, (f x).Always fun entries => ∀ name ∈ entries.map (·.1), Named x name) :
    (xs.mapM f).Always fun found =>
      ∀ name ∈ found.flatten.map (·.1), ∃ x ∈ xs, Named x name := by
  apply (Always.mapM_origin each).mono
  intro found origins name listed
  obtain ⟨entry, inside, rfl⟩ := List.mem_map.1 listed
  obtain ⟨entries, given, here⟩ := List.mem_flatten.1 inside
  obtain ⟨x, member, named⟩ := origins entries given
  exact ⟨x, member, named entry.1 (List.mem_map_of_mem here)⟩

theorem variableExports_names (w : World) (view : FileView) (ds : List Declarator) :
    (variableExports w view ds).Always fun entries =>
      ∀ name ∈ entries.map (·.1), name ∈ (ds.filterMap (·.pat.ident?)).map (·.name) := by
  have each : ∀ id ∈ ds.filterMap (·.pat.ident?),
      (do return entryOf (some id.name) (← identifierDeclaration w view id) :
        Inquiry Entries).Always fun entries => ∀ name ∈ entries.map (·.1), id.name = name := by
    intro id _
    apply Always.bind (.of_forall (fun _ => trivial) _)
    intro found _ name given
    exact Option.some.inj (entry_names _ found name given)
  apply (names_of_origins each).bind
  intro found origins name listed
  exact List.mem_map.2 (origins name listed)

theorem ownSpecifier_names (w : World) (view : FileView) (specifier : ExportSpecifier) :
    (ownSpecifier w view specifier).Always fun entries =>
      ∀ name ∈ entries.map (·.1), specifier.listedName? = some name := by
  unfold ownSpecifier
  split
  · apply Always.bind (.of_forall (fun _ => trivial) _)
    intro found _
    exact entry_names _ found
  · intro name listed
    cases listed

/-- What an item that is no export of another module's names adds has the item's own names. -/
theorem itemExports_names (w : World) (view : FileView) {item : Item} (own : item.isForeign = false) :
    (itemExports w view item).Always fun entries =>
      ∀ name ∈ entries.map (·.1), name ∈ item.plainExports ∨ name ∈ item.listedNames := by
  have none : ∀ name ∈ ([] : Entries).map (·.1), name ∈ item.plainExports ∨ name ∈ item.listedNames :=
    nofun
  cases item with
  | exportDecl decl =>
      cases decl with
      | classDecl name cls => exact fun other listed => Or.inl listed
      | function name func => exact fun other listed => Or.inl listed
      | vars span kind ds =>
          apply (variableExports_names w view ds).mono
          intro entries names name listed
          exact Or.inl (List.mem_append_left _ (names name listed))
      | _ => exact none
  | exportList specifiers =>
      apply (names_of_origins fun specifier _ => ownSpecifier_names w view specifier).bind
      intro found origins name listed
      exact Or.inr (List.mem_filterMap.2 (origins name listed))
  | exportFrom specifiers source => cases own
  | exportAll source => cases own
  | exportClass name cls => exact fun other listed => Or.inl listed
  | exportFunction name func => exact fun other listed => Or.inl listed
  | exportValue value =>
      apply (valueExport_names w view value).mono
      intro entries names name listed
      rw [names] at listed
      exact Or.inl listed
  | _ => exact none

/-- What an item adds names all that it declares plainly, and its default export. -/
theorem itemExports_plainExports {w : World} {file : SourceFile} {item : Item}
    (unwrapped : (FileView.ofFile file).wrapperFor? w.host = none)
    (texts : file.importsAreTexts = true) (member : item ∈ file.items) :
    (itemExports w (.ofFile file) item).Always fun entries =>
      ∀ name ∈ item.plainExports, name ∈ entries.map (·.1) := by
  have declared := itemExports_declaredExports unwrapped texts member
  cases item with
  | exportClass name cls => exact fun other listed => listed
  | exportFunction name func => exact fun other listed => listed
  | exportValue value =>
      apply (valueExport_names w _ value).mono
      intro entries names name listed
      rw [names]
      exact listed
  | _ =>
      apply declared.mono
      intro entries names name listed
      exact names name ((List.append_nil _).subst listed)

/-! ### Tables -/

/-- The table of a module names all that the module exports plainly or by default. -/
theorem moduleTable_plainExports {w : World} {file : SourceFile}
    (unwrapped : (FileView.ofFile file).wrapperFor? w.host = none)
    (texts : file.importsAreTexts = true) :
    (moduleTable w (.ofFile file)).Always fun table =>
      ∀ name ∈ file.plainExports, name ∈ table.names :=
  moduleTable_names_of_items fun _ member => itemExports_plainExports unwrapped texts member

/-- The table of a module that exports nothing of other modules names nothing else, but for the names of
    its export lists. -/
theorem moduleTable_names (w : World) {file : SourceFile} (own : file.exportsOwn = true) :
    (moduleTable w (.ofFile file)).Always fun table =>
      ∀ name ∈ table.names, name ∈ file.plainExports ∨ name ∈ file.listedNames := by
  have each : ∀ item ∈ file.items, (itemExports w (.ofFile file) item).Always fun entries =>
      ∀ name ∈ entries.map (·.1), name ∈ item.plainExports ∨ name ∈ item.listedNames := by
    intro item member
    have domestic : (!item.isForeign) = true := List.all_eq_true.1 own item member
    exact itemExports_names w _ (by simpa using domestic)
  apply (names_of_origins each).bind
  intro found origins name listed
  rcases (Table.mem_names_insertAll _ _ _).1 listed with nowhere | listed
  · cases nowhere
  · obtain ⟨item, member, plain | named⟩ := origins name listed
    · exact Or.inl (List.mem_flatMap.2 ⟨item, member, plain⟩)
    · exact Or.inr (List.mem_flatMap.2 ⟨item, member, named⟩)

/-- After any questions a file whose format is understood has a table, with all that the making of the
    table ensures. -/
theorem World.exists_table_after {program : Program} (built : program.Built) {host : HostKind}
    {file : SourceFile} {recipe : Recipe} {Holds : ExportTable → Prop}
    (found : (World.ofProgram program host).recipe? file.id = some recipe)
    (makes : recipe.steps.Always Holds) (questions : List Question) :
    let w := World.ofProgram program host
    ∃ table, ((w.exportsOf file).run (w.memoryAfter questions)).1 = some table ∧ Holds table := by
  intro w
  have each : ∀ id other, w.recipe? id = some other → other.steps.Always fun table =>
      id = file.id → Holds table := by
    intro id other known
    by_cases same : id = file.id
    · subst same
      cases found.symm.trans known
      exact makes.mono fun table holds _ => holds
    · exact .of_forall (fun table here => absurd here same) _
  have proper : w.Proper := World.ofProgram_proper built host
  obtain ⟨table, answered⟩ := (World.rested_memoryAfter proper questions).exists_table found
  have every := every_memoryAfter each questions
  exact ⟨table, answered, (exportsWithin_every each _ file every).1 table answered rfl⟩

/-- A host that reads declarations finds a table for every module, after any questions. If the imports
    of the module name modules by texts, the table names every class, function and plain variable that
    the module exports by declaring it, and `default` if there is a default export. If moreover the
    module exports nothing of other modules, it names nothing else but names of export lists; so it
    names all that the exported declarations bind if none of them is destructured. -/
theorem boundExports_of_plain {program : Program} (built : program.Built) {file : SourceFile}
    (member : file ∈ program.files) (isModule : file.isModule = true) (own : file.exportsOwn = true)
    (texts : file.importsAreTexts = true) (questions : List Question) :
    let w := World.ofProgram program .modules
    ∃ table, ((w.exportsOf file).run (w.memoryAfter questions)).1 = some table ∧
      (∀ name ∈ file.plainExports, name ∈ table.names) ∧
      (∀ name ∈ table.names, name ∈ file.plainExports ∨ name ∈ file.listedNames) ∧
      (file.destructuresExports = false → ∀ name ∈ file.boundExports, name ∈ table.names) := by
  intro w
  have unwrapped : (FileView.ofFile file).wrapperFor? .modules = none := rfl
  have recipe := World.recipe?_of_unwrapped built member isModule unwrapped
  have lower : (moduleTable w (.ofFile file)).Always fun table =>
      ∀ name ∈ file.plainExports, name ∈ table.names :=
    moduleTable_plainExports unwrapped texts
  obtain ⟨table, answered, plain⟩ := World.exists_table_after built recipe lower questions
  obtain ⟨same, answeredToo, names⟩ :=
    World.exists_table_after built recipe (moduleTable_names w own) questions
  cases answered.symm.trans answeredToo
  refine ⟨table, answered, plain, names, ?_⟩
  intro undivided
  rw [file.boundExports_eq undivided]
  exact plain

/-- A module with exports of every kind of its own; one of its variables receives an import. -/
def manyExports : Program :=
  .ofTexts [("/a.js", "import \x7b y \x7d from './b'; export let x, z = 1; x = y; " ++
      "export class A \x7b\x7d export function f() \x7b\x7d const \x7b p, q: [r] \x7d = y; " ++
      "export \x7b r as s \x7d; export default f;"),
    ("/b.js", "import * as a from './a'; export const y = a.A;")]

/-- Its table names them all, whatever is asked for before, and nothing else but the listed name. -/
theorem boundExports_manyExports :
    let w := World.ofProgram manyExports .modules
    manyExports.Built ∧ ∃ file ∈ manyExports.files,
      file.boundExports = ["x", "z", "A", "f", "default"] ∧ file.listedNames = ["s"] ∧
      ∀ questions, ∃ table, ((w.exportsOf file).run (w.memoryAfter questions)).1 = some table ∧
        (∀ name ∈ ["x", "z", "A", "f", "default"], name ∈ table.names) ∧
        ∀ name ∈ table.names, name ∈ ["x", "z", "A", "f", "default"] ∨ name ∈ ["s"] := by
  have facts : ∃ file ∈ manyExports.files,
      (file.isModule = true ∧ file.exportsOwn = true ∧ file.importsAreTexts = true) ∧
      file.destructuresExports = false ∧ file.boundExports = ["x", "z", "A", "f", "default"] ∧
      file.listedNames = ["s"] := by
    rw [manyExports, Program.ofTexts_eq_ofBytes]
    decide +kernel
  obtain ⟨file, member, ⟨isModule, own, texts⟩, undivided, bound, listed⟩ := facts
  refine ⟨.ofTexts _, file, member, bound, listed, ?_⟩
  intro questions
  obtain ⟨table, answered, _, names, complete⟩ :=
    boundExports_of_plain (.ofTexts _) member isModule own texts questions
  rw [← file.boundExports_eq undivided, bound, listed] at names
  rw [bound] at complete
  exact ⟨table, answered, complete undivided, names⟩

/-- A destructured variable that is exported where it is declared, one that an export list names, and a
    variable that receives an import from a module whose name is no text. -/
def omittedExports : Program :=
  .ofTexts [("/a.js", "export const \x7b a, b: [c = 1, ...d] \x7d = e;"),
    ("/b.js", "const \x7b a, b: [c = 1, ...d] \x7d = e; export \x7b a, c, d \x7d;"),
    ("/c.js", "import \x7b y \x7d from '\\uD800'; export var x; x = y;")]

/-- Neither condition can be left out: no name of a destructured variable becomes an export where it is
    declared, though each of them does in an export list; and a variable that stands for an import
    without a name is left out. -/
theorem boundExports_omittedExports :
    let w := World.ofProgram omittedExports .modules
    omittedExports.Built ∧
      (∃ file ∈ omittedExports.files, file.isModule = true ∧ file.exportsOwn = true ∧
        file.importsAreTexts = true ∧ file.boundExports = ["a", "c", "d"] ∧
        ((w.exportsOf file).run .empty).1.map Table.names = some []) ∧
      (∃ file ∈ omittedExports.files, file.listedNames = ["a", "c", "d"] ∧
        ((w.exportsOf file).run .empty).1.map Table.names = some ["a", "c", "d"]) ∧
      ∃ file ∈ omittedExports.files, file.isModule = true ∧ file.exportsOwn = true ∧
        file.destructuresExports = false ∧ file.boundExports = ["x"] ∧
        ((w.exportsOf file).run .empty).1.map Table.names = some [] := by
  refine ⟨.ofTexts _, ?_⟩
  rw [omittedExports, Program.ofTexts_eq_ofBytes]
  decide +kernel

end BundleLens
