/-
Module: BundleLens.Proofs.ExportPrecedence
Layer: Proofs
Purpose: Which item of a module a name of its table comes from. Of all items that give a name, the last
  one counts. So an export by name wins over every copy of all exports in front of it, but a copy behind
  it that brings the name wins over it; a copy never brings a default export. What a copy brings is read
  off the table that the other module has while the table of this one is being made.
Imports: BundleLens.Proofs.OwnExports
Main exports: Table.get?_insertAll, Table.nodup_names_insertAll, World.tableAmid_nodup, World.given?,
  World.copied?, World.given?_exportAll, World.get?_moduleTable, get?_of_lastExplicit
-/
import BundleLens.Proofs.OwnExports

namespace BundleLens

open Inquiry (Always)

/-! ### Entries of tables -/

section Lookup

variable {α β : Type}

theorem lookup_map_value (f : α → β) (entries : List (String × α)) (name : String) :
    (entries.map fun entry => (entry.1, f entry.2)).lookup name = (entries.lookup name).map f := by
  induction entries with
  | nil => rfl
  | cons entry rest ih =>
      obtain ⟨key, value⟩ := entry
      simp only [List.map_cons, List.lookup_cons]
      cases name == key with
      | true => rfl
      | false => exact ih

theorem lookup_filter_ne (dropped : String) (entries : List (String × α)) (name : String) :
    (entries.filter (·.1 != dropped)).lookup name =
      if name = dropped then none else entries.lookup name := by
  induction entries with
  | nil => simp
  | cons entry rest ih =>
      obtain ⟨key, value⟩ := entry
      by_cases out : key = dropped
      · simp only [List.filter_cons, out, bne_self_eq_false, Bool.false_eq_true, if_false, ih,
          List.lookup_cons]
        by_cases same : name = dropped
        · simp only [same, if_true]
        · simp only [same, if_false, beq_eq_false_iff_ne.2 same]
      · simp only [List.filter_cons, bne_iff_ne, ne_eq, out, not_false_eq_true, if_true,
          List.lookup_cons, ih]
        by_cases same : name = dropped
        · subst same
          simp only [beq_eq_false_iff_ne.2 (Ne.symm out), if_true]
        · simp only [same, if_false]

/-- Where no name occurs twice it does not matter from which end a name is looked up. -/
theorem lookup_reverse {entries : List (String × α)} (nodup : (entries.map (·.1)).Nodup)
    (name : String) : entries.reverse.lookup name = entries.lookup name := by
  induction entries with
  | nil => rfl
  | cons entry rest ih =>
      obtain ⟨key, value⟩ := entry
      obtain ⟨fresh, others⟩ := List.nodup_cons.1 nodup
      rw [List.reverse_cons, List.lookup_append, ih others]
      by_cases same : name = key
      · subst same
        have absent : rest.lookup name = none := by
          apply List.lookup_eq_none_iff.2
          intro later member
          apply bne_iff_ne.2
          intro equal
          exact fresh (List.mem_map.2 ⟨later, member, equal.symm⟩)
        simp [absent]
      · have apart : (name == key) = false := beq_eq_false_iff_ne.2 same
        simp [List.lookup_cons, apart]

/-- Where no name occurs twice, what changed entries give for a name is read off its only entry. -/
theorem lookup_reverse_map {entries : List (String × α)} (nodup : (entries.map (·.1)).Nodup) (f : α → β)
    (name : String) :
    (entries.map fun entry => (entry.1, f entry.2)).reverse.lookup name = (entries.lookup name).map f := by
  have kept : ((entries.map fun entry => (entry.1, f entry.2)).map (·.1)).Nodup := by
    rw [List.map_map]
    exact nodup
  rw [lookup_reverse kept, lookup_map_value]

theorem lookup_reverse_flatten (lists : List (List (String × α))) (name : String) :
    lists.flatten.reverse.lookup name = lists.reverse.findSome? fun list => list.reverse.lookup name := by
  induction lists with
  | nil => rfl
  | cons list rest ih =>
      rw [List.flatten_cons, List.reverse_append, List.lookup_append, ih, List.reverse_cons,
        List.findSome?_append]
      simp

end Lookup

namespace Table

variable {α : Type}

theorem mem_names_iff {table : Table α} {name : String} :
    name ∈ table.names ↔ (table.get? name).isSome = true := by
  unfold names get?
  simp only [List.lookup_isSome_iff, List.mem_map, beq_iff_eq]
  exact exists_congr fun entry => and_congr_right fun _ => eq_comm

theorem get?_insert (table : Table α) (key name : String) (value : α) :
    (table.insert key value).get? name = if name = key then some value else table.get? name := by
  obtain ⟨entries⟩ := table
  show (put key value entries).lookup name = if name = key then some value else entries.lookup name
  induction entries with
  | nil =>
      by_cases same : name = key
      · simp [put, same]
      · simp [put, List.lookup_cons, beq_eq_false_iff_ne.2 same, same]
  | cons entry rest ih =>
      obtain ⟨first, old⟩ := entry
      by_cases replaced : first = key
      · subst replaced
        by_cases same : name = first
        · simp [put, same]
        · simp [put, List.lookup_cons, beq_eq_false_iff_ne.2 same, same]
      · simp only [put, beq_iff_eq, replaced, if_false, List.lookup_cons, ih]
        by_cases same : name = key
        · subst same
          simp only [beq_eq_false_iff_ne.2 (Ne.symm replaced), if_true]
        · simp only [same, if_false]

/-- Of several entries for a name the last one counts. -/
theorem get?_insertAll (table : Table α) (entries : List (String × α)) (name : String) :
    (table.insertAll entries).get? name = (entries.reverse.lookup name).or (table.get? name) := by
  unfold insertAll
  induction entries generalizing table with
  | nil => rfl
  | cons entry rest ih =>
      obtain ⟨key, value⟩ := entry
      rw [List.foldl_cons, ih, get?_insert, List.reverse_cons, List.lookup_append, Option.or_assoc]
      by_cases same : name = key
      · simp [same]
      · simp [List.lookup_cons, beq_eq_false_iff_ne.2 same, same]

theorem nodup_names_insert {table : Table α} (nodup : table.names.Nodup) (key : String) (value : α) :
    (table.insert key value).names.Nodup := by
  obtain ⟨entries⟩ := table
  show ((put key value entries).map (·.1)).Nodup
  induction entries with
  | nil => simp [put]
  | cons entry rest ih =>
      obtain ⟨first, old⟩ := entry
      obtain ⟨fresh, others⟩ := List.nodup_cons.1 nodup
      by_cases replaced : first = key
      · subst replaced
        simp only [put, beq_self_eq_true, if_true]
        exact nodup
      · simp only [put, beq_iff_eq, replaced, if_false, List.map_cons, List.nodup_cons]
        constructor
        · intro member
          rcases (mem_names_insert ⟨rest⟩ key first value).1 member with same | inside
          · exact replaced same
          · exact fresh inside
        · exact ih others

/-- A table that entries are put into names nothing twice. -/
theorem nodup_names_insertAll {table : Table α} (nodup : table.names.Nodup)
    (entries : List (String × α)) : (table.insertAll entries).names.Nodup := by
  unfold insertAll
  induction entries generalizing table with
  | nil => exact nodup
  | cons entry rest ih => exact ih (nodup_names_insert nodup entry.1 entry.2)

end Table

/-- However its questions are answered, the making of a table names nothing twice. -/
theorem World.recipe?_nodup {w : World} {id : Nat} {recipe : Recipe}
    (found : w.recipe? id = some recipe) : recipe.steps.Always (·.names.Nodup) := by
  have filled (steps : Inquiry (List Entries)) :
      (do return Table.empty.insertAll (← steps).flatten : Inquiry ExportTable).Always
        (·.names.Nodup) := by
    apply Always.bind (.of_forall (fun _ => trivial) steps)
    intro entries _
    have nothing : (Table.empty : ExportTable).names.Nodup := List.nodup_nil
    exact Table.nodup_names_insertAll nothing _
  obtain ⟨view, _, made⟩ := Option.bind_eq_some_iff.1 found
  obtain ⟨wrapper, _, rfl⟩ | ⟨_, rfl⟩ := FileView.recipe?_cases made
  · exact filled _
  · exact filled _

theorem World.tableAmid_nodup {w : World} {opened : List Nat} {id : Nat} {table : ExportTable}
    (made : w.tableAmid opened id = some table) : table.names.Nodup := by
  by_cases closed : id ∈ opened
  · rw [tableAmid_open closed] at made
    cases made
  · cases found : w.recipe? id with
    | none =>
        rw [tableAmid_none found] at made
        cases made
    | some recipe =>
        rw [tableAmid_some closed found] at made
        cases made
        exact (recipe?_nodup found).answer _

/-! ### What items give -/

/-- The source of an item that copies all exports of another module. -/
def Item.star? : Item → Option (Option String)
  | .exportAll source => some source
  | _ => none

namespace World

/-- What an item gives a name, while the table of its file is being made and no other. Of several
    entries the last counts. -/
def given? (w : World) (file : SourceFile) (name : String) (item : Item) : Option Declaration :=
  ((itemExports w (.ofFile file) item).answer (w.tableAmid [file.id])).reverse.lookup name

/-- What a copy of all exports of a source brings for a name: the entry of the other module, unless the
    name is that of the default export. -/
def copied? (w : World) (file : SourceFile) (name : String) (source : Option String) :
    Option Declaration := do
  let (specifier, target) ← w.sourceModule? file source
  let table ← w.tableAmid [file.id] target.id
  if name = "default" then none
  else (table.get? name).map (·.inheritVia (bareName? specifier))

/-- What is copied of a table for a name is its entry, unless the name is that of the default export. -/
theorem lookup_copies {table : ExportTable} (nodup : table.names.Nodup) (via : Option String)
    (name : String) :
    ((table.entries.filter (·.1 != "default")).map fun (name, d) =>
        (name, Declaration.inheritVia d via)).reverse.lookup name =
      if name = "default" then none else (table.get? name).map (·.inheritVia via) := by
  have kept : ((table.entries.filter (·.1 != "default")).map (·.1)).Nodup :=
    nodup.sublist (List.filter_sublist.map _)
  rw [lookup_reverse_map kept (fun d : Declaration => d.inheritVia via), lookup_filter_ne]
  split <;> rfl

/-- A copy of all exports gives what it brings. -/
theorem given?_exportAll (w : World) (file : SourceFile) (name : String) (source : Option String) :
    w.given? file name (.exportAll source) = w.copied? file name source := by
  have view : (FileView.ofFile file).file = file := rfl
  unfold given? copied?
  simp only [itemExports, view]
  cases w.sourceModule? file source with
  | none => rfl
  | some found =>
      obtain ⟨specifier, target⟩ := found
      simp only [Inquiry.answer_bind, Inquiry.answer_tableOf, Option.bind_eq_bind, Option.bind_some]
      cases made : w.tableAmid [file.id] target.id with
      | none => rfl
      | some table =>
          simp only [Inquiry.pure_eq_done, Inquiry.answer_done, Option.bind_some]
          exact lookup_copies (tableAmid_nodup made) (bareName? specifier) name

theorem copied?_default (w : World) (file : SourceFile) (source : Option String) :
    w.copied? file "default" source = none := by
  unfold copied?
  cases w.sourceModule? file source with
  | none => rfl
  | some found =>
      simp only [Option.bind_eq_bind, Option.bind_some]
      cases w.tableAmid [file.id] found.2.id <;> rfl

/-- The entry of a name in the table of a module is what the last item gives that gives anything. -/
theorem get?_moduleTable (w : World) (file : SourceFile) (name : String) :
    ((moduleTable w (.ofFile file)).answer (w.tableAmid [file.id])).get? name =
      file.items.reverse.findSome? (w.given? file name) := by
  simp only [moduleTable, Inquiry.answer_bind, Inquiry.pure_eq_done, Inquiry.answer_done,
    Inquiry.answer_mapM, Table.get?_insertAll, lookup_reverse_flatten]
  show (List.findSome? _ _).or none = _
  rw [Option.or_none, ← List.map_reverse, List.findSome?_map]
  rfl

/-- Behind the last export of a name, only copies of all exports can give it. -/
theorem findSome?_given?_of_explicit {w : World} {file : SourceFile} {name : String}
    {items : List Item} (explicit : ∀ item ∈ items, item.star? = none → w.given? file name item = none) :
    items.findSome? (w.given? file name) =
      (items.filterMap Item.star?).findSome? (w.copied? file name) := by
  induction items with
  | nil => rfl
  | cons item rest ih =>
      have others := ih fun next member => explicit next (List.mem_cons_of_mem item member)
      cases star : item.star? with
      | none =>
          rw [List.findSome?_cons, explicit item List.mem_cons_self star, List.filterMap_cons_none star]
          exact others
      | some source =>
          have copies : item = .exportAll source := by
            cases item with
            | exportAll starred =>
                cases star
                rfl
            | _ => cases star
          rw [List.filterMap_cons_some star, List.findSome?_cons, List.findSome?_cons, others, copies,
            given?_exportAll]

end World

/-- A host that reads declarations only has a table for every module after any questions. The entry of a
    name that an item exports explicitly, and no later item does, is what that item gives, wherever
    copies of all exports stand in front of it; but if copies behind it bring the name, then it is what
    the last of these brings. -/
theorem get?_of_lastExplicit {program : Program} (built : program.Built) {file : SourceFile}
    (member : file ∈ program.files) (isModule : file.isModule = true) {before behind : List Item}
    {item : Item} (split : file.items = before ++ item :: behind) {name : String} {d : Declaration}
    (given : (World.ofProgram program .modules).given? file name item = some d)
    (last : ∀ later ∈ behind, later.star? = none →
      (World.ofProgram program .modules).given? file name later = none) (questions : List Question) :
    let w := World.ofProgram program .modules
    ∃ table, ((w.exportsOf file).run (w.memoryAfter questions)).1 = some table ∧
      table.get? name =
        some (((behind.filterMap Item.star?).reverse.findSome? (w.copied? file name)).getD d) := by
  intro w
  have proper : w.Proper := World.ofProgram_proper built .modules
  have recipe : w.recipe? file.id = some ⟨.modules, moduleTable w (.ofFile file)⟩ :=
    World.recipe?_of_unwrapped built member isModule rfl
  have unmixed : w.Unmixed file.id := Program.OneFormat.unmixed (.inl rfl) file.id
  -- With one format nothing that is remembered was cut short: the table is the one made with this file open.
  have fresh := World.exportsOf_eq_fresh proper (World.rested_memoryAfter proper questions) unmixed
  have made : w.tableAmid [] file.id = some _ := World.tableAmid_some List.not_mem_nil recipe
  refine ⟨_, fresh.trans made, ?_⟩
  have copies : behind.reverse.findSome? (w.given? file name) =
      (behind.filterMap Item.star?).reverse.findSome? (w.copied? file name) := by
    rw [← List.filterMap_reverse]
    apply World.findSome?_given?_of_explicit
    intro later inside
    exact last later (List.mem_reverse.1 inside)
  show ((moduleTable w (.ofFile file)).answer (w.tableAmid [file.id])).get? name = _
  rw [World.get?_moduleTable, split, List.reverse_append, List.reverse_cons, List.append_assoc,
    List.findSome?_append, copies, List.singleton_append, List.findSome?_cons, given]
  cases (behind.filterMap Item.star?).reverse.findSome? (w.copied? file name) <;> rfl

/-- Two modules that copy all exports of each other and have a class of the same name and a default
    export; the first one copies in front of its own exports and once more behind them. -/
def copiedAround : Program :=
  .ofTexts [("/a.js", "export * from './b'; export default 1; export class A \x7b\x7d " ++
      "export \x7b A as default \x7d; export * from './b';"),
    ("/b.js", "export * from './a'; export class A \x7b\x7d export default 2;")]

/-- The default export of the first is what its last default export gives, with copies on both sides. -/
theorem get?_copiedAround :
    let w := World.ofProgram copiedAround .modules
    copiedAround.Built ∧ ∃ file ∈ copiedAround.files, file.isModule = true ∧
      ∃ before item behind d, file.items = before ++ item :: behind ∧
        behind.map Item.star? = [some (some "./b")] ∧ w.given? file "default" item = some d ∧
        (copiedAround.fileAt? d.node.span.lo).map (·.id) = some file.id ∧
        ∀ questions, ∃ table, ((w.exportsOf file).run (w.memoryAfter questions)).1 = some table ∧
          table.get? "default" = some d := by
  intro w
  have facts : ∃ file ∈ copiedAround.files, file.isModule = true ∧
      (file.items.drop 3).tail.map Item.star? = [some (some "./b")] ∧
      ((file.items.drop 3).head?.bind (w.given? file "default")).map
        (fun d => (copiedAround.fileAt? d.node.span.lo).map (·.id)) = some (some file.id) := by
    unfold w
    rw [copiedAround, Program.ofTexts_eq_ofBytes]
    decide +kernel
  obtain ⟨file, member, isModule, stars, own⟩ := facts
  have built : copiedAround.Built := .ofTexts _
  cases rest : file.items.drop 3 with
  | nil =>
      rw [rest] at own
      cases own
  | cons item behind =>
      rw [rest, List.head?_cons, Option.bind_some] at own
      rw [rest, List.tail_cons] at stars
      obtain ⟨d, given, home⟩ := Option.map_eq_some_iff.1 own
      have split : file.items = file.items.take 3 ++ item :: behind := by
        rw [← rest, List.take_append_drop]
      have last : ∀ later ∈ behind, later.star? = none → w.given? file "default" later = none := by
        intro later inside explicit
        have star := List.mem_map_of_mem (f := Item.star?) inside
        rw [explicit, stars] at star
        simp at star
      refine ⟨built, file, member, isModule, _, item, behind, d, split, stars, given, home, ?_⟩
      intro questions
      obtain ⟨table, answered, entry⟩ :=
        get?_of_lastExplicit built member isModule split given last questions
      refine ⟨table, answered, entry.trans ?_⟩
      rw [List.findSome?_eq_none_iff.2 fun source _ => w.copied?_default file source]
      rfl

/-- The class of the first is not: only one item exports it by name, but the copy behind that one
    wins. -/
theorem get?_overriddenClass :
    let w := World.ofProgram copiedAround .modules
    let home := fun d : Declaration => (copiedAround.fileAt? d.node.span.lo).map (·.id)
    copiedAround.Built ∧ ∃ file ∈ copiedAround.files, ∃ other ∈ copiedAround.files,
      file.isModule = true ∧ file.id ≠ other.id ∧
      ((file.items.filter (·.star?.isNone)).filterMap (w.given? file "A")).map home =
        [some file.id] ∧
      (((w.exportsOf file).run .empty).1.bind (·.get? "A")).map home = some (some other.id) := by
  refine ⟨.ofTexts _, ?_⟩
  rw [copiedAround, Program.ofTexts_eq_ofBytes]
  decide +kernel

end BundleLens
