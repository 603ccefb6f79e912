/-
Module: BundleLens.Proofs.TypingsTables
Layer: Proofs
Purpose: The index of declaration files does not depend on their order. Which files a file draws on is
  read off its items, so the files that draw on no cycle are known without any search. Only their tables
  are kept: a file that meets a cycle meets a file under way, and that is counted. So whatever is kept,
  what is collected for a file is the table that it has amid the files under way, with nothing kept at
  all.
Imports: BundleLens.Proofs.Built
Main exports: Program.Feeds, Program.Acyclic, Program.typingsAmid, Collected.Sound,
  collectWithin_collects, collectExports_table, typingsIndex_tables
-/
import BundleLens.Proofs.Built
import Mathlib.Data.List.Basic
import Mathlib.Logic.Relation

namespace BundleLens

/-! ### Tables without a search -/

/-- The file that an item takes exports from. -/
def Program.drawnFrom? (program : Program) (file : SourceFile) : Item → Option SourceFile
  | .exportFrom _ source => source.bind (program.resolve? · file)
  | .exportAll source => source.bind (program.resolve? · file)
  | _ => none

/-- What an item makes of the table of its file, with the table of the file that it takes exports
    from. -/
def SourceFile.withItem (file : SourceFile) (source table : TypingsTable) : Item → TypingsTable
  | .exportDecl s => addDeclared table (declaredNames file.path s)
  | .exportList specifiers => table.insertAll (listedEntries (ownDeclarations file) specifiers)
  | .exportFrom specifiers _ => table.insertAll (listedEntries source specifiers)
  | .exportAll _ => source.entries.foldl (fun acc (name, d) => acc.insertNew name d) table
  | _ => table

/-- What an item makes of a table, where the tables of all files are known. -/
def Program.addItem (program : Program) (tables : Nat → TypingsTable) (file : SourceFile)
    (table : TypingsTable) (item : Item) : TypingsTable :=
  file.withItem (((program.drawnFrom? file item).map (tables ·.id)).getD .empty) table item

/-- The table of a file, where the tables of all files are known. -/
def Program.typingsBy (program : Program) (tables : Nat → TypingsTable) (file : SourceFile) : TypingsTable :=
  if file.isModule then file.items.foldl (program.addItem tables file) .empty else .empty

/-- The number of files that are not open. -/
def Program.closed (program : Program) (opened : List Nat) : Nat :=
  (List.range program.files.length).countP fun id => !decide (id ∈ opened)

theorem Program.closed_cons_lt {program : Program} {opened : List Nat} {id : Nat}
    (inside : id < program.files.length) (apart : id ∉ opened) :
    program.closed (id :: opened) < program.closed opened := by
  refine countP_not_lt ?_ ?_ ?_ _ (List.mem_range.2 inside)
  · simpa using apart
  · simp
  · intro other shown
    simp only [decide_eq_true_eq] at shown
    simp [shown]

/-- The table of the file with a number amid open files, which have no table. -/
def Program.typingsAmid (program : Program) (opened : List Nat) (id : Nat) : TypingsTable :=
  if _ : id ∈ opened then .empty
  else
    match _ : program.files[id]? with
    | some file => program.typingsBy (fun other => program.typingsAmid (id :: opened) other) file
    | none => .empty
termination_by program.closed opened
decreasing_by exact closed_cons_lt (List.getElem?_eq_some_iff.1 ‹_›).1 ‹_›

namespace Program

variable {program : Program} {file other : SourceFile} {opened : List Nat}

theorem typingsAmid_open {id : Nat} (isOpen : id ∈ opened) : program.typingsAmid opened id = .empty := by
  rw [typingsAmid, dif_pos isOpen]

theorem typingsAmid_closed (built : program.Built) (member : file ∈ program.files)
    (closed : file.id ∉ opened) :
    program.typingsAmid opened file.id =
      program.typingsBy (program.typingsAmid (file.id :: opened)) file := by
  have here := built.getElem? member
  rw [typingsAmid, dif_neg closed]
  split
  · rename_i found
    rw [here] at found
    cases found
    rfl
  · rename_i absent
    rw [here] at absent
    cases absent

/-- A file feeds another one that takes exports from it. -/
def Feeds (program : Program) (source file : SourceFile) : Prop :=
  file.isModule = true ∧ ∃ item ∈ file.items, program.drawnFrom? file item = some source

theorem mem_of_drawnFrom? {item : Item} (drawn : program.drawnFrom? file item = some other) :
    other ∈ program.files := by
  cases item with
  | exportFrom _ source | exportAll source =>
      obtain ⟨_, _, found⟩ := Option.bind_eq_some_iff.1 drawn
      exact mem_of_resolve? found
  | _ => cases drawn

theorem Feeds.mem (feeds : program.Feeds other file) : other ∈ program.files := by
  obtain ⟨_, item, _, drawn⟩ := feeds
  exact mem_of_drawnFrom? drawn

theorem typingsBy_congr {tables others : Nat → TypingsTable}
    (agree : ∀ source, program.Feeds source file → tables source.id = others source.id) :
    program.typingsBy tables file = program.typingsBy others file := by
  unfold typingsBy
  split
  · rename_i isModule
    refine List.foldl_ext _ _ _ fun table item member => ?_
    unfold addItem
    cases drawn : program.drawnFrom? file item with
    | none => rfl
    | some source =>
        rw [Option.map_some, Option.map_some, agree source ⟨isModule, item, member, drawn⟩]
  · rfl

/-! ### Files without cycles -/

/-- No cycle feeds a file. -/
def Acyclic (program : Program) (file : SourceFile) : Prop := Acc program.Feeds file

theorem Acyclic.not_fed (acyclic : program.Acyclic file) : ¬ Relation.TransGen program.Feeds file file := by
  intro around
  have lasting : Acc (Relation.TransGen program.Feeds) file := Acc.transGen acyclic
  induction lasting with
  | intro file _ ih => exact ih file around acyclic around

/-- The table of a file that no cycle feeds is the same amid all open files that do not feed it. -/
theorem Acyclic.typingsAmid_eq (built : program.Built) (acyclic : program.Acyclic file)
    (member : file ∈ program.files)
    (apart : ∀ source, Relation.ReflTransGen program.Feeds source file → source.id ∉ opened) :
    program.typingsAmid opened file.id = program.typingsAmid [] file.id := by
  have whole : program.Acyclic file := acyclic
  induction acyclic generalizing opened with
  | intro file below ih =>
      rw [typingsAmid_closed built member (apart file .refl),
        typingsAmid_closed built member List.not_mem_nil]
      refine typingsBy_congr fun source feeds => ?_
      -- a source of the source is neither this file, which is on no cycle, nor open before
      have outside : ∀ others : List Nat,
          (∀ next, Relation.ReflTransGen program.Feeds next file → next.id ∉ others) →
          ∀ next, Relation.ReflTransGen program.Feeds next source → next.id ∉ file.id :: others := by
        intro others away next leads here
        rcases List.mem_cons.1 here with same | open'
        · have inside : next ∈ program.files := by
            rcases Relation.ReflTransGen.cases_head leads with rfl | ⟨_, step, _⟩
            · exact feeds.mem
            · exact step.mem
          cases built.eq_of_id member inside same
          exact whole.not_fed (Relation.TransGen.tail' leads feeds)
        · exact away next (leads.tail feeds) open'
      have fresh := ih source feeds feeds.mem (outside [] fun _ _ => List.not_mem_nil) (below source feeds)
      rw [ih source feeds feeds.mem (outside opened apart) (below source feeds), fresh]

end Program

/-! ### Collecting -/

section Collecting

variable {program : Program} {file : SourceFile} {exports : SourceFile → Collect TypingsTable}
  {tables : Nat → TypingsTable} {c : Collected} {opened : List Nat}

/-- An item asks for at most one table, that of the file that it takes exports from. -/
theorem collectItem_run (program : Program) (exports : SourceFile → Collect TypingsTable)
    (file : SourceFile) (table : TypingsTable) (item : Item) (c : Collected) :
    (collectItem program exports file table item).run c =
      match program.drawnFrom? file item with
      | some target =>
        (file.withItem ((exports target).run c).1 table item, ((exports target).run c).2)
      | none => (file.withItem .empty table item, c) := by
  cases item with
  | exportFrom specifiers source =>
      have nothing : listedEntries .empty specifiers = [] := by
        refine List.filterMap_eq_nil_iff.2 fun specifier _ => ?_
        cases specifier <;> rfl
      simp only [collectItem, Program.drawnFrom?, SourceFile.withItem, nothing]
      cases source.bind (program.resolve? · file) with
      | none => rfl
      | some target => rfl
  | exportAll source =>
      simp only [collectItem, Program.drawnFrom?]
      cases source.bind (program.resolve? · file) with
      | none => rfl
      | some target => rfl
  | _ => rfl

/-- What is kept are tables of files that no cycle feeds. -/
def Collected.Sound (program : Program) (c : Collected) : Prop :=
  ∀ file ∈ program.files, ∀ table, c.done.lookup file.id = some table →
    program.Acyclic file ∧ table = program.typingsAmid [] file.id

/-- A step of collecting that gives a table: the files under way stay the same, the count only grows,
    what is kept stays sound, and if the count is what it was then the given property holds. -/
structure Collects (program : Program) (c : Collected) (table : TypingsTable) (Uncut : Prop)
    (result : TypingsTable × Collected) : Prop where
  table : result.1 = table
  visiting : result.2.visiting = c.visiting
  cuts : c.cuts ≤ result.2.cuts
  sound : result.2.Sound program
  uncut : result.2.cuts = c.cuts → Uncut

/-- Asking for the sources of a file, while the given files are under way, gives their tables, and meets
    a file under way unless no cycle feeds the source. -/
def Reliable (program : Program) (exports : SourceFile → Collect TypingsTable) (opened : List Nat)
    (tables : Nat → TypingsTable) (file : SourceFile) : Prop :=
  ∀ source, program.Feeds source file → ∀ c : Collected, c.visiting = opened → c.Sound program →
    Collects program c (tables source.id) (program.Acyclic source) ((exports source).run c)

theorem collectItem_collects (reliable : Reliable program exports opened tables file) {item : Item}
    (member : item ∈ file.items) (isModule : file.isModule = true) (table : TypingsTable)
    (amid : c.visiting = opened) (sound : c.Sound program) :
    Collects program c (program.addItem tables file table item)
      (∀ source, program.drawnFrom? file item = some source → program.Acyclic source)
      ((collectItem program exports file table item).run c) := by
  rw [collectItem_run]
  unfold Program.addItem
  cases drawn : program.drawnFrom? file item with
  | none => exact ⟨rfl, rfl, Nat.le_refl _, sound, fun _ _ nowhere => nomatch nowhere⟩
  | some source =>
      obtain ⟨made, visiting, cuts, soundAfter, uncut⟩ :=
        reliable source ⟨isModule, item, member, drawn⟩ c amid sound
      refine ⟨by simp [made], visiting, cuts, soundAfter, fun same other found => ?_⟩
      cases found
      exact uncut same

theorem collectItems_collects (reliable : Reliable program exports opened tables file)
    (isModule : file.isModule = true) {items : List Item} (within : items ⊆ file.items)
    (table : TypingsTable) (amid : c.visiting = opened) (sound : c.Sound program) :
    Collects program c (items.foldl (program.addItem tables file) table)
      (∀ item ∈ items, ∀ source, program.drawnFrom? file item = some source → program.Acyclic source)
      ((items.foldlM (collectItem program exports file) table).run c) := by
  induction items generalizing table c with
  | nil => exact ⟨rfl, rfl, Nat.le_refl _, sound, fun _ _ nowhere => nomatch nowhere⟩
  | cons item rest ih =>
      have first := collectItem_collects reliable (within List.mem_cons_self) isModule table amid sound
      have others := ih (fun next member => within (List.mem_cons_of_mem item member))
        (program.addItem tables file table item) (first.visiting.trans amid) first.sound
      rw [List.foldlM_cons, StateT.run_bind]
      show Collects program c _ _ ((rest.foldlM (collectItem program exports file)
        ((collectItem program exports file table item).run c).1).run
          ((collectItem program exports file table item).run c).2)
      rw [first.table]
      refine ⟨others.table, others.visiting.trans first.visiting, Nat.le_trans first.cuts others.cuts,
        others.sound, fun same next member => ?_⟩
      -- no part can have counted a cut if both together did not
      have middle : ((collectItem program exports file table item).run c).2.cuts = c.cuts :=
        Nat.le_antisymm (same ▸ others.cuts) first.cuts
      rcases List.mem_cons.1 member with rfl | later
      · exact first.uncut middle
      · exact others.uncut (same.trans middle.symm) next later

theorem collectFile_collects (reliable : Reliable program exports opened tables file)
    (amid : c.visiting = opened) (sound : c.Sound program) :
    Collects program c (program.typingsBy tables file) (program.Acyclic file)
      ((collectFile program exports file).run c) := by
  unfold collectFile Program.typingsBy
  by_cases isModule : file.isModule = true
  · simp only [isModule, if_true]
    obtain ⟨table, visiting, cuts, soundAfter, uncut⟩ :=
      collectItems_collects reliable isModule (List.Subset.refl file.items) .empty amid sound
    refine ⟨table, visiting, cuts, soundAfter, fun same => ⟨file, fun source feeds => ?_⟩⟩
    obtain ⟨_, item, member, drawn⟩ := feeds
    exact uncut same item member source drawn
  · simp only [isModule, Bool.false_eq_true, if_false]
    refine ⟨rfl, rfl, Nat.le_refl _, sound, fun _ => ⟨file, fun source feeds => ?_⟩⟩
    exact absurd feeds.1 isModule

theorem collectFresh_run (program : Program) (exports : SourceFile → Collect TypingsTable)
    (file : SourceFile) (c : Collected) :
    (collectFresh program exports file).run c =
      let made := (collectFile program exports file).run { c with visiting := file.id :: c.visiting }
      (made.1, { made.2 with
        visiting := made.2.visiting.erase file.id
        done := if made.2.cuts = c.cuts then (file.id, made.1) :: made.2.done else made.2.done }) := rfl

/-- The table of a file that no cycle feeds may be kept. -/
theorem Collected.Sound.keep (built : program.Built) (member : file ∈ program.files)
    (sound : c.Sound program) (acyclic : program.Acyclic file) :
    Collected.Sound program { c with done := (file.id, program.typingsAmid [] file.id) :: c.done } := by
  intro other inside table found
  rw [List.lookup_cons] at found
  split at found
  · rename_i same
    cases found
    cases built.eq_of_id member inside (beq_iff_eq.1 same)
    exact ⟨acyclic, rfl⟩
  · exact sound other inside table found

/-- Every file under way draws on the file that is asked for, maybe through others. -/
def Program.UnderWay (program : Program) (opened : List Nat) (file : SourceFile) : Prop :=
  ∀ id ∈ opened, ∃ user ∈ program.files, user.id = id ∧ Relation.TransGen program.Feeds file user

theorem Program.UnderWay.cons {source : SourceFile} (under : program.UnderWay opened file)
    (member : file ∈ program.files) (feeds : program.Feeds source file) :
    program.UnderWay (file.id :: opened) source := by
  intro id here
  rcases List.mem_cons.1 here with rfl | earlier
  · exact ⟨file, member, rfl, .single feeds⟩
  · obtain ⟨user, inside, same, leads⟩ := under id earlier
    exact ⟨user, inside, same, .head feeds leads⟩

/-- Files under way do not feed a file that no cycle feeds. -/
theorem Program.UnderWay.apart (built : program.Built) (under : program.UnderWay opened file)
    (member : file ∈ program.files) (acyclic : program.Acyclic file) (source : SourceFile)
    (leads : Relation.ReflTransGen program.Feeds source file) : source.id ∉ opened := by
  intro isOpen
  obtain ⟨user, inside, same, around⟩ := under source.id isOpen
  have sourceInside : source ∈ program.files := by
    rcases Relation.ReflTransGen.cases_head leads with rfl | ⟨_, step, _⟩
    · exact member
    · exact step.mem
  cases built.eq_of_id sourceInside inside same
  exact acyclic.not_fed (around.trans_left leads)

/-- What is collected anew for a file is the table that it has amid the files under way. -/
theorem collectFresh_collects (built : program.Built) (member : file ∈ program.files)
    (under : program.UnderWay c.visiting file) (closed : file.id ∉ c.visiting)
    (reliable : Reliable program exports (file.id :: c.visiting)
      (program.typingsAmid (file.id :: c.visiting)) file) (sound : c.Sound program) :
    Collects program c (program.typingsAmid c.visiting file.id) (program.Acyclic file)
      ((collectFresh program exports file).run c) := by
  have start : Collected.Sound program { c with visiting := file.id :: c.visiting } := sound
  obtain ⟨table, visiting, cuts, soundAfter, uncut⟩ := collectFile_collects reliable rfl start
  rw [← Program.typingsAmid_closed built member closed] at table
  rw [collectFresh_run]
  refine ⟨table, ?_, cuts, ?_, uncut⟩
  · simp only [visiting, List.erase_cons_head]
  · by_cases same : ((collectFile program exports file).run
        { c with visiting := file.id :: c.visiting }).2.cuts = c.cuts
    · have acyclic := uncut same
      have fresh := acyclic.typingsAmid_eq built member (under.apart built member acyclic)
      simp only [same, if_true, table, fresh]
      exact soundAfter.keep built member acyclic
    · simp only [same, if_false]
      exact soundAfter

/-- Whatever is kept, what is collected for a file is the table that it has amid the files under way,
    and a cut is counted unless no cycle feeds the file. -/
theorem collectWithin_collects (built : program.Built) {depth : Nat}
    (enough : program.closed c.visiting < depth) (member : file ∈ program.files)
    (under : program.UnderWay c.visiting file) (sound : c.Sound program) :
    Collects program c (program.typingsAmid c.visiting file.id) (program.Acyclic file)
      ((collectWithin program depth file).run c) := by
  induction depth generalizing c file with
  | zero => exact absurd enough (Nat.not_lt_zero _)
  | succ depth ih =>
      simp only [collectWithin, StateT.run_bind, StateT.run_get, pure_bind]
      cases kept : c.done.lookup file.id with
      | some table =>
          obtain ⟨acyclic, same⟩ := sound file member table kept
          have fresh := acyclic.typingsAmid_eq built member (under.apart built member acyclic)
          exact ⟨same.trans fresh.symm, rfl, Nat.le_refl _, sound, fun _ => acyclic⟩
      | none =>
          by_cases isOpen : file.id ∈ c.visiting
          · have contained : c.visiting.contains file.id = true := by simpa using isOpen
            simp only [contained, if_true]
            exact ⟨(Program.typingsAmid_open isOpen).symm, rfl, Nat.le_succ _, sound,
              fun same => absurd same (Nat.succ_ne_self _)⟩
          · have apart : c.visiting.contains file.id = false := by simpa using isOpen
            simp only [apart, Bool.false_eq_true, if_false]
            refine collectFresh_collects built member under isOpen ?_ sound
            intro source feeds after amid soundAfter
            have place := (List.getElem?_eq_some_iff.1 (built.getElem? member)).1
            have fewer := Program.closed_cons_lt place isOpen
            rw [← amid]
            refine ih ?_ feeds.mem ?_ soundAfter
            · rw [amid]
              omega
            · rw [amid]
              exact under.cons member feeds

end Collecting

/-! ### The index -/

variable {program : Program} {file : SourceFile}

theorem Program.closed_le (program : Program) (opened : List Nat) :
    program.closed opened ≤ program.files.length := by
  have bound : program.closed opened ≤ (List.range program.files.length).length := List.countP_le_length
  simpa using bound

theorem Collected.Sound.empty (program : Program) : Collected.empty.Sound program :=
  fun _ _ _ found => nomatch found

/-- Between two files nothing is under way, and the table of the next one is the one that it has
    alone. -/
theorem collectExports_collects (built : program.Built) (member : file ∈ program.files) {c : Collected}
    (idle : c.visiting = []) (sound : c.Sound program) :
    Collects program c (program.typingsAmid [] file.id) (program.Acyclic file)
      ((collectExports program file).run c) := by
  have under : program.UnderWay c.visiting file := by
    rw [idle]
    exact fun _ nowhere => nomatch nowhere
  have made :=
    collectWithin_collects built (Nat.lt_succ_of_le (program.closed_le c.visiting)) member under sound
  rwa [idle] at made

/-- What is collected for a file alone is the table that it has when no file is open. -/
theorem collectExports_table (built : program.Built) (member : file ∈ program.files) :
    ((collectExports program file).run .empty).1 = program.typingsAmid [] file.id :=
  (collectExports_collects built member rfl (.empty program)).table

/-- Files that are collected one after the other get the tables that they have alone. -/
theorem collectAll_run (built : program.Built) {files : List SourceFile}
    (within : ∀ file ∈ files, file ∈ program.files) {c : Collected} (idle : c.visiting = [])
    (sound : c.Sound program) :
    ((files.mapM fun file => do return (file.id, ← collectExports program file) :
      Collect (List (Nat × TypingsTable))).run c).1 =
        files.map fun file => (file.id, program.typingsAmid [] file.id) := by
  induction files generalizing c with
  | nil => rfl
  | cons file rest ih =>
      have made := collectExports_collects built (within file List.mem_cons_self) idle sound
      have others := ih (fun next member => within next (List.mem_cons_of_mem file member))
        (made.visiting.trans idle) made.sound
      rw [List.mapM_cons]
      show (file.id, ((collectExports program file).run c).1) :: _ = _
      rw [List.map_cons, made.table]
      exact congrArg _ others

/-- In the index each declaration file has the table that it has when no file is open. -/
theorem tables_build (built : program.Built) :
    (TypingsIndex.build program).tables =
      program.typingsFiles.map fun file => (file.id, program.typingsAmid [] file.id) := by
  have inside : ∀ file ∈ program.typingsFiles, file ∈ program.files :=
    fun file member => (List.mem_filter.1 member).1
  exact collectAll_run built inside rfl (.empty program)

/-- The index of a program holds for each declaration file, in the order of registration, the table that
    is collected for that file alone, whatever files are collected before it and whatever cycles they
    are on. That is the table that the file has when no file is open. -/
theorem typingsIndex_tables (built : program.Built) :
    ((TypingsIndex.build program).tables = program.typingsFiles.map fun file =>
      (file.id, ((collectExports program file).run .empty).1)) ∧
    ∀ file ∈ program.typingsFiles,
      ((collectExports program file).run .empty).1 = program.typingsAmid [] file.id := by
  have alone : ∀ file ∈ program.typingsFiles,
      ((collectExports program file).run .empty).1 = program.typingsAmid [] file.id := by
    intro file member
    exact collectExports_table built (List.mem_filter.1 member).1
  refine ⟨?_, alone⟩
  rw [tables_build built]
  exact List.map_congr_left fun file member => by rw [alone file member]

/-- Three declaration files, each of which copies the exports of the next, and a fourth one that copies
    the exports of the second and is on no cycle. -/
def copyingTypings : Program :=
  (Program.ofTexts [("/t/a.d.ts", "export declare class A \x7b\x7d export * from './b';"),
    ("/t/b.d.ts", "export * from './c'; export declare class B \x7b\x7d " ++
      "export \x7b A as X \x7d from './a';"),
    ("/t/c.d.ts", "export * from './a'; export declare function C(): void;"),
    ("/t/d.d.ts", "export * from './b'; export declare const D: any;")]).setTypingsRoot (.ofString "/t")

/-- The second file is collected below the first one too, where it lacks what it takes from the first,
    and yet the index holds its whole table. -/
theorem typingsIndex_copyingTypings :
    copyingTypings.Built ∧
      (TypingsIndex.build copyingTypings).tables.map (fun entry => (entry.1, entry.2.names)) =
        [(0, ["A", "C", "B"]), (1, ["A", "C", "B", "X"]), (2, ["A", "B", "C"]),
          (3, ["A", "C", "B", "X", "D"])] := by
  have built : copyingTypings.Built := .setTypingsRoot _ (.ofTexts _)
  refine ⟨built, ?_⟩
  rw [(typingsIndex_tables built).1]
  rw [copyingTypings, Program.ofTexts_eq_ofBytes]
  decide +kernel

end BundleLens
