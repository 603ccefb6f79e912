/-
Module: BundleLens.Proofs.Wildcard
Layer: Proofs
Purpose: Copies of all exports are complete. In a program of wrapped files that name what they copy, the
  names in the table of a file are those that are exported by the files it reaches by copying, itself
  included. A table amid open files has the names of the files that are reached around the open ones,
  and a way that comes back to its start can be shortened to what follows the last visit there, so
  cutting cycles off loses no name. The name `exports` is an exception: it stands for the module itself,
  whatever it is bound to, and copying it copies nothing.
Imports: BundleLens.Proofs.History, BundleLens.Proofs.StatementExports
Main exports: SourceFile.ownNames, SourceFile.wildcards, SourceFile.wildcardSpecifier?, Program.copied,
  Program.ReachesAround, names_of_wildcards
-/
import BundleLens.Proofs.History
import BundleLens.Proofs.StatementExports

namespace BundleLens

/-! ### What files copy -/

namespace SourceFile

/-- The statements of the factory of a wrapped file. -/
def factoryStatements (file : SourceFile) : List Stmt :=
  (file.wrapper?.map (·.statements)).getD []

/-- The names that a file exports itself. -/
def ownNames (file : SourceFile) : List String := file.factoryStatements.flatMap Stmt.ownNames

/-- The things whose exports a file copies. -/
def wildcards (file : SourceFile) : List Expr := file.factoryStatements.filterMap Stmt.wildcard?

/-- The module name of a thing whose exports are copied: it is required in place, or it is an identifier
    that is bound to an import of the factory or to a required module. -/
def wildcardSpecifier? (file : SourceFile) (source : Expr) : Option String :=
  match source.requires? with
  | some specifier => some specifier
  | none => do
    let found ← (FileView.ofFile file).dependencyOf? .wrappers (← source.ident?)
    return found.specifier

end SourceFile

namespace Program

/-- The files whose exports a file copies. -/
def copied (program : Program) (file : SourceFile) : List SourceFile :=
  file.wildcards.filterMap fun source => do
    program.resolve? (← file.wildcardSpecifier? source) file

/-- A file reaches another one by copying, around the files with the given numbers. -/
def ReachesAround (program : Program) (opened : List Nat) : SourceFile → SourceFile → Prop :=
  Relation.ReflTransGen fun file other => other ∈ program.copied file ∧ other.id ∉ opened

theorem mem_of_copied {program : Program} {file target : SourceFile}
    (copies : target ∈ program.copied file) : target ∈ program.files := by
  obtain ⟨source, _, found⟩ := List.mem_filterMap.1 copies
  obtain ⟨specifier, _, resolved⟩ := Option.bind_eq_some_iff.1 found
  exact mem_of_resolve? resolved

variable {program : Program} {opened : List Nat} {file other : SourceFile}

theorem ReachesAround.of_cons {id : Nat} (reaches : program.ReachesAround (id :: opened) file other) :
    program.ReachesAround opened file other := by
  induction reaches with
  | refl => exact .refl
  | tail _ step ih => exact ih.tail ⟨step.1, fun member => step.2 (List.mem_cons_of_mem _ member)⟩

/-- A way by copying ends where it starts, or it leaves its start for the last time and goes on around
    it. -/
theorem ReachesAround.last_visit (built : program.Built) (member : file ∈ program.files)
    (reaches : program.ReachesAround opened file other) :
    other = file ∨ ∃ target ∈ program.copied file, target.id ∉ file.id :: opened ∧
      program.ReachesAround (file.id :: opened) target other :=
  built.last_visit (fun _ _ => mem_of_copied) member reaches

end Program

/-! ### The names that are copied -/

section Copies

variable {w : World} {view : FileView} {wrapper : Wrapper} {tables : Nat → Option ExportTable}

/-- Parentheses around an expression do not change what it stands for. -/
theorem expressionDeclaration_bare (w : World) (view : FileView) (e : Expr) :
    expressionDeclaration w view e.bare = expressionDeclaration w view e := by
  fun_induction Expr.bare e with
  | case1 span inner ih => rw [ih, expressionDeclaration_paren_eq]
  | case2 e unwrapped => rfl

theorem expressionDeclaration_ident {e : Expr} {id : Ident} (named : e.ident? = some id) :
    expressionDeclaration w view e = identifierDeclaration w view id := by
  unfold Expr.ident? at named
  fun_induction Expr.bare e with
  | case1 span inner ih =>
      rw [expressionDeclaration_paren_eq]
      exact ih named
  | case2 e unwrapped =>
      cases e with
      | ident other =>
          cases named
          rw [expressionDeclaration_ident_eq]
      | _ => cases named

/-- In a wrapped file an identifier that is bound to a module stands for it, unless it is `exports`. -/
theorem identifierDeclaration_dependency {id : Ident} {found : Dependency}
    (wrapped : view.wrapperFor? w.host = some wrapper)
    (bound : view.dependencyOf? w.host id = some found) (apart : id.name ≠ "exports") :
    identifierDeclaration w view id =
      .done (some (w.program.moduleDeclaration found.specifier view.file found.node)) := by
  simp only [FileView.dependencyOf?, wrapped, bind, Option.bind_some, Option.bind_eq_some_iff] at bound
  obtain ⟨binding, primary, dependency⟩ := bound
  apply identifierDeclaration_of_factory wrapped
  simp [factoryDeclaration?, apart, primary, dependency]

/-- The declaration of a module name stands for the module, if there is one, as reached by a bare
    name. -/
theorem moduleDeclaration_module? (program : Program) (file : SourceFile) (found : Dependency) :
    let declared := program.moduleDeclaration found.specifier file found.node
    declared.node.module?.map (·, declared.via) =
      (program.resolve? found.specifier file).map (·, bareName? found.specifier) := by
  unfold Program.moduleDeclaration
  cases program.resolve? found.specifier file with
  | some target => rfl
  | none => cases found <;> rfl

/-- The module whose exports are copied is the one that is meant by its name, as reached by a bare
    name. -/
theorem wildcardTarget_eq {file : SourceFile} {source : Expr} {specifier : String}
    (wrapped : file.wrapper? = some wrapper) (reads : w.host = .wrappers)
    (apart : source.isNamed "exports" = false)
    (meant : file.wildcardSpecifier? source = some specifier) :
    wildcardTarget w (.ofFile file) source =
      .done ((w.program.resolve? specifier file).map (·, bareName? specifier)) := by
  unfold SourceFile.wildcardSpecifier? at meant
  unfold wildcardTarget
  cases required : source.requires? with
  | some name =>
      rw [required] at meant
      cases meant
      rfl
  | none =>
      simp only [required, bind, Option.bind_eq_some_iff] at meant
      obtain ⟨id, named, found, bound, same⟩ := meant
      cases same
      have name : id.name ≠ "exports" := by
        simpa [Expr.isNamed, named] using apart
      have inside : (FileView.ofFile file).wrapperFor? w.host = some wrapper := by
        rw [reads]
        exact wrapped
      rw [← reads] at bound
      rw [expressionDeclaration_ident named, identifierDeclaration_dependency inside bound name,
        ← moduleDeclaration_module? w.program file found]
      rfl

/-- The names that are copied are those in the table of the module that is meant. -/
theorem mem_names_wildcardExports {source : Expr} {via : Option String} {meant : Option SourceFile}
    (aimed : wildcardTarget w view source = .done (meant.map (·, via))) (name : String) :
    name ∈ Entries.names ((wildcardExports w view source).answer tables) ↔
      ∃ target, meant = some target ∧ target.id ≠ view.file.id ∧
        ∃ table, tables target.id = some table ∧ name ∈ table.names := by
  unfold wildcardExports
  rw [aimed]
  cases meant with
  | none => simp [Entries.names]
  | some target =>
      simp only [Option.map_some, Inquiry.done_bind]
      by_cases same : target.id = view.file.id
      · simp [Entries.names, same]
      · simp only [beq_iff_eq, same, if_false, Inquiry.answer_bind, Inquiry.answer_tableOf]
        cases known : tables target.id with
        | none => simp [Entries.names, known]
        | some table => simp [Entries.names, same, Table.names, known]

end Copies

/-! ### The names in a table -/

/-- A program of wrapped files that name the modules whose exports they copy, and not by `exports`. -/
structure Program.NamesCopies (program : Program) : Prop where
  wrapped : ∀ file ∈ program.files, file.wrapper?.isSome = true
  named : ∀ file ∈ program.files, ∀ source ∈ file.wildcards,
    (file.wildcardSpecifier? source).isSome = true ∧ source.isNamed "exports" = false

section Names

variable {program : Program} {opened : List Nat} {file : SourceFile}

/-- The names that a file copies from one source are those in the table of the file that is meant. -/
theorem mem_names_of_wildcard {wrapper : Wrapper} {source : Expr} (names : program.NamesCopies)
    (member : file ∈ program.files) (wrapped : file.wrapper? = some wrapper)
    (listed : source ∈ file.wildcards) (tables : Nat → Option ExportTable) (name : String) :
    name ∈ Entries.names
        ((wildcardExports (.ofProgram program .wrappers) (.ofFile file) source).answer tables) ↔
      ∃ target, (file.wildcardSpecifier? source).bind (program.resolve? · file) = some target ∧
        target.id ≠ file.id ∧ ∃ table, tables target.id = some table ∧ name ∈ table.names := by
  obtain ⟨meant, apart⟩ := names.named file member source listed
  obtain ⟨specifier, known⟩ := Option.isSome_iff_exists.1 meant
  have aimed := wildcardTarget_eq (w := .ofProgram program .wrappers) wrapped rfl apart known
  rw [known]
  exact mem_names_wildcardExports aimed name

/-- The names that the statements of a file add are its own and those of the tables of the files whose
    exports it copies. -/
theorem mem_names_of_copied {wrapper : Wrapper} (names : program.NamesCopies)
    (member : file ∈ program.files) (wrapped : file.wrapper? = some wrapper)
    (tables : Nat → Option ExportTable) (name : String) :
    name ∈ ((factoryTable (.ofProgram program .wrappers) (.ofFile file) wrapper).answer tables).names ↔
      name ∈ file.ownNames ∨ ∃ target ∈ program.copied file, target.id ≠ file.id ∧
        ∃ table, tables target.id = some table ∧ name ∈ table.names := by
  have statements : file.factoryStatements = wrapper.statements := by
    simp [SourceFile.factoryStatements, wrapped]
  rw [mem_names_factoryTable, ← statements]
  constructor
  · rintro ⟨s, inside, added⟩
    rcases (mem_names_stmtExports _ _ s name).1 added with own | ⟨source, copied, found⟩
    · exact .inl (List.mem_flatMap.2 ⟨s, inside, own⟩)
    · have listed : source ∈ file.wildcards := List.mem_filterMap.2 ⟨s, inside, copied⟩
      obtain ⟨target, resolved, rest⟩ :=
        (mem_names_of_wildcard names member wrapped listed tables name).1 found
      exact .inr ⟨target, List.mem_filterMap.2 ⟨source, listed, resolved⟩, rest⟩
  · rintro (own | ⟨target, copies, rest⟩)
    · obtain ⟨s, inside, own⟩ := List.mem_flatMap.1 own
      exact ⟨s, inside, (mem_names_stmtExports _ _ s name).2 (.inl own)⟩
    · obtain ⟨source, listed, resolved⟩ := List.mem_filterMap.1 copies
      obtain ⟨s, inside, copied⟩ := List.mem_filterMap.1 listed
      refine ⟨s, inside, (mem_names_stmtExports _ _ s name).2 (.inr ⟨source, copied, ?_⟩)⟩
      apply (mem_names_of_wildcard names member wrapped listed tables name).2
      exact ⟨target, resolved, rest⟩

/-- The table of a wrapped file is made by the statements of its factory. -/
theorem recipe?_of_wrapped {wrapper : Wrapper} (built : program.Built) (member : file ∈ program.files)
    (wrapped : file.wrapper? = some wrapper) :
    (World.ofProgram program .wrappers).recipe? file.id =
      some ⟨.wrappers, factoryTable (.ofProgram program .wrappers) (.ofFile file) wrapper⟩ := by
  rw [World.recipe?_of_mem built .wrappers member]
  exact FileView.recipe?_of_wrapped wrapped

/-- Amid open files a table has the names of all files that are reached around them. -/
theorem mem_names_tableAmid (built : program.Built) (names : program.NamesCopies)
    (member : file ∈ program.files) (closed : file.id ∉ opened) :
    ∃ table, (World.ofProgram program .wrappers).tableAmid opened file.id = some table ∧
      ∀ name, name ∈ table.names ↔
        ∃ other, program.ReachesAround opened file other ∧ name ∈ other.ownNames := by
  -- by induction on the number of files that are not open
  induction size : (World.ofProgram program .wrappers).remaining (fun id => decide (id ∈ opened))
    using Nat.strongRecOn generalizing opened file with
  | ind size ih =>
      subst size
      obtain ⟨wrapper, wrapped⟩ := Option.isSome_iff_exists.1 (names.wrapped file member)
      have found := recipe?_of_wrapped built member wrapped
      have fewer := World.remaining_cons_lt found closed
      refine ⟨_, World.tableAmid_some closed found, fun name => ?_⟩
      rw [mem_names_of_copied names member wrapped]
      constructor
      · rintro (own | ⟨target, copies, apart, table, made, listed⟩)
        · exact ⟨file, .refl, own⟩
        · have outside : target.id ∉ file.id :: opened := by
            intro isOpen
            rw [World.tableAmid_open isOpen] at made
            cases made
          obtain ⟨other, same, reached⟩ := ih _ fewer (Program.mem_of_copied copies) outside rfl
          rw [made] at same
          cases same
          obtain ⟨last, reaches, own⟩ := (reached name).1 listed
          have step : target.id ∉ opened := fun isOpen => outside (List.mem_cons_of_mem _ isOpen)
          exact ⟨last, .head ⟨copies, step⟩ reaches.of_cons, own⟩
      · rintro ⟨other, reaches, own⟩
        rcases reaches.last_visit built member with rfl | ⟨target, copies, outside, onward⟩
        · exact .inl own
        · obtain ⟨table, made, reached⟩ := ih _ fewer (Program.mem_of_copied copies) outside rfl
          have apart : target.id ≠ file.id := fun same => outside (same ▸ List.mem_cons_self)
          exact .inr ⟨target, copies, apart, table, made, (reached name).2 ⟨other, onward, own⟩⟩

/-- In a program of wrapped files that name what they copy, the names in the table of a file are, after
    any questions, those that are exported by the files it reaches by copying. -/
theorem names_of_wildcards (built : program.Built) (names : program.NamesCopies)
    (questions : List Question) (member : file ∈ program.files) :
    let w := World.ofProgram program .wrappers
    ∃ table, ((w.exportsOf file).run (w.memoryAfter questions)).1 = some table ∧
      ∀ name, name ∈ table.names ↔
        ∃ other, Relation.ReflTransGen (fun a b => b ∈ program.copied a) file other ∧
          name ∈ other.ownNames := by
  intro w
  have proper : w.Proper := World.ofProgram_proper built .wrappers
  have oneFormat : program.OneFormat .wrappers := .inr ⟨rfl, names.wrapped⟩
  have fresh := World.exportsOf_eq_fresh proper (World.rested_memoryAfter proper questions)
    (oneFormat.unmixed file.id)
  obtain ⟨table, made, reached⟩ := mem_names_tableAmid built names member List.not_mem_nil
  refine ⟨table, fresh.trans made, fun name => ?_⟩
  simpa [Program.ReachesAround] using reached name

end Names

/-- Two wrapped files that copy each other's exports, one of them by the name of a variable. -/
def copyingCycle : Program :=
  .ofTexts [("/a.js", wrappedText "exports.A = 1; __export(require('./b'));"),
    ("/b.js", wrappedText "var a = require('./a'); for (var p in a) exports[p] = a[p]; exports.B = 2;")]

/-- In such a cycle every table has the names of the other file. -/
theorem names_of_copyingCycle :
    let w := World.ofProgram copyingCycle .wrappers
    copyingCycle.NamesCopies ∧
      (∃ file ∈ copyingCycle.files, ∃ other ∈ copyingCycle.copied file, other.ownNames = ["B"]) ∧
      ∀ file ∈ copyingCycle.files, ∀ other ∈ copyingCycle.copied file,
        ∃ table, ((w.exportsOf file).run (w.memoryAfter [.exports other])).1 = some table ∧
          ∀ name ∈ other.ownNames, name ∈ table.names := by
  have checked : (∀ file ∈ copyingCycle.files, file.wrapper?.isSome = true) ∧
      (∀ file ∈ copyingCycle.files, ∀ source ∈ file.wildcards,
        (file.wildcardSpecifier? source).isSome = true ∧ source.isNamed "exports" = false) ∧
      ∃ file ∈ copyingCycle.files, ∃ other ∈ copyingCycle.copied file, other.ownNames = ["B"] := by
    rw [copyingCycle, Program.ofTexts_eq_ofBytes]
    decide +kernel
  obtain ⟨wrapped, named, present⟩ := checked
  have names : copyingCycle.NamesCopies := ⟨wrapped, named⟩
  refine ⟨names, present, fun file member other copies => ?_⟩
  obtain ⟨table, made, reached⟩ := names_of_wildcards (.ofTexts _) names [.exports other] member
  exact ⟨table, made, fun name own => (reached name).2 ⟨other, .single copies, own⟩⟩

/-- A wrapped file that binds `exports` to a required module and copies its exports. -/
def boundExports : Program :=
  .ofTexts [("/a.js", wrappedText "var exports = require('./b'); __export(exports);"),
    ("/b.js", wrappedText "exports.B = 2;")]

/-- What such a file copies by the name `exports` is missing in its table. -/
theorem names_of_boundExports :
    let w := World.ofProgram boundExports .wrappers
    boundExports.Built ∧ (∀ file ∈ boundExports.files, file.wrapper?.isSome = true) ∧
      (∀ file ∈ boundExports.files, ∀ source ∈ file.wildcards,
        (file.wildcardSpecifier? source).isSome = true) ∧
      ∃ file ∈ boundExports.files, ∃ other ∈ boundExports.copied file, "B" ∈ other.ownNames ∧
        ((w.exportsOf file).run .empty).1.map Table.names = some [] := by
  refine ⟨.ofTexts _, ?_⟩
  rw [boundExports, Program.ofTexts_eq_ofBytes]
  decide +kernel

end BundleLens
