/-
Module: BundleLens.Proofs.ExportSpellings
Layer: Proofs
Purpose: The two ways to spell the export of a value in a factory: an assignment to a member of
  `exports`, and a getter that returns the value. A getter exports what its value stands for. An
  assignment does so too where the value refers to something directly: by a name, by a member of
  `exports`, or by a member of a name for another module. Any other value it exports as a value of its
  own, even if the value stands for something.
Imports: BundleLens.Proofs.Draft, BundleLens.Proofs.ImportAgreement, BundleLens.Proofs.TableParts,
  BundleLens.Proofs.Unparen
Main exports: ExportSpelling, Stmt.Spells, ExportSpelling.spells_statement, FileView.refersDirectly,
  World.meant?, get?_of_spelling
-/
import BundleLens.Proofs.Draft
import BundleLens.Proofs.ImportAgreement
import BundleLens.Proofs.TableParts
import BundleLens.Proofs.Unparen

namespace BundleLens

/-! ### Spellings -/

/-- The ways to spell the export of a value. -/
inductive ExportSpelling where
  /-- `exports.name = value;` -/
  | direct
  /-- `Object.defineProperty(exports, "name", { get: function () { return value; } });` -/
  | getter
deriving DecidableEq, Repr

namespace ExportSpelling

open Draft

/-- The expression that makes the export. -/
def expression (name : String) (value : Expr) : ExportSpelling → Draft Expr
  | direct => assignMember (ident "exports") name (given value)
  | getter => call (member (ident "Object") "defineProperty")
      [ident "exports", string name, object [property "get" (ofFunc (funcOf [] [returned (given value)]))]]

/-- The statement that makes the export. -/
def statement (name : String) (value : Expr) (spelling : ExportSpelling) : Draft Stmt :=
  Draft.statement (spelling.expression name value)

end ExportSpelling

/-- The assignment that a statement is. -/
def Stmt.assignment? (s : Stmt) : Option Assignment := s.expr?.bind Expr.assignment?

/-- A statement exports a value under a name in a spelling. Parentheses around the value do not
    matter. -/
def Stmt.Spells (s : Stmt) (name : String) (value : Expr) : ExportSpelling → Prop
  | .direct => ∃ a, s.assignment? = some a ∧ a.exported? = some name ∧ a.value.bare = value.bare
  | .getter => ∃ r, s.reexport? = some r ∧ r.name = name ∧ r.value.bare = value.bare

section Spellings

variable {s : Stmt} {name : String} {value : Expr}

/-- Wherever the text of a spelling stands in a file, it is read as that spelling. -/
theorem ExportSpelling.spells_statement (spelling : ExportSpelling) (name : String) (value : Expr)
    (place : List Nat → Span) : (spelling.statement name value place).Spells name value spelling := by
  cases spelling with
  | direct => exact ⟨_, rfl, rfl, rfl⟩
  | getter => exact ⟨_, rfl, rfl, Expr.bare_bare value⟩

/-- A value that is no assignment ends the assignments in front of it. -/
theorem exportsChain_of_bare (last : ∀ span op target inner, value.bare ≠ .assign span op target inner) :
    exportsChain value = ([], value.bare) := by
  induction value using Expr.bareInduction with
  | paren span inner ih => exact ih last
  | other e isBare =>
      rw [isBare.bare_eq] at last ⊢
      cases e with
      | paren span inner => exact absurd rfl (isBare span inner)
      | assign span op target inner => exact absurd rfl (last span op target inner)
      | _ => rfl

theorem exportsChain_assign {span : Span} {target : Pat}
    (exported : Assignment.exported? ⟨span, .plain, target, value⟩ = some name) :
    exportsChain (.assign span .plain target value) =
      ((name, ⟨span, .plain, target, value⟩) :: (exportsChain value).1, (exportsChain value).2) := by
  rw [exportsChain]
  simp only [exported]

/-- The direct spelling exports one name, if the value is no assignment again. -/
theorem Stmt.Spells.exportsAssignment? (spelled : s.Spells name value .direct)
    (last : ∀ span op target inner, value.bare ≠ .assign span op target inner) :
    ∃ a, s.assignment? = some a ∧ s.exportsAssignment? = some ⟨[(name, a)], value.bare⟩ := by
  obtain ⟨a, assigned, exported, same⟩ := spelled
  refine ⟨a, assigned, ?_⟩
  obtain ⟨e, shown, isAssignment⟩ := Option.bind_eq_some_iff.1 assigned
  have isBare : e.bare = e := by
    cases s with
    | expr span inner =>
        cases shown
        exact Expr.bare_bare inner
    | _ => cases shown
  rw [Expr.assignment?, isBare] at isAssignment
  split at isAssignment
  · cases isAssignment
    rw [← same] at last
    rw [Stmt.exportsAssignment?, shown, Option.bind_eq_bind, Option.bind_some, Expr.exportsAssignment?,
      exportsChain_assign exported, exportsChain_of_bare last, same]
  · cases isAssignment

end Spellings

/-! ### Values -/

/-- Whether an expression refers to something directly: by a name, by a member of `exports`, or by a
    member of a name for another module. -/
def FileView.refersDirectly (view : FileView) (host : HostKind) (e : Expr) : Bool :=
  e.ident?.isSome || e.exported?.isSome ||
    ((e.member?.bind (·.object.ident?)).bind (view.dependencyOf? host)).isSome

/-- What an expression of a file stands for while the table of the file is being made. -/
def World.meant? (w : World) (file : SourceFile) (e : Expr) : Option Declaration :=
  (expressionDeclaration w (.ofFile file) e).answer (w.tableAmid [file.id])

section Values

variable {w : World} {view : FileView} {e : Expr}

theorem FileView.refersDirectly_bare (view : FileView) (host : HostKind) (e : Expr) :
    view.refersDirectly host e.bare = view.refersDirectly host e := by
  simp only [FileView.refersDirectly, Expr.exported?, Expr.ident?, Expr.member?, Expr.bare_bare]

/-- An assigned value that refers to something directly is followed, and no other one. -/
theorem referredValue_eq {wrapper : Wrapper} (wrapped : view.wrapperFor? w.host = some wrapper)
    (e : Expr) :
    referredValue w view e =
      if view.refersDirectly w.host e then expressionDeclaration w view e else .done none := by
  unfold referredValue FileView.refersDirectly
  cases named : e.ident? with
  | some id => simp [expressionDeclaration_ident named]
  | none => simp [FileView.namespaceOf?_of_wrapped wrapped]

/-- An assignment stands for nothing. -/
theorem not_assign_of_meant {file : SourceFile} {d : Declaration} (stands : w.meant? file e = some d) :
    ∀ span op target inner, e.bare ≠ .assign span op target inner := by
  intro span op target inner same
  rw [World.meant?, ← expressionDeclaration_bare, same] at stands
  rw [expressionDeclaration, hostExpression_of_apart rfl] at stands
  · cases stands
  · rintro _ _ ⟨⟩
  · rintro _ _ _ _ ⟨⟩

end Values

/-! ### Entries -/

section Entries

variable {w : World} {file : SourceFile} {s : Stmt} {name : String} {value : Expr} {d : Declaration}

/-- A getter exports what its value stands for. -/
theorem Stmt.Spells.gives?_getter (spelled : s.Spells name value .getter)
    (stands : w.meant? file value = some d) : w.gives? [] file name (.statement s) = some d := by
  obtain ⟨r, defined, rfl, same⟩ := spelled
  have unassigned : s.exportsAssignment? = none := by
    cases found : s.exportsAssignment? with
    | none => rfl
    | some assignment =>
        rw [(Stmt.others_of_exportsAssignment? found).1] at defined
        cases defined
  rw [World.meant?, ← expressionDeclaration_bare, ← same, expressionDeclaration_bare] at stands
  simp [World.gives?, TablePart.exports, stmtExports, unassigned, defined, stands]

/-- An assignment exports what its value stands for if the value refers to it directly, and otherwise
    the value itself. -/
theorem Stmt.Spells.gives?_direct {wrapper : Wrapper}
    (wrapped : (FileView.ofFile file).wrapperFor? w.host = some wrapper)
    (spelled : s.Spells name value .direct) (stands : w.meant? file value = some d) :
    ∃ a, s.assignment? = some a ∧
      w.gives? [] file name (.statement s) =
        some (if (FileView.ofFile file).refersDirectly w.host value then d
          else .inline (.assign a) (some value.bare)) := by
  obtain ⟨a, assigned, exported⟩ := spelled.exportsAssignment? (not_assign_of_meant stands)
  refine ⟨a, assigned, ?_⟩
  rw [World.meant?, ← expressionDeclaration_bare] at stands
  by_cases direct : (FileView.ofFile file).refersDirectly w.host value = true <;>
    simp [World.gives?, TablePart.exports, stmtExports, exported, referredValue_eq wrapped,
      FileView.refersDirectly_bare, direct, stands]

end Entries

/-- In a program of wrapped files let a factory export a value that stands for something, in one of the
    spellings. After any questions the entry is what the value stands for, unless a later statement
    gives the name something else; but if the value is assigned and does not refer to it directly, the
    entry is the assigned value itself. -/
theorem get?_of_spelling {program : Program} (built : program.Built) {host : HostKind}
    (wrapped : ∀ file ∈ program.files, ((FileView.ofFile file).wrapperFor? host).isSome = true)
    {file : SourceFile} (member : file ∈ program.files) {wrapper : Wrapper}
    (shape : (FileView.ofFile file).wrapperFor? host = some wrapper) {before behind : List Stmt} {s : Stmt}
    (body : wrapper.statements = before ++ s :: behind) {spelling : ExportSpelling} {name : String}
    {value : Expr} (spelled : s.Spells name value spelling) {d : Declaration}
    (stands : (World.ofProgram program host).meant? file value = some d) (questions : List Question) :
    let w := World.ofProgram program host
    let direct := (FileView.ofFile file).refersDirectly host value
    let later := (behind.map TablePart.statement).reverse.findSome? (w.gives? [] file name)
    ∃ table, ((w.exportsOf file).run (w.memoryAfter questions)).1 = some table ∧
      (spelling = .getter ∨ direct = true → table.get? name = some (later.getD d)) ∧
      (spelling = .direct → direct = false →
        ∃ a, s.assignment? = some a ∧
          table.get? name = some (later.getD (.inline (.assign a) (some value.bare)))) := by
  intro w direct later
  have proper : w.Proper := World.ofProgram_proper built host
  have fresh := World.exportsOf_eq_fresh proper (World.rested_memoryAfter proper questions)
    (World.unmixed_of_wrapped wrapped file.id)
  have parts : (FileView.ofFile file).tableParts host =
      before.map .statement ++ .statement s :: behind.map .statement := by
    simp only [FileView.tableParts, shape, body, List.map_append, List.map_cons]
  have inside : TablePart.statement s ∈ (FileView.ofFile file).tableParts host := by
    rw [parts]
    exact List.mem_append_right _ List.mem_cons_self
  -- whatever the statement gives the name is the entry, unless a later one gives it something
  have entry {own : Declaration} (given : w.gives? [] file name (.statement s) = some own) :
      ∃ table, ((w.exportsOf file).run (w.memoryAfter questions)).1 = some table ∧
        table.get? name = some (later.getD own) := by
    obtain ⟨table, made, entries⟩ := World.exists_tableAmid built member List.not_mem_nil inside given
    exact ⟨table, fresh.trans made, (entries name).trans (World.findSome?_gives?_of_part parts given)⟩
  cases spelling with
  | getter =>
      obtain ⟨table, answered, found⟩ := entry (spelled.gives?_getter stands)
      exact ⟨table, answered, fun _ => found, nofun⟩
  | direct =>
      obtain ⟨a, assigned, given⟩ := spelled.gives?_direct shape stands
      obtain ⟨table, answered, found⟩ := entry given
      have entryFor {own : Declaration} (chosen : (if direct = true then d else
          .inline (.assign a) (some value.bare)) = own) : table.get? name = some (later.getD own) :=
        found.trans (congrArg (fun own => some (later.getD own)) chosen)
      refine ⟨table, answered, ?_, fun _ indirect => ⟨a, assigned, entryFor (if_neg (by simp [indirect]))⟩⟩
      rintro (other | refers)
      · cases other
      · exact entryFor (if_pos refers)

/-- The spelling of a statement that exports a value, the name and the value. -/
def Stmt.spelled? (s : Stmt) : Option (ExportSpelling × String × Expr) :=
  match s.reexport? with
  | some r => some (.getter, r.name, r.value)
  | none => do
    let a ← s.assignment?
    return (.direct, ← a.exported?, a.value)

theorem Stmt.spells_of_spelled? {s : Stmt} {spelling : ExportSpelling} {name : String} {value : Expr}
    (found : s.spelled? = some (spelling, name, value)) : s.Spells name value spelling := by
  unfold Stmt.spelled? at found
  cases defined : s.reexport? with
  | some r =>
      simp only [defined] at found
      cases found
      exact ⟨r, defined, rfl, rfl⟩
  | none =>
      simp only [defined] at found
      obtain ⟨a, assigned, rest⟩ := Option.bind_eq_some_iff.1 found
      obtain ⟨exported, named, same⟩ := Option.bind_eq_some_iff.1 rest
      cases same
      exact ⟨a, assigned, named, rfl⟩

/-- The spelling, the name and the value of the export that the last statement of a factory makes. -/
def FileView.lastSpelled? (host : HostKind) (view : FileView) : Option (ExportSpelling × String × Expr) := do
  (← (← view.wrapperFor? host).statements.getLast?).spelled?

theorem FileView.exists_of_lastSpelled? {host : HostKind} {view : FileView} {spelling : ExportSpelling}
    {name : String} {value : Expr} (found : view.lastSpelled? host = some (spelling, name, value)) :
    ∃ wrapper before s, view.wrapperFor? host = some wrapper ∧ wrapper.statements = before ++ [s] ∧
      s.Spells name value spelling := by
  obtain ⟨wrapper, shape, rest⟩ := Option.bind_eq_some_iff.1 found
  obtain ⟨s, ends, spelled⟩ := Option.bind_eq_some_iff.1 rest
  obtain ⟨before, body⟩ := List.getLast?_eq_some_iff.1 ends
  exact ⟨wrapper, before, s, shape, body, Stmt.spells_of_spelled? spelled⟩

/-- A wrapped file that exports a member or a whole module in a spelling. -/
def spelledText (spelling : ExportSpelling) (value : String) : String :=
  wrappedText ("var b = require('./b'); " ++ match spelling with
    | .direct => "exports.N = " ++ value ++ ";"
    | .getter => "Object.defineProperty(exports, 'N', \x7b get: function () \x7b return " ++ value ++
        "; \x7d \x7d);")

/-- Wrapped files that export the same in both spellings: a member of a module, a member of such a
    member, and a required module. -/
def spelledExports : Program :=
  .ofTexts [("/f0.js", spelledText .direct "b.c"), ("/f1.js", spelledText .getter "b.c"),
    ("/f2.js", spelledText .direct "b.c.C"), ("/f3.js", spelledText .getter "b.c.C"),
    ("/f4.js", spelledText .direct "require('./b')"), ("/f5.js", spelledText .getter "require('./b')"),
    ("/b.js", wrappedText "var c = require('./c'); exports.c = c;"), ("/c.js", wrappedText "exports.C = 1;")]

/-- Of a module's member both spellings give the same; of a member of such a member the assignment gives
    itself. -/
theorem get?_of_spelling_members :
    let w := World.ofProgram spelledExports .wrappers
    let entry? := fun file questions =>
      ((w.exportsOf file).run (w.memoryAfter questions)).1.bind (·.get? "N")
    (∃ f ∈ spelledExports.files, ∃ g ∈ spelledExports.files, f.id = 0 ∧ g.id = 1 ∧
      ∃ d other, d.same other = true ∧
        ∀ questions, entry? f questions = some d ∧ entry? g questions = some other) ∧
    ∃ f ∈ spelledExports.files, f.id = 2 ∧
      ∀ questions, ∃ a value, entry? f questions = some (.inline (.assign a) value) := by
  intro w entry?
  have facts : (∀ file ∈ spelledExports.files,
        ((FileView.ofFile file).wrapperFor? .wrappers).isSome = true) ∧
      (∃ f ∈ spelledExports.files, ∃ g ∈ spelledExports.files, f.id = 0 ∧ g.id = 1 ∧
        ((FileView.ofFile f).lastSpelled? .wrappers).any (fun (spelling, name, value) =>
          ((FileView.ofFile g).lastSpelled? .wrappers).any fun (other, name', value') =>
            spelling == .direct && other == .getter && name == "N" && name' == "N" &&
              (FileView.ofFile f).refersDirectly .wrappers value &&
              (w.meant? f value).any fun d => (w.meant? g value').any d.same) = true) ∧
      ∃ f ∈ spelledExports.files, f.id = 2 ∧
        ((FileView.ofFile f).lastSpelled? .wrappers).any (fun (spelling, name, value) =>
          spelling == .direct && name == "N" && !(FileView.ofFile f).refersDirectly .wrappers value &&
            (w.meant? f value).isSome) = true := by
    unfold w
    rw [spelledExports, Program.ofTexts_eq_ofBytes]
    decide +kernel
  obtain ⟨wrapped, ⟨f, memberF, g, memberG, numberF, numberG, both⟩, h, memberH, numberH, own⟩ := facts
  refine ⟨⟨f, memberF, g, memberG, numberF, numberG, ?_⟩, h, memberH, numberH, fun questions => ?_⟩
  · obtain ⟨⟨spelling, name, value⟩, found, rest⟩ := (Option.any_eq_true _ _).1 both
    obtain ⟨⟨spelling', name', value'⟩, found', checked⟩ := (Option.any_eq_true _ _).1 rest
    simp only [Bool.and_eq_true, beq_iff_eq, Option.any_eq_true] at checked
    obtain ⟨⟨⟨⟨⟨rfl, rfl⟩, rfl⟩, rfl⟩, refers⟩, d, stands, other, standsToo, same⟩ := checked
    obtain ⟨_, _, _, shape, body, spelled⟩ := FileView.exists_of_lastSpelled? found
    obtain ⟨_, _, _, shape', body', spelled'⟩ := FileView.exists_of_lastSpelled? found'
    refine ⟨d, other, same, fun questions => ⟨?_, ?_⟩⟩
    · obtain ⟨table, answered, entry, _⟩ :=
        get?_of_spelling (.ofTexts _) wrapped memberF shape body spelled stands questions
      exact Option.bind_eq_some_iff.2 ⟨table, answered, entry (.inr refers)⟩
    · obtain ⟨table, answered, entry, _⟩ :=
        get?_of_spelling (.ofTexts _) wrapped memberG shape' body' spelled' standsToo questions
      exact Option.bind_eq_some_iff.2 ⟨table, answered, entry (.inl rfl)⟩
  · obtain ⟨⟨spelling, name, value⟩, found, checked⟩ := (Option.any_eq_true _ _).1 own
    simp only [Bool.and_eq_true, Bool.not_eq_true', beq_iff_eq] at checked
    obtain ⟨⟨⟨rfl, rfl⟩, indirect⟩, known⟩ := checked
    obtain ⟨d, stands⟩ := Option.isSome_iff_exists.1 known
    obtain ⟨_, _, _, shape, body, spelled⟩ := FileView.exists_of_lastSpelled? found
    obtain ⟨table, answered, _, entry⟩ :=
      get?_of_spelling (.ofTexts _) wrapped memberH shape body spelled stands questions
    obtain ⟨a, _, given⟩ := entry rfl indirect
    exact ⟨a, _, Option.bind_eq_some_iff.2 ⟨table, answered, given⟩⟩

/-- Of a member of such a member, and of a required module, the two spellings give different entries,
    though the values stand for the same. -/
theorem get?_of_spelling_differing :
    let w := World.ofProgram spelledExports .wrappers
    (∀ file ∈ spelledExports.files, ((FileView.ofFile file).wrapperFor? .wrappers).isSome = true) ∧
    ∀ i ∈ [2, 4], ∃ f ∈ spelledExports.files, ∃ g ∈ spelledExports.files, f.id = i ∧ g.id = i + 1 ∧
      ((FileView.ofFile f).lastSpelled? .wrappers).any (fun (spelling, name, value) =>
        ((FileView.ofFile g).lastSpelled? .wrappers).any fun (other, name', value') =>
          spelling == .direct && other == .getter && name == "N" && name' == "N" &&
            (w.meant? f value).any fun d => (w.meant? g value').any d.same) = true ∧
      ((((w.exportsOf f).run .empty).1.bind (·.get? "N")).any fun d =>
        (((w.exportsOf g).run .empty).1.bind (·.get? "N")).any fun other => !d.same other) = true := by
  rw [spelledExports, Program.ofTexts_eq_ofBytes]
  decide +kernel

end BundleLens
