/-
Module: BundleLens.Proofs.ImportedHelpers
Layer: Proofs
Purpose: Helpers that are imported by their names and helpers that are read from a whole module. An
  entry of the module's table stands for the same either way. Without an entry only the member of the
  module is known by its name, so the two tell the same apart from that.
Imports: BundleLens.Proofs.ClassNames, BundleLens.Proofs.ImportAgreement
Main exports: FileIndex.nameImport?, FileIndex.memberImport?, World.importEntry?, known_of_imports
-/
import BundleLens.Proofs.ClassNames
import BundleLens.Proofs.ImportAgreement

namespace BundleLens

/-- The export of another module that a name stands for by its import declaration. -/
def FileIndex.nameImport? (index : FileIndex) (id : Ident) : Option Import := do
  declaredImport? (← index.primary? id)

/-- The export of another module that a member of a name for the whole module stands for. -/
def FileIndex.memberImport? (index : FileIndex) (e : Expr) : Option Import := do
  let m ← e.member?
  let source ← wholeImport? (← index.primary? (← m.object.ident?))
  return ⟨← m.name?, source⟩

/-- The entry that an import of a file leads to, if there is such a module and it exports the name. -/
def World.importEntry? (w : World) (file : SourceFile) (source : Import) (memory : Memory) :
    Option Declaration := do
  let target ← w.program.resolve? source.source file
  (← ((w.exportsOf target).run memory).1).get? source.name

@[simp] theorem Declaration.inheritVia_known (d : Declaration) (via : Option String) :
    (d.inheritVia via).known = d.known := by
  unfold Declaration.inheritVia
  split <;> rfl

/-- Asking for an entry answers what is made of the entry. -/
theorem run_exportedBy (w : World) (target : SourceFile) (name : String) (memory : Memory)
    (rest : Option Declaration → Option Declaration) :
    (((exportedBy target name >>= fun found => .done (rest found)).run w.exportsOf).run memory).1 =
      rest ((((w.exportsOf target).run memory).1).bind (·.get? name)) := rfl

/-! ### What imports stand for -/

section Imports

variable {w : World} {file : SourceFile} {decl : ImportDecl} {specifier : ImportSpecifier}

/-- What an imported name stands for: the entry of the module, or nothing that is known. -/
theorem importedDeclaration_name {source : Import}
    (imported : declaredImport? (.imported decl specifier) = some source) :
    importedDeclaration w file decl specifier =
      match w.program.resolve? source.source file with
      | none => .done (some (.missing (.importDecl decl)))
      | some target => exportedBy target source.name >>= fun found => .done (some
          ((found.map (·.inheritVia (bareName? source.source))).getD (.missing (.importDecl decl)))) := by
  simp only [declaredImport?, bind, Option.bind_eq_some_iff] at imported
  obtain ⟨name, named, origin, spelled, same⟩ := imported
  cases same
  unfold importedDeclaration
  simp only [spelled]
  cases w.program.resolve? origin file with
  | none => rfl
  | some target =>
      simp only
      split
      · rename_i whole
        simp [ImportSpecifier.imported?, whole] at named
      · simp only [named]
        refine congrArg _ (funext fun found => ?_)
        cases found <;> rfl

/-- What a name for a whole module stands for: the module, or nothing that is known. -/
theorem importedDeclaration_whole {source : String}
    (whole : wholeImport? (.imported decl specifier) = some source) :
    importedDeclaration w file decl specifier = .done (some
      ((w.program.resolve? source file).elim (.missing (.importDecl decl))
        fun target => .wholeModule target (bareName? source))) := by
  simp only [wholeImport?] at whole
  split at whole
  · rename_i kind
    unfold importedDeclaration
    cases resolved : w.program.resolve? source file <;> simp [whole, resolved, kind]
  · cases whole

/-- What a member of a module stands for that is not part of the program: a helper, or nothing known. -/
theorem memberDeclaration_missing {m : Member} {e : Expr} {owner : Declaration}
    (named : m.name?.isSome = true)
    (missing : owner.isMissing = true) :
    memberDeclaration m e owner = .done (some ((memberHelper? m e).getD (.missing (.expr e)))) := by
  obtain ⟨name, isName⟩ := Option.isSome_iff_exists.1 named
  simp [memberDeclaration, isName, missing]

/-- What a member of a module stands for: its entry, or else a helper. -/
theorem memberDeclaration_module {m : Member} {e : Expr} {target : SourceFile} {via : Option String}
    {name : String} (named : m.name? = some name) :
    memberDeclaration m e (.wholeModule target via) = exportedBy target name >>= fun found =>
      .done ((found.map (·.inheritVia via)).or (memberHelper? m e)) := by
  simp only [memberDeclaration, named, Declaration.wholeModule, Declaration.isMissing, DeclNode.module?,
    Bool.false_eq_true, if_false]
  refine congrArg _ (funext fun found => ?_)
  cases found <;> rfl

/-- A helper that is reached as a member is known by the name of the member. -/
theorem known_of_memberHelper? {m : Member} {e : Expr} {name : String} (named : m.name? = some name) :
    (memberHelper? m e).bind (·.known) = knownHelper? name := by
  cases known : knownHelper? name <;> simp [memberHelper?, named, known, Declaration.withKnown]

end Imports

section Known

variable {w : World} {file : SourceFile} {source : Import} {memory : Memory}

/-- A name that is imported is known as its entry is. -/
theorem known_of_nameImport (host : w.host = .modules) {x : Ident}
    (located : w.viewAt? x.span.lo = some (.ofFile file))
    (imported : (FileIndex.build file.items).nameImport? x = some source) :
    ((w.declarationOfIdentifier x).run memory).1.bind (·.known) =
      (w.importEntry? file source memory).bind (·.known) := by
  obtain ⟨binding, bound, declared⟩ := Option.bind_eq_some_iff.1 imported
  cases binding with
  | imported decl specifier =>
      have unread : (FileView.ofFile file).readsAsExports w.host x = false := by
        rw [host]
        rfl
      have inquiry : w.identifierInquiry x = importedDeclaration w file decl specifier := by
        simp only [World.identifierInquiry, located]
        exact identifierDeclaration_imported bound unread
      rw [World.declarationOfIdentifier, inquiry, importedDeclaration_name declared]
      unfold World.importEntry?
      cases w.program.resolve? source.source file with
      | none => rfl
      | some target =>
          simp only [run_exportedBy]
          show _ = Option.bind (((w.exportsOf target).run memory).1.bind (·.get? source.name)) _
          cases ((w.exportsOf target).run memory).1.bind (·.get? source.name) with
          | none => rfl
          | some entry => simp
  | _ => cases declared

/-- A member of a whole module is known as its entry is, or else by its name. -/
theorem known_of_memberImport (host : w.host = .modules) {e : Expr}
    (located : w.viewAt? e.span.lo = some (.ofFile file))
    (imported : (FileIndex.build file.items).memberImport? e = some source) :
    ((w.declarationOfExpression e).run memory).1.bind (·.known) =
      match w.importEntry? file source memory with
      | some entry => entry.known
      | none => knownHelper? source.name := by
  simp only [FileIndex.memberImport?, bind, Option.bind_eq_some_iff] at imported
  obtain ⟨m, read, id, object, binding, bound, origin, whole, name, named, same⟩ := imported
  cases same
  cases binding with
  | imported decl specifier =>
      have owner : expressionDeclaration w (.ofFile file) m.object = .done (some
          ((w.program.resolve? origin file).elim (.missing (.importDecl decl))
            fun target => .wholeModule target (bareName? origin))) := by
        have unread : (FileView.ofFile file).readsAsExports w.host id = false := by
          rw [host]
          rfl
        rw [expressionDeclaration_ident object, identifierDeclaration_imported bound unread]
        exact importedDeclaration_whole whole
      have finished : w.readsExports (.ofFile file) = false := by
        rw [World.readsExports, host]
      have inquiry : w.expressionInquiry e = memberDeclaration m e.bare
          ((w.program.resolve? origin file).elim (.missing (.importDecl decl))
            fun target => .wholeModule target (bareName? origin)) := by
        simp only [World.expressionInquiry, located]
        exact expressionDeclaration_of_owner read (by rw [named]; rfl) owner
          (by rw [finished, Bool.and_false])
      have byName := known_of_memberHelper? (e := e.bare) named
      rw [World.declarationOfExpression, inquiry]
      unfold World.importEntry?
      cases w.program.resolve? origin file with
      | none =>
          -- Of a module that is not part of the program every helper is known by its name.
          rw [Option.elim_none, memberDeclaration_missing (by rw [named]; rfl) rfl]
          show ((memberHelper? m e.bare).getD _).known = knownHelper? name
          rw [← byName]
          cases memberHelper? m e.bare <;> rfl
      | some target =>
          rw [Option.elim_some, memberDeclaration_module named]
          simp only [run_exportedBy]
          show _ = match ((w.exportsOf target).run memory).1.bind (·.get? name) with
            | some entry => entry.known
            | none => knownHelper? name
          cases ((w.exportsOf target).run memory).1.bind (·.get? name) with
          | none => exact byName
          | some entry => simp
  | _ => cases whole

end Known

/-- A name that is imported from a module and the member of the whole module are known as the same,
    whatever was asked before, exactly if the module has an entry for the name or no helper has the
    name. -/
theorem known_of_imports {program : Program} (built : program.Built) {file : SourceFile}
    (member : file ∈ program.files) {x : Ident} {e : Expr} {source : Import}
    (questions others : List Question) :
    let w := World.ofProgram program .modules
    let index := FileIndex.build file.items
    x ∈ index.references → index.nameImport? x = some source →
      SyntaxNode.expr e ∈ file.nodes → index.memberImport? e = some source →
      ((((w.declarationOfIdentifier x).run (w.memoryAfter questions)).1.bind (·.known) =
          ((w.declarationOfExpression e).run (w.memoryAfter others)).1.bind (·.known)) ↔
        (w.importEntry? file source .empty).isSome = true ∨ knownHelper? source.name = none) := by
  intro w index used named inside whole
  have entry : ∀ asked, w.importEntry? file source (w.memoryAfter asked) =
      w.importEntry? file source .empty := by
    intro asked
    unfold World.importEntry?
    refine Option.bind_congr fun target _ => ?_
    rw [exportsOf_after_questions built .modules asked target (Program.OneFormat.unmixed (.inl rfl) _)]
  rw [known_of_nameImport rfl (viewAt?_of_reference built member used .modules) named,
    known_of_memberImport rfl (built.viewAt?_of_node member inside) whole, entry, entry]
  cases w.importEntry? file source .empty with
  | some d => simp
  | none => simp [eq_comm]

/-- A module that imports a helper and a plain name from a file without the plain name, and a helper
    from a module that is not part of the program, each also with the whole module. -/
def helperImports : Program :=
  .ofTexts [("/a.js", "import \x7b __spread, n \x7d from './t'; import * as t from './t'; " ++
      "import \x7b __read \x7d from 'u'; import * as u from 'u'; " ++
      "__spread; t.__spread; n; t.n; __read; u.__read;"),
    ("/t.js", "export function __spread() \x7b\x7d")]

/-- The imported names of a file with the members of whole modules that stand for the same import. -/
def SourceFile.twofoldImports (file : SourceFile) : List (Ident × Expr × Import) :=
  let index := FileIndex.build file.items
  index.references.flatMap fun x => (index.nameImport? x).toList.flatMap fun source =>
    (file.exprs.filter (index.memberImport? · == some source)).map (x, ·, source)

theorem SourceFile.mem_twofoldImports {file : SourceFile} {x : Ident} {e : Expr} {source : Import}
    (listed : (x, e, source) ∈ file.twofoldImports) :
    x ∈ (FileIndex.build file.items).references ∧
      (FileIndex.build file.items).nameImport? x = some source ∧ SyntaxNode.expr e ∈ file.nodes ∧
      (FileIndex.build file.items).memberImport? e = some source := by
  obtain ⟨used, member, inside⟩ := List.mem_flatMap.1 listed
  obtain ⟨origin, imported, inside⟩ := List.mem_flatMap.1 inside
  obtain ⟨other, filtered, same⟩ := List.mem_map.1 inside
  cases same
  obtain ⟨here, imports⟩ := List.mem_filter.1 filtered
  exact ⟨member, Option.mem_toList.1 imported, SourceFile.mem_nodes_of_exprs here, eq_of_beq imports⟩

/-- The two ways to import agree there but for the helper of the module that is not part of the
    program. -/
theorem known_of_helperImports :
    let w := World.ofProgram helperImports .modules
    let imports := helperImports.files.flatMap SourceFile.twofoldImports
    imports.map (fun (x, _, source) => (x.name, source.source)) =
        [("__spread", "./t"), ("n", "./t"), ("__read", "u")] ∧
      ∀ x e source, (x, e, source) ∈ imports →
        ((((w.declarationOfIdentifier x).run .empty).1.bind (·.known) =
          ((w.declarationOfExpression e).run .empty).1.bind (·.known)) ↔ x.name ≠ "__read") := by
  have facts :
      let w := World.ofProgram helperImports .modules
      let imports := helperImports.files.flatMap SourceFile.twofoldImports
      imports.map (fun (x, _, source) => (x.name, source.source)) =
          [("__spread", "./t"), ("n", "./t"), ("__read", "u")] ∧
        ∀ file ∈ helperImports.files, ∀ entry ∈ file.twofoldImports,
          (((w.importEntry? file entry.2.2 .empty).isSome = true ∨ knownHelper? entry.2.2.name = none) ↔
            entry.1.name ≠ "__read") := by
    rw [helperImports, Program.ofTexts_eq_ofBytes]
    decide +kernel
  refine ⟨facts.1, ?_⟩
  intro x e source listed
  obtain ⟨file, member, inside⟩ := List.mem_flatMap.1 listed
  obtain ⟨used, named, here, whole⟩ := SourceFile.mem_twofoldImports inside
  exact (known_of_imports (.ofTexts _) member [] [] used named here whole).trans
    (facts.2 file member (x, e, source) inside)

/-- A helper of a module that is not part of the program is not known where it is imported by its name,
    but where it is read from the whole module. -/
theorem known_of_unresolvedHelper :
    let w := World.ofProgram helperImports .modules
    ∃ file ∈ helperImports.files, ∃ entry ∈ file.twofoldImports, entry.2.2 = ⟨"__read", "u"⟩ ∧
      ((w.declarationOfIdentifier entry.1).run .empty).1.bind (·.known) = none ∧
      ((w.declarationOfExpression entry.2.1).run .empty).1.bind (·.known) = some .read := by
  rw [helperImports, Program.ofTexts_eq_ofBytes]
  decide +kernel

end BundleLens
