/-
Module: BundleLens.Proofs.ImportAgreement
Layer: Proofs
Purpose: Where a name comes from and what it stands for agree. The two are found by rules of their own:
  the first reads only the bindings of a file, the second follows them into export tables. If the first
  names an entry of the table of a module, the second arrives at that entry. The name `exports` of a
  wrapped file is an exception: it is read as the exports of the file itself before its binding is
  looked at.
Imports: BundleLens.Proofs.FileBounds, BundleLens.Proofs.Wildcard
Main exports: Expr.head?, FileView.readsAsExports, declarationOfExpression_of_import
-/
import BundleLens.Proofs.FileBounds
import BundleLens.Proofs.Wildcard

namespace BundleLens

/-! ### Heads of references -/

/-- The identifier that a reference starts with: itself, or the object that a member is read from. -/
def Expr.head? (e : Expr) : Option Ident :=
  match e.ident? with
  | some id => some id
  | none => do (← e.member?).object.ident?

/-- Parentheses around an expression hold its nodes. -/
theorem Expr.bare_nodes_subset (e : Expr) : e.bare.nodes ⊆ e.nodes := by
  fun_induction Expr.bare e with
  | case1 span inner ih => exact fun node inside => List.mem_cons_of_mem _ (ih inside)
  | case2 e unwrapped => exact fun node inside => inside

theorem Expr.mem_nodes_of_ident? {e : Expr} {id : Ident} (named : e.ident? = some id) :
    SyntaxNode.expr (.ident id) ∈ e.nodes := by
  apply e.bare_nodes_subset
  unfold Expr.ident? at named
  split at named
  · rename_i other same
    cases named
    rw [same]
    exact Expr.mem_nodes_self _
  · cases named

/-- An expression that is a member holds its object. -/
theorem Expr.object_nodes_subset {e : Expr} {m : Member} (read : e.member? = some m) :
    m.object.nodes ⊆ e.nodes := by
  intro node inside
  apply e.bare_nodes_subset
  unfold Expr.member? at read
  split at read
  · rename_i span owner key same
    cases read
    rw [same]
    exact List.mem_cons_of_mem _ (List.mem_append_left _ inside)
  · cases read

/-- The head of a reference is a node of it. -/
theorem Expr.mem_nodes_of_head? {e : Expr} {id : Ident} (head : e.head? = some id) :
    SyntaxNode.expr (.ident id) ∈ e.nodes := by
  unfold Expr.head? at head
  split at head
  · rename_i named
    exact Expr.mem_nodes_of_ident? (named.trans head)
  · obtain ⟨m, read, named⟩ := Option.bind_eq_some_iff.1 head
    exact Expr.object_nodes_subset read (Expr.mem_nodes_of_ident? named)

theorem Expr.ReadsMember.head? {e : Expr} {m : Member} {id : Ident} {name : String}
    (reads : e.ReadsMember m id name) : e.head? = some id := by
  simp [Expr.head?, reads.unnamed, reads.read, reads.object]

/-- Whether an identifier of a file is read as the exports of the file. -/
def FileView.readsAsExports (view : FileView) (host : HostKind) (id : Ident) : Bool :=
  (view.wrapperFor? host).isSome && id.name == "exports"

/-- Whether an identifier of a wrapped file is taken out of an object by destructuring. -/
def FileView.takesApart (view : FileView) (host : HostKind) (id : Ident) : Bool :=
  (view.wrapperFor? host).isSome && match view.index.primary? id with
    | some (.destructured _ _) => true
    | _ => false

/-! ### Names -/

@[simp] theorem Declaration.inheritVia_node (d : Declaration) (via : Option String) :
    (d.inheritVia via).node = d.node := by
  unfold Declaration.inheritVia
  split <;> rfl

/-- An inquiry leads to the entry of a name: it asks for the table of the module, and stands for the
    entry if there is one. -/
def Inquiry.LeadsTo (q : Inquiry (Option Declaration)) (target : SourceFile) (name : String) : Prop :=
  ∃ next, q = .table target next ∧ ∀ table : ExportTable, ∀ entry, table.get? name = some entry →
    ∃ d, next (some table) = .done (some d) ∧ d.node = entry.node

/-- Asking for an entry leads to it, whatever is made of it but its node. -/
theorem exportedBy_leadsTo {target : SourceFile} {name : String}
    {rest : Option Declaration → Inquiry (Option Declaration)}
    (keeps : ∀ entry, ∃ d, rest (some entry) = .done (some d) ∧ d.node = entry.node) :
    (exportedBy target name >>= rest).LeadsTo target name := by
  have asks : exportedBy target name >>= rest = .table target fun found => rest (found.bind (·.get? name)) :=
    rfl
  refine ⟨_, asks, ?_⟩
  intro table entry listed
  obtain ⟨d, answered, same⟩ := keeps entry
  refine ⟨d, ?_, same⟩
  simpa only [Option.bind_some, listed] using answered

/-- What is answered where an inquiry leads to an entry. -/
theorem Inquiry.LeadsTo.run {q : Inquiry (Option Declaration)} {target : SourceFile} {name : String}
    {exports : Exports} {memory : Memory} {table : ExportTable} {entry : Declaration}
    (leads : q.LeadsTo target name) (known : ((exports target).run memory).1 = some table)
    (listed : table.get? name = some entry) :
    ∃ d, ((q.run exports).run memory).1 = some d ∧ d.node = entry.node := by
  obtain ⟨next, rfl, arrives⟩ := leads
  obtain ⟨d, answered, same⟩ := arrives table entry listed
  refine ⟨d, ?_, same⟩
  simp only [Inquiry.run_table, known, answered]
  rfl

section Names

variable {w : World} {view : FileView} {id : Ident} {binding : Binding}

/-- A name that is bound to no module and not read as `exports` is followed by the scopes of its
    file. -/
theorem identifierDeclaration_of_independent (bound : view.index.primary? id = some binding)
    (apart : view.readsAsExports w.host id = false) (independent : view.dependencyOf? w.host id = none) :
    identifierDeclaration w view id = bindingDeclaration w view binding := by
  have lexical : lexicalDeclaration w view id = bindingDeclaration w view binding := by
    simp [lexicalDeclaration, bound]
  cases wrapped : view.wrapperFor? w.host with
  | none => rw [identifierDeclaration_of_unwrapped wrapped, lexical]
  | some wrapper =>
      have other : id.name ≠ "exports" := by
        simpa [FileView.readsAsExports, wrapped] using apart
      have unbound : dependency? wrapper binding = none := by
        simpa [FileView.dependencyOf?, wrapped, bound] using independent
      have unnamed : factoryDeclaration? w view wrapper id = none := by
        simp [factoryDeclaration?, other, bound, unbound]
      rw [identifierDeclaration_eq, wrapped, Option.bind_some, unnamed, lexical]

/-- What an import declaration binds is no module that a wrapped file names. -/
theorem dependencyOf?_of_imported {decl : ImportDecl} {specifier : ImportSpecifier}
    (bound : view.index.primary? id = some (.imported decl specifier)) :
    view.dependencyOf? w.host id = none := by
  cases wrapped : view.wrapperFor? w.host <;> simp [FileView.dependencyOf?, wrapped, bound, dependency?]

/-- A name that an import declaration binds stands for what is imported. -/
theorem identifierDeclaration_imported {decl : ImportDecl} {specifier : ImportSpecifier}
    (bound : view.index.primary? id = some (.imported decl specifier))
    (apart : view.readsAsExports w.host id = false) :
    identifierDeclaration w view id = importedDeclaration w view.file decl specifier := by
  rw [identifierDeclaration_of_independent bound apart (dependencyOf?_of_imported bound)]
  simp [bindingDeclaration, originOf, originWithin]

/-- A name that is imported from a module leads to its entry in the table of the module. -/
theorem importedDeclaration_leadsTo {file target : SourceFile} {decl : ImportDecl}
    {specifier : ImportSpecifier} {source : Import}
    (imported : declaredImport? (.imported decl specifier) = some source)
    (resolved : w.program.resolve? source.source file = some target) :
    (importedDeclaration w file decl specifier).LeadsTo target source.name := by
  simp only [declaredImport?, bind, Option.bind_eq_some_iff] at imported
  obtain ⟨name, named, origin, spelled, same⟩ := imported
  cases same
  unfold importedDeclaration
  simp only [spelled, resolved]
  split
  · rename_i whole
    simp [ImportSpecifier.imported?, whole] at named
  · simp only [named]
    apply exportedBy_leadsTo
    intro entry
    exact ⟨_, rfl, entry.inheritVia_node _⟩

/-- A name that an import declaration binds to a whole module stands for the module. -/
theorem identifierDeclaration_wholeImport {target : SourceFile} {source : String}
    (bound : view.index.primary? id = some binding) (apart : view.readsAsExports w.host id = false)
    (whole : wholeImport? binding = some source)
    (resolved : w.program.resolve? source view.file = some target) :
    identifierDeclaration w view id = .done (some (.wholeModule target (bareName? source))) := by
  cases binding with
  | imported decl specifier =>
      rw [identifierDeclaration_imported bound apart]
      simp only [wholeImport?] at whole
      split at whole
      · rename_i kind
        simp [importedDeclaration, whole, resolved, kind]
      · cases whole
  | _ => cases whole

/-- A name that a wrapped file has for a module stands for the module. -/
theorem identifierDeclaration_namespace {target : SourceFile} {found : Dependency}
    (reads : view.wrapperFor? w.host = view.wrapper) (named : view.namespaceOf? id = some found)
    (apart : view.readsAsExports w.host id = false)
    (resolved : w.program.resolve? found.specifier view.file = some target) :
    identifierDeclaration w view id =
      .done (some (.wholeModule target (bareName? found.specifier))) := by
  obtain ⟨wrapper, inside, _⟩ := Option.bind_eq_some_iff.1 named
  have wrapped : view.wrapperFor? w.host = some wrapper := reads.trans inside
  have bound : view.dependencyOf? w.host id = some found := by
    rw [← FileView.namespaceOf?_of_wrapped wrapped, named]
  have other : id.name ≠ "exports" := by
    simpa [FileView.readsAsExports, wrapped] using apart
  rw [identifierDeclaration_dependency wrapped bound other]
  simp [Program.moduleDeclaration, resolved]

/-- A name that comes from an entry of the table of a module leads to the entry, unless it is
    destructured out of a required module. -/
theorem identifierDeclaration_of_import {target : SourceFile} {source : Import}
    (located : w.viewAt? id.span.lo = some view) (apart : view.readsAsExports w.host id = false)
    (whole : view.takesApart w.host id = false)
    (imported : w.importOfIdentifier? id = some source)
    (resolved : w.program.resolve? source.source view.file = some target) :
    (identifierDeclaration w view id).LeadsTo target source.name := by
  rcases World.importOfIdentifier?_cases located imported with declared | ⟨wrapped, d, inner, bound⟩
  · obtain ⟨binding, bound, declared⟩ := Option.bind_eq_some_iff.1 declared
    cases binding with
    | imported decl specifier =>
        rw [identifierDeclaration_imported bound apart]
        exact importedDeclaration_leadsTo declared resolved
    | _ => cases declared
  · simp [FileView.takesApart, bound, wrapped] at whole

end Names

/-! ### References -/

section References

variable {w : World} {view : FileView} {e : Expr} {target : SourceFile}

/-- What a member stands for, unless it is read from an `exports` whose table may be in the making. -/
theorem expressionDeclaration_of_owner {m : Member} {owner : Declaration} (read : e.member? = some m)
    (named : m.name?.isSome = true) (object : expressionDeclaration w view m.object = .done (some owner))
    (apart : (m.exported?.isSome && w.readsExports view) = false) :
    expressionDeclaration w view e = memberDeclaration m e.bare owner := by
  unfold Expr.member? at read
  split at read
  · rename_i span inner key isMember
    cases read
    have plain : ((Expr.member span false inner key).exported?.isSome && w.readsExports view) = false :=
      apart
    rw [← expressionDeclaration_bare, isMember, expressionDeclaration_member_eq,
      hostExpression_of_apart plain, plainExpression_member named, object]
    rfl
  · cases read

/-- A member of a module leads to its entry in the table of the module. -/
theorem expressionDeclaration_member {m : Member} {name : String} {via : Option String}
    (read : e.member? = some m) (named : m.name? = some name)
    (owner : expressionDeclaration w view m.object = .done (some (.wholeModule target via)))
    (apart : (m.exported?.isSome && w.readsExports view) = false) :
    (expressionDeclaration w view e).LeadsTo target name := by
  rw [expressionDeclaration_of_owner read (Option.isSome_of_eq_some named) owner apart]
  simp only [memberDeclaration, named]
  apply exportedBy_leadsTo
  intro entry
  exact ⟨_, rfl, entry.inheritVia_node via⟩

/-- A member that is read from a name for a module leads to its entry in the table of the module. -/
theorem expressionDeclaration_readsMember {m : Member} {id : Ident} {name : String} {via : Option String}
    (mixed : w.host = .mixed) (reads : e.ReadsMember m id name)
    (apart : view.readsAsExports w.host id = false)
    (stands : identifierDeclaration w view id = .done (some (.wholeModule target via))) :
    (expressionDeclaration w view e).LeadsTo target name := by
  have owner := (expressionDeclaration_ident reads.object).trans stands
  apply expressionDeclaration_member reads.read reads.named owner
  rw [mixed] at apart
  by_cases other : id.name = "exports"
  · have unwrapped : view.wrapperFor? .mixed = none := by
      simpa [FileView.readsAsExports, other] using apart
    simp [World.readsExports, mixed, unwrapped]
  · simp [Member.exported?, Expr.isNamed, reads.object, other]

/-- If an expression comes from an entry of the table of a module, it leads to the entry. -/
theorem expressionDeclaration_of_import {source : Import} (mixed : w.host = .mixed)
    (here : w.viewAt? e.bare.span.lo = some view)
    (located : ∀ id, e.head? = some id → w.viewAt? id.span.lo = some view)
    (apart : ∀ id, e.head? = some id → view.readsAsExports w.host id = false)
    (whole : ∀ id, e.head? = some id → view.takesApart w.host id = false)
    (imported : w.importOfExpression? e = some source)
    (resolved : w.program.resolve? source.source view.file = some target) :
    (expressionDeclaration w view e).LeadsTo target source.name := by
  rcases World.importOfExpression?_cases here imported with
    declared | ⟨byWrapper, m, id, found, reads, names, same⟩
  · rcases World.declaredImportOf?_cases declared with ⟨id, named, imported⟩ | ⟨m, id, reads, imported⟩
    · have head : e.head? = some id := by simp [Expr.head?, named]
      rw [expressionDeclaration_ident named]
      exact identifierDeclaration_of_import (located id head) (apart id head) (whole id head) imported
        resolved
    · have head := reads.head?
      simp only [World.wholeImportOf?, located id head, bind, Option.bind_some] at imported
      obtain ⟨binding, bound, wholly⟩ := Option.bind_eq_some_iff.1 imported
      exact expressionDeclaration_readsMember mixed reads (apart id head)
        (identifierDeclaration_wholeImport bound (apart id head) wholly resolved)
  · have head := reads.head?
    simp only [World.namespaceOf?, located id head, bind, Option.bind_some] at names
    rw [← same] at resolved
    exact expressionDeclaration_readsMember mixed reads (apart id head)
      (identifierDeclaration_namespace byWrapper names (apart id head) resolved)

end References

/-- Where an expression comes from and what it stands for agree in files of both formats, whatever is
    remembered: if the expression is imported under a name from a module whose table has an entry for
    the name, it stands for the node of the entry. -/
theorem declarationOfExpression_of_import {program : Program} (built : program.Built)
    {file target : SourceFile} (member : file ∈ program.files) {e : Expr}
    (inside : SyntaxNode.expr e ∈ file.nodes)
    (apart : ∀ id, e.head? = some id → (FileView.ofFile file).readsAsExports .mixed id = false)
    (whole : ∀ id, e.head? = some id → (FileView.ofFile file).takesApart .mixed id = false)
    (memory : Memory) {source : Import} {table : ExportTable} {entry : Declaration} :
    let w := World.ofProgram program .mixed
    w.importOfExpression? e = some source → program.resolve? source.source file = some target →
      ((w.exportsOf target).run memory).1 = some table → table.get? source.name = some entry →
      ∃ d, ((w.declarationOfExpression e).run memory).1 = some d ∧ d.node = entry.node := by
  intro w imported resolved known listed
  have located : ∀ id, e.head? = some id → w.viewAt? id.span.lo = some (.ofFile file) := by
    intro id head
    exact built.viewAt?_of_node member (file.nodes_closed e inside (Expr.mem_nodes_of_head? head))
  have here : w.viewAt? e.span.lo = some (.ofFile file) := built.viewAt?_of_node member inside
  have bareHere : w.viewAt? e.bare.span.lo = some (.ofFile file) :=
    built.viewAt?_of_node member
      (file.nodes_closed e inside (e.bare_nodes_subset (Expr.mem_nodes_self _)))
  have leads : (expressionDeclaration w (.ofFile file) e).LeadsTo target source.name :=
    expressionDeclaration_of_import rfl bareHere located apart whole imported resolved
  have inquiry : w.expressionInquiry e = expressionDeclaration w (.ofFile file) e := by
    simp only [World.expressionInquiry, here]
  rw [World.declarationOfExpression, inquiry]
  exact leads.run known listed

/-- The expressions of a file. -/
def SourceFile.exprs (file : SourceFile) : List Expr :=
  file.nodes.filterMap fun
    | .expr e => some e
    | _ => none

theorem SourceFile.mem_nodes_of_exprs {file : SourceFile} {e : Expr} (listed : e ∈ file.exprs) :
    SyntaxNode.expr e ∈ file.nodes := by
  obtain ⟨node, inside, same⟩ := List.mem_filterMap.1 listed
  cases node with
  | expr other =>
      cases same
      exact inside
  | _ => cases same

/-- A module and a wrapped file that take an export of a wrapped file in different ways. -/
def importers : Program :=
  .ofTexts [("/a.js", "import \x7b C as c \x7d from './b'; import * as b from './b'; c; (b).C;"),
    ("/b.js", wrappedText "exports.C = 1;"),
    ("/c.js", wrappedText "var b = require('./b'); b.C;")]

/-- The node of an entry in the table of the module with a name, as the table is made at first. -/
def Program.entryNode? (program : Program) (file : SourceFile) (source : Import) : Option DeclNode := do
  let target ← program.resolve? source.source file
  let table ← (((World.ofProgram program .mixed).exportsOf target).run .empty).1
  return (← table.get? source.name).node

/-- All of them stand for the export. -/
theorem declarationOfExpression_importers :
    let w := World.ofProgram importers .mixed
    let source : Import := ⟨"C", "./b"⟩
    (importers.files.flatMap SourceFile.exprs).countP (w.importOfExpression? · == some source) = 3 ∧
      ∀ file ∈ importers.files, ∀ e ∈ file.exprs, w.importOfExpression? e = some source →
        ∃ d, ((w.declarationOfExpression e).run .empty).1 = some d ∧
          importers.entryNode? file source = some d.node := by
  intro w source
  have facts : (importers.files.flatMap SourceFile.exprs).countP
        (w.importOfExpression? · == some source) = 3 ∧
      ∀ file ∈ importers.files, ∀ e ∈ file.exprs, w.importOfExpression? e = some source →
        (importers.entryNode? file source).isSome = true ∧
          (∀ id ∈ e.head?, (FileView.ofFile file).readsAsExports .mixed id = false) ∧
          ∀ id ∈ e.head?, (FileView.ofFile file).takesApart .mixed id = false := by
    unfold w
    rw [importers, Program.ofTexts_eq_ofBytes]
    decide +kernel
  refine ⟨facts.1, ?_⟩
  intro file member e listed imported
  obtain ⟨known, apart, whole⟩ := facts.2 file member e listed imported
  obtain ⟨node, found⟩ := Option.isSome_iff_exists.1 known
  have entries := found
  simp only [Program.entryNode?, bind, Option.bind_eq_some_iff] at entries
  obtain ⟨target, resolved, table, made, entry, present, same⟩ := entries
  obtain ⟨d, answered, agrees⟩ := declarationOfExpression_of_import (.ofTexts _) member
    (SourceFile.mem_nodes_of_exprs listed) apart whole .empty imported resolved made present
  refine ⟨d, answered, ?_⟩
  rw [found, agrees]
  exact same.symm

/-- Wrapped files that bind `exports` to a required module, and that take a required module apart. -/
def misreadImports : Program :=
  .ofTexts [("/a.js", wrappedText "var exports = require('./b'); exports.B;"),
    ("/b.js", wrappedText "exports.B = 2;"),
    ("/c.js", wrappedText "const \x7b B: c \x7d = require('./b'); c;")]

/-- Neither condition can be left out. Both files import an export of the other one; a member of the
    bound `exports` stands for nothing, and a name that is taken out of the module stands for itself. -/
theorem declarationOfExpression_misreadImports :
    let w := World.ofProgram misreadImports .mixed
    let source : Import := ⟨"B", "./b"⟩
    (∃ file ∈ misreadImports.files, ∃ e ∈ file.exprs, w.importOfExpression? e = some source ∧
        (misreadImports.entryNode? file source).isSome = true ∧
        ((w.declarationOfExpression e).run .empty).1.isNone = true) ∧
      ∃ file ∈ misreadImports.files, ∃ e ∈ file.exprs, w.importOfExpression? e = some source ∧
        (misreadImports.entryNode? file source).any (·.name? == some "B") = true ∧
        ((w.declarationOfExpression e).run .empty).1.any (·.node.name? == some "c") = true := by
  rw [misreadImports, Program.ofTexts_eq_ofBytes]
  decide +kernel

end BundleLens
