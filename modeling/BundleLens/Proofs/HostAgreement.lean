/-
Module: BundleLens.Proofs.HostAgreement
Layer: Proofs
Purpose: Two hosts that give the same answers. One looks at the format of a file and sends a question to
  the rules for wrapped files or to those for files with declarations; the other one sends all questions
  to the rules for wrapped files, which fall back where there is no wrapper. Where no declaration file
  has a wrapper, the check in front of the rules changes nothing for names, for the expressions of
  wrapped files and for tables. Other expressions are put to no host while a name is followed or a table
  is made, so both hosts make every table by the same questions, remember the same, and give the same
  answers one by one.
Imports: BundleLens.Proofs.History
Main exports: delegatedIdentifier_eq, delegatedExpression_eq, World.Delegates, World.Delegates.recipe?,
  World.Delegates.exportsOf, Query, Reply, World.replies, replies_mixed_eq_wrappers
-/
import BundleLens.Proofs.History

namespace BundleLens

/-! ### The check in front of the rules -/

/-- A file is plain if it is no declaration file with a wrapper. -/
def FileView.Plain (view : FileView) : Prop := view.file.isTypings = true → view.wrapper = none

section Check

variable {w : World} {view : FileView}

/-- In a plain file the format is that of wrappers just if there is one. -/
theorem FileView.Plain.format_eq (plain : view.Plain) :
    view.format = if view.wrapper.isSome then .wrappers else .modules := by
  unfold FileView.format
  cases typings : view.file.isTypings with
  | false => rfl
  | true => rw [plain typings]; rfl

/-- The rules for wrapped files make no difference between a plain file that they are sent to and one
    that they fall back in. -/
theorem delegatedIdentifier_eq (plain : view.Plain) (id : Ident) :
    delegatedIdentifier w view id = wrappedIdentifier w view id := by
  rw [delegatedIdentifier, plain.format_eq]
  unfold wrappedIdentifier
  cases view.wrapper <;> rfl

/-- In a file with a wrapper all expressions are sent to the rules for wrapped files. -/
theorem delegatedExpression_eq (plain : view.Plain) (wrapped : view.wrapper.isSome = true)
    (object : Inquiry (Option Declaration)) (e : Expr) :
    delegatedExpression w view object e = wrappedExpression w view object e := by
  rw [delegatedExpression, plain.format_eq, if_pos wrapped]

theorem FileView.delegatedRecipe?_eq (plain : view.Plain) :
    view.delegatedRecipe? w = view.wrappedRecipe? w := by
  rw [FileView.delegatedRecipe?, plain.format_eq]
  unfold FileView.wrappedRecipe?
  cases view.wrapper <;> rfl

end Check

/-- Two worlds over the same plain files. The host of the first one goes by the format of a file, that
    of the second one sends all questions to the rules for wrapped files. -/
structure World.Delegates (w v : World) : Prop where
  delegating : w.host = .mixed
  wrapping : v.host = .wrappers
  program : w.program = v.program
  views : w.views = v.views
  plain : ∀ view ∈ w.views, view.Plain

namespace World.Delegates

variable {w v : World} {view : FileView}

/-! ### The same names -/

theorem importedDeclaration (both : w.Delegates v) (file : SourceFile) (decl : ImportDecl)
    (specifier : ImportSpecifier) :
    importedDeclaration w file decl specifier = importedDeclaration v file decl specifier := by
  unfold BundleLens.importedDeclaration
  rw [both.program]

/-- The scopes of a file are read alike. -/
theorem lexicalDeclaration (both : w.Delegates v) (view : FileView) (id : Ident) :
    lexicalDeclaration w view id = lexicalDeclaration v view id := by
  unfold BundleLens.lexicalDeclaration bindingDeclaration
  simp only [both.importedDeclaration]

/-- The rules for wrapped files, asked by either host, say the same of a name. -/
theorem wrappedIdentifier (both : w.Delegates v) (view : FileView) (id : Ident) :
    wrappedIdentifier w view id = wrappedIdentifier v view id := by
  unfold BundleLens.wrappedIdentifier factoryDeclaration?
  simp only [both.program, both.lexicalDeclaration]

/-- A name is followed by both hosts alike. -/
theorem identifierDeclaration (both : w.Delegates v) (plain : view.Plain) (id : Ident) :
    identifierDeclaration w view id = identifierDeclaration v view id := by
  unfold BundleLens.identifierDeclaration
  rw [both.delegating, both.wrapping]
  exact (delegatedIdentifier_eq plain id).trans (both.wrappedIdentifier view id)

/-! ### The same expressions of wrapped files -/

/-- The rules for files with declarations put names back to the host, and so say the same. -/
theorem plainExpression (both : w.Delegates v) (plain : view.Plain)
    (object : Inquiry (Option Declaration)) (e : Expr) :
    plainExpression w view object e = plainExpression v view object e := by
  unfold BundleLens.plainExpression
  simp only [both.identifierDeclaration plain, both.program]

theorem wrappedExpression (both : w.Delegates v) (plain : view.Plain)
    (object : Inquiry (Option Declaration)) (e : Expr) :
    wrappedExpression w view object e = wrappedExpression v view object e := by
  unfold BundleLens.wrappedExpression
  simp only [both.plainExpression plain]

theorem hostExpression (both : w.Delegates v) (plain : view.Plain) (wrapped : view.wrapper.isSome = true)
    (object : Inquiry (Option Declaration)) (e : Expr) :
    hostExpression w view object e = hostExpression v view object e := by
  unfold BundleLens.hostExpression
  rw [both.delegating, both.wrapping]
  exact (delegatedExpression_eq plain wrapped object e).trans (both.wrappedExpression plain object e)

/-- An expression of a wrapped file is followed by both hosts alike; by induction on its objects. -/
theorem expressionDeclaration (both : w.Delegates v) (plain : view.Plain)
    (wrapped : view.wrapper.isSome = true) (e : Expr) :
    expressionDeclaration w view e = expressionDeclaration v view e := by
  fun_induction BundleLens.expressionDeclaration w view e with
  | case1 span inner ih => rw [ih, expressionDeclaration_paren_eq]
  | case2 span chained owner key ih =>
      rw [both.hostExpression plain wrapped, ih, BundleLens.expressionDeclaration]
  | case3 e unwrapped other =>
      rw [both.hostExpression plain wrapped, BundleLens.expressionDeclaration]
      · exact unwrapped
      · exact other

/-! ### The same tables -/

/-- An item adds the same exports. -/
theorem itemExports (both : w.Delegates v) (plain : view.Plain) (item : Item) :
    itemExports w view item = itemExports v view item := by
  have name := both.identifierDeclaration plain
  cases item with
  | exportDecl decl =>
      cases decl with
      | vars span kind declarators =>
          show variableExports w view declarators = variableExports v view declarators
          simp only [variableExports, name]
      | _ => rfl
  | exportList specifiers =>
      have own : ownSpecifier w view = ownSpecifier v view := by
        funext specifier
        unfold ownSpecifier
        simp only [name]
      simp only [BundleLens.itemExports, own]
  | exportFrom specifiers source =>
      simp only [BundleLens.itemExports, World.sourceModule?, both.program]
  | exportAll source => simp only [BundleLens.itemExports, World.sourceModule?, both.program]
  | exportValue value => simp only [BundleLens.itemExports, valueExport, name]
  | _ => rfl

/-- A statement of a factory adds the same exports. -/
theorem stmtExports (both : w.Delegates v) (plain : view.Plain) (wrapped : view.wrapper.isSome = true)
    (s : Stmt) : stmtExports w view s = stmtExports v view s := by
  have name := both.identifierDeclaration plain
  have follow := both.expressionDeclaration plain wrapped
  have value : referredValue w view = referredValue v view := by
    funext value
    simp only [referredValue, name, follow]
  have copied : wildcardExports w view = wildcardExports v view := by
    funext source
    simp only [wildcardExports, wildcardTarget, both.program, follow]
  simp only [BundleLens.stmtExports, value, follow, copied]

theorem declaredRecipe? (both : w.Delegates v) (plain : view.Plain) :
    view.declaredRecipe? w = view.declaredRecipe? v := by
  unfold FileView.declaredRecipe? moduleTable
  rw [funext (both.itemExports plain)]

/-- The rules for wrapped files, asked by either host, make a table in the same way. -/
theorem wrappedRecipe? (both : w.Delegates v) (plain : view.Plain) :
    view.wrappedRecipe? w = view.wrappedRecipe? v := by
  unfold FileView.wrappedRecipe?
  cases wrapped : view.wrapper with
  | none => exact both.declaredRecipe? plain
  | some wrapper =>
      have statements := both.stmtExports plain (Option.isSome_of_eq_some wrapped)
      simp only [factoryTable, funext statements]

/-- The table of a file is made by both hosts in the same way. -/
theorem recipe? (both : w.Delegates v) (id : Nat) : w.recipe? id = v.recipe? id := by
  unfold World.recipe?
  rw [← both.views]
  apply Option.bind_congr
  intro view found
  have plain := both.plain view (List.mem_of_getElem? found)
  unfold FileView.recipe?
  rw [both.delegating, both.wrapping]
  exact (FileView.delegatedRecipe?_eq plain).trans (both.wrappedRecipe? plain)

/-- A bounded search for a table goes the same way, with the same tables remembered, in the making and
    cut off at every step. -/
theorem exportsWithin (both : w.Delegates v) (depth : Nat) :
    exportsWithin w depth = exportsWithin v depth := by
  induction depth with
  | zero => rfl
  | succ depth ih =>
      funext file
      simp only [BundleLens.exportsWithin, both.recipe?, ih]

theorem exportsOf (both : w.Delegates v) : w.exportsOf = v.exportsOf := by
  unfold World.exportsOf
  rw [both.exportsWithin, both.program]

/-- What an identifier stands for is looked up by both hosts in the same way. -/
theorem declarationOfIdentifier (both : w.Delegates v) (id : Ident) :
    w.declarationOfIdentifier id = v.declarationOfIdentifier id := by
  have place : w.viewAt? id.span.lo = v.viewAt? id.span.lo := by
    simp only [World.viewAt?, World.view?, both.program, both.views]
  have inquiry : w.identifierInquiry id = v.identifierInquiry id := by
    unfold World.identifierInquiry
    rw [← place]
    cases found : w.viewAt? id.span.lo with
    | none => rfl
    | some view =>
        obtain ⟨file, _, shown⟩ := Option.bind_eq_some_iff.1 found
        exact both.identifierDeclaration (both.plain view (List.mem_of_getElem? shown)) id
  unfold World.declarationOfIdentifier
  rw [inquiry, both.exportsOf]

end World.Delegates

/-! ### The same answers -/

/-- A question for a table or for what a name stands for. -/
inductive Query where
  | exports (file : SourceFile)
  | identifier (id : Ident)

/-- The answer to a question. -/
inductive Reply where
  | exports (table : Option ExportTable)
  | identifier (declaration : Option Declaration)

namespace World

/-- The answer to a question, with what is remembered. -/
def reply (w : World) : Query → Reflect Reply
  | .exports file => return .exports (← w.exportsOf file)
  | .identifier id => return .identifier (← w.declarationOfIdentifier id)

/-- The answers to questions that are put one after the other to one who remembers nothing at first. -/
def replies (w : World) (queries : List Query) : List Reply := ((queries.mapM w.reply).run .empty).1

theorem Delegates.reply {w v : World} (both : w.Delegates v) : w.reply = v.reply := by
  funext query
  cases query with
  | exports file => simp only [World.reply, both.exportsOf]
  | identifier id => simp only [World.reply, both.declarationOfIdentifier]

theorem delegates_of_plainTypings {program : Program}
    (plain : ∀ file ∈ program.files, file.isTypings = true → file.wrapper? = none) :
    (ofProgram program .mixed).Delegates (ofProgram program .wrappers) := by
  refine ⟨rfl, rfl, rfl, rfl, fun view member => ?_⟩
  obtain ⟨file, inside, rfl⟩ := List.mem_map.1 member
  exact plain file inside

end World

/-- Where no declaration file has a wrapper, a host that reads all wrappers and one that reads those of
    code answer all questions for tables and names alike, one by one and in every order. -/
theorem replies_mixed_eq_wrappers {program : Program}
    (plain : ∀ file ∈ program.files, file.isTypings = true → file.wrapper? = none)
    (queries : List Query) :
    (World.ofProgram program .mixed).replies queries =
      (World.ofProgram program .wrappers).replies queries := by
  unfold World.replies
  rw [(World.delegates_of_plainTypings plain).reply]

/-- A wrapped file and a module with declarations that copy each other's exports, with a declaration
    file beside them. -/
def typedCycle : Program :=
  .ofTexts [("/a.js", wrappedText "exports.A = 1; __export(require('./b'));"),
    ("/b.js", "import \x7b A \x7d from './a'; export * from './a'; export class B \x7b\x7d A; B;"),
    ("/b.d.ts", "export declare class B \x7b\x7d")]

/-- Questions for the tables of all files, the last one first, and then for all names. -/
def Program.queries (program : Program) : List Query :=
  program.files.reverse.map .exports ++
    (program.files.flatMap fun file => (FileIndex.build file.items).references).map .identifier

/-- What an answer shows: the names of a table, or what a name stands for. -/
def Reply.shown : Reply → Option (List String)
  | .exports table => table.map (·.names)
  | .identifier declaration =>
    declaration.map fun d => ((d.node.module?.map (·.path.toString)).or d.node.name?).toList

/-- In a cycle through both formats both hosts answer all questions alike. The names are `f`, `exports`,
    `__export` and `require` in the wrapped file, and `A` and `B` in the module. -/
theorem replies_typedCycle :
    (∀ file ∈ typedCycle.files, file.isTypings = true → file.wrapper? = none) ∧
      typedCycle.files.map (·.isTypings) = [false, false, true] ∧
      ((World.ofProgram typedCycle .mixed).replies typedCycle.queries).map Reply.shown =
        [some ["B"], some ["A", "B"], some ["A"], some ["f"], some ["/a.js"], none, none, some ["A"],
          some ["B"]] ∧
      (World.ofProgram typedCycle .wrappers).replies typedCycle.queries =
        (World.ofProgram typedCycle .mixed).replies typedCycle.queries := by
  have facts : typedCycle.files.map (·.isTypings) = [false, false, true] ∧
      (∀ file ∈ typedCycle.files, file.isTypings = true → file.wrapper?.isNone = true) ∧
      ((World.ofProgram typedCycle .mixed).replies typedCycle.queries).map Reply.shown =
        [some ["B"], some ["A", "B"], some ["A"], some ["f"], some ["/a.js"], none, none, some ["A"],
          some ["B"]] := by
    rw [typedCycle, Program.ofTexts_eq_ofBytes]
    decide +kernel
  obtain ⟨kinds, plain, shown⟩ := facts
  have unwrapped : ∀ file ∈ typedCycle.files, file.isTypings = true → file.wrapper? = none :=
    fun file member typings => Option.isNone_iff_eq_none.1 (plain file member typings)
  exact ⟨unwrapped, kinds, shown, (replies_mixed_eq_wrappers unwrapped _).symm⟩

end BundleLens
