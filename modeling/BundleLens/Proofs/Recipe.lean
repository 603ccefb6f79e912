/-
Module: BundleLens.Proofs.Recipe
Layer: Proofs
Purpose: What the making of a table asks about unfinished tables. Following a plain name never asks; a
  member of `exports` asks about the file it stands in, since in a wrapped file `exports` is the module
  itself or no module at all. So while the table of a file is made, the only unfinished table that is
  ever asked about is that very table, and only if the file is wrapped.
Imports: BundleLens.Proofs.Built, BundleLens.Proofs.Dispatch, BundleLens.Proofs.Inquiry
Main exports: expressionDeclaration_unfinishedOnly, World.recipe?_unfinishedOnly, World.recipe?_lt,
  World.recipe?_format, World.recipe?_of_mem
-/
import BundleLens.Proofs.Built
import BundleLens.Proofs.Dispatch
import BundleLens.Proofs.Inquiry

namespace BundleLens

open Inquiry (UnfinishedOnly)

variable {w : World} {view : FileView} {wrapper : Wrapper}

/-! ### Names -/

theorem exportedBy_silent (file : SourceFile) (name : String) :
    (exportedBy file name).UnfinishedOnly fun _ => False :=
  fun _ => trivial

theorem importedDeclaration_silent (w : World) (file : SourceFile) (decl : ImportDecl)
    (specifier : ImportSpecifier) :
    (importedDeclaration w file decl specifier).UnfinishedOnly fun _ => False := by
  unfold importedDeclaration
  split
  · split
    · split
      · exact trivial
      · split
        · refine (exportedBy_silent _ _).bind fun found => ?_
          cases found <;> exact trivial
        · exact trivial
    · exact trivial
  · exact trivial

/-- Following a name asks about no unfinished table. -/
theorem identifierDeclaration_silent (w : World) (view : FileView) (id : Ident) :
    (identifierDeclaration w view id).UnfinishedOnly fun _ => False := by
  rw [identifierDeclaration_eq]
  unfold lexicalDeclaration bindingDeclaration
  split
  · exact trivial
  · split
    · split
      · exact trivial
      · exact importedDeclaration_silent _ _ _ _
    · exact trivial

/-! ### Expressions -/

/-- In a wrapped file `exports` is the module itself or no module. -/
theorem factoryDeclaration?_exports (w : World) (view : FileView) (wrapper : Wrapper) {id : Ident}
    (named : id.name = "exports") :
    ∃ found, factoryDeclaration? w view wrapper id = some found ∧
      ∀ file, found.node.module? = some file → file = view.file := by
  simp only [factoryDeclaration?, named, beq_self_eq_true, if_true]
  split
  · rename_i binding _
    split
    · exact ⟨_, rfl, fun file same => (Option.some.inj same).symm⟩
    · refine ⟨_, rfl, fun file same => ?_⟩
      cases binding <;> simp [Declaration.concrete, Binding.node, DeclNode.module?] at same
  · exact ⟨_, rfl, fun file same => (Option.some.inj same).symm⟩

/-- What `exports` stands for in a wrapped file, however it is parenthesized, is known without a
    question: the module itself or no module. -/
theorem expressionDeclaration_exports (wrapped : view.wrapperFor? w.host = some wrapper) :
    ∀ {e : Expr}, e.isNamed "exports" = true →
      ∃ found, expressionDeclaration w view e = .done (some found) ∧
        ∀ file, found.node.module? = some file → file = view.file
  | .paren span inner, named => by
      have inside : inner.isNamed "exports" = true := by
        simpa [Expr.isNamed, Expr.ident?, Expr.bare] using named
      rw [expressionDeclaration_paren_eq]
      exact expressionDeclaration_exports wrapped inside
  | .ident id, named => by
      have name : id.name = "exports" := by
        simpa [Expr.isNamed, Expr.ident?, Expr.bare] using named
      obtain ⟨found, declared, own⟩ := factoryDeclaration?_exports w view wrapper name
      refine ⟨found, ?_, own⟩
      rw [expressionDeclaration_ident_eq, identifierDeclaration_of_factory wrapped declared]
  | .member .., named | .call .., named | .array .., named | .object .., named | .function .., named
  | .arrow .., named | .classExpr .., named | .unary .., named | .binary .., named
  | .assign .., named | .superMember .., named | .conditional .., named | .sequence .., named
  | .template .., named | .yield .., named | .string .., named | .number .., named
  | .atom .., named => by
      simp [Expr.isNamed, Expr.ident?, Expr.bare] at named

theorem memberDeclaration_silent (m : Member) (e : Expr) (owner : Declaration) :
    (memberDeclaration m e owner).UnfinishedOnly fun _ => False := by
  unfold memberDeclaration
  split
  · split
    · exact trivial
    · split
      · refine (exportedBy_silent _ _).bind fun found => ?_
        cases found <;> exact trivial
      · exact trivial
  · exact trivial

/-- A thing asks at most whether the module that it is is unfinished. -/
theorem unfinishedModule_unfinishedOnly {about : SourceFile → Prop} {owner : Declaration}
    (own : ∀ file, owner.node.module? = some file → about file) :
    (unfinishedModule owner).UnfinishedOnly about := by
  unfold unfinishedModule
  split
  · rename_i file found
    exact ⟨own file found, fun _ => trivial⟩
  · exact trivial

/-- The rules for files with declarations ask about unfinished tables only through the object of a
    member. -/
theorem plainExpression_unfinishedOnly {about : SourceFile → Prop}
    {object : Inquiry (Option Declaration)} (asks : object.UnfinishedOnly about) (w : World)
    (view : FileView) (e : Expr) : (plainExpression w view object e).UnfinishedOnly about := by
  unfold plainExpression
  split
  · exact (identifierDeclaration_silent w view _).of_none
  · simp only
    split
    · exact trivial
    · refine asks.bind fun found => ?_
      cases found with
      | none => exact trivial
      | some found => exact (memberDeclaration_silent _ _ _).of_none
  · exact trivial
  · exact trivial

theorem Member.isNamed_of_exported {m : Member} (exported : m.exported?.isSome = true) :
    m.object.isNamed "exports" = true := by
  unfold Member.exported? at exported
  split at exported
  · assumption
  · cases exported

/-- The rules of a host ask no more than that, where what `exports` stands for is known before anything
    is asked. -/
theorem hostExpression_unfinishedOnly {about : SourceFile → Prop}
    {object : Inquiry (Option Declaration)} {e : Expr} (asks : object.UnfinishedOnly about)
    (known : e.exported?.isSome = true → ∃ found, object = .done (some found) ∧
      ∀ file, found.node.module? = some file → about file) :
    (hostExpression w view object e).UnfinishedOnly about := by
  have plain := plainExpression_unfinishedOnly asks w view e
  rw [hostExpression_eq]
  split
  · unfold wrappedExpression
    split
    · rename_i exported
      obtain ⟨found, rfl, own⟩ := known exported
      refine (unfinishedModule_unfinishedOnly own).bind fun unfinished => ?_
      cases unfinished with
      | none => exact plain
      | some file => exact trivial
    · exact plain
  · exact plain

/-- An expression of a wrapped file asks about no unfinished table but that of its file. -/
theorem expressionDeclaration_unfinishedOnly (wrapped : view.wrapperFor? w.host = some wrapper)
    (e : Expr) : (expressionDeclaration w view e).UnfinishedOnly (· = view.file) := by
  fun_induction expressionDeclaration w view e with
  | case1 span inner ih => exact ih
  | case2 span chained owner key ih =>
      refine hostExpression_unfinishedOnly ih fun exported => ?_
      cases chained with
      | true => cases exported
      | false => exact expressionDeclaration_exports wrapped (Member.isNamed_of_exported exported)
  | case3 e unwrapped other =>
      refine hostExpression_unfinishedOnly trivial fun exported => ?_
      cases e with
      | paren span inner => exact absurd rfl (unwrapped span inner)
      | member span chained owner key => exact absurd rfl (other span chained owner key)
      | _ => cases exported

/-! ### Tables -/

/-- The exports of an item ask about no unfinished table. -/
theorem itemExports_silent (w : World) (view : FileView) (item : Item) :
    (itemExports w view item).UnfinishedOnly fun _ => False := by
  cases item with
  | exportDecl decl =>
      cases decl with
      | vars span kind declarators =>
          show (variableExports w view declarators).UnfinishedOnly fun _ => False
          refine UnfinishedOnly.bind (UnfinishedOnly.mapM (fun id => ?_) _) fun _ => trivial
          exact (identifierDeclaration_silent w view id).bind fun _ => trivial
      | _ => exact trivial
  | exportList specifiers =>
      refine (UnfinishedOnly.mapM (fun specifier => ?_) _).bind fun _ => trivial
      unfold ownSpecifier
      split
      · exact (identifierDeclaration_silent w view _).bind fun _ => trivial
      · exact trivial
  | exportFrom specifiers source =>
      simp only [itemExports]
      split
      · exact fun _ => trivial
      · exact trivial
  | exportAll source =>
      simp only [itemExports]
      split
      · intro found
        cases found <;> exact trivial
      · exact trivial
  | exportValue value =>
      simp only [itemExports, valueExport]
      split
      · exact (identifierDeclaration_silent w view _).bind fun _ => trivial
      · exact trivial
  | exportClass name cls => exact trivial
  | exportFunction name func => exact trivial
  | stmt s => exact trivial
  | importDecl decl => exact trivial
  | other => exact trivial

/-- The exports of a statement of a factory ask about no unfinished table but that of the file. -/
theorem stmtExports_unfinishedOnly (wrapped : view.wrapperFor? w.host = some wrapper) (s : Stmt) :
    (stmtExports w view s).UnfinishedOnly (· = view.file) := by
  have follow := expressionDeclaration_unfinishedOnly wrapped
  unfold stmtExports
  split
  · refine UnfinishedOnly.mapM (fun target => ?_) _
    refine UnfinishedOnly.bind ?_ fun _ => trivial
    unfold referredValue
    split
    · exact (identifierDeclaration_silent w view _).of_none
    · simp only
      split
      · exact follow _
      · exact trivial
  · split
    · exact (follow _).bind fun _ => trivial
    · split
      · unfold wildcardExports
        refine UnfinishedOnly.bind ?_ fun target => ?_
        · unfold wildcardTarget
          split
          · exact trivial
          · refine (follow _).bind fun found => ?_
            cases found <;> exact trivial
        · split
          · split
            · exact trivial
            · intro found
              cases found <;> exact trivial
          · exact trivial
      · exact trivial

/-- The making of a table asks about no unfinished table but its own, and only in a wrapped file. -/
theorem World.recipe?_unfinishedOnly (proper : w.Proper) {id : Nat} {recipe : Recipe}
    (found : w.recipe? id = some recipe) :
    recipe.steps.UnfinishedOnly fun file => file.id = id ∧ recipe.format = .wrappers := by
  obtain ⟨view, place, made⟩ := Option.bind_eq_some_iff.1 found
  have number : view.file.id = id := proper.numbered id view place
  obtain ⟨wrapper, wrapped, rfl⟩ | ⟨_, rfl⟩ := FileView.recipe?_cases made
  · have only : (factoryTable w view wrapper).UnfinishedOnly (· = view.file) :=
      (UnfinishedOnly.mapM (stmtExports_unfinishedOnly wrapped) _).bind fun _ => trivial
    exact only.mono fun file same => ⟨same ▸ number, rfl⟩
  · exact UnfinishedOnly.of_none
      ((UnfinishedOnly.mapM (itemExports_silent w view) _).bind fun _ => trivial)

theorem World.recipe?_lt {id : Nat} {recipe : Recipe} (found : w.recipe? id = some recipe) :
    id < w.views.length := by
  obtain ⟨view, place, _⟩ := Option.bind_eq_some_iff.1 found
  exact (List.getElem?_eq_some_iff.1 place).1

/-- A table is made by the format that its file is read by. -/
theorem World.recipe?_format {id : Nat} {recipe : Recipe} (found : w.recipe? id = some recipe) :
    ∃ view ∈ w.views,
      recipe.format = if (view.wrapperFor? w.host).isSome then .wrappers else .modules := by
  obtain ⟨view, place, made⟩ := Option.bind_eq_some_iff.1 found
  refine ⟨view, List.mem_of_getElem? place, ?_⟩
  obtain ⟨wrapper, wrapped, rfl⟩ | ⟨unwrapped, rfl⟩ := FileView.recipe?_cases made
  · simp [wrapped]
  · simp [unwrapped]

/-- The table of a file of the program is made as its view says. -/
theorem World.recipe?_of_mem {program : Program} (built : program.Built) (host : HostKind)
    {file : SourceFile} (member : file ∈ program.files) :
    (World.ofProgram program host).recipe? file.id =
      (FileView.ofFile file).recipe? (World.ofProgram program host) := by
  have place : (World.ofProgram program host).views[file.id]? = some (.ofFile file) := by
    simp [World.ofProgram, built.getElem? member]
  simp only [World.recipe?, place, bind, Option.bind_some]

end BundleLens
