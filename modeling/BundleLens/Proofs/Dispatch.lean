/-
Module: BundleLens.Proofs.Dispatch
Layer: Proofs
Purpose: How the hosts send questions to their rules. Two rule sets answer, those for files with
  declarations and those for wrapped files, and each host has its own way to them. All three ways lead
  to the same place: where the host finds a wrapper in a file the rules for wrapped files answer, and
  elsewhere those for files with declarations. Only `exports` is read as the object of the exports by
  one host in files without a wrapper.
Imports: BundleLens.Reflection.ExportTable
Main exports: FileView.wrapperFor?, FileView.dependencyOf?, World.readsExports,
  identifierDeclaration_eq, hostExpression_eq, expressionDeclaration_ident_eq,
  expressionDeclaration_member_eq, FileView.recipe?_eq, World.importOfIdentifier?_cases,
  World.importOfExpression?_cases
-/
import BundleLens.Reflection.ExportTable

namespace BundleLens

/-! ### What a host finds -/

/-- The wrapper of a file, if the host reads it by its wrapper. -/
def FileView.wrapperFor? (view : FileView) : HostKind → Option Wrapper
  | .modules => none
  | .wrappers => view.wrapper
  | .mixed => if view.file.isTypings then none else view.wrapper

/-- The module that an identifier of a file names, if the file is read by its wrapper. -/
def FileView.dependencyOf? (view : FileView) (host : HostKind) (id : Ident) : Option Dependency := do
  let wrapper ← view.wrapperFor? host
  dependency? wrapper (← view.index.primary? id)

/-- Whether `exports` means the object of the exports in a file. Where wrappers are read in every file,
    it is so in every file. -/
def World.readsExports (w : World) (view : FileView) : Bool :=
  match w.host with
  | .modules => false
  | .wrappers => true
  | .mixed => (view.wrapperFor? .mixed).isSome

section Dispatch

variable {w : World} {view : FileView} {wrapper : Wrapper} {host : HostKind}

theorem FileView.wrapper_of_wrapperFor? (wrapped : view.wrapperFor? host = some wrapper) :
    view.wrapper = some wrapper := by
  cases host with
  | modules => cases wrapped
  | wrappers => exact wrapped
  | mixed =>
      simp only [FileView.wrapperFor?] at wrapped
      split at wrapped
      · cases wrapped
      · exact wrapped

/-- The format of a file is that of wrappers just if the host that goes by it finds one. -/
theorem FileView.format_eq (view : FileView) :
    view.format = if (view.wrapperFor? .mixed).isSome then .wrappers else .modules := by
  unfold FileView.format FileView.wrapperFor?
  cases view.file.isTypings <;> rfl

/-- In a file that the host reads by its wrapper, the names of modules are those of the wrapper. -/
theorem FileView.namespaceOf?_of_wrapped (wrapped : view.wrapperFor? host = some wrapper) :
    view.namespaceOf? = view.dependencyOf? host := by
  funext id
  rw [FileView.namespaceOf?, FileView.dependencyOf?, wrapped, view.wrapper_of_wrapperFor? wrapped]

/-! ### Identifiers -/

/-- A name of a file is answered by the wrapper that the host finds, or else by the scopes. -/
theorem identifierDeclaration_eq (w : World) (view : FileView) (id : Ident) :
    identifierDeclaration w view id =
      match (view.wrapperFor? w.host).bind (factoryDeclaration? w view · id) with
      | some declaration => .done (some declaration)
      | none => lexicalDeclaration w view id := by
  have byWrapper : wrappedIdentifier w view id =
      match view.wrapper.bind (factoryDeclaration? w view · id) with
      | some declaration => .done (some declaration)
      | none => lexicalDeclaration w view id := by
    unfold wrappedIdentifier
    cases view.wrapper <;> rfl
  unfold identifierDeclaration
  cases w.host with
  | modules => rfl
  | wrappers => exact byWrapper
  | mixed =>
      simp only [delegatedIdentifier, FileView.format, FileView.wrapperFor?, byWrapper]
      cases view.file.isTypings <;> cases view.wrapper <;> rfl

theorem identifierDeclaration_of_unwrapped (unwrapped : view.wrapperFor? w.host = none) (id : Ident) :
    identifierDeclaration w view id = lexicalDeclaration w view id := by
  rw [identifierDeclaration_eq, unwrapped, Option.bind_none]

theorem identifierDeclaration_of_factory {id : Ident} {declaration : Declaration}
    (wrapped : view.wrapperFor? w.host = some wrapper)
    (named : factoryDeclaration? w view wrapper id = some declaration) :
    identifierDeclaration w view id = .done (some declaration) := by
  rw [identifierDeclaration_eq, wrapped, Option.bind_some, named]

/-! ### Expressions -/

/-- An expression is answered by the rules for wrapped files where `exports` is the object of the
    exports. -/
theorem hostExpression_eq (w : World) (view : FileView) (object : Inquiry (Option Declaration))
    (e : Expr) :
    hostExpression w view object e =
      if w.readsExports view then wrappedExpression w view object e
      else plainExpression w view object e := by
  unfold hostExpression World.readsExports
  cases w.host with
  | modules => rfl
  | wrappers => rfl
  | mixed =>
      simp only [delegatedExpression, FileView.format_eq]
      cases view.wrapperFor? .mixed <;> rfl

/-- What is no member of the object of the exports is answered by the rules for files with
    declarations. -/
theorem hostExpression_of_apart {object : Inquiry (Option Declaration)} {e : Expr}
    (apart : (e.exported?.isSome && w.readsExports view) = false) :
    hostExpression w view object e = plainExpression w view object e := by
  rw [hostExpression_eq]
  cases reads : w.readsExports view with
  | false => rfl
  | true =>
      rw [reads, Bool.and_true] at apart
      simp [wrappedExpression, apart]

theorem expressionDeclaration_paren_eq (w : World) (view : FileView) (span : Span) (inner : Expr) :
    expressionDeclaration w view (.paren span inner) = expressionDeclaration w view inner := by
  rw [expressionDeclaration]

theorem expressionDeclaration_ident_eq (w : World) (view : FileView) (id : Ident) :
    expressionDeclaration w view (.ident id) = identifierDeclaration w view id := by
  rw [expressionDeclaration, hostExpression_of_apart rfl]
  · rfl
  · rintro _ _ ⟨⟩
  · rintro _ _ _ _ ⟨⟩

theorem expressionDeclaration_member_eq (w : World) (view : FileView) (span : Span) (owner : Expr)
    (key : Key) :
    expressionDeclaration w view (.member span false owner key) =
      hostExpression w view (expressionDeclaration w view owner) (.member span false owner key) := by
  rw [expressionDeclaration]

/-- A member that is not read from `exports` is looked up in the table of the module that its object
    is. -/
theorem plainExpression_member {object : Inquiry (Option Declaration)} {span : Span} {owner : Expr}
    {key : Key} (named : (Member.name? ⟨span, owner, key⟩).isSome = true) :
    plainExpression w view object (.member span false owner key) = (do
      match ← object with
      | some found => memberDeclaration ⟨span, owner, key⟩ (.member span false owner key) found
      | none => return none) := by
  have given : ¬ (Member.name? ⟨span, owner, key⟩).isNone = true := by
    rw [Option.isNone_eq_false_iff.2 named]
    exact Bool.false_ne_true
  exact if_neg given

/-! ### Tables -/

/-- A table is made by the wrapper that the host finds, or else by the declarations of the file. -/
theorem FileView.recipe?_eq (w : World) (view : FileView) :
    view.recipe? w =
      match view.wrapperFor? w.host with
      | some wrapper => some ⟨.wrappers, factoryTable w view wrapper⟩
      | none => view.declaredRecipe? w := by
  have byWrapper : view.wrappedRecipe? w =
      match view.wrapper with
      | some wrapper => some ⟨.wrappers, factoryTable w view wrapper⟩
      | none => view.declaredRecipe? w := by
    unfold FileView.wrappedRecipe?
    cases view.wrapper <;> rfl
  unfold FileView.recipe?
  cases w.host with
  | modules => rfl
  | wrappers => exact byWrapper
  | mixed =>
      simp only [FileView.delegatedRecipe?, FileView.format, FileView.wrapperFor?, byWrapper]
      cases view.file.isTypings <;> cases view.wrapper <;> rfl

theorem FileView.recipe?_of_wrapped (wrapped : view.wrapperFor? w.host = some wrapper) :
    view.recipe? w = some ⟨.wrappers, factoryTable w view wrapper⟩ := by
  rw [FileView.recipe?_eq, wrapped]

theorem FileView.recipe?_of_unwrapped (unwrapped : view.wrapperFor? w.host = none) :
    view.recipe? w = view.declaredRecipe? w := by
  rw [FileView.recipe?_eq, unwrapped]

/-- A table is made by the wrapper that the host finds, or by the declarations of a module. -/
theorem FileView.recipe?_cases {recipe : Recipe} (made : view.recipe? w = some recipe) :
    (∃ wrapper, view.wrapperFor? w.host = some wrapper ∧
      recipe = ⟨.wrappers, factoryTable w view wrapper⟩) ∨
    (view.wrapperFor? w.host = none ∧ recipe = ⟨.modules, moduleTable w view⟩) := by
  cases wrapped : view.wrapperFor? w.host with
  | some wrapper =>
      rw [recipe?_of_wrapped wrapped] at made
      exact .inl ⟨wrapper, rfl, (Option.some.inj made).symm⟩
  | none =>
      rw [recipe?_of_unwrapped wrapped, declaredRecipe?] at made
      split at made
      · exact .inr ⟨rfl, (Option.some.inj made).symm⟩
      · cases made

/-! ### Imports of names -/

theorem FileView.wrappedImportOf?_cases {id : Ident} {source : Import}
    (imported : view.wrappedImportOf? id = some source) :
    view.declaredImportOf? id = some source ∨
      view.wrapper.isSome = true ∧ ∃ d inner, view.index.primary? id = some (.destructured d inner) := by
  unfold FileView.wrappedImportOf? at imported
  split at imported
  · exact .inl imported
  · rename_i wrapper wrapped
    obtain ⟨binding, bound, imported⟩ := Option.bind_eq_some_iff.1 imported
    split at imported
    · exact .inr ⟨by rw [wrapped]; rfl, _, _, bound⟩
    · exact .inl imported

/-- A name is imported by an import declaration, or it is taken out of a required module in a file that
    the host reads by its wrapper. -/
theorem World.importOfIdentifier?_cases {id : Ident} {source : Import}
    (located : w.viewAt? id.span.lo = some view) (imported : w.importOfIdentifier? id = some source) :
    view.declaredImportOf? id = some source ∨
      (view.wrapperFor? w.host).isSome = true ∧
        ∃ d inner, view.index.primary? id = some (.destructured d inner) := by
  unfold World.importOfIdentifier? at imported
  simp only [located, bind, Option.bind_some] at imported
  cases host : w.host with
  | modules =>
      rw [host] at imported
      exact .inl imported
  | wrappers =>
      rw [host] at imported
      exact FileView.wrappedImportOf?_cases imported
  | mixed =>
      simp only [host, FileView.delegatedImportOf?, FileView.format_eq] at imported
      cases wrapped : view.wrapperFor? .mixed with
      | none =>
          rw [wrapped] at imported
          exact .inl imported
      | some wrapper =>
          rw [wrapped] at imported
          exact (FileView.wrappedImportOf?_cases imported).imp_right fun apart => ⟨rfl, apart.2⟩

/-! ### Imports of members -/

/-- An expression is a member with a name that is read from an identifier. -/
structure Expr.ReadsMember (e : Expr) (m : Member) (id : Ident) (name : String) : Prop where
  unnamed : e.ident? = none
  read : e.member? = some m
  object : m.object.ident? = some id
  named : m.name? = some name

theorem World.declaredImportOf?_cases {e : Expr} {source : Import}
    (imported : w.declaredImportOf? e = some source) :
    (∃ id, e.ident? = some id ∧ w.importOfIdentifier? id = some source) ∨
      ∃ m id, e.ReadsMember m id source.name ∧ w.wholeImportOf? id = some source.source := by
  unfold World.declaredImportOf? at imported
  split at imported
  · rename_i id named
    exact .inl ⟨id, named, imported⟩
  · rename_i unnamed
    simp only [bind, Option.bind_eq_some_iff] at imported
    obtain ⟨m, read, id, object, origin, whole, name, named, same⟩ := imported
    cases same
    exact .inr ⟨m, id, ⟨unnamed, read, object, named⟩, whole⟩

theorem World.wrappedImportOf?_cases {e : Expr} {source : Import}
    (imported : w.wrappedImportOf? e = some source) :
    w.declaredImportOf? e = some source ∨
      ∃ m id found, e.ReadsMember m id source.name ∧ w.namespaceOf? id = some found ∧
        found.specifier = source.source := by
  unfold World.wrappedImportOf? at imported
  split at imported
  · rename_i id named
    refine .inl ?_
    rw [World.declaredImportOf?, named]
    exact imported
  · rename_i unnamed
    obtain ⟨m, read, imported⟩ := Option.bind_eq_some_iff.1 imported
    split at imported
    · rename_i found names
      obtain ⟨id, object, names⟩ := Option.bind_eq_some_iff.1 names
      obtain ⟨name, named, same⟩ := Option.bind_eq_some_iff.1 imported
      cases same
      exact .inr ⟨m, id, found, ⟨unnamed, read, object, named⟩, names, rfl⟩
    · exact .inl imported

/-- An expression is imported by import declarations, or it is a member of a module that a name stands
    for in a file that the host reads by its wrapper. -/
theorem World.importOfExpression?_cases {e : Expr} {source : Import}
    (located : w.viewAt? e.bare.span.lo = some view) (imported : w.importOfExpression? e = some source) :
    w.declaredImportOf? e = some source ∨
      view.wrapperFor? w.host = view.wrapper ∧
        ∃ m id found, e.ReadsMember m id source.name ∧ w.namespaceOf? id = some found ∧
          found.specifier = source.source := by
  unfold World.importOfExpression? at imported
  cases host : w.host with
  | modules =>
      rw [host] at imported
      exact .inl imported
  | wrappers =>
      rw [host] at imported
      exact (World.wrappedImportOf?_cases imported).imp_right fun names => ⟨rfl, names⟩
  | mixed =>
      simp only [host, World.delegatedImportOf?, located, Option.map_some, FileView.format_eq] at imported
      cases wrapped : view.wrapperFor? .mixed with
      | none =>
          rw [wrapped] at imported
          exact .inl imported
      | some wrapper =>
          rw [wrapped] at imported
          exact (World.wrappedImportOf?_cases imported).imp_right fun names =>
            ⟨(view.wrapper_of_wrapperFor? wrapped).symm, names⟩

end Dispatch
end BundleLens
