/-
Module: BundleLens.Proofs.ForwardingConstructors
Layer: Proofs
Purpose: Constructors that only hand their arguments on, as compilers write them: a body layout, a
  guard, a way to copy the arguments and a spelling of the helpers that copy them. Whatever is chosen,
  and whatever is put in parentheses but the targets of assignments, such a constructor is told to be
  written by a compiler.
Imports: BundleLens.Proofs.HelperNames, BundleLens.Proofs.ImportedHelpers,
  BundleLens.Proofs.SynthesizedConstructors, BundleLens.Proofs.Wildcard
Main exports: Expr.InParens, Expr.IsCopy, Expr.IsSuperCall, ForwardingBody, SourceFile.IsHelper,
  constructorParameters_forwardingBody
-/
import BundleLens.Proofs.HelperNames
import BundleLens.Proofs.ImportedHelpers
import BundleLens.Proofs.SynthesizedConstructors
import BundleLens.Proofs.Wildcard

namespace BundleLens

/-! ### How such constructors are written -/

namespace Expr

/-- An expression of some form, in any number of parentheses. -/
inductive InParens (form : Expr → Prop) : Expr → Prop
  | bare {e : Expr} : form e → InParens form e
  | paren {e : Expr} (span : Span) : InParens form e → InParens form (.paren span e)

inductive IsName (name : String) : Expr → Prop
  | ident (span : Span) : IsName name (.ident ⟨name, span⟩)

inductive IsAtom (kind : Atom) : Expr → Prop
  | atom (span : Span) : IsAtom kind (.atom span kind)

/-- `[]` -/
inductive IsEmptyList : Expr → Prop
  | array (span : Span) : IsEmptyList (.array span [])

section Copies

-- What counts as the helper with a name.
variable (helper : String → Expr → Prop)

/-- `arguments`, or `__read(arguments)` -/
inductive IsRead : Expr → Prop
  | arguments (span : Span) : IsRead (.ident ⟨"arguments", span⟩)
  | read {callee arg : Expr} (span : Span) : callee.InParens (helper "__read") →
      arg.InParens (IsName "arguments") → IsRead (.call span .plain callee [.item arg])

/-- `arguments`, or a copy of it: `__spread(arguments)`, `__spreadArrays(arguments)`,
    `__spreadArray([], READ)` or `__spreadArray([], READ, false)`. -/
inductive IsCopy : Expr → Prop
  | arguments (span : Span) : IsCopy (.ident ⟨"arguments", span⟩)
  | spread {callee arg : Expr} (span : Span) : callee.InParens (helper "__spread") →
      arg.InParens (IsName "arguments") → IsCopy (.call span .plain callee [.item arg])
  | spreadArrays {callee arg : Expr} (span : Span) : callee.InParens (helper "__spreadArrays") →
      arg.InParens (IsName "arguments") → IsCopy (.call span .plain callee [.item arg])
  | spreadArray {callee empty source : Expr} (span : Span) : callee.InParens (helper "__spreadArray") →
      empty.InParens IsEmptyList → source.InParens (IsRead helper) →
      IsCopy (.call span .plain callee [.item empty, .item source])
  | spreadArrayFalse {callee empty source flag : Expr} (span : Span) :
      callee.InParens (helper "__spreadArray") → empty.InParens IsEmptyList →
      source.InParens (IsRead helper) → flag.InParens (IsAtom (.boolean false)) →
      IsCopy (.call span .plain callee [.item empty, .item source, .item flag])

/-- `base.apply` -/
inductive IsApply (base : String) : Expr → Prop
  | member {owner : Expr} (span key : Span) : owner.InParens (IsName base) →
      IsApply base (.member span false owner (.ident ⟨"apply", key⟩))

/-- `base.apply(this, COPY)` -/
inductive IsApplication (base : String) : Expr → Prop
  | call {callee self copy : Expr} (span : Span) : callee.InParens (IsApply base) →
      self.InParens (IsAtom .this) → copy.InParens (IsCopy helper) →
      IsApplication base (.call span .plain callee [.item self, .item copy])

/-- `base !== null` -/
inductive IsNullTest (base : String) : Expr → Prop
  | test {left right : Expr} (span : Span) : left.InParens (IsName base) →
      right.InParens (IsAtom .null) → IsNullTest base (.binary span .notIdentical left right)

/-- The application of a base constructor, alone or behind `base !== null &&`. -/
inductive IsBaseCall (base : String) : Expr → Prop
  | plain {e : Expr} : IsApplication helper base e → IsBaseCall base e
  | guarded {test apply : Expr} (span : Span) : test.InParens (IsNullTest base) →
      apply.InParens (IsApplication helper base) → IsBaseCall base (.binary span .and test apply)

/-- The call of a base constructor, with `|| this` behind it. -/
inductive IsSuperCall : Expr → Prop
  | or {base : String} {call self : Expr} (span : Span) : call.InParens (IsBaseCall helper base) →
      self.InParens (IsAtom .this) → IsSuperCall (.binary span .or call self)

end Copies

/-- `name.member = value`, with any member and value. -/
inductive IsMemberAssignment (name : String) : Expr → Prop
  | assign {owner value : Expr} {key : Key} (span place : Span) : owner.InParens (IsName name) →
      IsMemberAssignment name (.assign span .plain (.expr (.member place false owner key)) value)

end Expr

inductive Stmt.IsMemberAssignment (name : String) : Stmt → Prop
  | expr {e : Expr} (span : Span) : e.InParens (Expr.IsMemberAssignment name) →
      IsMemberAssignment name (.expr span e)

/-- The body of a constructor that only hands its arguments on. -/
inductive ForwardingBody (helper : String → Expr → Prop) : List Stmt → Prop
  /-- `return SUPER;` -/
  | returned {value : Expr} (span : Span) : value.InParens (Expr.IsSuperCall helper) →
      ForwardingBody helper [.ret span (some value)]
  /-- `var t = SUPER; t.x = ...; return t;` -/
  | stored {value result : Expr} {assignments : List Stmt} (span own place behind : Span) (t : Ident) :
      value.InParens (Expr.IsSuperCall helper) → (∀ s ∈ assignments, s.IsMemberAssignment t.name) →
      result.InParens (Expr.IsName t.name) →
      ForwardingBody helper
        (.vars span .var [⟨own, .ident place t, some value⟩] ::
          (assignments ++ [.ret behind (some result)]))

/-- A name in a wrapped file for a module outside of the program: a parameter of the factory that is not
    called `exports`. -/
def SourceFile.NamesOutside (file : SourceFile) (program : Program) (wrapper : Wrapper)
    (id : Ident) : Prop :=
  id.name ≠ "exports" ∧ ∃ binding param specifier,
    (FileIndex.build file.items).primary? id = some binding ∧
      dependency? wrapper binding = some (.parameter param specifier) ∧
      program.resolve? specifier file = none

/-- A callee that is a helper in a wrapped file by its spelling: a name that is free in the file, or a
    member of a module outside of the program. -/
inductive SourceFile.IsHelper (file : SourceFile) (program : Program) (wrapper : Wrapper) (name : String) :
    Expr → Prop
  | free {id : Ident} : (FileIndex.build file.items).resolve? id = none → HelperSpelling name id.name →
      IsHelper file program wrapper name (.ident id)
  | imported {owner : Expr} {id : Ident} {key : Key} {written : String} (span : Span) :
      owner.InParens (· = .ident id) → file.NamesOutside program wrapper id →
      Member.name? ⟨span, owner, key⟩ = some written → HelperSpelling name written →
      IsHelper file program wrapper name (.member span false owner key)

/-! ### What is found in such constructors -/

section Found

variable {form : Expr → Prop} {helper : String → Expr → Prop} {e : Expr} {name base : String}

/-- Without its parentheses an expression is what it is an instance of. -/
theorem Expr.InParens.exists_form (inside : e.InParens form) :
    ∃ inner, form inner ∧ e.bare = inner.bare ∧ inner.nodes ⊆ e.nodes := by
  induction inside with
  | bare isForm => exact ⟨_, isForm, rfl, List.Subset.refl _⟩
  | paren span inside ih =>
      obtain ⟨inner, isForm, same, within⟩ := ih
      exact ⟨inner, isForm, same, List.Subset.trans within (List.subset_cons_self _ _)⟩

theorem Expr.InParens.isNamed (inside : e.InParens (IsName name)) : e.isNamed name = true := by
  obtain ⟨_, ⟨span⟩, same, _⟩ := inside.exists_form
  simp [Expr.isNamed, Expr.ident?, same, Expr.bare]

theorem Expr.InParens.isThis (inside : e.InParens (IsAtom .this)) : e.isThis = true := by
  obtain ⟨_, ⟨span⟩, same, _⟩ := inside.exists_form
  simp [Expr.isThis, same, Expr.bare]

theorem Expr.InParens.isNull (inside : e.InParens (IsAtom .null)) : e.isNull = true := by
  obtain ⟨_, ⟨span⟩, same, _⟩ := inside.exists_form
  simp [Expr.isNull, same, Expr.bare]

theorem Expr.InParens.isFalse (inside : e.InParens (IsAtom (.boolean false))) : e.isFalse = true := by
  obtain ⟨_, ⟨span⟩, same, _⟩ := inside.exists_form
  simp [Expr.isFalse, same, Expr.bare]

theorem Expr.InParens.isEmptyArray (inside : e.InParens IsEmptyList) : e.isEmptyArray = true := by
  obtain ⟨_, ⟨span⟩, same, _⟩ := inside.exists_form
  simp [Expr.isEmptyArray, same, Expr.bare]

theorem Expr.InParens.isNotNullTest (inside : e.InParens (IsNullTest base)) : e.isNotNullTest = true := by
  obtain ⟨_, ⟨span, tested, null⟩, same, _⟩ := inside.exists_form
  obtain ⟨_, ⟨place⟩, named, _⟩ := tested.exists_form
  simp [Expr.isNotNullTest, same, Expr.bare, Expr.ident?, named, null.isNull]

theorem Expr.applyArguments?_of_bare {other : Expr} (same : e.bare = other.bare) :
    e.applyArguments? = other.applyArguments? := by
  simp only [Expr.applyArguments?, Expr.call?, same]

theorem Expr.IsCopy.bare_eq (copies : IsCopy helper e) : e.bare = e := by
  cases copies <;> rfl

/-- What an application hands on. -/
theorem Expr.IsApplication.exists_copy (applied : IsApplication helper base e) :
    ∃ copy, IsCopy helper copy ∧ e.applyArguments? = some copy ∧ copy.nodes ⊆ e.nodes := by
  obtain ⟨span, apply, self, args⟩ := applied
  obtain ⟨_, ⟨member, key, owner⟩, callee, _⟩ := apply.exists_form
  obtain ⟨copy, copies, handed, within⟩ := args.exists_form
  obtain ⟨_, ⟨place⟩, named, _⟩ := owner.exists_form
  refine ⟨copy, copies, ?_, fun node inside => ?_⟩
  · simp [Expr.applyArguments?, Expr.call?, Expr.bare, Call.function?, callee, Expr.member?, Member.name?,
      Expr.ident?, named, Call.plainArgs?, Element.plain?, self.isThis, handed, copies.bare_eq]
  · simp [within inside]

/-- What the call of a base constructor hands on. -/
theorem Expr.IsSuperCall.exists_copy (calls : IsSuperCall helper e) :
    ∃ copy, IsCopy helper copy ∧ e.superArguments? = some copy ∧ copy.nodes ⊆ e.nodes := by
  obtain ⟨span, call, self⟩ := calls
  obtain ⟨_, based, left, within⟩ := call.exists_form
  cases based with
  | plain applied =>
      obtain ⟨copy, copies, handed, inside⟩ := applied.exists_copy
      -- What is left of `||` is a call, so it is not taken for a guard.
      obtain ⟨place, callee, this, args⟩ := applied
      refine ⟨copy, copies, ?_, fun node isNode => ?_⟩
      · simpa [Expr.superArguments?, Expr.bare, self.isThis, left] using handed
      · simp [within (inside isNode)]
  | guarded place test apply =>
      obtain ⟨_, applied, same, inside⟩ := apply.exists_form
      obtain ⟨copy, copies, handed, deep⟩ := applied.exists_copy
      refine ⟨copy, copies, ?_, fun node isNode => ?_⟩
      · simpa [Expr.superArguments?, Expr.bare, self.isThis, left, test.isNotNullTest,
          Expr.applyArguments?_of_bare same] using handed
      · have isPart := within (List.mem_cons_of_mem _ (List.mem_append_right _ (inside (deep isNode))))
        simp [isPart]

theorem Expr.InParens.superArguments? (calls : e.InParens (IsSuperCall helper)) :
    ∃ copy, IsCopy helper copy ∧ e.superArguments? = some copy ∧ copy.nodes ⊆ e.nodes := by
  obtain ⟨inner, isCall, same, within⟩ := calls.exists_form
  obtain ⟨copy, copies, handed, inside⟩ := isCall.exists_copy
  refine ⟨copy, copies, ?_, List.Subset.trans inside within⟩
  have alike : e.superArguments? = inner.superArguments? := by
    simp only [Expr.superArguments?, same]
  rw [alike, handed]

theorem Stmt.IsMemberAssignment.assignsMemberOf {s : Stmt} (assigns : s.IsMemberAssignment name) :
    s.assignsMemberOf name = true := by
  obtain ⟨span, value⟩ := assigns
  obtain ⟨_, ⟨_, _, owner⟩, same, _⟩ := value.exists_form
  simp [Stmt.assignsMemberOf, Stmt.expr?, same, Expr.bare, Expr.assignment?, Pat.member?, owner.isNamed]

/-- What the body of such a constructor hands on. -/
theorem ForwardingBody.exists_copy {body : List Stmt} (forwards : ForwardingBody helper body) :
    ∃ copy, Expr.IsCopy helper copy ∧ synthesizedSuper? body = some copy ∧
      copy.nodes ⊆ bodyNodes (some body) := by
  cases forwards with
  | returned span value =>
      obtain ⟨copy, copies, handed, within⟩ := value.superArguments?
      refine ⟨copy, copies, ?_, fun node inside => ?_⟩
      · simpa [synthesizedSuper?] using handed
      · simp [within inside]
  | stored span own place behind t value assigns result =>
      obtain ⟨copy, copies, handed, within⟩ := value.superArguments?
      refine ⟨copy, copies, ?_, fun node inside => ?_⟩
      · have all : ∀ s ∈ _, Stmt.assignsMemberOf s t.name = true :=
          fun s isOne => (assigns s isOne).assignsMemberOf
        simpa [synthesizedSuper?, Pat.ident?, handed, Stmt.returnsName, result.isNamed] using all
      · simp [within inside]

end Found

/-! ### What helpers stand for -/

section Helpers

variable {program : Program} {file : SourceFile} {wrapper : Wrapper} {name : String} {e : Expr}
  {known : KnownDeclaration}

/-- In a wrapped file a free name stands for what it is known as. -/
theorem identifierDeclaration_free {w : World} {view : FileView} {id : Ident}
    (unbound : view.index.primary? id = none) (apart : id.name ≠ "exports") :
    identifierDeclaration w view id = .done (freeDeclaration? id) := by
  have unnamed : (view.wrapperFor? w.host).bind (factoryDeclaration? w view · id) = none := by
    cases view.wrapperFor? w.host with
    | none => rfl
    | some wrapper => simp [factoryDeclaration?, apart, unbound]
  rw [identifierDeclaration_eq, unnamed, lexicalDeclaration, unbound]
  rfl

/-- A free name that spells a helper stands for what is known as the helper. -/
theorem identifierDeclaration_helper (w : World) {view : FileView} {id : Ident}
    (unbound : view.index.resolve? id = none) (spelled : HelperSpelling name id.name)
    (isHelper : helperNamed? name = some known) :
    ∃ found, identifierDeclaration w view id = .done found ∧ found.bind (·.known) = some known := by
  have isKnown := spelled.knownHelper?_eq isHelper
  have apart : id.name ≠ "exports" := by
    intro same
    have unknown : knownHelper? "exports" = none := by decide +kernel
    rw [same, unknown] at isKnown
    cases isKnown
  have primary : view.index.primary? id = none := by
    simp [FileIndex.primary?, unbound]
  refine ⟨_, identifierDeclaration_free primary apart, ?_⟩
  simp [freeDeclaration?, isKnown, Declaration.withKnown]

/-- A name for a module outside of the program stands for a module that is missing. -/
theorem SourceFile.NamesOutside.exists_missing {owner : Expr} {id : Ident}
    (names : file.NamesOutside program wrapper id) (wrapped : file.wrapper? = some wrapper)
    (isName : owner.ident? = some id) :
    ∃ param, expressionDeclaration (World.ofProgram program .wrappers) (.ofFile file) owner =
      .done (some (.missing (.param param))) := by
  obtain ⟨apart, binding, param, specifier, bound, depends, outside⟩ := names
  have reads : (FileView.ofFile file).wrapperFor? (World.ofProgram program .wrappers).host = some wrapper :=
    wrapped
  have found : (FileView.ofFile file).dependencyOf? (World.ofProgram program .wrappers).host id =
      some (.parameter param specifier) := by
    rw [FileView.dependencyOf?, reads]
    simp [FileView.ofFile, bound, depends]
  refine ⟨param, ?_⟩
  rw [expressionDeclaration_ident isName, identifierDeclaration_dependency reads found apart]
  simp [World.ofProgram, Program.moduleDeclaration, FileView.ofFile, Dependency.specifier, outside,
    Dependency.node]

/-- A helper by its spelling is known as the helper, whatever was asked before. -/
theorem SourceFile.IsHelper.known_eq (helps : file.IsHelper program wrapper name e)
    (wrapped : file.wrapper? = some wrapper) (isHelper : helperNamed? name = some known)
    (located : (World.ofProgram program .wrappers).viewAt? e.span.lo = some (.ofFile file))
    (memory : Memory) :
    (((World.ofProgram program .wrappers).declarationOfExpression e).run memory).1.bind (·.known) =
      some known := by
  rw [World.declarationOfExpression]
  simp only [World.expressionInquiry, located]
  cases helps with
  | @free id unbound spelled =>
      have unboundThere : (FileView.ofFile file).index.resolve? id = none := unbound
      obtain ⟨found, declared, isKnown⟩ :=
        identifierDeclaration_helper (.ofProgram program .wrappers) unboundThere spelled isHelper
      rw [expressionDeclaration_ident_eq, declared]
      exact isKnown
  | @imported owner id key written span object names named spelled =>
      -- Of a module that is missing members are known by their names.
      obtain ⟨_, rfl, under, _⟩ := object.exists_form
      have isName : owner.ident? = some id := by
        simp [Expr.ident?, under, Expr.bare]
      obtain ⟨param, missing⟩ := names.exists_missing wrapped isName
      have finished : (Member.exported? ⟨span, owner, key⟩).isSome = false := by
        simp [Member.exported?, Expr.isNamed, isName, names.1]
      have isSome : (Member.name? ⟨span, owner, key⟩).isSome = true := by
        rw [named]
        rfl
      rw [expressionDeclaration_of_owner rfl isSome missing (by rw [finished, Bool.false_and]),
        memberDeclaration_missing isSome rfl]
      have byName := known_of_memberHelper? (e := (Expr.member span false owner key).bare) named
      rw [spelled.knownHelper?_eq isHelper] at byName
      show ((memberHelper? _ _).getD _).known = some known
      obtain ⟨d, helper, same⟩ := Option.bind_eq_some_iff.1 byName
      rw [helper, Option.getD_some, same]

/-- The call of a helper by its spelling is a call of the helper. -/
theorem World.helperCall_run (built : program.Built) (member : file ∈ program.files)
    (wrapped : file.wrapper? = some wrapper) {callee : Expr}
    (helps : callee.InParens (file.IsHelper program wrapper name))
    (isHelper : helperNamed? name = some known)
    {span : Span} {elements : List Element} {args : List Expr}
    (plain : elements.mapM Element.plain? = some args)
    (inside : (Expr.call span .plain callee elements).nodes ⊆ file.nodes) (memory : Memory) :
    (((World.ofProgram program .wrappers).helperCall (.call span .plain callee elements)).run memory).1 =
      some (known, args) := by
  obtain ⟨inner, spelled, same, within⟩ := helps.exists_form
  have isFunction : Call.function? ⟨span, callee, elements⟩ = some inner := by
    rw [Call.function?, same]
    cases spelled <;> rfl
  -- The file is found by the place of the callee, so the callee has to be a node of it.
  have here : SyntaxNode.expr inner ∈ file.nodes := by
    apply inside
    simp [within inner.mem_nodes_self]
  have isKnown := spelled.known_eq wrapped isHelper (built.viewAt?_of_node member here) memory
  obtain ⟨d, found, isKnown⟩ := Option.bind_eq_some_iff.1 isKnown
  unfold World.helperCall
  simp only [Expr.call?, Expr.bare, isFunction]
  rw [reflect_run_bind, found]
  show (do return (← d.known, ← elements.mapM Element.plain?)) = _
  rw [isKnown, plain]
  rfl

end Helpers

/-! ### Copies of the arguments -/

section Copies

variable {program : Program} {file : SourceFile} {wrapper : Wrapper} {e : Expr}

theorem World.helperCall_of_bare (w : World) {other : Expr} (same : e.bare = other.bare) :
    w.helperCall e = w.helperCall other := by
  simp only [World.helperCall, Expr.call?, same]

/-- What reads the arguments by its spelling does so. -/
theorem World.readsArguments_of_isRead (built : program.Built) (member : file ∈ program.files)
    (wrapped : file.wrapper? = some wrapper)
    (reads : e.InParens (Expr.IsRead (file.IsHelper program wrapper))) (inside : e.nodes ⊆ file.nodes)
    (memory : Memory) :
    e.isNamed "arguments" = true ∨
      (((World.ofProgram program .wrappers).readsArguments e).run memory).1 = true := by
  obtain ⟨inner, isRead, same, within⟩ := reads.exists_form
  cases isRead with
  | arguments span => exact .inl (by simp [Expr.isNamed, Expr.ident?, same, Expr.bare])
  | read span callee arg =>
      right
      rw [World.readsArguments, World.helperCall_of_bare _ same, reflect_run_bind,
        World.helperCall_run built member wrapped callee rfl rfl (List.Subset.trans within inside)]
      exact arg.isNamed

/-- A call of the helper that joins lists copies the arguments, if it joins them to nothing. -/
theorem World.spreadsArguments_of_joined (built : program.Built) (member : file ∈ program.files)
    (wrapped : file.wrapper? = some wrapper) {callee empty source : Expr} {rest : List Expr}
    (helps : callee.InParens (file.IsHelper program wrapper "__spreadArray"))
    (nothing : empty.InParens Expr.IsEmptyList)
    (reads : source.InParens (Expr.IsRead (file.IsHelper program wrapper))) (plain : isPlainPack rest = true)
    {span : Span} {elements : List Element}
    (args : elements.mapM Element.plain? = some (empty :: source :: rest))
    (part : source.nodes ⊆ elementsNodes elements)
    (inside : (Expr.call span .plain callee elements).nodes ⊆ file.nodes) (memory : Memory) :
    (((World.ofProgram program .wrappers).spreadsArguments (.call span .plain callee elements)).run
      memory).1 = true := by
  have within : source.nodes ⊆ file.nodes := fun node isNode => inside (by simp [part isNode])
  rw [World.spreadsArguments, reflect_run_bind,
    World.helperCall_run built member wrapped helps rfl args inside]
  simp only [nothing.isEmptyArray, plain, Bool.and_self, if_true]
  split
  · rfl
  · rename_i other
    exact (readsArguments_of_isRead built member wrapped reads within _).resolve_left other

/-- What copies the arguments by its spelling does so. -/
theorem World.spreadsArguments_of_isCopy (built : program.Built) (member : file ∈ program.files)
    (wrapped : file.wrapper? = some wrapper) (copies : e.IsCopy (file.IsHelper program wrapper))
    (inside : e.nodes ⊆ file.nodes) (memory : Memory) :
    e.isNamed "arguments" = true ∨
      (((World.ofProgram program .wrappers).spreadsArguments e).run memory).1 = true := by
  cases copies with
  | arguments span => exact .inl rfl
  | spread span callee arg =>
      right
      rw [World.spreadsArguments, reflect_run_bind,
        World.helperCall_run built member wrapped callee rfl rfl inside]
      exact arg.isNamed
  | spreadArrays span callee arg =>
      right
      rw [World.spreadsArguments, reflect_run_bind,
        World.helperCall_run built member wrapped callee rfl rfl inside]
      exact arg.isNamed
  | spreadArray span callee empty source =>
      right
      exact World.spreadsArguments_of_joined built member wrapped callee empty source rfl rfl (by simp)
        inside memory
  | spreadArrayFalse span callee empty source flag =>
      right
      exact World.spreadsArguments_of_joined built member wrapped callee empty source
        (by simpa [isPlainPack] using flag.isFalse) rfl (by simp) inside memory

/-- A body that hands the arguments on by its spelling does so. -/
theorem World.forwardsArguments_of_forwardingBody (built : program.Built) (member : file ∈ program.files)
    (wrapped : file.wrapper? = some wrapper) {body : List Stmt}
    (forwards : ForwardingBody (file.IsHelper program wrapper) body)
    (inside : bodyNodes (some body) ⊆ file.nodes) (memory : Memory) :
    (((World.ofProgram program .wrappers).forwardsArguments body).run memory).1 = true := by
  obtain ⟨copy, copies, handed, within⟩ := forwards.exists_copy
  simp only [World.forwardsArguments, handed]
  split
  · rfl
  · rename_i other
    exact (spreadsArguments_of_isCopy built member wrapped copies (List.Subset.trans within inside)
      memory).resolve_left other

end Copies

/-! ### Classes with such constructors -/

theorem Func.nodes_eq (func : Func) : func.nodes = paramsNodes func.params ++ bodyNodes func.body := by
  cases func
  simp

/-- The file of the class that a node leads to. -/
theorem World.exists_shape_of_classSymbol? {program : Program} {host : HostKind} {node : DeclNode}
    {symbol : ClassSymbol} (isClass : (World.ofProgram program host).classSymbol? node = some symbol) :
    ∃ file ∈ program.files, file.id = symbol.file ∧
      (FileIndex.build file.items).class? symbol.number = some symbol.shape := by
  simp only [World.classSymbol?, bind, Option.bind_eq_some_iff] at isClass
  obtain ⟨view, located, number, _, shape, listed, same⟩ := isClass
  cases same
  obtain ⟨place, _, isView⟩ := Option.bind_eq_some_iff.1 located
  obtain ⟨file, isFile, rfl⟩ := List.mem_map.1 (List.mem_of_getElem? isView)
  exact ⟨file, isFile, rfl, listed⟩

/-- In a wrapped file the constructor of a class that is made by a function has no parameters, if its
    body only hands the arguments on, however that is written: no question before makes a difference. -/
theorem constructorParameters_forwardingBody {program : Program} (built : program.Built) {file : SourceFile}
    (member : file ∈ program.files) {wrapper : Wrapper} (wrapped : file.wrapper? = some wrapper)
    (node : DeclNode) (symbol : ClassSymbol) (inner : FunctionDecl) (iife : Iife) (body : List Stmt)
    (memory : Memory) :
    let w := World.ofProgram program .wrappers
    w.classSymbol? node = some symbol → symbol.file = file.id → symbol.shape.form = .function inner iife →
      inner.func.params = [] → inner.func.body = some body →
      ForwardingBody (file.IsHelper program wrapper) body →
      ((w.constructorParameters node).run memory).1 = .ok none := by
  intro w isClass here form noParams isBody forwards
  obtain ⟨other, isFile, same, listed⟩ := World.exists_shape_of_classSymbol? isClass
  cases built.eq_of_id member isFile (same.trans here)
  have isNode : SyntaxNode.function inner ∈ file.nodes :=
    FileIndex.nodes_subset listed (by simp [ClassShape.nodes, form, ClassForm.syntaxNode?])
  have inside : bodyNodes (some body) ⊆ file.nodes := by
    have all : inner.func.nodes ⊆ file.nodes :=
      List.Subset.trans (List.subset_cons_self _ _) (file.nodes_subset _ isNode)
    rw [Func.nodes_eq, isBody] at all
    exact List.Subset.trans (List.subset_append_right _ _) all
  have handsOn := World.forwardsArguments_of_forwardingBody built member wrapped forwards inside memory
  have unwritten : ((w.constructorPats symbol.shape).run memory).1 = none := by
    unfold World.constructorPats
    simp only [form, noParams, List.isEmpty_nil, if_true, isBody, Option.getD_some]
    rw [reflect_run_bind, handsOn]
    rfl
  have untold : ((w.constructorParams symbol.shape).run memory).1 = none := by
    unfold World.constructorParams
    rw [reflect_run_bind, unwritten]
    rfl
  unfold World.constructorParameters World.requireClass
  simp only [isClass]
  rw [reflect_run_bind, untold]
  rfl

/-- Whether a body is `return b.apply(this, (o.__spread$1)(arguments)) || this;` where `o` stands for a
    module outside of the program. -/
def SourceFile.isCopyingBody (file : SourceFile) (program : Program) (wrapper : Wrapper) :
    List Stmt → Bool
  | [.ret _ (some (.binary _ .or (.call _ .plain (.member _ false (.ident _) (.ident ⟨apply, _⟩))
      [.item (.atom _ .this), .item (.call _ .plain (.paren _ (.member _ false (.ident owner)
        (.ident ⟨helper, _⟩))) [.item (.ident ⟨handed, _⟩)])]) (.atom _ .this)))] =>
    [apply, helper, handed] == ["apply", "__spread$1", "arguments"] && owner.name != "exports" &&
      (((FileIndex.build file.items).primary? owner).bind (dependency? wrapper)).any fun
        | .parameter _ specifier => (program.resolve? specifier file).isNone
        | .required _ _ => false
  | _ => false

theorem SourceFile.forwardingBody_of_isCopyingBody {program : Program} {file : SourceFile}
    {wrapper : Wrapper}
    {body : List Stmt} (copies : file.isCopyingBody program wrapper body = true) :
    ForwardingBody (file.IsHelper program wrapper) body := by
  unfold isCopyingBody at copies
  split at copies
  · simp only [Bool.and_eq_true, beq_iff_eq, bne_iff_ne, Option.any_eq_true, Option.bind_eq_some_iff,
      List.cons.injEq, and_true] at copies
    obtain ⟨⟨⟨rfl, rfl, rfl⟩, apart⟩, dependency, ⟨binding, bound, depends⟩, outside⟩ := copies
    cases dependency with
    | parameter param specifier =>
        have names : file.NamesOutside program wrapper _ :=
          ⟨apart, binding, param, specifier, bound, depends, Option.isNone_iff_eq_none.1 outside⟩
        have spelled : HelperSpelling "__spread" "__spread$1" := .numbered ['1'] (by decide) (by decide)
        refine .returned _ (.bare (.or _ (.bare (.plain (.call _ (.bare (.member _ _ (.bare (.ident _))))
          (.bare (.atom _)) (.bare ?_)))) (.bare (.atom _))))
        refine .spread _ (.paren _ (.bare ?_)) (.bare (.ident _))
        exact .imported _ (.bare rfl) names rfl spelled
    | required declarator specifier => cases outside
  · cases copies

/-- Whether a class of a file is made by a function and its constructor has no parameters and such a
    body. -/
def ClassShape.isCopying (shape : ClassShape) (file : SourceFile) (program : Program) (wrapper : Wrapper) :
    Bool :=
  match shape.form with
  | .function inner _ =>
    inner.func.params.isEmpty && inner.func.body.any (file.isCopyingBody program wrapper)
  | .native _ _ => false

theorem ClassShape.exists_body_of_isCopying {shape : ClassShape} {program : Program} {file : SourceFile}
    {wrapper : Wrapper} (copies : shape.isCopying file program wrapper = true) :
    ∃ inner iife body, shape.form = .function inner iife ∧ inner.func.params = [] ∧
      inner.func.body = some body ∧ ForwardingBody (file.IsHelper program wrapper) body := by
  unfold isCopying at copies
  cases form : shape.form with
  | function inner iife =>
      simp only [form, Bool.and_eq_true, List.isEmpty_iff, Option.any_eq_true] at copies
      obtain ⟨noParams, body, isBody, copies⟩ := copies
      exact ⟨inner, iife, body, rfl, noParams, isBody, file.forwardingBody_of_isCopyingBody copies⟩
  | native cls expr =>
      rw [form] at copies
      cases copies

/-- A class whose constructor hands a copy of its arguments on, made by a helper of a module outside of
    the program. -/
def copyingClass : Program :=
  .ofTexts [("/a.js", "(function (g, f) \x7b typeof exports === 'object' ? f(exports, require('o')) : " ++
    "f(g, g.o) \x7d(this, function (exports, o) \x7b var A = (function (b) \x7b function A() \x7b " ++
    "return b.apply(this, (o.__spread$1)(arguments)) || this; \x7d return A; \x7d(B)); \x7d));")]

/-- The constructor of the class has no parameters, whatever was asked before. -/
theorem constructorParameters_copyingClass :
    let w := World.ofProgram copyingClass .wrappers
    ∃ file ∈ copyingClass.files, ∃ wrapper, file.wrapper? = some wrapper ∧
      ∃ shape ∈ (FileIndex.build file.items).classes, ∃ symbol inner iife body,
        w.classSymbol? shape.declaration = some symbol ∧ symbol.file = file.id ∧
        symbol.shape.form = .function inner iife ∧ inner.func.params = [] ∧ inner.func.body = some body ∧
        ForwardingBody (file.IsHelper copyingClass wrapper) body ∧
        ∀ memory, ((w.constructorParameters shape.declaration).run memory).1 = .ok none := by
  have facts :
      let w := World.ofProgram copyingClass .wrappers
      ∃ file ∈ copyingClass.files, ∃ shape ∈ (FileIndex.build file.items).classes,
        (file.wrapper?.any fun wrapper => (w.classSymbol? shape.declaration).any fun symbol =>
          symbol.file == file.id && symbol.shape.isCopying file copyingClass wrapper) = true := by
    rw [copyingClass, Program.ofTexts_eq_ofBytes]
    decide +kernel
  obtain ⟨file, isFile, shape, isShape, found⟩ := facts
  simp only [Option.any_eq_true, Bool.and_eq_true, beq_iff_eq] at found
  obtain ⟨wrapper, wrapped, symbol, isClass, here, copies⟩ := found
  obtain ⟨inner, iife, body, form, noParams, isBody, forwards⟩ := ClassShape.exists_body_of_isCopying copies
  refine ⟨file, isFile, wrapper, wrapped, shape, isShape, symbol, inner, iife, body, isClass, here, form,
    noParams, isBody, forwards, fun memory => ?_⟩
  exact constructorParameters_forwardingBody (.ofTexts _) isFile wrapped shape.declaration symbol inner iife
    body memory isClass here form noParams isBody forwards

/-- A class that hands its arguments on, with a constructor that assigns to a member in parentheses. -/
def parenthesizedTarget : Program :=
  .ofTexts [("/a.js", "(function (g, f) \x7b typeof exports === 'object' ? f(exports) : f(g) \x7d(this, " ++
    "function (exports) \x7b var A = (function (b) \x7b function A() \x7b " ++
    "var t = b.apply(this, arguments) || this; (t.x) = 1; return t; \x7d return A; \x7d(B)); \x7d));")]

/-- Whether a statement assigns to a member in parentheses. -/
def Stmt.assignsInParens : Stmt → Bool
  | .expr _ (.assign _ .plain (.expr (.paren _ changed)) _) => changed.member?.isSome
  | _ => false

/-- The statements of the constructor of a class that is made by a function. -/
def ClassShape.constructorBody (shape : ClassShape) : List Stmt :=
  match shape.form with
  | .function inner _ => inner.func.body.getD []
  | .native _ _ => []

/-- With parentheses around a target the constructor counts as written, without parameters. -/
theorem constructorParameters_parenthesizedTarget :
    let w := World.ofProgram parenthesizedTarget .wrappers
    let shapes := parenthesizedTarget.files.flatMap fun file => (FileIndex.build file.items).classes
    parenthesizedTarget.files.map (fun file => file.wrapper?.isSome) = [true] ∧
      shapes.map (fun shape => shape.constructorBody.map Stmt.assignsInParens) = [[false, true, false]] ∧
      shapes.map (fun shape => ((w.constructorParameters shape.declaration).run .empty).1.toOption.map
        fun told => told.map List.length) = [some (some 0)] := by
  rw [parenthesizedTarget, Program.ofTexts_eq_ofBytes]
  decide +kernel

end BundleLens
