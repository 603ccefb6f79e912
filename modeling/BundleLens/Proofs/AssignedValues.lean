/-
Module: BundleLens.Proofs.AssignedValues
Layer: Proofs
Purpose: The values of assignments are walked over. Wherever a trace tells of an assignment to a name,
  the walk over the assigned value is part of the trace, so a name that is assigned to a variable is
  used in the file and stands in it.
Imports: BundleLens.Proofs.ClassNames
Main exports: WalksValues, itemsTrace_walksValues, FileIndex.mem_references_of_assigned
-/
import BundleLens.Proofs.ClassNames

namespace BundleLens

/-- With every assignment the events hold the walk over the value that is assigned. -/
def WalksValues (events : List Event) : Prop :=
  ∀ id a, Event.assign id a ∈ events → a.value.trace ⊆ events

/-- Whether an event tells of an assignment. -/
def Event.isAssignment : Event → Bool
  | .assign _ _ => true
  | _ => false

namespace WalksValues

variable {first second events : List Event}

/-- Events that tell of no assignment. -/
theorem quiet (silent : ∀ event ∈ events, event.isAssignment = false) : WalksValues events :=
  fun _ _ member => Bool.noConfusion (silent _ member)

theorem nil : WalksValues [] := nofun

theorem append (left : WalksValues first) (right : WalksValues second) : WalksValues (first ++ second) := by
  intro id a member
  rcases List.mem_append.1 member with before | behind
  · exact fun event walked => List.mem_append_left _ (left id a before walked)
  · exact fun event walked => List.mem_append_right _ (right id a behind walked)

/-- Events that tell of no assignment may come first. -/
theorem after (silent : ∀ event ∈ first, event.isAssignment = false) (rest : WalksValues second) :
    WalksValues (first ++ second) :=
  (quiet silent).append rest

theorem cons {event : Event} (silent : event.isAssignment = false) (rest : WalksValues events) :
    WalksValues (event :: events) :=
  (quiet (List.forall_mem_singleton.2 silent)).append rest

theorem refer {id : Ident} (rest : WalksValues events) : WalksValues (.refer id :: events) :=
  .cons rfl rest

theorem declare {home : Home} {binding : Binding} (rest : WalksValues events) :
    WalksValues (.declare home binding :: events) :=
  .cons rfl rest

theorem enter {ofFunction : Bool} {func : Option Func} (rest : WalksValues events) :
    WalksValues ([.enter ofFunction func] ++ events) :=
  .cons rfl rest

theorem opening {ofFunction : Bool} {func : Option Func} (rest : WalksValues events) :
    WalksValues (events ++ [.enter ofFunction func]) :=
  rest.append (.enter .nil)

theorem leave (rest : WalksValues events) : WalksValues (events ++ [.leave]) :=
  rest.append (.cons rfl .nil)

theorem shapes (s : Stmt) (following : List Stmt) (rest : WalksValues events) :
    WalksValues (s.shapes following ++ events) := by
  refine .after ?_ rest
  intro event member
  rcases List.mem_append.1 member with isClass | isEnum
  · obtain ⟨shape, _, rfl⟩ := List.mem_map.1 isClass
    rfl
  · obtain ⟨shape, _, rfl⟩ := Option.map_eq_some_iff.1 (Option.mem_toList.1 isEnum)
    rfl

/-- The name of a function or a class expression opens its scope. -/
theorem named (name : Option Ident) (binding : Ident → Binding) {ofFunction : Bool} {func : Option Func}
    (rest : WalksValues events) :
    WalksValues ([.enter ofFunction func] ++
      (name.map fun id => Event.declare .block (binding id)).toList ++ events) := by
  cases name with
  | none => exact .enter rest
  | some id => exact .enter (.declare rest)

theorem invoked (kind : CallKind) (call : Call) (rest : WalksValues events) :
    WalksValues ((if kind == .plain then invocation call else []) ++ events) := by
  refine .after ?_ rest
  intro event member
  split at member
  · unfold invocation at member
    split at member
    · cases List.mem_singleton.1 member
      rfl
    · cases member
  · cases member

/-- The events of the target of an assignment tell of the assignment itself or of ones inside the
    target. -/
theorem assigned {a : Assignment} (target : ∀ id b, Event.assign id b ∈ first →
      b = a ∨ b.value.trace ⊆ first) (value : WalksValues a.value.trace) :
    WalksValues (first ++ a.value.trace) := by
  intro id b member
  rcases List.mem_append.1 member with before | behind
  · rcases target id b before with rfl | inside
    · exact List.subset_append_right _ _
    · exact fun event walked => List.mem_append_left _ (inside walked)
  · exact fun event walked => List.mem_append_right _ (value id b behind walked)

end WalksValues

/-! ### All syntax -/

mutual

theorem Expr.trace_walksValues : (e : Expr) → WalksValues e.trace
  | .ident _ => .refer .nil
  | .array _ elements => elementsTrace_walksValues elements
  | .object _ properties => propertiesTrace_walksValues properties
  | .function name func => func.trace_walksValues name true
  | .arrow _ params _ body =>
    .leave (.append (.enter (patsBind_walksValues .block none params)) (stmtsTrace_walksValues body))
  | .classExpr name cls => .leave (.named name _ cls.trace_walksValues)
  | .unary _ _ operand => operand.trace_walksValues
  | .binary _ _ left right => left.trace_walksValues.append right.trace_walksValues
  | .assign span op target value =>
    .assigned (target.assignTrace_walksValues ⟨span, op, target, value⟩) value.trace_walksValues
  | .member _ _ owner key => owner.trace_walksValues.append key.trace_walksValues
  | .superMember _ key => key.trace_walksValues
  | .conditional _ test consequent alternate =>
    (test.trace_walksValues.append consequent.trace_walksValues).append alternate.trace_walksValues
  | .call span kind callee args =>
    .append (.invoked kind ⟨span, callee, args⟩ callee.trace_walksValues) (elementsTrace_walksValues args)
  | .sequence _ parts => exprsTrace_walksValues parts
  | .template _ tag parts => (optTrace_walksValues tag).append (exprsTrace_walksValues parts)
  | .yield _ operand => optTrace_walksValues operand
  | .paren _ inner => inner.trace_walksValues
  | .string _ _ => .nil
  | .number _ _ => .nil
  | .atom _ _ => .nil

theorem optTrace_walksValues : (e : Option Expr) → WalksValues (optTrace e)
  | none => .nil
  | some e => e.trace_walksValues

theorem exprsTrace_walksValues : (es : List Expr) → WalksValues (exprsTrace es)
  | [] => .nil
  | e :: rest => e.trace_walksValues.append (exprsTrace_walksValues rest)

theorem elementsTrace_walksValues : (es : List Element) → WalksValues (elementsTrace es)
  | [] => .nil
  | e :: rest => e.trace_walksValues.append (elementsTrace_walksValues rest)

theorem Element.trace_walksValues : (e : Element) → WalksValues e.trace
  | .hole => .nil
  | .item e => e.trace_walksValues
  | .spread e => e.trace_walksValues

theorem Key.trace_walksValues : (key : Key) → WalksValues key.trace
  | .computed _ e => e.trace_walksValues
  | .ident _ => .nil
  | .string _ _ => .nil
  | .number _ _ => .nil
  | .bigint _ => .nil
  | .hidden _ => .nil

theorem propertiesTrace_walksValues : (ps : List Property) → WalksValues (propertiesTrace ps)
  | [] => .nil
  | p :: rest => p.trace_walksValues.append (propertiesTrace_walksValues rest)

theorem Property.trace_walksValues : (p : Property) → WalksValues p.trace
  | .shorthand _ => .refer .nil
  | .keyValue key value => key.trace_walksValues.append value.trace_walksValues
  | .initialized _ value => value.trace_walksValues
  | .getter _ key body => .leave (key.trace_walksValues.opening.append (stmtsTrace_walksValues body))
  | .setter _ key param body =>
    .leave ((key.trace_walksValues.opening.append (param.bindTrace_walksValues .block none)).append
      (stmtsTrace_walksValues body))
  | .method key func => key.trace_walksValues.append (func.trace_walksValues none false)
  | .spread e => e.trace_walksValues

theorem Func.trace_walksValues (name : Option Ident) (expression : Bool) : (func : Func) →
    WalksValues (func.trace name expression)
  | ⟨span, params, body⟩ =>
    .leave (.append (.named name _ (paramsTrace_walksValues ⟨span, params, body⟩ expression 0 params))
      (bodyTrace_walksValues body))

theorem bodyTrace_walksValues : (body : Option (List Stmt)) → WalksValues (bodyTrace body)
  | none => .nil
  | some body => stmtsTrace_walksValues body

theorem paramsTrace_walksValues (func : Func) (expression : Bool) (index : Nat) : (ps : List Param) →
    WalksValues (paramsTrace func expression index ps)
  | [] => .nil
  | p :: rest =>
    (p.trace_walksValues func expression index).append
      (paramsTrace_walksValues func expression (index + 1) rest)

theorem Param.trace_walksValues (func : Func) (expression : Bool) (index : Nat) : (p : Param) →
    WalksValues (p.trace func expression index)
  | ⟨span, decorators, pat, promoted⟩ => by
      have others := exprsTrace_walksValues decorators
      have bound := pat.bindTrace_walksValues .block none
      cases pat with
      | ident patSpan id => exact others.declare
      | _ => exact bound.append others

theorem ctorParamsTrace_walksValues : (ps : List Param) → WalksValues (ctorParamsTrace ps)
  | [] => .nil
  | p :: rest => p.ctorTrace_walksValues.append (ctorParamsTrace_walksValues rest)

theorem Param.ctorTrace_walksValues : (p : Param) → WalksValues p.ctorTrace
  | ⟨_, decorators, pat, _⟩ =>
    (exprsTrace_walksValues decorators).append (pat.bindTrace_walksValues .block none)

theorem Pat.bindTrace_walksValues (home : Home) (declarator : Option Declarator) : (pat : Pat) →
    WalksValues (pat.bindTrace home declarator)
  | .ident _ _ => .declare .nil
  | .array _ elements => patsBind_walksValues home declarator elements
  | .object _ properties => patPropertiesBind_walksValues home declarator properties
  | .rest _ inner => inner.bindTrace_walksValues home declarator
  | .default _ left value => (left.bindTrace_walksValues home declarator).append value.trace_walksValues
  | .expr e => e.trace_walksValues
  | .blank _ => .nil

theorem patsBind_walksValues (home : Home) (declarator : Option Declarator) : (pats : List Pat) →
    WalksValues (patsBind home declarator pats)
  | [] => .nil
  | p :: rest => (p.bindTrace_walksValues home declarator).append (patsBind_walksValues home declarator rest)

theorem patPropertiesBind_walksValues (home : Home) (declarator : Option Declarator) :
    (ps : List PatProperty) → WalksValues (patPropertiesBind home declarator ps)
  | [] => .nil
  | p :: rest =>
    (p.bindTrace_walksValues home declarator).append (patPropertiesBind_walksValues home declarator rest)

theorem PatProperty.bindTrace_walksValues (home : Home) (declarator : Option Declarator) :
    (p : PatProperty) → WalksValues (p.bindTrace home declarator)
  | .keyValue key value => key.trace_walksValues.append (value.bindTrace_walksValues home declarator)
  | .shorthand _ default => .declare (optTrace_walksValues default)
  | .rest inner => inner.bindTrace_walksValues home declarator

theorem Pat.useTrace_walksValues : (pat : Pat) → WalksValues pat.useTrace
  | .ident _ _ => .refer .nil
  | .array _ elements => patsUse_walksValues elements
  | .object _ properties => patPropertiesUse_walksValues properties
  | .rest _ inner => inner.useTrace_walksValues
  | .default _ left value => left.useTrace_walksValues.append value.trace_walksValues
  | .expr e => e.trace_walksValues
  | .blank _ => .nil

theorem patsUse_walksValues : (pats : List Pat) → WalksValues (patsUse pats)
  | [] => .nil
  | p :: rest => p.useTrace_walksValues.append (patsUse_walksValues rest)

theorem patPropertiesUse_walksValues : (ps : List PatProperty) → WalksValues (patPropertiesUse ps)
  | [] => .nil
  | p :: rest => p.useTrace_walksValues.append (patPropertiesUse_walksValues rest)

theorem PatProperty.useTrace_walksValues : (p : PatProperty) → WalksValues p.useTrace
  | .keyValue _ value => value.useTrace_walksValues
  | .shorthand _ default => .refer (optTrace_walksValues default)
  | .rest inner => inner.useTrace_walksValues

theorem Pat.assignTrace_walksValues (a : Assignment) : (pat : Pat) → ∀ id b,
    Event.assign id b ∈ pat.assignTrace a → b = a ∨ b.value.trace ⊆ pat.assignTrace a
  | .ident _ target => by
      intro id b member
      -- The name itself is used first; only a plain assignment is told of.
      rcases List.mem_cons.1 member with used | told
      · cases used
      · split at told
        · cases List.mem_singleton.1 told
          exact .inl rfl
        · cases told
  | .expr (.member _ false owner key) => fun id b member =>
    .inr (owner.trace_walksValues.append key.trace_walksValues id b member)
  | .expr (.paren _ inner) => fun id b member => .inr (inner.trace_walksValues id b member)
  | .array _ elements => fun id b member => .inr (patsUse_walksValues elements id b member)
  | .object _ properties => fun id b member => .inr (keyValuesUse_walksValues properties id b member)
  | .expr (.member _ true _ _) | .expr (.ident _) | .expr (.string _ _) | .expr (.number _ _)
  | .expr (.atom _ _) | .expr (.array _ _) | .expr (.object _ _) | .expr (.function _ _)
  | .expr (.arrow _ _ _ _) | .expr (.classExpr _ _) | .expr (.unary _ _ _) | .expr (.binary _ _ _ _)
  | .expr (.assign _ _ _ _) | .expr (.superMember _ _) | .expr (.conditional _ _ _ _)
  | .expr (.call _ _ _ _) | .expr (.sequence _ _) | .expr (.template _ _ _) | .expr (.yield _ _)
  | .rest _ _ | .default _ _ _ | .blank _ => nofun

theorem keyValuesUse_walksValues : (ps : List PatProperty) → WalksValues (keyValuesUse ps)
  | [] => .nil
  | p :: rest => p.keyValueUse_walksValues.append (keyValuesUse_walksValues rest)

theorem PatProperty.keyValueUse_walksValues : (p : PatProperty) → WalksValues p.keyValueUse
  | .keyValue _ value => value.useTrace_walksValues
  | .shorthand _ _ => .nil
  | .rest _ => .nil

theorem Class.trace_walksValues : (cls : Class) → WalksValues cls.trace
  | ⟨_, decorators, base, members⟩ =>
    ((exprsTrace_walksValues decorators).append (optTrace_walksValues base)).append
      (membersTrace_walksValues members)

theorem membersTrace_walksValues : (members : List ClassMember) → WalksValues (membersTrace members)
  | [] => .nil
  | m :: rest => m.trace_walksValues.append (membersTrace_walksValues rest)

theorem ClassMember.trace_walksValues : (m : ClassMember) → WalksValues m.trace
  | .ctor _ params body =>
    .leave (.append (.enter (ctorParamsTrace_walksValues params)) (bodyTrace_walksValues body))
  | .method _ _ decorators key func => by
      have own := func.trace_walksValues none false
      have named := key.trace_walksValues.append (exprsTrace_walksValues decorators)
      cases key with
      | hidden span => exact own
      | _ => exact named.append own
  | .field _ _ decorators key value => by
      have initial := optTrace_walksValues value
      have named := key.trace_walksValues.append (exprsTrace_walksValues decorators)
      cases key with
      | hidden span => exact initial
      | _ => exact named.append initial
  | .accessor _ _ decorators _ value =>
    (exprsTrace_walksValues decorators).append (optTrace_walksValues value)
  | .staticBlock _ body => .leave (.enter (stmtsTrace_walksValues body))
  | .other _ => .nil

theorem declaratorsTrace_walksValues (home : Home) : (ds : List Declarator) →
    WalksValues (declaratorsTrace home ds)
  | [] => .nil
  | d :: rest => (d.trace_walksValues home).append (declaratorsTrace_walksValues home rest)

theorem Declarator.trace_walksValues (home : Home) : (d : Declarator) → WalksValues (d.trace home)
  | ⟨span, pat, init⟩ =>
    (pat.bindTrace_walksValues home (some ⟨span, pat, init⟩)).append (optTrace_walksValues init)

theorem stmtsTrace_walksValues : (body : List Stmt) → WalksValues (stmtsTrace body)
  | [] => .nil
  | s :: rest => .append (.shapes s rest s.trace_walksValues) (stmtsTrace_walksValues rest)

theorem optStmtTrace_walksValues : (s : Option Stmt) → WalksValues (optStmtTrace s)
  | none => .nil
  | some s => s.trace_walksValues

theorem Stmt.trace_walksValues : (s : Stmt) → WalksValues s.trace
  | .block _ body => .leave (.enter (stmtsTrace_walksValues body))
  | .simple _ => .nil
  | .expr _ e => e.trace_walksValues
  | .ret _ value => optTrace_walksValues value
  | .throw _ value => value.trace_walksValues
  | .ifElse _ test consequent alternate =>
    (test.trace_walksValues.append consequent.trace_walksValues).append (optStmtTrace_walksValues alternate)
  | .labeled _ body => body.trace_walksValues
  | .switch _ subject clauses =>
    .leave (subject.trace_walksValues.opening.append (stmtsTrace_walksValues clauses))
  | .clause _ test body => (optTrace_walksValues test).append (stmtsTrace_walksValues body)
  | .tryCatch _ body handler finalizer =>
    ((WalksValues.leave (.enter (stmtsTrace_walksValues body))).append
      (optStmtTrace_walksValues handler)).append (optStmtTrace_walksValues finalizer)
  | .handler _ param body =>
    .leave (.append (.enter (param.bindTrace_walksValues .block none)) (stmtsTrace_walksValues body))
  | .whileLoop _ test body => test.trace_walksValues.append body.trace_walksValues
  | .doWhile _ body test => body.trace_walksValues.append test.trace_walksValues
  | .forLoop _ init test update body =>
    .leave ((((WalksValues.enter (optStmtTrace_walksValues init)).append (optTrace_walksValues test)).append
      (optTrace_walksValues update)).append body.trace_walksValues)
  | .forIn _ head source body | .forOf _ head source body =>
    .leave (((WalksValues.enter head.trace_walksValues).append source.trace_walksValues).append
      body.trace_walksValues)
  | .target pat => pat.useTrace_walksValues
  | .withObject _ owner body => owner.trace_walksValues.append body.trace_walksValues
  | .vars _ kind declarators => declaratorsTrace_walksValues kind.home declarators
  | .function _ func => .declare (func.trace_walksValues none false)
  | .classDecl _ cls => .declare cls.trace_walksValues
  | .typeDecl _ _ _ => .nil

end

/-! ### Files -/

theorem Item.trace_walksValues (following : List Stmt) : (item : Item) →
    WalksValues (item.trace following)
  | .stmt s => .shapes s following s.trace_walksValues
  | .exportDecl decl => .shapes decl following decl.trace_walksValues
  | .importDecl _ => .quiet (by simp [Item.trace, Event.isAssignment])
  | .exportList specifiers => by
      apply WalksValues.quiet
      intro event member
      obtain ⟨id, _, rfl⟩ := List.mem_map.1 member
      rfl
  | .exportClass name cls => (Expr.classExpr name cls).trace_walksValues
  | .exportFunction name func => (Expr.function name func).trace_walksValues
  | .exportValue value => value.trace_walksValues
  | .exportFrom _ _ | .exportAll _ | .other => .nil

/-- The values of all assignments in a file are walked over. -/
theorem itemsTrace_walksValues (items : List Item) : WalksValues (itemsTrace items) := by
  induction items with
  | nil => exact .nil
  | cons item rest ih => exact (item.trace_walksValues _).append ih

/-- A name is used where it is walked over. -/
theorem Expr.refer_mem_trace {e : Expr} {id : Ident} (named : e.ident? = some id) :
    Event.refer id ∈ e.trace := by
  unfold Expr.ident? at named
  split at named
  · rename_i other same
    cases named
    rw [← e.trace_bare, same]
    exact List.mem_singleton_self _
  · cases named

/-- A name that is assigned to a variable is used in the file. -/
theorem FileIndex.mem_references_of_assigned {items : List Item} {d : Declarator} {a : Assignment}
    {id : Ident} (assigned : a ∈ (build items).assignmentsTo d) (named : a.value.ident? = some id) :
    id ∈ (build items).references := by
  obtain ⟨⟨target, same⟩, listed, isTarget⟩ := List.mem_filterMap.1 assigned
  obtain ⟨event, told, isAssignment⟩ := List.mem_filterMap.1 listed
  have sameAssignment : same = a := by
    simp only at isTarget
    split at isTarget
    · exact Option.some.inj isTarget
    · cases isTarget
  unfold Event.assignment? at isAssignment
  split at isAssignment
  · cases isAssignment
    rw [sameAssignment] at told
    have walked := itemsTrace_walksValues items _ _ told (Expr.refer_mem_trace named)
    exact List.mem_filterMap.2 ⟨_, walked, rfl⟩
  · cases isAssignment

end BundleLens
