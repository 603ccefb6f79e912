/-
Module: BundleLens.Proofs.Unparen
Layer: Proofs
Purpose: Syntax trees without parentheses. Every parenthesized expression is replaced by its content, at
  any depth; only a parenthesized assignment target is left as it is, because without its parentheses it
  would be another kind of target. The small tests that all shapes are made of give the same answers on
  a tree and on the tree without parentheses, or answers that differ only in the parentheses of the
  nodes they return.
Imports: BundleLens.Shape.Property
Main exports: Expr.unparen, Stmt.unparen, Member.unparen, Call.unparen, Assignment.unparen,
  Expr.bare_unparen, Expr.unparen_bare, Expr.ident?_unparen, Expr.member?_unparen, Expr.call?_unparen,
  Expr.assignment?_unparen, Expr.defineProperty?_unparen
-/
import BundleLens.Shape.Property

namespace BundleLens

mutual

-- The attribute makes the equations at once, before the many proofs that need them side by side.
/-- An expression with every parenthesized expression in it replaced by its content. -/
@[grind =] def Expr.unparen : Expr → Expr
  | .ident id => .ident id
  | .string span value => .string span value
  | .number span value => .number span value
  | .atom span kind => .atom span kind
  | .array span elements => .array span (elementsUnparen elements)
  | .object span properties => .object span (propertiesUnparen properties)
  | .function name func => .function name func.unparen
  | .arrow span params concise body =>
    .arrow span (patsUnparen params) concise (stmtsUnparen body)
  | .classExpr name cls => .classExpr name cls.unparen
  | .unary span op operand => .unary span op operand.unparen
  | .binary span op left right => .binary span op left.unparen right.unparen
  | .assign span op target value => .assign span op target.unparen value.unparen
  | .member span chained owner key => .member span chained owner.unparen key.unparen
  | .superMember span key => .superMember span key.unparen
  | .conditional span test consequent alternate =>
    .conditional span test.unparen consequent.unparen alternate.unparen
  | .call span kind callee args => .call span kind callee.unparen (elementsUnparen args)
  | .sequence span parts => .sequence span (exprsUnparen parts)
  | .template span tag parts => .template span (optUnparen tag) (exprsUnparen parts)
  | .yield span operand => .yield span (optUnparen operand)
  | .paren _ inner => inner.unparen

def optUnparen : Option Expr → Option Expr
  | none => none
  | some e => some e.unparen

def exprsUnparen : List Expr → List Expr
  | [] => []
  | e :: rest => e.unparen :: exprsUnparen rest

def elementsUnparen : List Element → List Element
  | [] => []
  | e :: rest => e.unparen :: elementsUnparen rest

def Element.unparen : Element → Element
  | .hole => .hole
  | .item e => .item e.unparen
  | .spread e => .spread e.unparen

def Key.unparen : Key → Key
  | .ident id => .ident id
  | .string span value => .string span value
  | .number span value => .number span value
  | .bigint span => .bigint span
  | .computed span e => .computed span e.unparen
  | .hidden span => .hidden span

def propertiesUnparen : List Property → List Property
  | [] => []
  | p :: rest => p.unparen :: propertiesUnparen rest

def Property.unparen : Property → Property
  | .shorthand id => .shorthand id
  | .keyValue key value => .keyValue key.unparen value.unparen
  | .initialized id value => .initialized id value.unparen
  | .getter span key body => .getter span key.unparen (stmtsUnparen body)
  | .setter span key param body => .setter span key.unparen param.unparen (stmtsUnparen body)
  | .method key func => .method key.unparen func.unparen
  | .spread e => .spread e.unparen

def Func.unparen : Func → Func
  | ⟨span, params, body⟩ => ⟨span, paramsUnparen params, bodyUnparen body⟩

def bodyUnparen : Option (List Stmt) → Option (List Stmt)
  | none => none
  | some body => some (stmtsUnparen body)

def paramsUnparen : List Param → List Param
  | [] => []
  | p :: rest => p.unparen :: paramsUnparen rest

def Param.unparen : Param → Param
  | ⟨span, decorators, pat, promoted⟩ => ⟨span, exprsUnparen decorators, pat.unparen, promoted⟩

/-- A pattern without the parentheses in it. A target in parentheses is left alone. -/
def Pat.unparen : Pat → Pat
  | .ident span id => .ident span id
  | .array span elements => .array span (patsUnparen elements)
  | .object span properties => .object span (patPropertiesUnparen properties)
  | .rest span inner => .rest span inner.unparen
  | .default span left value => .default span left.unparen value.unparen
  | .expr (.paren span inner) => .expr (.paren span inner)
  | .expr inner => .expr inner.unparen
  | .blank span => .blank span

def patsUnparen : List Pat → List Pat
  | [] => []
  | p :: rest => p.unparen :: patsUnparen rest

def patPropertiesUnparen : List PatProperty → List PatProperty
  | [] => []
  | p :: rest => p.unparen :: patPropertiesUnparen rest

def PatProperty.unparen : PatProperty → PatProperty
  | .keyValue key value => .keyValue key.unparen value.unparen
  | .shorthand id default => .shorthand id (optUnparen default)
  | .rest inner => .rest inner.unparen

def Class.unparen : Class → Class
  | ⟨span, decorators, base, members⟩ =>
    ⟨span, exprsUnparen decorators, optUnparen base, membersUnparen members⟩

def membersUnparen : List ClassMember → List ClassMember
  | [] => []
  | m :: rest => m.unparen :: membersUnparen rest

def ClassMember.unparen : ClassMember → ClassMember
  | .ctor span params body => .ctor span (paramsUnparen params) (bodyUnparen body)
  | .method kind isStatic decorators key func =>
    .method kind isStatic (exprsUnparen decorators) key.unparen func.unparen
  | .field span isStatic decorators key value =>
    .field span isStatic (exprsUnparen decorators) key.unparen (optUnparen value)
  | .accessor span isStatic decorators key value =>
    .accessor span isStatic (exprsUnparen decorators) key.unparen (optUnparen value)
  | .staticBlock span body => .staticBlock span (stmtsUnparen body)
  | .other span => .other span

def declaratorsUnparen : List Declarator → List Declarator
  | [] => []
  | d :: rest => d.unparen :: declaratorsUnparen rest

def Declarator.unparen : Declarator → Declarator
  | ⟨span, pat, init⟩ => ⟨span, pat.unparen, optUnparen init⟩

def stmtsUnparen : List Stmt → List Stmt
  | [] => []
  | s :: rest => s.unparen :: stmtsUnparen rest

def optStmtUnparen : Option Stmt → Option Stmt
  | none => none
  | some s => some s.unparen

/-- A statement with every parenthesized expression in it replaced by its content. -/
def Stmt.unparen : Stmt → Stmt
  | .block span body => .block span (stmtsUnparen body)
  | .simple span => .simple span
  | .expr span value => .expr span value.unparen
  | .ret span value => .ret span (optUnparen value)
  | .throw span value => .throw span value.unparen
  | .ifElse span test consequent alternate =>
    .ifElse span test.unparen consequent.unparen (optStmtUnparen alternate)
  | .labeled span body => .labeled span body.unparen
  | .switch span subject clauses => .switch span subject.unparen (stmtsUnparen clauses)
  | .clause span test body => .clause span (optUnparen test) (stmtsUnparen body)
  | .tryCatch span body handler finalizer =>
    .tryCatch span (stmtsUnparen body) (optStmtUnparen handler) (optStmtUnparen finalizer)
  | .handler span param body => .handler span param.unparen (stmtsUnparen body)
  | .whileLoop span test body => .whileLoop span test.unparen body.unparen
  | .doWhile span body test => .doWhile span body.unparen test.unparen
  | .forLoop span init test update body =>
    .forLoop span (optStmtUnparen init) (optUnparen test) (optUnparen update) body.unparen
  | .forIn span head source body => .forIn span head.unparen source.unparen body.unparen
  | .forOf span head source body => .forOf span head.unparen source.unparen body.unparen
  | .target pat => .target pat.unparen
  | .withObject span owner body => .withObject span owner.unparen body.unparen
  | .vars span kind declarators => .vars span kind (declaratorsUnparen declarators)
  | .function name func => .function name func.unparen
  | .classDecl name cls => .classDecl name cls.unparen
  | .typeDecl span kind name => .typeDecl span kind name

end

/-! ### Answers that differ in parentheses only -/

section Alike

variable {α β γ δ : Type} {x : Option α} {k : α → Option γ} {g : γ → δ}

/-- Two searches find things that correspond, if their first steps do and the steps behind these do. -/
theorem bind_alike {y : Option β} {k' : β → Option δ} {f : α → β} (first : y = x.map f)
    (rest : ∀ a, k' (f a) = (k a).map g) : (y >>= k') = (x >>= k).map g := by
  subst first
  cases x with
  | none => rfl
  | some a => exact rest a

theorem bind_same {y : Option α} {k' : α → Option δ} (first : y = x)
    (rest : ∀ a, k' a = (k a).map g) : (y >>= k') = (x >>= k).map g := by
  subst first
  cases y with
  | none => rfl
  | some a => exact rest a

theorem ite_alike {c d : Bool} {t e : Option γ} {t' e' : Option δ} (test : d = c)
    (yes : t' = t.map g) (no : e' = e.map g) :
    (if d then t' else e') = (if c then t else e).map g := by
  subst test
  cases d with
  | true => exact yes
  | false => exact no

theorem mapM_alike {k' : β → Option δ} {f : α → β} (each : ∀ a, k' (f a) = (k a).map g)
    (xs : List α) : (xs.map f).mapM k' = (xs.mapM k).map (List.map g) := by
  induction xs with
  | nil => rfl
  | cons a rest ih =>
      rw [List.map_cons, List.mapM_cons, List.mapM_cons]
      refine bind_alike (each a) fun first => ?_
      exact bind_alike ih fun others => rfl

end Alike

/-! ### Lists of nodes -/

@[simp] theorem optUnparen_eq_map (e : Option Expr) : optUnparen e = e.map Expr.unparen := by
  cases e <;> rfl

@[simp] theorem optStmtUnparen_eq_map (s : Option Stmt) : optStmtUnparen s = s.map Stmt.unparen := by
  cases s <;> rfl

@[simp] theorem exprsUnparen_eq_map (es : List Expr) : exprsUnparen es = es.map Expr.unparen := by
  induction es with
  | nil => rfl
  | cons e rest ih => simp [exprsUnparen, ih]

@[simp] theorem elementsUnparen_eq_map (es : List Element) :
    elementsUnparen es = es.map Element.unparen := by
  induction es with
  | nil => rfl
  | cons e rest ih => simp [elementsUnparen, ih]

@[simp] theorem propertiesUnparen_eq_map (ps : List Property) :
    propertiesUnparen ps = ps.map Property.unparen := by
  induction ps with
  | nil => rfl
  | cons p rest ih => simp [propertiesUnparen, ih]

@[simp] theorem paramsUnparen_eq_map (ps : List Param) :
    paramsUnparen ps = ps.map Param.unparen := by
  induction ps with
  | nil => rfl
  | cons p rest ih => simp [paramsUnparen, ih]

@[simp] theorem patsUnparen_eq_map (ps : List Pat) : patsUnparen ps = ps.map Pat.unparen := by
  induction ps with
  | nil => rfl
  | cons p rest ih => simp [patsUnparen, ih]

@[simp] theorem declaratorsUnparen_eq_map (ds : List Declarator) :
    declaratorsUnparen ds = ds.map Declarator.unparen := by
  induction ds with
  | nil => rfl
  | cons d rest ih => simp [declaratorsUnparen, ih]

@[simp] theorem stmtsUnparen_eq_map (ss : List Stmt) : stmtsUnparen ss = ss.map Stmt.unparen := by
  induction ss with
  | nil => rfl
  | cons s rest ih => simp [stmtsUnparen, ih]

@[simp] theorem bodyUnparen_eq_map (body : Option (List Stmt)) :
    bodyUnparen body = body.map (List.map Stmt.unparen) := by
  cases body <;> simp [bodyUnparen]

@[simp] theorem Func.unparen_body (func : Func) :
    func.unparen.body = func.body.map (List.map Stmt.unparen) := by
  cases func
  simp [Func.unparen]

@[simp] theorem Func.unparen_params (func : Func) :
    func.unparen.params = func.params.map Param.unparen := by
  cases func
  simp [Func.unparen]

@[simp] theorem Param.unparen_pat (p : Param) : p.unparen.pat = p.pat.unparen := by
  cases p
  rfl

@[simp] theorem Declarator.unparen_pat (d : Declarator) : d.unparen.pat = d.pat.unparen := by
  cases d
  rfl

@[simp] theorem Declarator.unparen_init (d : Declarator) :
    d.unparen.init = d.init.map Expr.unparen := by
  cases d
  simp [Declarator.unparen]

/-! ### Parts of nodes -/

def Member.unparen (m : Member) : Member := ⟨m.span, m.object.unparen, m.key.unparen⟩

def Call.unparen (call : Call) : Call :=
  ⟨call.span, call.callee.unparen, call.args.map Element.unparen⟩

def Assignment.unparen (a : Assignment) : Assignment :=
  ⟨a.span, a.op, a.target.unparen, a.value.unparen⟩

def FunctionDecl.unparen (d : FunctionDecl) : FunctionDecl := ⟨d.name, d.func.unparen⟩

/-! ### The expression under the parentheses -/

namespace Expr

/-- An expression that is not in parentheses itself. -/
def IsBare (e : Expr) : Prop := ∀ span inner, e ≠ .paren span inner

/-- Induction on the parentheses around an expression. -/
theorem bareInduction {motive : Expr → Prop}
    (paren : ∀ span inner, motive inner → motive (.paren span inner))
    (other : ∀ e : Expr, e.IsBare → motive e) : (e : Expr) → motive e
  | .paren span inner => paren span inner (bareInduction paren other inner)
  | .ident _ | .string _ _ | .number _ _ | .atom _ _ | .array _ _ | .object _ _ | .function _ _
  | .arrow _ _ _ _ | .classExpr _ _ | .unary _ _ _ | .binary _ _ _ _ | .assign _ _ _ _
  | .member _ _ _ _ | .superMember _ _ | .conditional _ _ _ _ | .call _ _ _ _ | .sequence _ _
  | .template _ _ _ | .yield _ _ => other _ nofun

theorem IsBare.bare_eq {e : Expr} (isBare : e.IsBare) : e.bare = e := by
  cases e with
  | paren span inner => exact absurd rfl (isBare span inner)
  | _ => rfl

theorem isBare_bare (e : Expr) : e.bare.IsBare := by
  induction e using bareInduction with
  | paren span inner ih => exact ih
  | other e isBare => rwa [isBare.bare_eq]

theorem bare_bare (e : Expr) : e.bare.bare = e.bare := e.isBare_bare.bare_eq

theorem unparen_bare (e : Expr) : e.bare.unparen = e.unparen := by
  induction e using bareInduction with
  | paren span inner ih => exact ih
  | other e isBare => rw [isBare.bare_eq]

theorem IsBare.bare_unparen {e : Expr} (isBare : e.IsBare) : e.unparen.bare = e.unparen := by
  cases e with
  | paren span inner => exact absurd rfl (isBare span inner)
  | _ => simp only [unparen, bare]

@[simp] theorem bare_unparen (e : Expr) : e.unparen.bare = e.bare.unparen := by
  rw [← e.unparen_bare]
  exact e.isBare_bare.bare_unparen

end Expr

/-! ### Names, texts and members -/

namespace Expr

theorem ident?_unparen (e : Expr) : e.unparen.ident? = e.ident? := by
  simp only [ident?, bare_unparen]
  cases under : e.bare with
  | paren span inner => exact absurd under (e.isBare_bare span inner)
  | _ => rfl

theorem isNamed_unparen (e : Expr) (name : String) : e.unparen.isNamed name = e.isNamed name := by
  simp only [isNamed, ident?_unparen]

theorem string?_unparen (e : Expr) : e.unparen.string? = e.string? := by
  simp only [string?, bare_unparen]
  cases under : e.bare with
  | paren span inner => exact absurd under (e.isBare_bare span inner)
  | _ => rfl

theorem member?_unparen (e : Expr) : e.unparen.member? = e.member?.map Member.unparen := by
  simp only [member?, bare_unparen]
  cases under : e.bare with
  | paren span inner => exact absurd under (e.isBare_bare span inner)
  | member span chained owner key => cases chained <;> rfl
  | _ => rfl

theorem call?_unparen (e : Expr) : e.unparen.call? = e.call?.map Call.unparen := by
  simp only [call?, bare_unparen]
  cases under : e.bare with
  | paren span inner => exact absurd under (e.isBare_bare span inner)
  | call span kind callee args => cases kind <;> simp [unparen, Call.unparen]
  | _ => rfl

theorem assignment?_unparen (e : Expr) :
    e.unparen.assignment? = e.assignment?.map Assignment.unparen := by
  simp only [assignment?, bare_unparen]
  cases under : e.bare with
  | paren span inner => exact absurd under (e.isBare_bare span inner)
  | assign span op target value => cases op <;> rfl
  | _ => rfl

theorem elements?_unparen (e : Expr) :
    e.unparen.elements? = e.elements?.map (List.map Expr.unparen) := by
  simp only [elements?, bare_unparen]
  cases under : e.bare with
  | paren span inner => exact absurd under (e.isBare_bare span inner)
  | array span elements =>
      simp only [unparen, elementsUnparen_eq_map, Option.map_some, List.filterMap_map,
        List.map_filterMap]
      congr 2
      funext element
      cases element <;> rfl
  | _ => rfl

end Expr

theorem Key.name?_unparen (key : Key) : key.unparen.name? = key.name? := by
  cases key with
  | computed span e => simp only [Key.unparen, Key.name?, Expr.string?_unparen]
  | _ => rfl

theorem Member.name?_unparen (m : Member) : m.unparen.name? = m.name? := by
  obtain ⟨span, owner, key⟩ := m
  cases key with
  | computed keySpan e => simp only [Member.unparen, Member.name?, Key.unparen, Expr.string?_unparen]
  | _ => rfl

theorem Pat.ident?_unparen (pat : Pat) : pat.unparen.ident? = pat.ident? := by
  cases pat with
  | expr inner => cases inner <;> rfl
  | _ => rfl

theorem Pat.member?_unparen (pat : Pat) : pat.unparen.member? = pat.member?.map Member.unparen := by
  cases pat with
  | expr inner =>
      cases inner with
      | member span chained owner key => cases chained <;> rfl
      | _ => rfl
  | _ => rfl

theorem Stmt.expr?_unparen (s : Stmt) : s.unparen.expr? = s.expr?.map Expr.unparen := by
  cases s with
  | expr span e => simp only [Stmt.unparen, Stmt.expr?, Expr.bare_unparen, Option.map_some]
  | _ => rfl

/-! ### Calls -/

namespace Call

theorem function?_unparen (call : Call) : call.unparen.function? = call.function?.map Expr.unparen := by
  simp only [function?, Call.unparen, Expr.bare_unparen]
  cases under : call.callee.bare with
  | paren span inner => exact absurd under (call.callee.isBare_bare span inner)
  | atom span kind => cases kind <;> rfl
  | _ => rfl

theorem isBare_of_function? (call : Call) {callee : Expr} (called : call.function? = some callee) :
    callee.IsBare := by
  have isBare := call.callee.isBare_bare
  unfold function? at called
  split at called
  · cases called
  · cases called
  · cases called
    exact isBare

theorem plainArgs?_unparen (call : Call) :
    call.unparen.plainArgs? = call.plainArgs?.map (List.map Expr.unparen) := by
  refine mapM_alike (fun arg => ?_) call.args
  cases arg <;> rfl

theorem requires?_unparen (call : Call) : call.unparen.requires? = call.requires? := by
  simp only [requires?, function?_unparen, plainArgs?_unparen]
  cases call.function? with
  | none => rfl
  | some callee =>
      cases call.plainArgs? with
      | none => simp
      | some args =>
          match args with
          | [] => simp
          | [arg] => simp [Expr.isNamed_unparen, Expr.string?_unparen]
          | _ :: _ :: _ => simp

end Call

namespace Expr

theorem requires?_unparen (e : Expr) : e.unparen.requires? = e.requires? := by
  simp only [requires?, call?_unparen]
  cases e.call? with
  | none => rfl
  | some call => exact call.requires?_unparen

theorem helperName?_unparen (e : Expr) : e.unparen.helperName? = e.helperName? := by
  simp only [helperName?, bare_unparen]
  cases under : e.bare with
  | paren span inner => exact absurd under (e.isBare_bare span inner)
  | member span chained owner key =>
      cases chained with
      | true => rfl
      | false =>
          have name := Member.name?_unparen ⟨span, owner, key⟩
          simp only [Member.unparen] at name
          simp only [unparen, ident?_unparen, name]
  | _ => rfl

theorem helperCall?_unparen (e : Expr) (name : String) :
    e.unparen.helperCall? name = (e.helperCall? name).map Call.unparen := by
  unfold helperCall?
  refine bind_alike e.call?_unparen fun call => ?_
  refine bind_alike call.function?_unparen fun callee => ?_
  refine bind_same callee.helperName?_unparen fun helper => ?_
  exact ite_alike rfl rfl rfl

end Expr

/-! ### Object literals -/

def PropertyValue.unparen : PropertyValue → PropertyValue
  | .value key e => .value key.unparen e.unparen
  | .method func => .method func.unparen
  | .getter span => .getter span
  | .setter span => .setter span

def FunctionLike.unparen : FunctionLike → FunctionLike
  | .function func => .function func.unparen
  | .arrow span params concise body =>
    .arrow span (params.map Pat.unparen) concise (body.map Stmt.unparen)

def DefineProperty.unparen (d : DefineProperty) : DefineProperty :=
  ⟨d.call.unparen, d.target.unparen, d.name, d.descriptor, d.properties.map Property.unparen⟩

theorem Property.named?_unparen (p : Property) :
    p.unparen.named? = p.named?.map (Prod.map id PropertyValue.unparen) := by
  cases p with
  | shorthand | initialized | spread => rfl
  | _ =>
      simp only [Property.unparen, Property.named?, Key.name?_unparen, Option.map_map]
      rfl

theorem namedProperties_unparen (ps : List Property) :
    namedProperties (ps.map Property.unparen) =
      (namedProperties ps).map (Prod.map id PropertyValue.unparen) := by
  simp only [namedProperties, List.filterMap_map, List.map_filterMap]
  congr 1
  funext p
  exact p.named?_unparen

theorem Expr.functionLike?_unparen (e : Expr) :
    e.unparen.functionLike? = e.functionLike?.map FunctionLike.unparen := by
  simp only [functionLike?, bare_unparen]
  cases under : e.bare with
  | paren span inner => exact absurd under (e.isBare_bare span inner)
  | arrow span params concise body => simp [unparen, FunctionLike.unparen]
  | _ => rfl

theorem returnedBy_unparen (body : List Stmt) :
    returnedBy (body.map Stmt.unparen) = (returnedBy body).map Expr.unparen := by
  match body with
  | [] => rfl
  | _ :: _ :: _ => simp [returnedBy]
  | [s] =>
      cases s with
      | ret span value =>
          cases value with
          | none => rfl
          | some e => simp [Stmt.unparen, returnedBy]
      | _ => rfl

theorem FunctionLike.returned?_unparen (f : FunctionLike) :
    f.unparen.returned? = f.returned?.map Expr.unparen := by
  cases f with
  | arrow span params concise body => exact returnedBy_unparen body
  | function func =>
      simp only [FunctionLike.unparen, FunctionLike.returned?, Func.unparen_body]
      cases func.body with
      | none => rfl
      | some body => exact returnedBy_unparen body

theorem propertyFunction?_unparen (ps : List Property) (name : String) :
    propertyFunction? (ps.map Property.unparen) name =
      (propertyFunction? ps name).map FunctionLike.unparen := by
  simp only [propertyFunction?, namedProperties_unparen]
  induction namedProperties ps with
  | nil => rfl
  | cons entry rest ih =>
      obtain ⟨key, value⟩ := entry
      rw [List.map_cons, List.findSome?_cons, List.findSome?_cons, ih]
      by_cases same : key = name
      · cases value with
        | value key e =>
            simp only [Prod.map_apply, id, PropertyValue.unparen, same, beq_self_eq_true, if_true,
              Expr.functionLike?_unparen]
            cases e.functionLike? <;> rfl
        | _ => simp [PropertyValue.unparen, FunctionLike.unparen, same]
      · simp [same]

theorem Expr.defineProperty?_unparen (e : Expr) :
    e.unparen.defineProperty? = e.defineProperty?.map DefineProperty.unparen := by
  unfold defineProperty?
  refine bind_alike e.call?_unparen fun call => ?_
  refine bind_alike call.function?_unparen fun callee => ?_
  refine bind_alike callee.member?_unparen fun m => ?_
  have owner : m.unparen.object.isNamed "Object" = m.object.isNamed "Object" :=
    m.object.isNamed_unparen "Object"
  refine ite_alike (by rw [owner, m.name?_unparen]) ?_ rfl
  refine bind_alike call.plainArgs?_unparen fun args => ?_
  match args with
  | [] | [_] | [_, _] | _ :: _ :: _ :: _ :: _ => rfl
  | [target, name, descriptor] =>
      simp only [List.map_cons, List.map_nil, bare_unparen]
      cases under : descriptor.bare with
      | paren span inner => exact absurd under (descriptor.isBare_bare span inner)
      | object span properties =>
          refine bind_same name.string?_unparen fun name => ?_
          simp [DefineProperty.unparen]
      | _ => rfl

end BundleLens
