/-
Module: BundleLens.Proofs.Parentheses
Layer: Proofs
Purpose: No shape depends on parentheses. What is recognized in a statement is recognized in the
  statement without parentheses, and there it has the same names, positions, branches and flags; the
  nodes that it consists of are those of the statement, without their parentheses.
Imports: BundleLens.Proofs.Unparen, BundleLens.Shape.Decoration, BundleLens.Shape.Enumeration,
  BundleLens.Shape.Wrapper
Main exports: Wrapper.unparen, ExportsAssignment.unparen, EnumIife.unparen, DecorateCall.unparen,
  shapes_unparen
-/
import BundleLens.Proofs.Unparen
import BundleLens.Shape.Decoration
import BundleLens.Shape.Enumeration
import BundleLens.Shape.Wrapper

namespace BundleLens

/-! ### Exports -/

def ExportsAssignment.unparen (a : ExportsAssignment) : ExportsAssignment :=
  ⟨a.targets.map (Prod.map id Assignment.unparen), a.value.unparen⟩

def Reexport.unparen (r : Reexport) : Reexport := ⟨r.call.unparen, r.name, r.value.unparen⟩

theorem Member.exported?_unparen (m : Member) : m.unparen.exported? = m.exported? := by
  have owner : m.unparen.object.isNamed "exports" = m.object.isNamed "exports" :=
    m.object.isNamed_unparen "exports"
  simp only [Member.exported?, owner, Member.name?_unparen]

theorem Expr.exported?_unparen (e : Expr) : e.unparen.exported? = e.exported? := by
  simp only [Expr.exported?, Expr.member?_unparen]
  cases e.member? with
  | none => rfl
  | some m => exact m.exported?_unparen

theorem Assignment.exported?_unparen (a : Assignment) : a.unparen.exported? = a.exported? := by
  simp only [Assignment.exported?, Assignment.unparen, Pat.member?_unparen]
  cases a.target.member? with
  | none => rfl
  | some m => simp [Member.exported?_unparen]

theorem exportsChain_unparen : (e : Expr) →
    exportsChain e.unparen =
      ((exportsChain e).1.map (Prod.map id Assignment.unparen), (exportsChain e).2.unparen)
  | .paren _ inner => exportsChain_unparen inner
  | .assign span .plain target value => by
      have same := Assignment.exported?_unparen ⟨span, .plain, target, value⟩
      have behind := exportsChain_unparen value
      simp only [Assignment.unparen] at same
      simp only [Expr.unparen, exportsChain, same]
      cases Assignment.exported? ⟨span, .plain, target, value⟩ with
      | none => rfl
      | some name => simp [behind, Assignment.unparen]
  | .assign _ .compound _ _ | .ident _ | .string _ _ | .number _ _ | .atom _ _ | .array _ _ | .object _ _
  | .function _ _ | .arrow _ _ _ _ | .classExpr _ _ | .unary _ _ _ | .binary _ _ _ _ | .member _ _ _ _
  | .superMember _ _ | .conditional _ _ _ _ | .call _ _ _ _ | .sequence _ _ | .template _ _ _
  | .yield _ _ => rfl

theorem Stmt.exportsAssignment?_unparen (s : Stmt) :
    s.unparen.exportsAssignment? = s.exportsAssignment?.map ExportsAssignment.unparen := by
  unfold Stmt.exportsAssignment?
  refine bind_alike s.expr?_unparen fun e => ?_
  simp only [Expr.exportsAssignment?, exportsChain_unparen]
  generalize exportsChain e = chain
  obtain ⟨targets, value⟩ := chain
  cases targets <;> rfl

theorem Stmt.reexport?_unparen (s : Stmt) :
    s.unparen.reexport? = s.reexport?.map Reexport.unparen := by
  unfold Stmt.reexport?
  refine bind_alike s.expr?_unparen fun e => ?_
  refine bind_alike e.defineProperty?_unparen fun define => ?_
  refine ite_alike (define.target.isNamed_unparen "exports") ?_ rfl
  refine bind_alike (propertyFunction?_unparen define.properties "get") fun getter => ?_
  exact bind_alike getter.returned?_unparen fun value => rfl

theorem sameReference_unparen (a b : Expr) :
    sameReference a.unparen b.unparen = sameReference a b := by
  fun_induction sameReference a b with
  | case1 span a b ih => exact ih
  | case2 a b other under => simp [Expr.unparen, sameReference, under]
  | case3 a b other =>
      simp only [Expr.unparen, sameReference, Expr.bare_unparen]
      cases under : b.bare with
      | paren span inner => exact absurd under (b.isBare_bare span inner)
      | ident id => exact absurd under (other id)
      | _ => rfl
  | case4 span owner key b span' owner' key' under name ih =>
      have first := Member.name?_unparen ⟨span, owner, key⟩
      have second := Member.name?_unparen ⟨span', owner', key'⟩
      simp only [Member.unparen] at first second
      simp [Expr.unparen, sameReference, under, first, second, ih, name]
  | case5 span owner key b other =>
      simp only [Expr.unparen, sameReference, Expr.bare_unparen]
      cases under : b.bare with
      | paren span inner => exact absurd under (b.isBare_bare span inner)
      | member span' chained owner' key' =>
          cases chained with
          | false => exact absurd under (other span' owner' key')
          | true => rfl
      | _ => rfl
  | case6 span callee args b span' callee' args' under source =>
      have first := Call.requires?_unparen ⟨span, callee, args⟩
      have second := Call.requires?_unparen ⟨span', callee', args'⟩
      simp only [Call.unparen] at first second
      simp [Expr.unparen, sameReference, under, first, second, source]
  | case7 span callee args b other =>
      simp only [Expr.unparen, sameReference, Expr.bare_unparen]
      cases under : b.bare with
      | paren span inner => exact absurd under (b.isBare_bare span inner)
      | call span' kind callee' args' =>
          cases kind with
          | plain => exact absurd under (other span' callee' args')
          | _ => rfl
      | _ => rfl
  | case8 a b unwrapped unnamed noMember noCall =>
      cases a with
      | paren span inner => exact absurd rfl (unwrapped span inner)
      | ident id => exact absurd rfl (unnamed id)
      | member span chained owner key =>
          cases chained with
          | false => exact absurd rfl (noMember span owner key)
          | true => rfl
      | call span kind callee args =>
          cases kind with
          | plain => exact absurd rfl (noCall span callee args)
          | _ => rfl
      | _ => rfl

theorem Stmt.single?_unparen (s : Stmt) : s.unparen.single? = s.single?.map Stmt.unparen := by
  cases s with
  | block span body =>
      match body with
      | [] | [_] | _ :: _ :: _ => rfl
  | _ => rfl

theorem Stmt.loopName?_unparen (s : Stmt) : s.unparen.loopName? = s.loopName? := by
  cases s with
  | vars span kind declarators =>
      match declarators with
      | [] | _ :: _ :: _ => rfl
      | [d] => simp [Stmt.unparen, Stmt.loopName?, Pat.ident?_unparen]
  | target pat => simp [Stmt.unparen, Stmt.loopName?, Pat.ident?_unparen]
  | _ => rfl

theorem Stmt.loopBody?_unparen (s : Stmt) : s.unparen.loopBody? = s.loopBody?.map Stmt.unparen := by
  unfold Stmt.loopBody?
  refine bind_alike s.single?_unparen fun body => ?_
  cases body with
  | ifElse span test consequent alternate =>
      cases alternate with
      | none => exact consequent.single?_unparen
      | some other => rfl
  | _ => rfl

theorem Member.isKeyedBy_unparen (m : Member) (name : String) :
    m.unparen.isKeyedBy name = m.isKeyedBy name := by
  obtain ⟨span, owner, key⟩ := m
  cases key with
  | computed keySpan e => exact e.isNamed_unparen name
  | _ => rfl

theorem wildcardLoop?_unparen (head : Stmt) (source : Expr) (body : Stmt) :
    wildcardLoop? head.unparen source.unparen body.unparen =
      (wildcardLoop? head source body).map Expr.unparen := by
  unfold wildcardLoop?
  refine bind_same head.loopName?_unparen fun name => ?_
  refine bind_alike body.loopBody?_unparen fun inner => ?_
  refine bind_alike inner.expr?_unparen fun e => ?_
  refine bind_alike e.assignment?_unparen fun assign => ?_
  refine bind_alike assign.target.member?_unparen fun target => ?_
  refine bind_alike assign.value.member?_unparen fun value => ?_
  have owner : target.unparen.object.isNamed "exports" = target.object.isNamed "exports" :=
    target.object.isNamed_unparen "exports"
  have copied : sameReference value.unparen.object source.unparen.bare =
      sameReference value.object source.bare := by
    rw [source.bare_unparen]
    exact sameReference_unparen value.object source.bare
  refine ite_alike ?_ (congrArg some source.bare_unparen) rfl
  rw [owner, target.isKeyedBy_unparen, value.isKeyedBy_unparen, copied]

theorem Stmt.wildcard?_unparen (s : Stmt) : s.unparen.wildcard? = s.wildcard?.map Expr.unparen := by
  cases s with
  | forIn span head source body => exact wildcardLoop?_unparen head source body
  | expr span e =>
      simp only [Stmt.wildcard?, Stmt.unparen]
      refine bind_alike (Stmt.expr span e).expr?_unparen fun inner => ?_
      refine bind_alike inner.call?_unparen fun call => ?_
      refine bind_alike call.plainArgs?_unparen fun args => ?_
      refine bind_alike call.function?_unparen fun callee => ?_
      refine bind_same callee.helperName?_unparen fun helper => ?_
      rcases args with _ | ⟨source, _ | ⟨receiver, _ | ⟨third, rest⟩⟩⟩
      · simp
      · by_cases copies : helper = "__export"
        · simp [copies]
        · simp [copies]
      · by_cases copies : helper = "__exportStar"
        · subst copies
          exact ite_alike (receiver.isNamed_unparen "exports") (congrArg some source.bare_unparen) rfl
        · simp [copies]
      · simp
  | _ => rfl

/-! ### Classes -/

def Iife.unparen (iife : Iife) : Iife := ⟨iife.call.unparen, iife.func.unparen⟩

def ClassIife.unparen (c : ClassIife) : ClassIife := ⟨c.iife.unparen, c.inner.unparen, c.aliases⟩

def StaticAssignment.unparen (a : StaticAssignment) : StaticAssignment :=
  ⟨a.assign.unparen, a.property, a.value.unparen, a.onPrototype⟩

def PropertyAccessor.unparen (a : PropertyAccessor) : PropertyAccessor :=
  ⟨a.call.unparen, a.name, a.isStatic, a.getter.map Func.unparen, a.setter.map Func.unparen⟩

theorem aliasChain_unparen : (e : Expr) →
    aliasChain e.unparen = ((aliasChain e).1, (aliasChain e).2.unparen)
  | .paren _ inner => aliasChain_unparen inner
  | .assign _ .plain target value => by
      have behind := aliasChain_unparen value
      simp only [Expr.unparen, aliasChain, Pat.ident?_unparen]
      cases target.ident? with
      | none => rfl
      | some id => simp [behind]
  | .assign _ .compound _ _ | .ident _ | .string _ _ | .number _ _ | .atom _ _ | .array _ _ | .object _ _
  | .function _ _ | .arrow _ _ _ _ | .classExpr _ _ | .unary _ _ _ | .binary _ _ _ _ | .member _ _ _ _
  | .superMember _ _ | .conditional _ _ _ _ | .call _ _ _ _ | .sequence _ _ | .template _ _ _
  | .yield _ _ => rfl

theorem Expr.unnegated_unparen (e : Expr) : e.unparen.unnegated = e.unnegated.unparen := by
  simp only [Expr.unnegated, Expr.bare_unparen]
  cases under : e.bare with
  | paren span inner => exact absurd under (e.isBare_bare span inner)
  | unary span op operand =>
      cases op with
      | not => exact operand.bare_unparen
      | _ => rfl
  | _ => rfl

theorem Expr.iife?_unparen (e : Expr) : e.unparen.iife? = e.iife?.map Iife.unparen := by
  unfold Expr.iife?
  rw [Expr.unnegated_unparen]
  refine bind_alike e.unnegated.call?_unparen fun call => ?_
  rw [call.function?_unparen]
  cases called : call.function? with
  | none => rfl
  | some callee =>
      have isBare := call.isBare_of_function? called
      cases callee with
      | paren span inner => exact absurd rfl (isBare span inner)
      | _ => rfl

theorem returnedName?_unparen (body : List Stmt) :
    returnedName? (body.map Stmt.unparen) = returnedName? body := by
  simp only [returnedName?, List.getLast?_map]
  cases body.getLast? with
  | none => rfl
  | some s =>
      cases s with
      | ret span value =>
          cases value with
          | none => rfl
          | some e => simp [Stmt.unparen, Expr.ident?_unparen]
      | _ => rfl

theorem Stmt.functionDecl?_unparen (s : Stmt) :
    s.unparen.functionDecl? = s.functionDecl?.map FunctionDecl.unparen := by
  cases s <;> rfl

theorem declaredAs_unparen (body : List Stmt) (name : String) :
    ((body.map Stmt.unparen).findSome? fun s => s.functionDecl?.filter (·.name.name == name)) =
      (body.findSome? fun s => s.functionDecl?.filter (·.name.name == name)).map
        FunctionDecl.unparen := by
  induction body with
  | nil => rfl
  | cons s rest ih =>
      rw [List.map_cons, List.findSome?_cons, List.findSome?_cons, ih, Stmt.functionDecl?_unparen]
      cases s.functionDecl? with
      | none => rfl
      | some decl =>
          by_cases same : decl.name.name = name
          · simp [FunctionDecl.unparen, Option.filter, same]
          · simp [FunctionDecl.unparen, Option.filter, same]

theorem Expr.classIife?_unparen (e : Expr) :
    e.unparen.classIife? = e.classIife?.map ClassIife.unparen := by
  simp only [Expr.classIife?, aliasChain_unparen]
  refine bind_alike (aliasChain e).2.iife?_unparen fun iife => ?_
  refine bind_alike iife.func.unparen_body fun body => ?_
  refine bind_same (returnedName?_unparen body) fun name => ?_
  exact bind_alike (declaredAs_unparen body name) fun inner => rfl

theorem Expr.isOneOf_unparen (e : Expr) (names : List String) :
    e.unparen.isOneOf names = e.isOneOf names := by
  simp only [Expr.isOneOf, Expr.ident?_unparen]

theorem Expr.classSide?_unparen (e : Expr) (names : List String) :
    e.unparen.classSide? names = e.classSide? names := by
  have prototype : e.unparen.isPrototypeOf names = e.isPrototypeOf names := by
    simp only [Expr.isPrototypeOf, Expr.member?_unparen]
    cases e.member? with
    | none => rfl
    | some m =>
        have owner : m.unparen.object.isOneOf names = m.object.isOneOf names :=
          m.object.isOneOf_unparen names
        simp only [Option.map_some, Member.name?_unparen, owner]
  simp only [Expr.classSide?, Expr.ident?_unparen, prototype]

theorem Stmt.staticAssignment?_unparen (s : Stmt) (names : List String) :
    s.unparen.staticAssignment? names = (s.staticAssignment? names).map StaticAssignment.unparen := by
  unfold Stmt.staticAssignment?
  refine bind_alike s.expr?_unparen fun e => ?_
  refine bind_alike e.assignment?_unparen fun assign => ?_
  refine bind_alike assign.target.member?_unparen fun target => ?_
  refine bind_same target.name?_unparen fun property => ?_
  refine bind_same (target.object.classSide?_unparen names) fun side => ?_
  have value : (aliasChain assign.unparen.value).2 = (aliasChain assign.value).2.unparen :=
    congrArg Prod.snd (aliasChain_unparen assign.value)
  rw [value]
  cases side with
  | true => exact ite_alike rfl rfl rfl
  | false => rfl

theorem ownFunction?_unparen (ps : List Property) (name : String) :
    ownFunction? (ps.map Property.unparen) name = (ownFunction? ps name).map Func.unparen := by
  simp only [ownFunction?, propertyFunction?_unparen]
  cases propertyFunction? ps name with
  | none => rfl
  | some found => cases found <;> rfl

theorem Stmt.propertyAccessor?_unparen (s : Stmt) (names : List String) :
    s.unparen.propertyAccessor? names = (s.propertyAccessor? names).map PropertyAccessor.unparen := by
  unfold Stmt.propertyAccessor?
  refine bind_alike s.expr?_unparen fun e => ?_
  refine bind_alike e.defineProperty?_unparen fun define => ?_
  refine bind_same (define.target.classSide?_unparen names) fun isStatic => ?_
  simp only [DefineProperty.unparen, ownFunction?_unparen, Option.isNone_map]
  exact ite_alike rfl rfl rfl

/-! ### Decorators -/

def DecorateCall.unparen (d : DecorateCall) : DecorateCall :=
  ⟨d.call.unparen, d.decorators.map Expr.unparen, d.target.unparen, d.member⟩

theorem Expr.decorateCall?_unparen (e : Expr) :
    e.unparen.decorateCall? = e.decorateCall?.map DecorateCall.unparen := by
  unfold Expr.decorateCall?
  refine bind_alike (e.helperCall?_unparen "__decorate") fun call => ?_
  refine bind_alike call.plainArgs?_unparen fun args => ?_
  match args with
  | [] | [_] => rfl
  | [list, target] =>
      refine bind_same rfl fun member => ?_
      refine bind_alike list.elements?_unparen fun decorators => ?_
      simp [DecorateCall.unparen]
  | list :: target :: key :: rest =>
      have text : (key.unparen.string?.map some : Option (Option String)) = key.string?.map some := by
        rw [key.string?_unparen]
      refine bind_same text fun member => ?_
      refine bind_alike list.elements?_unparen fun decorators => ?_
      simp [DecorateCall.unparen]

theorem Stmt.classDecorate?_unparen (s : Stmt) (names : List String) :
    s.unparen.classDecorate? names = (s.classDecorate? names).map DecorateCall.unparen := by
  unfold Stmt.classDecorate?
  refine bind_alike s.expr?_unparen fun e => ?_
  refine bind_alike e.assignment?_unparen fun assign => ?_
  refine bind_same assign.target.ident?_unparen fun target => ?_
  refine ite_alike rfl ?_ rfl
  have value : (aliasChain assign.unparen.value).2 = (aliasChain assign.value).2.unparen :=
    congrArg Prod.snd (aliasChain_unparen assign.value)
  rw [value]
  refine bind_alike (aliasChain assign.value).2.decorateCall?_unparen fun decorate => ?_
  refine bind_same decorate.target.ident?_unparen fun decorated => ?_
  exact ite_alike rfl rfl rfl

theorem Stmt.memberDecorate?_unparen (s : Stmt) (names : List String) :
    s.unparen.memberDecorate? names =
      (s.memberDecorate? names).map (Prod.map DecorateCall.unparen id) := by
  unfold Stmt.memberDecorate?
  refine bind_alike s.expr?_unparen fun e => ?_
  refine bind_alike e.decorateCall?_unparen fun decorate => ?_
  refine bind_same rfl fun member => ?_
  exact bind_same (decorate.target.classSide?_unparen names) fun isStatic => rfl

/-! ### Enumerations -/

def EnumMember.unparen (m : EnumMember) : EnumMember := ⟨m.name, m.initializer.unparen⟩

def EnumIife.unparen (shape : EnumIife) : EnumIife :=
  ⟨shape.iife.unparen, shape.param, shape.store, shape.exported,
    shape.members.map EnumMember.unparen⟩

theorem Expr.enumStore?_unparen (e : Expr) : e.unparen.enumStore? = e.enumStore? := by
  simp only [Expr.enumStore?, Expr.bare_unparen]
  cases under : e.bare with
  | paren span inner => exact absurd under (e.isBare_bare span inner)
  | binary span op left right =>
      cases op with
      | or =>
          simp only [Expr.unparen, Expr.assignment?_unparen, Expr.ident?_unparen,
            Expr.exported?_unparen]
          cases right.assignment? with
          | none => rfl
          | some init =>
              have target : init.unparen.target.ident? = init.target.ident? := init.target.ident?_unparen
              have value : init.unparen.value.bare = init.value.bare.unparen := init.value.bare_unparen
              simp only [Option.map_some, bind, Option.bind_some, target, value,
                Assignment.exported?_unparen]
              cases stored : init.value.bare with
              | paren span inner => exact absurd stored (init.value.isBare_bare span inner)
              | object span properties => cases properties <;> rfl
              | _ => rfl
      | _ => rfl
  | _ => rfl

theorem Expr.enumArgument?_unparen : (e : Expr) → e.unparen.enumArgument? = e.enumArgument?
  | .paren _ inner => inner.enumArgument?_unparen
  | .assign span op target value => by
      have stored := (Expr.assign span op target value).enumStore?_unparen
      cases op with
      | plain =>
          simp only [Expr.unparen, Expr.enumArgument?, Pat.ident?_unparen, value.enumArgument?_unparen]
      | compound => exact stored
  | .binary span op left right => (Expr.binary span op left right).enumStore?_unparen
  | .ident _ | .string _ _ | .number _ _ | .atom _ _ | .array _ _ | .object _ _ | .function _ _
  | .arrow _ _ _ _ | .classExpr _ _ | .unary _ _ _ | .member _ _ _ _ | .superMember _ _
  | .conditional _ _ _ _ | .call _ _ _ _ | .sequence _ _ | .template _ _ _ | .yield _ _ => rfl

theorem Stmt.enumMember?_unparen (s : Stmt) (param : String) :
    s.unparen.enumMember? param = (s.enumMember? param).map EnumMember.unparen := by
  unfold Stmt.enumMember?
  refine bind_alike s.expr?_unparen fun e => ?_
  refine bind_alike e.assignment?_unparen fun assign => ?_
  refine bind_alike assign.target.member?_unparen fun target => ?_
  refine ite_alike (target.object.isNamed_unparen param) ?_ rfl
  have value : assign.unparen.value.bare = assign.value.bare.unparen := assign.value.bare_unparen
  rw [value]
  obtain ⟨span, owner, key⟩ := target
  cases key with
  | computed keySpan key =>
      simp only [Member.unparen, Key.unparen, Expr.string?_unparen]
      cases key.string? with
      | some name => rfl
      | none =>
          refine bind_alike key.assignment?_unparen fun inner => ?_
          refine bind_alike inner.target.member?_unparen fun innerTarget => ?_
          refine ite_alike (innerTarget.object.isNamed_unparen param) ?_ rfl
          refine bind_same innerTarget.name?_unparen fun name => ?_
          exact congrArg (fun e => some (EnumMember.mk name e)) inner.value.bare_unparen
  | _ => rfl

theorem Stmt.enumIife?_unparen (s : Stmt) : s.unparen.enumIife? = s.enumIife?.map EnumIife.unparen := by
  unfold Stmt.enumIife?
  refine bind_alike s.expr?_unparen fun e => ?_
  refine bind_alike e.iife?_unparen fun iife => ?_
  refine bind_alike iife.call.plainArgs?_unparen fun args => ?_
  have params : iife.unparen.func.params = iife.func.params.map Param.unparen :=
    iife.func.unparen_params
  rw [params]
  match iife.func.params, args with
  | [], _ | _ :: _ :: _, _ | [_], [] | [_], _ :: _ :: _ => rfl
  | [p], [arg] =>
      have param : p.unparen.pat.ident? = p.pat.ident? := by
        rw [p.unparen_pat, p.pat.ident?_unparen]
      refine bind_same param fun param => ?_
      refine bind_same arg.enumArgument?_unparen fun stored => ?_
      refine bind_alike iife.func.unparen_body fun body => ?_
      have each : (body.map Stmt.unparen).mapM (fun s : Stmt => s.enumMember? param.name) =
          (body.mapM fun s : Stmt => s.enumMember? param.name).map (List.map EnumMember.unparen) :=
        mapM_alike (fun s : Stmt => s.enumMember?_unparen param.name) body
      refine bind_alike each fun members => ?_
      exact ite_alike List.isEmpty_map rfl rfl

/-! ### Wrappers -/

def FactoryCall.unparen (c : FactoryCall) : FactoryCall := ⟨c.branch, c.call.unparen⟩

def Wrapper.unparen (w : Wrapper) : Wrapper :=
  { call := w.call.unparen
    func := w.func.unparen
    factory := w.factory.unparen
    calls := w.calls.map FactoryCall.unparen
    amdDependencies := w.amdDependencies
    imports := w.imports }

theorem probedName_unparen (e : Expr) :
    (match e.unparen.bare with
      | .ident id => [id.name]
      | _ => []) =
    match e.bare with
      | .ident id => [id.name]
      | _ => [] := by
  rw [e.bare_unparen]
  cases under : e.bare with
  | paren span inner => exact absurd under (e.isBare_bare span inner)
  | _ => rfl

theorem testedGlobals_unparen : (e : Expr) → testedGlobals e.unparen = testedGlobals e
  | .paren _ inner => testedGlobals_unparen inner
  | .unary _ op operand => by
      cases op with
      | typeOf => exact probedName_unparen operand
      | _ => rfl
  | .binary _ _ left right => by
      simp only [Expr.unparen, testedGlobals, testedGlobals_unparen left, testedGlobals_unparen right]
  | .member _ chained owner _ => by
      cases chained with
      | false => exact probedName_unparen owner
      | true => rfl
  | .ident _ | .string _ _ | .number _ _ | .atom _ _ | .array _ _ | .object _ _ | .function _ _
  | .arrow _ _ _ _ | .classExpr _ _ | .assign _ _ _ _ | .superMember _ _ | .conditional _ _ _ _
  | .call _ _ _ _ | .sequence _ _ | .template _ _ _ | .yield _ _ => rfl

theorem testBranch?_unparen (test : Expr) : testBranch? test.unparen = testBranch? test := by
  simp only [testBranch?, testedGlobals_unparen]

theorem Element.isFactory_unparen (element : Element) (factory : String) :
    element.unparen.isFactory factory = element.isFactory factory := by
  cases element with
  | hole => rfl
  | item e => exact e.isNamed_unparen factory
  | spread e => exact e.isNamed_unparen factory

theorem factoryCall?_unparen (factory : String) (branch : Branch) (call : Call) :
    factoryCall? factory branch call.unparen =
      (factoryCall? factory branch call).map FactoryCall.unparen := by
  have passes : call.unparen.args.any (Element.isFactory factory) =
      call.args.any (Element.isFactory factory) := by
    simp only [Call.unparen, List.any_map, Function.comp_def, Element.isFactory_unparen]
  unfold factoryCall?
  refine bind_alike call.function?_unparen fun callee => ?_
  refine ite_alike (callee.isNamed_unparen factory) rfl ?_
  exact ite_alike (by rw [callee.isNamed_unparen, passes]) rfl rfl

mutual

theorem exprCalls_unparen (factory : String) (branch : Branch) : (e : Expr) →
    exprCalls factory branch e.unparen = (exprCalls factory branch e).map FactoryCall.unparen
  | .paren _ inner => exprCalls_unparen factory branch inner
  | .conditional _ test consequent alternate => by
      simp only [Expr.unparen, exprCalls, testBranch?_unparen, List.map_append]
      rw [exprCalls_unparen factory _ consequent, exprCalls_unparen factory branch alternate]
  | .binary _ op left right => by
      have ihLeft := fun branch => exprCalls_unparen factory branch left
      have ihRight := fun branch => exprCalls_unparen factory branch right
      cases op with
      | and =>
          simp only [Expr.unparen, exprCalls, testBranch?_unparen, List.map_append, ihLeft, ihRight]
      | or => simp only [Expr.unparen, exprCalls, List.map_append, ihLeft, ihRight]
      | _ => rfl
  | .sequence _ parts => by
      simp only [Expr.unparen, exprCalls, exprsUnparen_eq_map]
      exact partCalls_unparen factory branch parts
  | .assign _ _ _ value => exprCalls_unparen factory branch value
  | .call span kind callee args => by
      have ihArgs := argCalls_unparen factory branch args
      cases kind with
      | plain =>
          have found := factoryCall?_unparen factory branch ⟨span, callee, args⟩
          have called := Call.function?_unparen ⟨span, callee, args⟩
          simp only [Call.unparen] at found called
          simp only [Expr.unparen, exprCalls, elementsUnparen_eq_map, found, called,
            Option.isSome_map, ihArgs]
          cases factoryCall? factory branch ⟨span, callee, args⟩ with
          | some call => rfl
          | none =>
              simp only [Option.map_none]
              split <;> rfl
      | _ => rfl
  | .ident _ | .string _ _ | .number _ _ | .atom _ _ | .array _ _ | .object _ _ | .function _ _
  | .arrow _ _ _ _ | .classExpr _ _ | .unary _ _ _ | .member _ _ _ _ | .superMember _ _
  | .template _ _ _ | .yield _ _ => rfl

theorem partCalls_unparen (factory : String) (branch : Branch) : (parts : List Expr) →
    partCalls factory branch (parts.map Expr.unparen) =
      (partCalls factory branch parts).map FactoryCall.unparen
  | [] => rfl
  | e :: rest => by
      simp only [List.map_cons, partCalls, List.map_append]
      rw [exprCalls_unparen factory branch e, partCalls_unparen factory branch rest]

theorem argCalls_unparen (factory : String) (branch : Branch) : (args : List Element) →
    argCalls factory branch (args.map Element.unparen) =
      (argCalls factory branch args).map FactoryCall.unparen
  | [] => rfl
  | .hole :: rest => argCalls_unparen factory branch rest
  | .item e :: rest => by
      simp only [List.map_cons, Element.unparen, argCalls, List.map_append]
      rw [exprCalls_unparen factory branch e, argCalls_unparen factory branch rest]
  | .spread e :: rest => by
      simp only [List.map_cons, Element.unparen, argCalls, List.map_append]
      rw [exprCalls_unparen factory branch e, argCalls_unparen factory branch rest]

end

mutual

theorem stmtCalls_unparen (factory : String) (branch : Branch) : (s : Stmt) →
    stmtCalls factory branch s.unparen = (stmtCalls factory branch s).map FactoryCall.unparen
  | .expr _ e => exprCalls_unparen factory branch e
  | .ret _ value => by
      cases value with
      | none => rfl
      | some e => exact exprCalls_unparen factory branch e
  | .block _ body => by
      simp only [Stmt.unparen, stmtCalls, stmtsUnparen_eq_map]
      exact stmtsCalls_unparen factory branch body
  | .ifElse _ test consequent alternate => by
      simp only [Stmt.unparen, stmtCalls, optStmtUnparen_eq_map, testBranch?_unparen, List.map_append]
      rw [stmtCalls_unparen factory _ consequent, optStmtCalls_unparen factory branch alternate]
  | .vars _ _ declarators => by
      simp only [Stmt.unparen, stmtCalls, declaratorsUnparen_eq_map, declaratorCalls,
        List.flatMap_map, List.map_flatMap]
      congr 1
      funext d
      rw [d.unparen_init]
      cases d.init with
      | none => rfl
      | some e => exact exprCalls_unparen factory branch e
  | .simple _ | .throw _ _ | .labeled _ _ | .switch _ _ _ | .clause _ _ _ | .tryCatch _ _ _ _
  | .handler _ _ _ | .whileLoop _ _ _ | .doWhile _ _ _ | .forLoop _ _ _ _ _ | .forIn _ _ _ _
  | .forOf _ _ _ _ | .target _ | .withObject _ _ _ | .function _ _ | .classDecl _ _
  | .typeDecl _ _ _ => rfl

theorem optStmtCalls_unparen (factory : String) (branch : Branch) : (s : Option Stmt) →
    optStmtCalls factory branch (s.map Stmt.unparen) =
      (optStmtCalls factory branch s).map FactoryCall.unparen
  | none => rfl
  | some s => stmtCalls_unparen factory branch s

theorem stmtsCalls_unparen (factory : String) (branch : Branch) : (body : List Stmt) →
    stmtsCalls factory branch (body.map Stmt.unparen) =
      (stmtsCalls factory branch body).map FactoryCall.unparen
  | [] => rfl
  | s :: rest => by
      simp only [List.map_cons, stmtsCalls, List.map_append]
      rw [stmtCalls_unparen factory branch s, stmtsCalls_unparen factory branch rest]

end

theorem Call.dependencyArray_unparen (call : Call) :
    call.unparen.dependencyArray = call.dependencyArray := by
  simp only [Call.dependencyArray, Call.plainArgs?_unparen]
  cases call.plainArgs? with
  | none => rfl
  | some args =>
      have first : (args.map Expr.unparen).findSome? Expr.elements? =
          (args.findSome? Expr.elements?).map (List.map Expr.unparen) := by
        induction args with
        | nil => rfl
        | cons arg rest ih =>
            rw [List.map_cons, List.findSome?_cons, List.findSome?_cons, ih, arg.elements?_unparen]
            cases arg.elements? <;> rfl
      simp only [Option.map_some, first]
      cases args.findSome? Expr.elements? with
      | none => rfl
      | some elements =>
          have same : Expr.string? ∘ Expr.unparen = Expr.string? := funext Expr.string?_unparen
          rw [Option.map_some, Option.getD_some, Option.getD_some, List.filterMap_map, same]

theorem Func.param?_unparen (func : Func) (index : Nat) :
    (func.unparen.params[index]?).bind (·.pat.ident?) = (func.params[index]?).bind (·.pat.ident?) := by
  rw [func.unparen_params, List.getElem?_map]
  cases func.params[index]? with
  | none => rfl
  | some p => exact (congrArg Pat.ident? p.unparen_pat).trans p.pat.ident?_unparen

theorem Element.requires?_unparen (arg : Element) :
    arg.unparen.expr?.bind Expr.requires? = arg.expr?.bind Expr.requires? := by
  cases arg with
  | hole => rfl
  | item e => exact e.requires?_unparen
  | spread e => exact e.requires?_unparen

theorem importsOf_unparen (factory : Func) (call : Call) :
    importsOf factory.unparen call.unparen = importsOf factory call := by
  simp only [importsOf, Call.unparen, List.zipIdx_map, List.filterMap_map]
  congr 1
  funext ⟨arg, index⟩
  have specifier := arg.requires?_unparen
  have param := factory.param?_unparen index
  simp only [Option.bind_eq_bind, Function.comp_apply, Prod.map_apply, id_eq] at *
  rw [← Option.bind_assoc, ← Option.bind_assoc, specifier]
  congr 1
  funext s
  rw [← Option.bind_assoc, ← Option.bind_assoc, param]

theorem factoryArg?_unparen (args : List Expr) :
    factoryArg? (args.map Expr.unparen) = (factoryArg? args).map (Prod.map id Func.unparen) := by
  simp only [factoryArg?, List.zipIdx_map]
  induction args.zipIdx with
  | nil => rfl
  | cons entry rest ih =>
      obtain ⟨arg, index⟩ := entry
      rw [List.map_cons, List.findSome?_cons, List.findSome?_cons, ih]
      simp only [Prod.map_apply, Expr.bare_unparen]
      cases under : arg.bare with
      | paren span inner => exact absurd under (arg.isBare_bare span inner)
      | _ => rfl

theorem firstCall_unparen (calls : List FactoryCall) (branch : Branch) :
    ((calls.map FactoryCall.unparen).find? (·.branch == branch)).map (·.call) =
      ((calls.find? (·.branch == branch)).map (·.call)).map Call.unparen := by
  rw [List.find?_map, Option.map_map, Option.map_map]
  rfl

theorem Stmt.wrapper?_unparen (s : Stmt) : s.unparen.wrapper? = s.wrapper?.map Wrapper.unparen := by
  unfold Stmt.wrapper?
  refine bind_alike s.expr?_unparen fun e => ?_
  refine bind_alike e.iife?_unparen fun iife => ?_
  refine bind_alike iife.call.plainArgs?_unparen fun args => ?_
  refine bind_alike (factoryArg?_unparen args) fun ⟨index, factory⟩ => ?_
  have params : iife.unparen.func.params[index]? = (iife.func.params[index]?).map Param.unparen := by
    rw [show iife.unparen.func.params = _ from iife.func.unparen_params, List.getElem?_map]
  refine bind_alike params fun p => ?_
  have name : p.unparen.pat.ident? = p.pat.ident? := by rw [p.unparen_pat, p.pat.ident?_unparen]
  refine bind_same name fun param => ?_
  refine bind_alike iife.func.unparen_body fun body => ?_
  simp only [stmtsCalls_unparen, firstCall_unparen]
  refine ite_alike List.isEmpty_map rfl ?_
  simp [Wrapper.unparen, Iife.unparen, Function.comp_def, Call.dependencyArray_unparen,
    importsOf_unparen]

/-! ### All shapes -/

/-- Every shape is recognized with and without parentheses alike: a recognizer answers on the tree
    without parentheses what it answers on the tree itself, less the parentheses of the nodes in the
    answer. -/
theorem shapes_unparen (s : Stmt) (initializer : Expr) (names : List String) :
    s.unparen.wrapper? = s.wrapper?.map Wrapper.unparen ∧
    s.unparen.exportsAssignment? = s.exportsAssignment?.map ExportsAssignment.unparen ∧
    s.unparen.reexport? = s.reexport?.map Reexport.unparen ∧
    s.unparen.wildcard? = s.wildcard?.map Expr.unparen ∧
    s.unparen.enumIife? = s.enumIife?.map EnumIife.unparen ∧
    s.unparen.staticAssignment? names = (s.staticAssignment? names).map StaticAssignment.unparen ∧
    s.unparen.propertyAccessor? names = (s.propertyAccessor? names).map PropertyAccessor.unparen ∧
    s.unparen.classDecorate? names = (s.classDecorate? names).map DecorateCall.unparen ∧
    s.unparen.memberDecorate? names =
      (s.memberDecorate? names).map (Prod.map DecorateCall.unparen id) ∧
    initializer.unparen.classIife? = initializer.classIife?.map ClassIife.unparen :=
  ⟨s.wrapper?_unparen, s.exportsAssignment?_unparen, s.reexport?_unparen, s.wildcard?_unparen,
    s.enumIife?_unparen, s.staticAssignment?_unparen names, s.propertyAccessor?_unparen names,
    s.classDecorate?_unparen names, s.memberDecorate?_unparen names, initializer.classIife?_unparen⟩

end BundleLens
