/-
Module: BundleLens.Proofs.WrapperEmission
Layer: Proofs
Purpose: What bundlers write around a bundle is recognized as what they meant. A bundle has a name,
  dependencies that are bound to parameters, and a body; it is wrapped in one of two layouts.
  Recognizing the wrapper gives back the dependencies, their parameters and the body.
Imports: BundleLens.Proofs.Draft, BundleLens.Shape.Wrapper
Main exports: Bundle, Bundle.wrap, wrapper?_wrap
-/
import BundleLens.Proofs.Draft
import BundleLens.Shape.Wrapper

namespace BundleLens

/-- A module that the factory of a bundle gets as a parameter. -/
structure BundleDependency where
  specifier : String
  param : Ident

/-- What a bundler wraps. -/
structure Bundle where
  name : String
  dependencies : List BundleDependency
  body : List Stmt

/-- How the wrapper tells the module systems apart: by a conditional expression or by `if`
    statements. -/
inductive WrapperLayout where
  | conditional
  | branches

/-- How a wrapper is written. -/
structure WrapperForm where
  layout : WrapperLayout
  /-- Whether `define` is given the name of the bundle. -/
  named : Bool
  /-- Whether the outer parentheses hold the call or only the function. -/
  callInside : Bool
  /-- Further parentheses around the function and around the factory. -/
  aroundFunction : Nat
  aroundFactory : Nat

namespace Bundle

open Draft

/-- `typeof exports === 'object'` -/
def testsExports : Draft Expr := binary (typeOf (ident "exports")) .identical (string "object")

/-- `typeof exports === 'object' && typeof module !== 'undefined'` -/
def testsModule : Draft Expr :=
  binary testsExports .and
    (binary (typeOf (ident "module")) .notIdentical (string "undefined"))

/-- `typeof define === 'function' && define.amd` -/
def testsDefine : Draft Expr :=
  binary (binary (typeOf (ident "define")) .identical (string "function")) .and
    (member (ident "define") "amd")

/-- `factory(exports, require('a'), require('b'))` -/
def commonJsCall (b : Bundle) : Draft Call :=
  callOf (ident "factory")
    (ident "exports" :: b.dependencies.map fun d => call (ident "require") [string d.specifier])

/-- `['exports', 'a', 'b']` -/
def modules (b : Bundle) : Draft Expr :=
  array (string "exports" :: b.dependencies.map fun d => string d.specifier)

/-- `define('name', ['exports', 'a', 'b'], factory)`, maybe without the name. -/
def amdCall (b : Bundle) (named : Bool) : Draft Call :=
  callOf (ident "define")
    ((if named then [string b.name] else []) ++ [b.modules, ident "factory"])

/-- `factory(root.name = {}, root.a, root.b)` -/
def globalCall (b : Bundle) (root : String) : Draft Call :=
  callOf (ident "factory")
    (assignMember (ident root) b.name (object []) ::
      b.dependencies.map fun d => member (ident root) d.param.name)

/-- `global = global || self` -/
def findsGlobal : Draft Expr := assign "global" (binary (ident "global") .or (ident "self"))

/-- The body of the wrapper: one call for each module system. -/
def dispatch (b : Bundle) (form : WrapperForm) : Draft Stmt :=
  let commonJs := ofCall b.commonJsCall
  let amd := ofCall (b.amdCall form.named)
  match form.layout with
  | .conditional =>
    let global := paren (Draft.sequence [findsGlobal, ofCall (b.globalCall "global")])
    statement (conditional testsModule commonJs (conditional testsDefine amd global))
  | .branches =>
    ifElse testsExports (block [statement commonJs])
      (ifElse testsDefine (block [statement amd])
        (block [statement (ofCall (b.globalCall "root"))]))

/-- The factory: the bundle's body as a function of `exports` and the dependencies. -/
def factory (b : Bundle) : Draft Func :=
  funcOf ((fun place => ⟨"exports", place []⟩) :: b.dependencies.map fun d => given d.param)
    (b.body.map given)

/-- The function that takes the factory and calls it. -/
def wrapper (b : Bundle) (form : WrapperForm) : Draft Func :=
  let root := match form.layout with
    | .conditional => "global"
    | .branches => "root"
  funcOf [fun place => ⟨root, place []⟩, fun place => ⟨"factory", place []⟩] [b.dispatch form]

/-- The wrapped bundle. -/
def wrap (b : Bundle) (form : WrapperForm) : Draft Stmt :=
  let wrapper := parens form.aroundFunction (ofFunc (b.wrapper form))
  let args := [this, parens form.aroundFactory (ofFunc b.factory)]
  if form.callInside then statement (paren (call wrapper args))
  else statement (call (paren wrapper) args)

/-! ### The calls of the wrapper -/

section

variable (b : Bundle) (branch : Branch) (place : List Nat → Span)

theorem testBranch?_testsExports : testBranch? (testsExports place) = some .commonJs := rfl

theorem testBranch?_testsModule : testBranch? (testsModule place) = some .commonJs := rfl

theorem testBranch?_testsDefine : testBranch? (testsDefine place) = some .amd := rfl

theorem exprCalls_commonJsCall :
    exprCalls "factory" branch (ofCall b.commonJsCall place) = [⟨branch, b.commonJsCall place⟩] := rfl

theorem exprCalls_amdCall (named : Bool) :
    exprCalls "factory" branch (ofCall (b.amdCall named) place) = [⟨.amd, b.amdCall named place⟩] := by
  cases named <;> rfl

theorem exprCalls_globalCall (root : String) :
    exprCalls "factory" branch (ofCall (b.globalCall root) place) =
      [⟨branch, b.globalCall root place⟩] := rfl

theorem exprCalls_findsGlobal : exprCalls "factory" branch (findsGlobal place) = [] := rfl

theorem stmtsCalls_dispatch (form : WrapperForm) :
    ∃ root commonJs amd global, stmtsCalls "factory" .global [b.dispatch form place] =
      [⟨.commonJs, b.commonJsCall commonJs⟩, ⟨.amd, b.amdCall form.named amd⟩,
        ⟨.global, b.globalCall root global⟩] := by
  unfold dispatch
  cases form.layout with
  | conditional =>
      simp only [stmtsCalls, stmtCalls, exprCalls, partCalls, statement, conditional, paren, Draft.sequence,
        part, list, testBranch?_testsModule, testBranch?_testsDefine, exprCalls_commonJsCall,
        exprCalls_amdCall, exprCalls_findsGlobal, exprCalls_globalCall, Option.getD_some]
      exact ⟨"global", _, _, _, rfl⟩
  | branches =>
      simp only [stmtsCalls, stmtCalls, optStmtCalls, statement, ifElse, block, part, list,
        testBranch?_testsExports, testBranch?_testsDefine, exprCalls_commonJsCall, exprCalls_amdCall,
        exprCalls_globalCall, Option.getD_some]
      exact ⟨"root", _, _, _, rfl⟩

end

/-! ### Dependencies -/

theorem filterMap_string? (texts : List String) (number : Nat) (place : List Nat → Span) :
    (list number (texts.map string) place).filterMap Expr.string? = texts := by
  induction texts generalizing number with
  | nil => rfl
  | cons text rest ih => exact congrArg (List.cons text) (ih (number + 1))

theorem elements?_modules (b : Bundle) (place : List Nat → Span) :
    ∃ texts, (b.modules place).elements? = some texts ∧
      texts.filterMap Expr.string? = "exports" :: b.dependencies.map (·.specifier) := by
  refine ⟨_, elements?_array _ place, ?_⟩
  have all := filterMap_string? ("exports" :: b.dependencies.map (·.specifier)) 0 place
  rwa [List.map_cons, List.map_map] at all

theorem dependencyArray_amdCall (b : Bundle) (named : Bool) (place : List Nat → Span) :
    (b.amdCall named place).dependencyArray = "exports" :: b.dependencies.map (·.specifier) := by
  rw [Call.dependencyArray, amdCall, plainArgs?_callOf]
  cases named with
  | false =>
      obtain ⟨texts, listed, same⟩ := b.elements?_modules fun way => place (1 :: way)
      simp [list, part, listed, same]
  | true =>
      obtain ⟨texts, listed, same⟩ := b.elements?_modules fun way => place (2 :: way)
      have skipped : ∀ place : List Nat → Span, (string b.name place).elements? = none := fun _ => rfl
      simp [list, part, listed, same, skipped]

theorem requires?_call (specifier : String) (place : List Nat → Span) :
    (call (ident "require") [string specifier] place).requires? = some specifier := rfl

/-- Required modules and the parameters at their positions are joined one by one. -/
theorem imports_aligned (params : List Param) (place : List Nat → Span) (deps : List BundleDependency)
    (index number : Nat)
    (aligned : ∀ i d, deps[i]? = some d → (params[index + i]?).bind (·.pat.ident?) = some d.param) :
    (((list number (deps.map fun d => call (ident "require") [string d.specifier]) place).map
      Element.item).zipIdx index).filterMap (fun (arg, index) => do
        let specifier ← (← arg.expr?).requires?
        let param ← (← params[index]?).pat.ident?
        some (⟨param, index, specifier⟩ : WrapperImport)) =
      (deps.zipIdx index).map fun (d, i) => ⟨d.param, i, d.specifier⟩ := by
  induction deps generalizing index number with
  | nil => rfl
  | cons d rest ih =>
      have others := ih (index + 1) (number + 1) fun i other found => by
        have later := aligned (i + 1) other found
        rwa [Nat.add_comm i, ← Nat.add_assoc] at later
      obtain ⟨p, there, named⟩ := Option.bind_eq_some_iff.mp (aligned 0 d rfl)
      rw [List.map_cons, list_cons, List.map_cons, List.zipIdx_cons, List.filterMap_cons, others,
        List.zipIdx_cons, List.map_cons]
      simp only [Nat.add_zero] at there
      simp [Element.expr?, part, requires?_call, there, named]

theorem params_factory (b : Bundle) (place : List Nat → Span) {i : Nat} {d : BundleDependency}
    (found : b.dependencies[i]? = some d) :
    ((b.factory place).params[1 + i]?).bind (·.pat.ident?) = some d.param := by
  simp [factory, funcOf, getElem?_list, Nat.add_comm 1, found]
  rfl

theorem importsOf_commonJsCall (b : Bundle) (place place' : List Nat → Span) :
    importsOf (b.factory place') (b.commonJsCall place) =
      b.dependencies.zipIdx.map fun (d, i) => ⟨d.param, i + 1, d.specifier⟩ := by
  -- `exports` stands first on both sides and requires nothing.
  have joined := imports_aligned (b.factory place').params place b.dependencies 1 2
    fun _ _ found => b.params_factory place' found
  refine Eq.trans joined ?_
  rw [List.zipIdx_succ, List.map_map]
  rfl

theorem statements_factory (b : Bundle) (place : List Nat → Span) :
    (b.factory place).body = some b.body := by
  simp [factory, funcOf, list_given]

/-! ### The whole wrapper -/

theorem factoryArg?_args (b : Bundle) (count : Nat) (callee : Draft Expr) (place : List Nat → Span) :
    ∃ place', (callOf callee [this, parens count (ofFunc b.factory)] place).plainArgs?.bind factoryArg? =
      some (1, b.factory place') := by
  obtain ⟨place', same⟩ := bare_parens count (ofFunc b.factory) fun way => place (2 :: way)
  refine ⟨place', ?_⟩
  simp only [plainArgs?_callOf, Option.bind_some, factoryArg?, list, List.zipIdx, List.findSome?, part,
    same]
  rfl

/-- Whatever the outer parentheses hold, the statement calls the wrapper with the factory. -/
theorem iife?_wrap (b : Bundle) (form : WrapperForm) (place : List Nat → Span) :
    ∃ call wrapper factory,
      (b.wrap form place).expr?.bind Expr.iife? = some ⟨call, b.wrapper form wrapper⟩ ∧
      call.plainArgs?.bind factoryArg? = some (1, b.factory factory) := by
  unfold wrap
  cases form.callInside with
  | true =>
      obtain ⟨wrapper, called⟩ := iife?_call form.aroundFunction (b.wrapper form)
        [this, parens form.aroundFactory (ofFunc b.factory)] fun way => place (0 :: 0 :: way)
      obtain ⟨factory, passed⟩ := b.factoryArg?_args form.aroundFactory
        (parens form.aroundFunction (ofFunc (b.wrapper form))) fun way => place (0 :: 0 :: way)
      exact ⟨_, wrapper, factory, called, passed⟩
  | false =>
      obtain ⟨wrapper, called⟩ := iife?_call (form.aroundFunction + 1) (b.wrapper form)
        [this, parens form.aroundFactory (ofFunc b.factory)] fun way => place (0 :: way)
      obtain ⟨factory, passed⟩ := b.factoryArg?_args form.aroundFactory
        (parens (form.aroundFunction + 1) (ofFunc (b.wrapper form))) fun way => place (0 :: way)
      exact ⟨_, wrapper, factory, called, passed⟩

theorem factoryParam_wrapper (b : Bundle) (form : WrapperForm) (place : List Nat → Span) :
    ((b.wrapper form place).params[1]?).bind (·.pat.ident?) = some ⟨"factory", place [1, 0]⟩ := rfl

/-- A wrapped bundle is recognized in every layout, with any parentheses and at any place: it hands
    control to the factory once for each module system, and its dependencies, their parameters and its
    body are those of the bundle. -/
theorem wrapper?_wrap (b : Bundle) (form : WrapperForm) (place : List Nat → Span) :
    ∃ w, (b.wrap form place).wrapper? = some w ∧
      w.calls.map (·.branch) = [.commonJs, .amd, .global] ∧
      w.amdDependencies = "exports" :: b.dependencies.map (·.specifier) ∧
      w.imports = b.dependencies.zipIdx.map (fun (d, i) => ⟨d.param, i + 1, d.specifier⟩) ∧
      w.statements = b.body := by
  obtain ⟨call, wrapper, factory, called, passed⟩ := b.iife?_wrap form place
  obtain ⟨e, shown, isIife⟩ := Option.bind_eq_some_iff.mp called
  obtain ⟨args, plain, given⟩ := Option.bind_eq_some_iff.mp passed
  obtain ⟨param, second, named⟩ := Option.bind_eq_some_iff.mp (b.factoryParam_wrapper form wrapper)
  obtain ⟨root, commonJs, amd, global, calls⟩ := b.stmtsCalls_dispatch
    (fun way => wrapper (2 :: way)) form
  have body : (b.wrapper form wrapper).body = some [b.dispatch form fun way => wrapper (2 :: way)] := rfl
  simp [Stmt.wrapper?, shown, isIife, plain, given, second, named, body, calls,
    Wrapper.statements, b.dependencyArray_amdCall, b.importsOf_commonJsCall, b.statements_factory]

end Bundle

end BundleLens
