/-
Module: BundleLens.Shape.Wrapper
Layer: Shapes
Purpose: The universal module wrapper: a function that is called with a factory and hands control to it,
  in one way for each module system it knows.
Imports: BundleLens.Shape.ClassBody, BundleLens.Program.Basic
Main exports: Branch, FactoryCall, WrapperImport, Wrapper, Stmt.wrapper?, SourceFile.wrapper?
-/
import BundleLens.Shape.ClassBody
import BundleLens.Program.Basic

namespace BundleLens

/-- The module system that a wrapper serves by a call of the factory. -/
inductive Branch where
  | commonJs
  | amd
  | global
deriving DecidableEq, Repr, Inhabited

/-- A call that hands control to the factory: of the factory itself, or of `define` with the factory
    among its arguments. -/
structure FactoryCall where
  branch : Branch
  call : Call

/-- A parameter of the factory that is bound to a required module. -/
structure WrapperImport where
  param : Ident
  index : Nat
  specifier : String

/-- A universal module wrapper. -/
structure Wrapper where
  call : Call
  func : Func
  factory : Func
  calls : List FactoryCall
  amdDependencies : List String
  imports : List WrapperImport

namespace Wrapper

/-- The first call of a branch. -/
def firstCall? (w : Wrapper) (branch : Branch) : Option Call :=
  (w.calls.find? (·.branch == branch)).map (·.call)

/-- The modules that the factory's parameters are bound to. -/
def dependencies (w : Wrapper) : List String := w.imports.map (·.specifier)

/-- The module that a parameter with the given name is bound to. -/
def binding? (w : Wrapper) (name : String) : Option String :=
  (w.imports.find? (·.param.name == name)).map (·.specifier)

/-- The import that binds a parameter, told by the place of the parameter. -/
def importOf? (w : Wrapper) (param : Ident) : Option WrapperImport :=
  w.imports.find? (·.param.span == param.span)

/-- The statements of the factory. -/
def statements (w : Wrapper) : List Stmt := w.factory.body.getD []

end Wrapper

/-- The globals that a test probes: operands of `typeof`, and objects of members such as
    `define.amd`. -/
def testedGlobals : Expr → List String
  | .paren _ inner => testedGlobals inner
  | .unary _ .typeOf operand =>
    match operand.bare with
    | .ident id => [id.name]
    | _ => []
  | .binary _ _ left right => testedGlobals left ++ testedGlobals right
  | .member _ false owner _ =>
    match owner.bare with
    | .ident id => [id.name]
    | _ => []
  | _ => []

/-- The module system that a test checks for. -/
def testBranch? (test : Expr) : Option Branch :=
  let names := testedGlobals test
  if names.contains "exports" || names.contains "module" then some .commonJs
  else if names.contains "define" then some .amd
  else none

/-- Whether an argument is the factory. -/
def Element.isFactory (factory : String) : Element → Bool
  | .item e => e.isNamed factory
  | .spread e => e.isNamed factory
  | .hole => false

/-- The factory call that a call is, in a place that belongs to the given branch. -/
def factoryCall? (factory : String) (branch : Branch) (call : Call) : Option FactoryCall := do
  let callee ← call.function?
  if callee.isNamed factory then some ⟨branch, call⟩
  else if callee.isNamed "define" && call.args.any (Element.isFactory factory) then
    some ⟨.amd, call⟩
  else none

mutual

/-- The factory calls in an expression, in the order of the text. A call that is none itself is searched
    for some in its arguments. -/
def exprCalls (factory : String) (branch : Branch) : Expr → List FactoryCall
  | .paren _ inner => exprCalls factory branch inner
  | .conditional _ test consequent alternate =>
    exprCalls factory ((testBranch? test).getD branch) consequent ++
      exprCalls factory branch alternate
  | .binary _ .and left right =>
    exprCalls factory branch left ++ exprCalls factory ((testBranch? left).getD branch) right
  | .binary _ .or left right => exprCalls factory branch left ++ exprCalls factory branch right
  | .sequence _ parts => partCalls factory branch parts
  | .assign _ _ _ value => exprCalls factory branch value
  | .call span .plain callee args =>
    let call : Call := ⟨span, callee, args⟩
    match factoryCall? factory branch call with
    | some found => [found]
    | none => if call.function?.isSome then argCalls factory branch args else []
  | _ => []

/-- The factory calls in the parts of a sequence. -/
def partCalls (factory : String) (branch : Branch) : List Expr → List FactoryCall
  | [] => []
  | e :: rest => exprCalls factory branch e ++ partCalls factory branch rest

/-- The factory calls in the arguments of a call. -/
def argCalls (factory : String) (branch : Branch) : List Element → List FactoryCall
  | [] => []
  | .hole :: rest => argCalls factory branch rest
  | .item e :: rest => exprCalls factory branch e ++ argCalls factory branch rest
  | .spread e :: rest => exprCalls factory branch e ++ argCalls factory branch rest

end

/-- The factory calls in the initial values of variables. -/
def declaratorCalls (factory : String) (branch : Branch) (ds : List Declarator) :
    List FactoryCall :=
  ds.flatMap fun d =>
    match d.init with
    | some e => exprCalls factory branch e
    | none => []

mutual

/-- The factory calls in a statement, in the order of the text. A then-part belongs to the module system
    its test checks for; an else-part stays in the surrounding branch. -/
def stmtCalls (factory : String) (branch : Branch) : Stmt → List FactoryCall
  | .expr _ e => exprCalls factory branch e
  | .ret _ (some e) => exprCalls factory branch e
  | .block _ body => stmtsCalls factory branch body
  | .ifElse _ test consequent alternate =>
    stmtCalls factory ((testBranch? test).getD branch) consequent ++
      optStmtCalls factory branch alternate
  | .vars _ _ ds => declaratorCalls factory branch ds
  | _ => []

/-- The factory calls in an else-part. -/
def optStmtCalls (factory : String) (branch : Branch) : Option Stmt → List FactoryCall
  | none => []
  | some s => stmtCalls factory branch s

/-- The factory calls in statements. -/
def stmtsCalls (factory : String) (branch : Branch) : List Stmt → List FactoryCall
  | [] => []
  | s :: rest => stmtCalls factory branch s ++ stmtsCalls factory branch rest

end

/-- The texts of the first array among the arguments of a call. -/
def Call.dependencyArray (call : Call) : List String :=
  match call.plainArgs? with
  | some args => ((args.findSome? Expr.elements?).getD []).filterMap Expr.string?
  | none => []

/-- The expression of an argument, spread or not. -/
def Element.expr? : Element → Option Expr
  | .item e => some e
  | .spread e => some e
  | .hole => none

/-- The required modules among the arguments of a factory call, bound to the factory's parameters by
    their positions. A parameter without a required module is left out. -/
def importsOf (factory : Func) (call : Call) : List WrapperImport :=
  call.args.zipIdx.filterMap fun (arg, index) => do
    let specifier ← (← arg.expr?).requires?
    let param ← (← factory.params[index]?).pat.ident?
    some ⟨param, index, specifier⟩

/-- The first function expression among the arguments of a call, with its position. -/
def factoryArg? (args : List Expr) : Option (Nat × Func) :=
  args.zipIdx.findSome? fun (arg, index) =>
    match arg.bare with
    | .function _ func => some (index, func)
    | _ => none

/-- The universal module wrapper that a statement is: an immediately called function that takes a
    factory and calls it at least once. -/
def Stmt.wrapper? (s : Stmt) : Option Wrapper := do
  let iife ← (← s.expr?).iife?
  let (index, factory) ← factoryArg? (← iife.call.plainArgs?)
  let param ← (← iife.func.params[index]?).pat.ident?
  let calls := stmtsCalls param.name .global (← iife.func.body)
  if calls.isEmpty then none
  else
    let first := fun branch => (calls.find? (·.branch == branch)).map (·.call)
    some
      { call := iife.call
        func := iife.func
        factory := factory
        calls := calls
        amdDependencies := ((first .amd).map Call.dependencyArray).getD []
        imports := ((first .commonJs).map (importsOf factory)).getD [] }

/-- The wrapper of a file: its first statement behind the directives. -/
def SourceFile.wrapper? (file : SourceFile) : Option Wrapper := do
  (← file.statements.find? (!·.isDirective)).wrapper?

end BundleLens
