/-
Module: BundleLens.Reflection.Constructor
Layer: Reflection
Purpose: The base class and the constructor of a class. A constructor that only hands its arguments on
  to the base class was written by a compiler and has no parameters of its own.
Imports: BundleLens.Reflection.Members, BundleLens.Reflection.ExportTable,
  BundleLens.Shape.Construction
Main exports: ClassShape.base?, ClassShape.constructorPats, World.typeReference,
  World.constructorParams
-/
import BundleLens.Reflection.Members
import BundleLens.Reflection.ExportTable
import BundleLens.Shape.Construction

namespace BundleLens

/-- The expression of the base class. A function around the class receives it as its only parameter. -/
def ClassShape.base? (shape : ClassShape) : Option Expr :=
  match shape.form with
  | .function _ iife =>
    match iife.func.params with
    | [_] => do return (← (← iife.call.args.head?).expr?).bare
    | _ => none
  | .native cls _ => cls.base

/-! ### Constructors that compilers write -/

/-- The helper that an expression calls, with the arguments. -/
def World.helperCall (w : World) (e : Expr) : Reflect (Option (KnownDeclaration × List Expr)) := do
  let some call := e.call? | return none
  let some callee := call.function? | return none
  let found ← w.declarationOfExpression callee
  return do return (← (← found).known, ← call.plainArgs?)

/-- Whether an expression is `__read(arguments)`. -/
def World.readsArguments (w : World) (e : Expr) : Reflect Bool := do
  match ← w.helperCall e with
  | some (.read, [arg]) => return arg.isNamed "arguments"
  | _ => return false

/-- Whether an expression is `[]`. -/
def Expr.isEmptyArray (e : Expr) : Bool :=
  match e.bare with
  | .array _ [] => true
  | _ => false

/-- Whether an expression is `false`. -/
def Expr.isFalse (e : Expr) : Bool :=
  match e.bare with
  | .atom _ kind => kind == .boolean false
  | _ => false

/-- Whether the arguments behind the first two of `__spreadArray` are none, or `false`. -/
def isPlainPack : List Expr → Bool
  | [] => true
  | [flag] => flag.isFalse
  | _ => false

/-- Whether an expression spreads `arguments` by a helper. -/
def World.spreadsArguments (w : World) (e : Expr) : Reflect Bool := do
  match ← w.helperCall e with
  | some (.spread, [arg]) => return arg.isNamed "arguments"
  | some (.spreadArrays, [arg]) => return arg.isNamed "arguments"
  | some (.spreadArray, first :: second :: rest) =>
    if first.isEmptyArray && isPlainPack rest then
      if second.isNamed "arguments" then return true else w.readsArguments second
    else return false
  | _ => return false

/-- Whether a body only hands `arguments` on to the base class. -/
def World.forwardsArguments (w : World) (body : List Stmt) : Reflect Bool := do
  match synthesizedSuper? body with
  | some args => if args.isNamed "arguments" then return true else w.spreadsArguments args
  | none => return false

/-- The constructor of a class body. -/
def Class.ctor? (cls : Class) : Option (List Param × Option (List Stmt)) :=
  cls.members.findSome? fun
    | .ctor _ params body => some (params, body)
    | _ => none

/-- The parameters of a constructor. Those that also declare a property are left out. -/
def ctorPats (params : List Param) : List Pat := (params.filter (!·.promoted)).map (·.pat)

/-- The parameters that are written for the constructor of a class; none if a compiler wrote the
    constructor. A class body without a constructor has one without parameters. -/
def World.constructorPats (w : World) (shape : ClassShape) : Reflect (Option (List Pat)) := do
  match shape.form with
  | .function inner _ =>
    if inner.func.params.isEmpty then
      return if ← w.forwardsArguments (inner.func.body.getD []) then none else some []
    else return some (inner.func.params.map (·.pat))
  | .native cls _ =>
    match cls.ctor? with
    | some (params, body) =>
      if params.isEmpty && (body.map isNativeSuperSpread).getD false then return none
      else return some (ctorPats params)
    | none => return some []

/-! ### Parameters -/

/-- The value that code can refer to for a recorded type. -/
def World.typeReference (w : World) (type : Option Expr) : Reflect TypeReference := do
  match type with
  | none => return .unavailable .missingType
  | some e =>
    if e.isUndefined then return .unavailable .missingType
    else if !e.isReference then return .unavailable .unsupported
    else
      match w.importOfExpression? e with
      | some source =>
        let found ← w.declarationOfExpression e
        return .imported source (found.map (·.node))
      | none => return .ownModule e.bare

/-- A parameter with what is recorded about it. -/
def World.constructorParam (w : World) (pat : Pat) (info : ParamInfo) : Reflect CtorParam := do
  return ⟨pat.ident?.map (·.name), pat, info.decorators, ← w.typeReference info.type, info.type⟩

/-- Every parameter with what is recorded at its position. -/
def pairInfo : List Pat → List ParamInfo → List (Pat × ParamInfo)
  | [], _ => []
  | pat :: pats, info :: infos => (pat, info) :: pairInfo pats infos
  | pat :: pats, [] => (pat, .blank) :: pairInfo pats []

/-- The parameters of the constructor of a class; none if a compiler wrote the constructor. -/
def World.constructorParams (w : World) (shape : ClassShape) : Reflect (Option (List CtorParam)) := do
  let some pats ← w.constructorPats shape | return none
  let (infos, warning) := w.paramInfo shape pats.length
  if let some problem := warning then warn problem
  return some (← (pairInfo pats (infos.getD [])).mapM fun (pat, info) => w.constructorParam pat info)

end BundleLens
