/-
Module: BundleLens.Shape.ClassBody
Layer: Shapes
Purpose: Classes that a compiler turned into functions: chains of names for one class, functions called
  where they are written, the class inside such a function, and the statements that give it members.
Imports: BundleLens.Shape.Property
Main exports: aliasChain, Iife, Expr.iife?, ClassIife, Expr.classIife?, StaticAssignment,
  Stmt.staticAssignment?, PropertyAccessor, Stmt.propertyAccessor?
-/
import BundleLens.Shape.Property

namespace BundleLens

/-- The names that an expression assigns one after the other, and the value behind them:
    `A_1 = B_1 = value`. -/
def aliasChain : Expr → List Ident × Expr
  | .paren _ inner => aliasChain inner
  | .assign span .plain target value =>
    match target.ident? with
    | some id =>
      let (ids, last) := aliasChain value
      (id :: ids, last)
    | none => ([], .assign span .plain target value)
  | e => ([], e)

/-- A function expression that is called where it is written. -/
structure Iife where
  call : Call
  func : Func
deriving Inhabited

/-- The expression behind a leading `!`. -/
def Expr.unnegated (e : Expr) : Expr :=
  match e.bare with
  | .unary _ .not operand => operand.bare
  | other => other

/-- The immediate call of a function expression that an expression is, maybe behind a `!`. -/
def Expr.iife? (e : Expr) : Option Iife := do
  let call ← e.unnegated.call?
  match ← call.function? with
  | .function _ func => some ⟨call, func⟩
  | _ => none

/-- The function declaration that a statement is. -/
def Stmt.functionDecl? : Stmt → Option FunctionDecl
  | .function name func => some ⟨name, func⟩
  | _ => none

/-- A class inside an immediately called function: the function it is declared as, which the outer one
    returns, and the names in front of the call. -/
structure ClassIife where
  iife : Iife
  inner : FunctionDecl
  aliases : List Ident

/-- The name that a body returns at its end. -/
def returnedName? (body : List Stmt) : Option String :=
  match body.getLast? with
  | some (.ret _ (some e)) => e.ident?.map (·.name)
  | _ => none

/-- The class that an initializer builds inside an immediately called function. -/
def Expr.classIife? (e : Expr) : Option ClassIife := do
  let (aliases, value) := aliasChain e
  let iife ← value.iife?
  let body ← iife.func.body
  let name ← returnedName? body
  let inner ← body.findSome? fun s => s.functionDecl?.filter (·.name.name == name)
  some ⟨iife, inner, aliases⟩

/-- An assignment to a member of a class or of its prototype. -/
structure StaticAssignment where
  assign : Assignment
  property : String
  value : Expr
  onPrototype : Bool

/-- Whether an expression is one of the names. -/
def Expr.isOneOf (e : Expr) (names : List String) : Bool :=
  match e.ident? with
  | some id => names.contains id.name
  | none => false

/-- Whether an expression is the prototype of one of the names. -/
def Expr.isPrototypeOf (e : Expr) (names : List String) : Bool :=
  match e.member? with
  | some m => m.name? == some "prototype" && m.object.isOneOf names
  | none => false

/-- The side of a class that an expression names: the class itself (static) or its prototype. -/
def Expr.classSide? (e : Expr) (names : List String) : Option Bool :=
  match e.ident? with
  | some id => if names.contains id.name then some true else none
  | none => if e.isPrototypeOf names then some false else none

/-- The member that a statement assigns to a class with one of the names. -/
def Stmt.staticAssignment? (s : Stmt) (names : List String) : Option StaticAssignment := do
  let assign ← (← s.expr?).assignment?
  let target ← assign.target.member?
  let property ← target.name?
  let value := (aliasChain assign.value).2
  match ← target.object.classSide? names with
  | true => if property == "prototype" then none else some ⟨assign, property, value, false⟩
  | false => some ⟨assign, property, value, true⟩

/-- A member that is read and written by functions. -/
structure PropertyAccessor where
  call : Call
  name : String
  isStatic : Bool
  getter : Option Func
  setter : Option Func

/-- The function of a property, arrow functions aside. -/
def ownFunction? (properties : List Property) (name : String) : Option Func :=
  match propertyFunction? properties name with
  | some (.function func) => some func
  | _ => none

/-- The accessor that a statement defines on a class with one of the names:
    `Object.defineProperty(Name.prototype, "x", { get: ..., set: ... })`. -/
def Stmt.propertyAccessor? (s : Stmt) (names : List String) : Option PropertyAccessor := do
  let define ← (← s.expr?).defineProperty?
  let isStatic ← define.target.classSide? names
  let getter := ownFunction? define.properties "get"
  let setter := ownFunction? define.properties "set"
  if getter.isNone && setter.isNone then none
  else some ⟨define.call, define.name, isStatic, getter, setter⟩

end BundleLens
