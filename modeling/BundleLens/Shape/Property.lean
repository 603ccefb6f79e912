/-
Module: BundleLens.Shape.Property
Layer: Shapes
Purpose: Object literals as tables of named properties, functions as values, and calls of
  `Object.defineProperty`.
Imports: BundleLens.Shape.Reference
Main exports: PropertyValue, namedProperties, propertyValue?, propertyFunction?, FunctionLike,
  FunctionLike.returned?, DefineProperty, defineProperty?
-/
import BundleLens.Shape.Reference

namespace BundleLens

/-- What a named property of an object literal holds. -/
inductive PropertyValue where
  | value (key : Key) (expr : Expr)
  | method (func : Func)
  | getter (span : Span)
  | setter (span : Span)

/-- The range of a named property. -/
def PropertyValue.span : PropertyValue → Span
  | .value key expr => Property.keyValueSpan key expr
  | .method func => func.span
  | .getter span => span
  | .setter span => span

/-- A property with its name. Spreads and shorthands have no value of their own. -/
def Property.named? : Property → Option (String × PropertyValue)
  | .keyValue key value => key.name?.map (·, .value key value)
  | .method key func => key.name?.map (·, .method func)
  | .getter span key _ => key.name?.map (·, .getter span)
  | .setter span key _ _ => key.name?.map (·, .setter span)
  | .shorthand _ => none
  | .initialized _ _ => none
  | .spread _ => none

/-- The named properties of an object literal, as they are written. -/
def namedProperties (properties : List Property) : List (String × PropertyValue) :=
  properties.filterMap Property.named?

/-- The value of the first `name: value` of an object literal. -/
def propertyValue? (properties : List Property) (name : String) : Option Expr :=
  (namedProperties properties).findSome? fun
    | (key, .value _ expr) => if key == name then some expr else none
    | _ => none

/-- The function of a function expression, a method or an arrow function. -/
inductive FunctionLike where
  | function (func : Func)
  | arrow (span : Span) (params : List Pat) (concise : Bool) (body : List Stmt)

/-- The range of a function. -/
def FunctionLike.span : FunctionLike → Span
  | .function func => func.span
  | .arrow span _ _ _ => span

/-- The function that an expression is. -/
def Expr.functionLike? (e : Expr) : Option FunctionLike :=
  match e.bare with
  | .function _ func => some (.function func)
  | .arrow span params concise body => some (.arrow span params concise body)
  | _ => none

/-- The expression that a body returns, if that is all it does. -/
def returnedBy : List Stmt → Option Expr
  | [.ret _ (some e)] => some e.bare
  | _ => none

/-- The expression that a function returns, if that is all it does. -/
def FunctionLike.returned? : FunctionLike → Option Expr
  | .function func => func.body.bind returnedBy
  | .arrow _ _ _ body => returnedBy body

/-- The function in the first property with the given name that holds one: a function as its value, or a
    method. -/
def propertyFunction? (properties : List Property) (name : String) : Option FunctionLike :=
  (namedProperties properties).findSome? fun (key, value) =>
    if key == name then
      match value with
      | .value _ expr => expr.functionLike?
      | .method func => some (.function func)
      | _ => none
    else none

/-- A call `Object.defineProperty(target, "name", descriptor)`. -/
structure DefineProperty where
  call : Call
  target : Expr
  name : String
  descriptor : Span
  properties : List Property

/-- The call of `Object.defineProperty` that an expression is. -/
def Expr.defineProperty? (e : Expr) : Option DefineProperty := do
  let call ← e.call?
  let callee ← (← call.function?).member?
  if callee.object.isNamed "Object" && callee.name? == some "defineProperty" then
    match ← call.plainArgs? with
    | [target, name, descriptor] =>
      match descriptor.bare with
      | .object span properties => some ⟨call, target.bare, ← name.string?, span, properties⟩
      | _ => none
    | _ => none
  else none

end BundleLens
