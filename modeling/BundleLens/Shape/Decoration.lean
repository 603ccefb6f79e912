/-
Module: BundleLens.Shape.Decoration
Layer: Shapes
Purpose: Decorators as compilers emit them: objects with a type and arguments, and calls of the
  `__decorate`, `__param` and `__metadata` helpers.
Imports: BundleLens.Shape.ClassBody
Main exports: DecoratorObject, Expr.decoratorObject?, DecorateCall, Expr.decorateCall?,
  Stmt.classDecorate?, Stmt.memberDecorate?, Expr.paramDecorator?, Expr.metadata?,
  Expr.decoratorApplication?
-/
import BundleLens.Shape.ClassBody

namespace BundleLens

/-- A decorator as an object literal `{ type: Decorator, args: [...] }`. Arguments that are no array
    literal count as none. -/
structure DecoratorObject where
  node : Expr
  type : Expr
  args : List Expr

/-- The decorator that an object literal describes. Its type must be a reference. -/
def Expr.decoratorObject? (e : Expr) : Option DecoratorObject :=
  match e.bare with
  | .object _ properties => do
    let type := (← propertyValue? properties "type").bare
    if type.isReference then
      let args := ((propertyValue? properties "args").bind Expr.elements?).getD []
      some ⟨e, type, args⟩
    else none
  | _ => none

/-- A call `__decorate([...], target)`, or with the name of a member behind the target. -/
structure DecorateCall where
  call : Call
  decorators : List Expr
  target : Expr
  member : Option String

/-- The call of `__decorate` that an expression is. A third argument must be a text. -/
def Expr.decorateCall? (e : Expr) : Option DecorateCall := do
  let call ← e.helperCall? "__decorate"
  match ← call.plainArgs? with
  | list :: target :: rest =>
    let member ←
      match rest with
      | [] => some none
      | key :: _ => key.string?.map some
    some ⟨call, ← list.elements?, target.bare, member⟩
  | _ => none

/-- The decorators that a statement gives a class with one of the names:
    `Name = __decorate([...], Name)`. -/
def Stmt.classDecorate? (s : Stmt) (names : List String) : Option DecorateCall := do
  let assign ← (← s.expr?).assignment?
  let target ← assign.target.ident?
  if names.contains target.name then
    let decorate ← (aliasChain assign.value).2.decorateCall?
    let decorated ← decorate.target.ident?
    if names.contains decorated.name && decorate.member.isNone then some decorate else none
  else none

/-- The decorators that a statement gives a member of a class with one of the names, and whether the
    member is static. -/
def Stmt.memberDecorate? (s : Stmt) (names : List String) : Option (DecorateCall × Bool) := do
  let decorate ← (← s.expr?).decorateCall?
  let _ ← decorate.member
  let isStatic ← decorate.target.classSide? names
  some (decorate, isStatic)

/-- The largest position that a parameter decorator may name. -/
def maxParamIndex : Nat := 4294967295

/-- The position and the decorator of `__param(0, decorator)`. -/
def Expr.paramDecorator? (e : Expr) : Option (Nat × Expr) := do
  let call ← e.helperCall? "__param"
  match ← call.plainArgs? with
  | [index, decorator] =>
    match index.bare with
    | .number _ value =>
      let n ← value.toNat?
      if n ≤ maxParamIndex then some (n, decorator.bare) else none
    | _ => none
  | _ => none

/-- The key and the value of `__metadata("key", value)`. -/
def Expr.metadata? (e : Expr) : Option (String × Expr) := do
  let call ← e.helperCall? "__metadata"
  match ← call.plainArgs? with
  | [key, value] => some (← key.string?, value.bare)
  | _ => none

/-- A decorator as it is applied: `Decorator(args)`, or `Decorator` alone. Arguments with a spread among
    them count as none. -/
def Expr.decoratorApplication? (e : Expr) : Option (Expr × List Expr) :=
  match e.bare with
  | .call span .plain callee args => do
    let call : Call := ⟨span, callee, args⟩
    let callee ← call.function?
    if callee.isReference then some (callee, call.plainArgs?.getD []) else none
  | other => if other.isReference then some (other, []) else none

end BundleLens
