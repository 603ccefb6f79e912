/-
Module: BundleLens.Shape.Construction
Layer: Shapes
Purpose: Constructors that only hand their arguments on to the base class.
Imports: BundleLens.Shape.Reference
Main exports: Expr.superArguments?, synthesizedSuper?, isNativeSuperSpread
-/
import BundleLens.Shape.Reference

namespace BundleLens

/-- A test that a name is not null: `_super !== null`. -/
def Expr.isNotNullTest (e : Expr) : Bool :=
  match e.bare with
  | .binary _ op left right =>
    (op == .notIdentical || op == .notEqual) && left.ident?.isSome && right.isNull
  | _ => false

/-- The arguments of `base.apply(this, arguments)`. -/
def Expr.applyArguments? (e : Expr) : Option Expr := do
  let call ← e.call?
  let callee ← (← call.function?).member?
  if callee.name? == some "apply" && callee.object.ident?.isSome then
    match ← call.plainArgs? with
    | [this, args] => if this.isThis then some args.bare else none
    | _ => none
  else none

/-- The arguments that a call of the base constructor hands on:
    `_super.apply(this, ARGS) || this`, maybe behind a test that the base is not null. -/
def Expr.superArguments? (e : Expr) : Option Expr :=
  match e.bare with
  | .binary _ .or left right =>
    if right.isThis then
      match left.bare with
      | .binary _ .and test apply => if test.isNotNullTest then apply.applyArguments? else none
      | other => other.applyArguments?
    else none
  | _ => none

/-- Whether a statement assigns a member of the given name. -/
def Stmt.assignsMemberOf (s : Stmt) (name : String) : Bool :=
  match (s.expr?.bind Expr.assignment?).bind (·.target.member?) with
  | some m => m.object.isNamed name
  | none => false

/-- Whether a statement returns the given name. -/
def Stmt.returnsName (s : Stmt) (name : String) : Bool :=
  match s with
  | .ret _ (some e) => e.isNamed name
  | _ => false

/-- The arguments that a constructor body hands on to the base class, if it does nothing else but assign
    members: `return SUPER;`, or `var t = SUPER; t.x = ...; return t;`. -/
def synthesizedSuper? : List Stmt → Option Expr
  | .ret _ value :: _ => do (← value).superArguments?
  | .vars _ _ [d] :: rest => do
    let name ← d.pat.ident?.map (·.name)
    let args ← (← d.init).superArguments?
    let last ← rest.getLast?
    if last.returnsName name && rest.dropLast.all (·.assignsMemberOf name) then some args else none
  | _ => none

/-- Whether a body starts with `super(...arguments)`. -/
def isNativeSuperSpread (body : List Stmt) : Bool :=
  match (body.head?.bind Stmt.expr?).bind Expr.call? with
  | some call =>
    match call.callee, call.args with
    | .atom _ .superclass, [.spread e] => e.isNamed "arguments"
    | _, _ => false
  | none => false

end BundleLens
