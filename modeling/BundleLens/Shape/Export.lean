/-
Module: BundleLens.Shape.Export
Layer: Shapes
Purpose: The ways in which a module without `export` declarations exports something: assignments to
  members of `exports`, getters defined on it, and copies of everything another module exports.
Imports: BundleLens.Shape.Property
Main exports: Member.exported?, Assignment.exported?, ExportsAssignment, Stmt.exportsAssignment?,
  Reexport, Stmt.reexport?, Stmt.wildcard?
-/
import BundleLens.Shape.Property

namespace BundleLens

/-- The name of a member of `exports`. -/
def Member.exported? (m : Member) : Option String :=
  if m.object.isNamed "exports" then m.name? else none

/-- The name of the member of `exports` that an expression is. -/
def Expr.exported? (e : Expr) : Option String := do (← e.member?).exported?

/-- The name that a plain assignment exports. -/
def Assignment.exported? (a : Assignment) : Option String :=
  if a.op == .plain then a.target.member?.bind Member.exported? else none

/-- Assignments of one value to several members of `exports`, outermost first. -/
structure ExportsAssignment where
  targets : List (String × Assignment)
  value : Expr

/-- The assignments to members of `exports` at the head of an expression, and the value behind them. -/
def exportsChain : Expr → List (String × Assignment) × Expr
  | .paren _ inner => exportsChain inner
  | .assign span .plain target value =>
    let assign : Assignment := ⟨span, .plain, target, value⟩
    match assign.exported? with
    | some name =>
      let (targets, last) := exportsChain value
      ((name, assign) :: targets, last)
    | none => ([], .assign span .plain target value)
  | e => ([], e)

/-- The export that an expression makes by assignment. -/
def Expr.exportsAssignment? (e : Expr) : Option ExportsAssignment :=
  match exportsChain e with
  | ([], _) => none
  | (targets, value) => some ⟨targets, value⟩

/-- The export that a statement makes by assignment. -/
def Stmt.exportsAssignment? (s : Stmt) : Option ExportsAssignment := do
  (← s.expr?).exportsAssignment?

/-- An export by a getter, which returns the exported value. -/
structure Reexport where
  call : Call
  name : String
  value : Expr

/-- The export that a statement makes by a getter:
    `Object.defineProperty(exports, "name", { get: function () { return value; } })`. -/
def Stmt.reexport? (s : Stmt) : Option Reexport := do
  let define ← (← s.expr?).defineProperty?
  if define.target.isNamed "exports" then
    let getter ← propertyFunction? define.properties "get"
    some ⟨define.call, define.name, ← getter.returned?⟩
  else none

/-- The only statement of a block, or a statement that is no block. -/
def Stmt.single? : Stmt → Option Stmt
  | .block _ [s] => some s
  | .block _ _ => none
  | s => some s

/-- The variable of the head of a loop over members. -/
def Stmt.loopName? : Stmt → Option String
  | .vars _ _ [d] => d.pat.ident?.map (·.name)
  | .target pat => pat.ident?.map (·.name)
  | _ => none

/-- The body of a loop under at most one test without an alternative, where a block around one statement
    does not matter. -/
def Stmt.loopBody? (s : Stmt) : Option Stmt := do
  match ← s.single? with
  | .ifElse _ _ consequent none => consequent.single?
  | .ifElse _ _ _ (some _) => none
  | body => some body

/-- Whether a member is accessed by the value of the given variable. -/
def Member.isKeyedBy (m : Member) (name : String) : Bool :=
  match m.key with
  | .computed _ e => e.isNamed name
  | _ => false

/-- The module of a loop that copies members: `for (var p in X) exports[p] = X[p];`. -/
def wildcardLoop? (head : Stmt) (source : Expr) (body : Stmt) : Option Expr := do
  let name ← head.loopName?
  let source := source.bare
  let assign ← (← (← body.loopBody?).expr?).assignment?
  let target ← assign.target.member?
  let value ← assign.value.member?
  if target.object.isNamed "exports" && target.isKeyedBy name && value.isKeyedBy name &&
      sameReference value.object source then some source
  else none

/-- The module whose exports a statement copies: by `__export(X)`, by `__exportStar(X, exports)`, or by
    a loop over its members. -/
def Stmt.wildcard? (s : Stmt) : Option Expr :=
  match s with
  | .forIn _ head source body => wildcardLoop? head source body
  | _ => do
    let call ← (← s.expr?).call?
    let args ← call.plainArgs?
    let helper ← (← call.function?).helperName?
    match helper, args with
    | "__export", [source] => some source.bare
    | "__exportStar", [source, receiver] =>
      if receiver.isNamed "exports" then some source.bare else none
    | _, _ => none

end BundleLens
