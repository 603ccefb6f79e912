/-
Module: BundleLens.Shape.Enumeration
Layer: Shapes
Purpose: Enumerations that a compiler turned into a function called with the object it fills.
Imports: BundleLens.Shape.ClassBody, BundleLens.Shape.Export
Main exports: EnumMember, EnumIife, Stmt.enumIife?
-/
import BundleLens.Shape.ClassBody
import BundleLens.Shape.Export

namespace BundleLens

/-- A member of an enumeration. -/
structure EnumMember where
  name : String
  initializer : Expr

/-- Members are the same if they have the same name and the same initializer node. -/
def EnumMember.same (a b : EnumMember) : Bool :=
  a.name == b.name && a.initializer.span == b.initializer.span

/-- An enumeration: the parameter of its function, the variable and the exported name that hold it, and
    its members in the order of the text. -/
structure EnumIife where
  iife : Iife
  param : Ident
  store : Option Ident
  exported : Option String
  members : List EnumMember

/-- The variable or the exported name of `L || (L = {})` and `exports.N || (exports.N = {})`. -/
def Expr.enumStore? (e : Expr) : Option (Option Ident × Option String) :=
  match e.bare with
  | .binary _ .or left right => do
    let init ← right.assignment?
    match init.value.bare with
    | .object _ [] =>
      match left.ident? with
      | some id =>
        if init.target.ident?.map (·.name) == some id.name then some (some id, none) else none
      | none =>
        let name ← left.exported?
        if init.exported? == some name then some (none, some name) else none
    | _ => none
  | _ => none

/-- Where the argument of an enumeration's function stores it: a variable, an exported name, or a
    variable and an exported name, as in `L = exports.N || (exports.N = {})`. -/
def Expr.enumArgument? : Expr → Option (Option Ident × Option String)
  | .paren _ inner => inner.enumArgument?
  | .assign _ .plain target value => do
    let id ← target.ident?
    match ← value.enumArgument? with
    | (none, exported) => some (some id, exported)
    | (some _, _) => none
  | e => e.enumStore?

/-- The member that a statement gives an enumeration: `E[E["A"] = 0] = "A"`, `E["A"] = 0` or
    `E.A = 0`. -/
def Stmt.enumMember? (s : Stmt) (param : String) : Option EnumMember := do
  let assign ← (← s.expr?).assignment?
  let target ← assign.target.member?
  if target.object.isNamed param then
    match target.key with
    | .ident id => some ⟨id.name, assign.value.bare⟩
    | .computed _ key =>
      match key.string? with
      | some name => some ⟨name, assign.value.bare⟩
      | none => do
        let inner ← key.assignment?
        let innerTarget ← inner.target.member?
        if innerTarget.object.isNamed param then
          some ⟨← innerTarget.name?, inner.value.bare⟩
        else none
    | _ => none
  else none

/-- The enumeration that a statement builds. It has at least one member, and every statement of the
    function gives one. -/
def Stmt.enumIife? (s : Stmt) : Option EnumIife := do
  let iife ← (← s.expr?).iife?
  match iife.func.params, ← iife.call.plainArgs? with
  | [p], [arg] => do
    let param ← p.pat.ident?
    let (store, exported) ← arg.enumArgument?
    let members ← (← iife.func.body).mapM (·.enumMember? param.name)
    if members.isEmpty then none else some ⟨iife, param, store, exported, members⟩
  | _, _ => none

end BundleLens
