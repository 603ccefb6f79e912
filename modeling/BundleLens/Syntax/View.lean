/-
Module: BundleLens.Syntax.View
Layer: Syntax
Purpose: The parts of single nodes as records, for code that has already found out which kind of node it
  looks at.
Imports: BundleLens.Syntax.Module
Main exports: Member, Call, Assignment, FunctionDecl, FunctionExpr, ClassDecl, ClassExpr, Expr.member?,
  Expr.call?, Expr.assignment?
-/
import BundleLens.Syntax.Module

namespace BundleLens

/-- A member access that is no link of an optional chain. -/
structure Member where
  span : Span
  object : Expr
  key : Key

/-- A plain call. -/
structure Call where
  span : Span
  callee : Expr
  args : List Element
deriving Inhabited

/-- An assignment. -/
structure Assignment where
  span : Span
  op : AssignOp
  target : Pat
  value : Expr
deriving Inhabited

/-- A function declaration. -/
structure FunctionDecl where
  name : Ident
  func : Func
deriving Inhabited

/-- A function expression. -/
structure FunctionExpr where
  name : Option Ident
  func : Func
deriving Inhabited

/-- A class declaration. -/
structure ClassDecl where
  name : Ident
  cls : Class
deriving Inhabited

/-- A class expression. -/
structure ClassExpr where
  name : Option Ident
  cls : Class
deriving Inhabited

/-- The member access that an expression is, parentheses aside. -/
def Expr.member? (e : Expr) : Option Member :=
  match e.bare with
  | .member span false owner key => some ⟨span, owner, key⟩
  | _ => none

/-- The plain call that an expression is, parentheses aside. -/
def Expr.call? (e : Expr) : Option Call :=
  match e.bare with
  | .call span .plain callee args => some ⟨span, callee, args⟩
  | _ => none

/-- The callee of a call without its parentheses; `super` and `import` are no expressions. -/
def Call.function? (call : Call) : Option Expr :=
  match call.callee.bare with
  | .atom _ .superclass => none
  | .atom _ .importer => none
  | e => some e

/-- The expression of an argument that is no spread. -/
def Element.plain? : Element → Option Expr
  | .item e => some e
  | _ => none

/-- The arguments of a call, unless one of them is a spread. -/
def Call.plainArgs? (call : Call) : Option (List Expr) := call.args.mapM Element.plain?

/-- The plain assignment that an expression is, parentheses aside. -/
def Expr.assignment? (e : Expr) : Option Assignment :=
  match e.bare with
  | .assign span .plain target value => some ⟨span, .plain, target, value⟩
  | _ => none

/-- The name that a pattern is. -/
def Pat.ident? : Pat → Option Ident
  | .ident _ id => some id
  | _ => none

/-- The member that a target is. A parenthesized target is none. -/
def Pat.member? : Pat → Option Member
  | .expr (.member span false owner key) => some ⟨span, owner, key⟩
  | _ => none

/-- The expression of an expression statement, parentheses aside. -/
def Stmt.expr? : Stmt → Option Expr
  | .expr _ e => some e.bare
  | _ => none

end BundleLens
