/-
Module: BundleLens.Model.Node
Layer: Model
Purpose: The syntax node that a declaration points at. Nodes are compared by their kind and range, since
  a range is the identity of a node; whole modules are compared by their files.
Imports: BundleLens.Program.Basic, BundleLens.Shape.Export
Main exports: DeclNode, DeclNode.span, DeclNode.name?, DeclNode.same
-/
import BundleLens.Program.Basic
import BundleLens.Shape.Export

namespace BundleLens

/-- The node that a declaration points at. A module stands for the object of its exports. -/
inductive DeclNode where
  | wholeModule (file : SourceFile)
  | variable (declarator : Declarator)
  | function (decl : FunctionDecl)
  | functionExpr (expr : FunctionExpr)
  | classDecl (decl : ClassDecl)
  | classExpr (expr : ClassExpr)
  | param (param : Param)
  | importDecl (decl : ImportDecl)
  | assign (assign : Assignment)
  | expr (expr : Expr)
  | ident (id : Ident)

/-- The kinds of nodes that a declaration points at. -/
inductive NodeKind where
  | wholeModule
  | variable
  | function
  | functionExpr
  | classDecl
  | classExpr
  | param
  | importDecl
  | assign
  | expr
  | ident
deriving DecidableEq, Repr

namespace DeclNode

/-- The kind of a node. -/
def kind : DeclNode → NodeKind
  | .wholeModule _ => .wholeModule
  | .variable _ => .variable
  | .function _ => .function
  | .functionExpr _ => .functionExpr
  | .classDecl _ => .classDecl
  | .classExpr _ => .classExpr
  | .param _ => .param
  | .importDecl _ => .importDecl
  | .assign _ => .assign
  | .expr _ => .expr
  | .ident _ => .ident

/-- The range of a node. -/
def span : DeclNode → Span
  | .wholeModule file => file.span
  | .variable d => d.span
  | .function d => d.func.span
  | .functionExpr e => e.func.span
  | .classDecl d => d.cls.span
  | .classExpr e => e.cls.span
  | .param p => p.span
  | .importDecl d => d.span
  | .assign a => a.span
  | .expr e => e.span
  | .ident id => id.span

/-- The one name that a node declares. An assignment declares what it exports. -/
def name? : DeclNode → Option String
  | .variable d => d.pat.ident?.map (·.name)
  | .function d => some d.name.name
  | .functionExpr e => e.name.map (·.name)
  | .classDecl d => some d.name.name
  | .classExpr e => e.name.map (·.name)
  | .param p => p.pat.ident?.map (·.name)
  | .assign a => a.exported?
  | .ident id => some id.name
  | .wholeModule _ => none
  | .importDecl _ => none
  | .expr _ => none

/-- The file of a node that stands for a whole module. -/
def module? : DeclNode → Option SourceFile
  | .wholeModule file => some file
  | _ => none

/-- Whether two nodes are the same node. -/
def same (a b : DeclNode) : Bool :=
  match a, b with
  | .wholeModule a, .wholeModule b => a.id == b.id
  | a, b => a.kind == b.kind && a.span == b.span

end DeclNode
end BundleLens
