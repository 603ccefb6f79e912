/-
Module: BundleLens.Model.Declaration
Layer: Model
Purpose: The answer to the question what a name or an expression stands for, and the export tables that
  are made of such answers.
Imports: BundleLens.Model.Node, BundleLens.Model.Table, BundleLens.Scope.Binding
Main exports: DeclKind, Declaration, Declaration.same, Declaration.inheritVia, ExportTable, Import,
  ClassShape.toDeclaration
-/
import BundleLens.Model.Node
import BundleLens.Model.Table
import BundleLens.Scope.Binding

namespace BundleLens

/-- How a node declares something. -/
inductive DeclKind where
  /-- The node is the declaration; an enumeration also has members. -/
  | concrete (members : Option (List EnumMember))
  /-- The node is where the value is exported, and may hold the value itself. -/
  | inline (implementation : Option Expr)
  /-- The declaration is not part of the program. -/
  | missing

/-- Whether two lists of enumeration members have the same names with the same initial values. -/
def sameMembers : List EnumMember → List EnumMember → Bool
  | [], [] => true
  | a :: as, b :: bs => a.same b && sameMembers as bs
  | _, _ => false

/-- Whether two kinds of declaring are the same. Expressions are compared by their ranges. -/
def DeclKind.same : DeclKind → DeclKind → Bool
  | .concrete none, .concrete none => true
  | .concrete (some a), .concrete (some b) => sameMembers a b
  | .inline a, .inline b => a.map Expr.span == b.map Expr.span
  | .missing, .missing => true
  | _, _ => false

/-- What a name or an expression stands for. -/
structure Declaration where
  kind : DeclKind
  node : DeclNode
  known : Option KnownDeclaration
  /-- The module through which the declaration was reached, if a bare module name was on the way. -/
  via : Option String

/-- The names that a module exports, with what they stand for. -/
abbrev ExportTable := Table Declaration

/-- The name under which something is imported, and the module it comes from. -/
structure Import where
  name : String
  source : String
deriving DecidableEq, Repr, Inhabited

namespace Declaration

/-- A node that is the declaration itself. -/
def concrete (node : DeclNode) : Declaration := ⟨.concrete none, node, none, none⟩

/-- A node that is an enumeration with the given members. -/
def enumeration (node : DeclNode) (members : List EnumMember) : Declaration :=
  ⟨.concrete (some members), node, none, none⟩

/-- A node that exports a value of its own. -/
def inline (node : DeclNode) (implementation : Option Expr) : Declaration :=
  ⟨.inline implementation, node, none, none⟩

/-- A node whose declaration is not part of the program. -/
def missing (node : DeclNode) : Declaration := ⟨.missing, node, none, none⟩

/-- A whole module, reached through the given module name. -/
def wholeModule (file : SourceFile) (via : Option String) : Declaration :=
  ⟨.concrete none, .wholeModule file, none, via⟩

/-- Marks a declaration as one with a meaning of its own. -/
def withKnown (d : Declaration) (known : Option KnownDeclaration) : Declaration :=
  { d with known := known }

/-- Notes the module through which a declaration was reached; the innermost one is kept. -/
def inheritVia (d : Declaration) (via : Option String) : Declaration :=
  match d.via with
  | some _ => d
  | none => { d with via := via }

/-- Whether the node is the declaration itself. -/
def isConcrete (d : Declaration) : Bool :=
  match d.kind with
  | .concrete _ => true
  | _ => false

/-- Whether the declaration is not part of the program. -/
def isMissing (d : Declaration) : Bool :=
  match d.kind with
  | .missing => true
  | _ => false

/-- Whether two declarations are the same. -/
def same (a b : Declaration) : Bool :=
  a.kind.same b.kind && a.node.same b.node && a.known == b.known && a.via == b.via

end Declaration

/-- The declaration of a class: what holds it from outside. An exported value is inline. -/
def ClassShape.toDeclaration (shape : ClassShape) : Declaration :=
  match shape.outer with
  | .exports assign _ => .inline (.assign assign) (some assign.value)
  | _ => .concrete shape.declaration

end BundleLens
