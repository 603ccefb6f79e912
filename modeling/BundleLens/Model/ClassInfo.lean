/-
Module: BundleLens.Model.ClassInfo
Layer: Model
Purpose: What can be told about a class and about a function: decorators, members, constructor
  parameters with the types that were recorded for them, and function bodies.
Imports: BundleLens.Model.Declaration
Main exports: Decorator, MemberInfo, TypeReference, CtorParam, FunctionInfo, ClassSymbol, ReflectError
-/
import BundleLens.Model.Declaration

namespace BundleLens

/-- A decorator that is applied to a class, a member or a parameter. -/
structure Decorator where
  name : String
  /-- The expression that names the decorator. -/
  identifier : Expr
  imported : Option Import
  /-- What the decorator was read from. -/
  node : Expr
  args : List Expr

/-- Whether two decorators are the same application. -/
def Decorator.same (a b : Decorator) : Bool :=
  a.name == b.name && a.imported == b.imported && a.node.span == b.node.span &&
    a.args.length == b.args.length

/-- Whether two lists of decorators are the same. -/
def sameDecorators : List Decorator → List Decorator → Bool
  | [], [] => true
  | a :: as, b :: bs => a.same b && sameDecorators as bs
  | _, _ => false

/-- The kinds of class members. -/
inductive MemberKind where
  | ctor
  | getter
  | setter
  | property
  | method
  | accessor
deriving DecidableEq, Repr, Inhabited

/-- The kinds of syntax that a class member can be read from. -/
inductive MemberOrigin where
  /-- An assignment to the class or to its prototype. -/
  | assign
  /-- A call of `Object.defineProperty`. -/
  | defineProperty
  /-- A member of a class body. -/
  | classMember
  /-- An entry of `propDecorators` for a property that is never assigned. -/
  | propDecorators
  /-- A decorating call for a property that is never assigned. -/
  | decorateCall
deriving DecidableEq, Repr, Inhabited

/-- A member of a class. -/
structure MemberInfo where
  name : String
  kind : MemberKind
  isStatic : Bool
  decorators : Option (List Decorator)
  origin : MemberOrigin
  span : Span
  /-- The value of a property. -/
  value : Option Expr
  /-- The function of a method or accessor. -/
  implementation : Option Func

/-- Why a type cannot be used as a value. -/
inductive TypeFault where
  /-- No type was recorded. -/
  | missingType
  /-- The recorded type is no chain of names. -/
  | unsupported
deriving DecidableEq, Repr, Inhabited

/-- A type as a value that code can refer to. -/
inductive TypeReference where
  | ownModule (expr : Expr)
  | imported (source : Import) (declaration : Option DeclNode)
  | unavailable (fault : TypeFault)

/-- Whether two type references are the same; what is imported is known by its name and module. -/
def TypeReference.same : TypeReference → TypeReference → Bool
  | .ownModule a, .ownModule b => a.span == b.span
  | .imported a _, .imported b _ => a == b
  | .unavailable a, .unavailable b => a == b
  | _, _ => false

/-- A parameter of a constructor. A destructured one has no name. -/
structure CtorParam where
  name : Option String
  pat : Pat
  decorators : Option (List Decorator)
  reference : TypeReference
  type : Option Expr

/-- A parameter of a function with its default value. -/
structure FunctionParam where
  name : Option String
  pat : Pat
  initializer : Option Expr

/-- What a function takes and does. A function whose code is not at hand has no body. -/
structure FunctionInfo where
  node : DeclNode
  known : Option KnownDeclaration
  body : Option (List Stmt)
  params : List FunctionParam

/-- A class of a program: the number of its file, and its number and shape there. -/
structure ClassSymbol where
  file : Nat
  number : Nat
  shape : ClassShape

/-- Whether two symbols are the same class. -/
def ClassSymbol.same (a b : ClassSymbol) : Bool := a.file == b.file && a.number == b.number

/-- Questions that only a class answers. -/
inductive ClassQuestion where
  | decorators
  | members
  | constructorParameters
  | hasBase
  | baseExpression
  | internalName
  | adjacentName
deriving DecidableEq, Repr, Inhabited

/-- How a question is called in messages. -/
def ClassQuestion.label : ClassQuestion → String
  | .decorators => "get_decorators_of_declaration"
  | .members => "get_members_of_class"
  | .constructorParameters => "get_constructor_parameters"
  | .hasBase => "has_base_class"
  | .baseExpression => "get_base_class_expression"
  | .internalName => "get_internal_name_of_class"
  | .adjacentName => "get_adjacent_name_of_class"

/-- Why a question has no answer; `text` is the source of the node that was asked about. -/
inductive ReflectError where
  | notAClass (question : ClassQuestion) (text : String)
  | unnamedDeclaration (text : String)
  | unresolvedDeclaration (text : String)
deriving DecidableEq, Repr, Inhabited

/-- The wording of an error. -/
def ReflectError.message : ReflectError → String
  | .notAClass question text =>
    question.label ++ ": attempted to reflect a node that is not a class: " ++ text
  | .unnamedDeclaration text => "cannot match an unnamed declaration to typings: " ++ text
  | .unresolvedDeclaration text => "cannot match an unresolved declaration to typings: " ++ text

/-- Parameter metadata of a class that cannot be read. -/
structure Warning where
  className : String
  text : String
deriving DecidableEq, Repr, Inhabited

/-- The wording of a warning. -/
def Warning.message (w : Warning) : String :=
  "invalid constructor parameter metadata for '" ++ w.className ++ "': " ++ w.text

end BundleLens
