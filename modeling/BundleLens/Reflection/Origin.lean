/-
Module: BundleLens.Reflection.Origin
Layer: Reflection
Purpose: What a binding stands for inside its own file. A variable that only receives another name later
  stands for that name; names of classes and enumerations stand for the class or enumeration.
Imports: BundleLens.Model.Declaration, BundleLens.Scope.Index
Main exports: primaryBinding?, freeDeclaration?, Origin, originOf
-/
import BundleLens.Model.Declaration
import BundleLens.Scope.Index

namespace BundleLens

/-- Of several declarations of a name the first one with a value counts, else the first one. -/
def primaryBinding? (bindings : List Binding) : Option Binding :=
  match bindings.find? (!·.isBare) with
  | some binding => some binding
  | none => bindings.head?

/-- The binding that an identifier refers to. -/
def FileIndex.primary? (index : FileIndex) (id : Ident) : Option Binding := do
  primaryBinding? (← index.resolve? id)

/-- What a name stands for that no scope declares: helpers and the global object have a meaning of their
    own. -/
def freeDeclaration? (id : Ident) : Option Declaration :=
  let known := match knownHelper? id.name with
    | some helper => some helper
    | none => if id.name == "Object" then some .globalObject else none
  known.map fun k => (Declaration.inline (.ident id) none).withKnown (some k)

/-- What a binding comes from: a declaration in its file, or an import. -/
inductive Origin where
  | declared (declaration : Declaration)
  | imported (decl : ImportDecl) (specifier : ImportSpecifier)

/-- How many variables that receive another variable are followed. -/
def maxHops : Nat := 16

/-- The binding that a variable receives: the first of its assignments with a bound name on the right
    side counts. -/
def receivedBinding? (index : FileIndex) (d : Declarator) : Option Binding :=
  (index.assignmentsTo d).findSome? fun a => do index.primary? (← a.value.ident?)

/-- The declaration of the class whose node is at a range. -/
def classDeclarationAt? (index : FileIndex) (span : Span) : Option Declaration := do
  return (← index.class? (← index.classAt? span)).toDeclaration

/-- The declaration of the class that a variable is another name for. -/
def aliasedDeclaration? (index : FileIndex) (d : Declarator) : Option Declaration := do
  return (← index.class? (← index.aliasedClass? d)).toDeclaration

/-- The declaration of a node as an enumeration, if one is found by the given range. -/
def enumDeclaration? (index : FileIndex) (node : DeclNode) (span : Span) : Option Declaration := do
  return .enumeration node (← index.enumAt? span).iife.members

/-- The class or enumeration that a binding names. -/
def shapeOf? (index : FileIndex) : Binding → Option Declaration
  | .variable d _ => aliasedDeclaration? index d <|> enumDeclaration? index (.variable d) d.span
  | .function decl => classDeclarationAt? index decl.func.span
  | .param _ _ p id _ => enumDeclaration? index (.param p) id.span
  | .className expr _ => classDeclarationAt? index expr.cls.span
  | _ => none

/-- The declaration that a binding is, if it names neither a class nor an enumeration and stands for no
    other name. -/
def plainDeclaration (binding : Binding) : Declaration :=
  (Declaration.concrete binding.node).withKnown (knownHelper? binding.name)

/-- The other binding that a variable without an initial value stands for. -/
def standsFor? (index : FileIndex) (binding : Binding) : Option Binding := do
  let d ← binding.declarator?
  if d.init.isSome then none
  else
    let other ← receivedBinding? index d
    if other.ident.span == binding.ident.span then none else some other

/-- What a binding comes from, with the number of variables that may still be followed. -/
def originWithin (index : FileIndex) : Nat → Binding → Origin
  | hops, binding =>
    match binding with
    | .imported decl specifier => .imported decl specifier
    | binding =>
      match shapeOf? index binding with
      | some declaration => .declared declaration
      | none =>
        match hops with
        | 0 => .declared (plainDeclaration binding)
        | hops + 1 =>
          match standsFor? index binding with
          | some other => originWithin index hops other
          | none => .declared (plainDeclaration binding)

/-- What a binding comes from. -/
def originOf (index : FileIndex) (binding : Binding) : Origin := originWithin index maxHops binding

end BundleLens
