/-
Module: BundleLens.Reflection.ClassSymbol
Layer: Reflection
Purpose: The questions that only classes answer, and the typings of declarations. Any node that a class
  can be found by may be asked: its outer node, its inner node, or a variable that is another name for
  it. Other nodes are refused.
Imports: BundleLens.Reflection.Constructor
Main exports: World.classSymbol?, World.requireClass, World.decorators, World.members,
  World.constructorParameters, World.hasBase, World.baseExpression, World.internalName,
  World.adjacentName, World.typingsOf
-/
import BundleLens.Reflection.Constructor

namespace BundleLens
namespace World

/-- The number of the class that a node leads to. -/
def classNumber? (index : FileIndex) (node : DeclNode) : Option Nat :=
  match index.classAt? node.span, node with
  | some number, _ => some number
  | none, .variable d => index.aliasedClass? d
  | none, _ => none

/-- The class that a node leads to. -/
def classSymbol? (w : World) (node : DeclNode) : Option ClassSymbol := do
  let view ← w.viewAt? node.span.lo
  let number ← classNumber? view.index node
  return ⟨view.file.id, number, ← view.index.class? number⟩

/-- Whether a node leads to a class. -/
def isClass (w : World) (node : DeclNode) : Bool := (w.classSymbol? node).isSome

/-- The class that a question is about. -/
def requireClass (w : World) (node : DeclNode) (question : ClassQuestion) :
    Except ReflectError ClassSymbol :=
  match w.classSymbol? node with
  | some symbol => .ok symbol
  | none => .error (.notAClass question (w.text node.span))

/-- The decorators of a class. -/
def decorators (w : World) (node : DeclNode) : Except ReflectError (Option (List Decorator)) :=
  (w.requireClass node .decorators).map fun symbol => w.classDecorators? symbol.shape

/-- The members of a class. -/
def members (w : World) (node : DeclNode) : Except ReflectError (List MemberInfo) :=
  (w.requireClass node .members).map fun symbol => w.membersOf symbol.shape

/-- The parameters of the constructor of a class. -/
def constructorParameters (w : World) (node : DeclNode) :
    Reflect (Except ReflectError (Option (List CtorParam))) := do
  match w.requireClass node .constructorParameters with
  | .ok symbol => return .ok (← w.constructorParams symbol.shape)
  | .error problem => return .error problem

/-- Whether a class has a base class. -/
def hasBase (w : World) (node : DeclNode) : Except ReflectError Bool :=
  (w.requireClass node .hasBase).map (·.shape.base?.isSome)

/-- The expression of the base class. -/
def baseExpression (w : World) (node : DeclNode) : Except ReflectError (Option Expr) :=
  (w.requireClass node .baseExpression).map (·.shape.base?)

/-- The name that a class has inside its own code. -/
def internalName (w : World) (node : DeclNode) : Except ReflectError String :=
  (w.requireClass node .internalName).map fun symbol =>
    symbol.shape.internalName?.getD symbol.shape.name

/-- The name that a class has beside other statements. -/
def adjacentName (w : World) (node : DeclNode) : Except ReflectError String :=
  (w.requireClass node .adjacentName).map (·.shape.name)

/-- The typings of what a declaration declares. Without a typings root nothing has typings; else the
    declaration must be part of the program and have a name. -/
def typingsOf (w : World) (d : Declaration) : Except ReflectError (Option TypingsDecl) :=
  if w.program.typingsRoot.isNone then .ok none
  else if d.isMissing then .error (.unresolvedDeclaration (w.text d.node.span))
  else
    match d.node.name? with
    | some name => .ok (w.typings.lookup? w.program (w.program.fileAt? d.node.span.lo) name)
    | none => .error (.unnamedDeclaration (w.text d.node.span))

end World
end BundleLens
