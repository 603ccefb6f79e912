/-
Module: BundleLens.Scope.Binding
Layer: Scopes
Purpose: The names that a file declares, and the classes and enumerations that it holds.
Imports: BundleLens.Model.Node, BundleLens.Shape.Enumeration
Main exports: Binding, ClassOuter, ClassForm, ClassShape, EnumShape
-/
import BundleLens.Model.Node
import BundleLens.Shape.Enumeration

namespace BundleLens

/-- A name that is declared in a scope, with what declares it. -/
inductive Binding where
  | variable (declarator : Declarator) (id : Ident)
  | function (decl : FunctionDecl)
  | classDecl (decl : ClassDecl)
  /-- A plain parameter; `expression` tells whether its function is a function expression. -/
  | param (func : Func) (index : Nat) (param : Param) (id : Ident) (expression : Bool)
  | functionName (expr : FunctionExpr) (id : Ident)
  | className (expr : ClassExpr) (id : Ident)
  | imported (decl : ImportDecl) (specifier : ImportSpecifier)
  /-- A name that is bound by destructuring the initial value of a variable. -/
  | destructured (declarator : Declarator) (id : Ident)
  /-- A name of a catch clause, an arrow function, a constructor or a destructured parameter. -/
  | pattern (id : Ident)
deriving Inhabited

namespace Binding

/-- The identifier that is declared. -/
def ident : Binding → Ident
  | .variable _ id => id
  | .function decl => decl.name
  | .classDecl decl => decl.name
  | .param _ _ _ id _ => id
  | .functionName _ id => id
  | .className _ id => id
  | .imported _ specifier => specifier.name
  | .destructured _ id => id
  | .pattern id => id

/-- The name that is declared. -/
def name (b : Binding) : String := b.ident.name

/-- The node that counts as the declaration. -/
def node : Binding → DeclNode
  | .variable d _ => .variable d
  | .function decl => .function decl
  | .classDecl decl => .classDecl decl
  | .param _ _ p _ _ => .param p
  | .functionName expr _ => .functionExpr expr
  | .className expr _ => .classExpr expr
  | .imported decl _ => .importDecl decl
  | .destructured _ id => .ident id
  | .pattern id => .ident id

/-- The variable that is declared by a plain name. -/
def declarator? : Binding → Option Declarator
  | .variable d _ => some d
  | _ => none

/-- Whether the binding is a variable without an initial value. -/
def isBare : Binding → Bool
  | .variable d _ => d.init.isNone
  | _ => false

end Binding

/-- What holds a class from outside. -/
inductive ClassOuter where
  /-- `var Foo = ...` -/
  | variable (declarator : Declarator) (id : Ident)
  /-- `exports.Foo = ...` -/
  | exports (assign : Assignment) (name : String)
  /-- `Foo = ...` for a variable that is declared elsewhere -/
  | assign (assign : Assignment) (id : Ident)
  /-- `class Foo {}` -/
  | classDecl (decl : ClassDecl)

/-- What a class is made of. -/
inductive ClassForm where
  /-- A constructor function inside an immediately called function. -/
  | function (inner : FunctionDecl) (iife : Iife)
  /-- Class syntax; a class expression has its own node. -/
  | native (cls : Class) (expr : Option ClassExpr)

/-- A class that stands in a list of statements. -/
structure ClassShape where
  outer : ClassOuter
  form : ClassForm
  aliases : List Ident
  /-- The statements that may give the class members: the body of the function around it, or the
      statements behind it. -/
  statements : List Stmt
  /-- The names that the class goes by in those statements. -/
  names : List String

namespace ClassShape

/-- The name of the class outside. -/
def name (shape : ClassShape) : String :=
  match shape.outer with
  | .variable _ id => id.name
  | .exports _ name => name
  | .assign _ id => id.name
  | .classDecl decl => decl.name.name

/-- The name of the inner function or class, if it has one. -/
def internalName? (shape : ClassShape) : Option String :=
  match shape.form with
  | .function inner _ => some inner.name.name
  | .native _ (some expr) => expr.name.map (·.name)
  | .native _ none => some shape.name

/-- The node that declares the class. -/
def declaration (shape : ClassShape) : DeclNode :=
  match shape.outer with
  | .variable d _ => .variable d
  | .exports a _ => .assign a
  | .assign a _ => .assign a
  | .classDecl decl => .classDecl decl

/-- The node that holds the constructor. -/
def implementation (shape : ClassShape) : DeclNode :=
  match shape.form with
  | .function inner _ => .function inner
  | .native _ (some expr) => .classExpr expr
  | .native _ none => shape.declaration

/-- The immediately called function around the class. -/
def iife? (shape : ClassShape) : Option Iife :=
  match shape.form with
  | .function _ iife => some iife
  | .native _ _ => none

/-- A class with its names completed: the inner name first, then the outer one, then the aliases. -/
def make (outer : ClassOuter) (form : ClassForm) (aliases : List Ident) (statements : List Stmt) :
    ClassShape :=
  let first := match form with
    | .function inner _ => [inner.name.name]
    | .native _ (some expr) => (expr.name.map (·.name)).toList
    | .native _ none => []
  let base : ClassShape := ⟨outer, form, aliases, statements, first⟩
  let more := base.name :: aliases.map (·.name)
  { base with names := more.foldl (fun acc n => if acc.contains n then acc else acc ++ [n]) first }

end ClassShape

/-- An enumeration that stands in a list of statements. -/
structure EnumShape where
  span : Span
  iife : EnumIife

/-! ### Finding classes and enumerations -/

/-- The class that a value builds, for what holds it from outside; `following` are the statements behind
    it. -/
def classOfValue? (outer : ClassOuter) (value : Expr) (following : List Stmt) :
    Option ClassShape :=
  match value.classIife? with
  | some found =>
    some (.make outer (.function found.inner found.iife) found.aliases
      (found.iife.func.body.getD []))
  | none =>
    match aliasChain value with
    | (aliases, .classExpr name cls) =>
      some (.make outer (.native cls (some ⟨name, cls⟩)) aliases following)
    | _ => none

/-- The classes that the variables of a declaration hold. -/
def classesOfVariables (ds : List Declarator) (following : List Stmt) : List ClassShape :=
  ds.filterMap fun d => do
    let id ← d.pat.ident?
    classOfValue? (.variable d id) (← d.init) following

/-- The class that an assignment stores in an exported name or in a variable. -/
def classOfAssignment? (a : Assignment) (following : List Stmt) : Option ClassShape :=
  match a.exported? with
  | some name => classOfValue? (.exports a name) a.value following
  | none => do
    let id ← a.target.ident?
    classOfValue? (.assign a id) a.value following

/-- The classes that a statement holds, in front of the given statements. -/
def Stmt.classes (s : Stmt) (following : List Stmt) : List ClassShape :=
  match s with
  | .vars _ _ ds => classesOfVariables ds following
  | .classDecl name cls => [.make (.classDecl ⟨name, cls⟩) (.native cls none) [] following]
  | .expr _ e => (e.assignment?.bind (classOfAssignment? · following)).toList
  | _ => []

/-- The enumeration that a statement holds. -/
def Stmt.enumeration? (s : Stmt) : Option EnumShape := s.enumIife?.map (⟨s.span, ·⟩)

end BundleLens
