/-
Module: BundleLens.Syntax.Tree
Layer: Syntax
Purpose: The syntax trees of emitted JavaScript and of declaration files. Every node carries the range
  it covers. Parentheses are nodes of their own, because a parenthesized assignment target is neither
  a name nor a member. What no later question can see (labels, generator marks, types) is left out.
Imports: BundleLens.Text.Span, BundleLens.Number.Double
Main exports: Ident, Expr, Key, Element, Property, Func, Param, Pat, PatProperty, Class, ClassMember,
  Declarator, Stmt
-/
import BundleLens.Text.Span
import BundleLens.Number.Double

namespace BundleLens

/-- An occurrence of an identifier. -/
structure Ident where
  name : String
  span : Span
deriving DecidableEq, Repr, Inhabited

/-- Expressions without parts whose value no question looks into. The words `super` and `import` are
    among them because they stand where a callee stands. -/
inductive Atom where
  | this
  | superclass
  | importer
  | metaProperty
  | null
  | boolean (value : Bool)
  | bigint
  | regex
  | privateName
deriving DecidableEq, Repr, Inhabited

/-- Operators with one operand. A type assertion counts as one: it keeps the value. -/
inductive UnaryOp where
  | not
  | void
  | typeOf
  | delete
  | minus
  | plus
  | complement
  | increment
  | decrement
  | await
  | assertType
deriving DecidableEq, Repr, Inhabited

/-- Operators with two operands. -/
inductive BinaryOp where
  | or
  | and
  | nullish
  | bitOr
  | bitXor
  | bitAnd
  | equal
  | notEqual
  | identical
  | notIdentical
  | less
  | greater
  | lessEqual
  | greaterEqual
  | instanceOf
  | isIn
  | shiftLeft
  | shiftRight
  | shiftRightZero
  | add
  | subtract
  | multiply
  | divide
  | remainder
  | power
deriving DecidableEq, Repr, Inhabited

/-- A plain `=`, or an assignment that also computes. -/
inductive AssignOp where
  | plain
  | compound
deriving DecidableEq, Repr, Inhabited

/-- A call, a call or construction that stops at a missing callee, or a construction with `new`. -/
inductive CallKind where
  | plain
  | optional
  | construct
deriving DecidableEq, Repr, Inhabited

/-- The three kinds of variable declarations. -/
inductive VarKind where
  | var
  | letKind
  | const
deriving DecidableEq, Repr, Inhabited

/-- What a method of a class does when it is met. -/
inductive MethodKind where
  | method
  | getter
  | setter
deriving DecidableEq, Repr, Inhabited

/-- Declarations that only declaration files hold. -/
inductive TypeDeclKind where
  | interface
  | alias
  | enumeration
  | namespaceDecl
deriving DecidableEq, Repr, Inhabited

mutual

/-- Expressions. -/
inductive Expr where
  | ident (id : Ident)
  /-- A text literal; one with an unpaired surrogate has no value. -/
  | string (span : Span) (value : Option String)
  | number (span : Span) (value : Double)
  | atom (span : Span) (kind : Atom)
  | array (span : Span) (elements : List Element)
  | object (span : Span) (properties : List Property)
  | function (name : Option Ident) (func : Func)
  /-- A body that is an expression is kept as the `return` of that expression and marked concise. -/
  | arrow (span : Span) (params : List Pat) (concise : Bool) (body : List Stmt)
  | classExpr (name : Option Ident) (cls : Class)
  | unary (span : Span) (op : UnaryOp) (operand : Expr)
  | binary (span : Span) (op : BinaryOp) (left right : Expr)
  | assign (span : Span) (op : AssignOp) (target : Pat) (value : Expr)
  /-- A member access; `chained` marks a link of an optional chain. -/
  | member (span : Span) (chained : Bool) (object : Expr) (key : Key)
  | superMember (span : Span) (key : Key)
  | conditional (span : Span) (test consequent alternate : Expr)
  | call (span : Span) (kind : CallKind) (callee : Expr) (args : List Element)
  | sequence (span : Span) (parts : List Expr)
  | template (span : Span) (tag : Option Expr) (parts : List Expr)
  | yield (span : Span) (operand : Option Expr)
  | paren (span : Span) (inner : Expr)

/-- The name of a property or member. A member access has a plain, computed or private one. -/
inductive Key where
  | ident (id : Ident)
  | string (span : Span) (value : Option String)
  | number (span : Span) (value : Double)
  | bigint (span : Span)
  | computed (span : Span) (expr : Expr)
  | hidden (span : Span)

/-- An element of an array literal or an argument of a call; only arrays have holes. -/
inductive Element where
  | hole
  | item (expr : Expr)
  | spread (expr : Expr)

/-- A property of an object literal. -/
inductive Property where
  | shorthand (id : Ident)
  | keyValue (key : Key) (value : Expr)
  /-- `name = value`, which only a pattern may hold. -/
  | initialized (id : Ident) (value : Expr)
  | getter (span : Span) (key : Key) (body : List Stmt)
  | setter (span : Span) (key : Key) (param : Pat) (body : List Stmt)
  | method (key : Key) (func : Func)
  | spread (expr : Expr)

/-- The part that function declarations, function expressions and methods share. Only declaration
    files hold functions without a body. -/
structure Func where
  span : Span
  params : List Param
  body : Option (List Stmt)

/-- A parameter with its decorators. A promoted one also declares a property of its class. -/
structure Param where
  span : Span
  decorators : List Expr
  pat : Pat
  promoted : Bool

/-- Binding patterns and assignment targets. A target that is no name and no destructuring pattern is
    kept as the expression it is. -/
inductive Pat where
  | ident (span : Span) (id : Ident)
  | array (span : Span) (elements : List Pat)
  | object (span : Span) (properties : List PatProperty)
  | rest (span : Span) (inner : Pat)
  | default (span : Span) (left : Pat) (value : Expr)
  | expr (inner : Expr)
  /-- Binds nothing: a hole of an array pattern, or a parameter that cannot be one. -/
  | blank (span : Span)

/-- A property of an object pattern. -/
inductive PatProperty where
  | keyValue (key : Key) (value : Pat)
  | shorthand (id : Ident) (default : Option Expr)
  | rest (inner : Pat)

/-- The part that class declarations and class expressions share. -/
structure Class where
  span : Span
  decorators : List Expr
  base : Option Expr
  members : List ClassMember

/-- A member of a class body. -/
inductive ClassMember where
  | ctor (span : Span) (params : List Param) (body : Option (List Stmt))
  | method (kind : MethodKind) (isStatic : Bool) (decorators : List Expr) (key : Key) (func : Func)
  | field (span : Span) (isStatic : Bool) (decorators : List Expr) (key : Key) (value : Option Expr)
  | accessor (span : Span) (isStatic : Bool) (decorators : List Expr) (key : Key)
      (value : Option Expr)
  | staticBlock (span : Span) (body : List Stmt)
  /-- A lone semicolon or an index signature. -/
  | other (span : Span)

/-- One variable of a variable declaration. -/
structure Declarator where
  span : Span
  pat : Pat
  init : Option Expr

/-- Statements. The clauses of `switch` and `try` and the heads of loops are among them, and stand
    only there. -/
inductive Stmt where
  | block (span : Span) (body : List Stmt)
  /-- A statement without parts: empty, `break`, `continue` or `debugger`. -/
  | simple (span : Span)
  | expr (span : Span) (value : Expr)
  | ret (span : Span) (value : Option Expr)
  | throw (span : Span) (value : Expr)
  | ifElse (span : Span) (test : Expr) (consequent : Stmt) (alternate : Option Stmt)
  | labeled (span : Span) (body : Stmt)
  | switch (span : Span) (subject : Expr) (clauses : List Stmt)
  | clause (span : Span) (test : Option Expr) (body : List Stmt)
  | tryCatch (span : Span) (body : List Stmt) (handler : Option Stmt) (finalizer : Option Stmt)
  | handler (span : Span) (param : Pat) (body : List Stmt)
  | whileLoop (span : Span) (test : Expr) (body : Stmt)
  | doWhile (span : Span) (body : Stmt) (test : Expr)
  | forLoop (span : Span) (init : Option Stmt) (test update : Option Expr) (body : Stmt)
  | forIn (span : Span) (head : Stmt) (source : Expr) (body : Stmt)
  | forOf (span : Span) (head : Stmt) (source : Expr) (body : Stmt)
  /-- The head of a loop that assigns to something declared elsewhere. -/
  | target (pat : Pat)
  | withObject (span : Span) (object : Expr) (body : Stmt)
  | vars (span : Span) (kind : VarKind) (declarators : List Declarator)
  | function (name : Ident) (func : Func)
  | classDecl (name : Ident) (cls : Class)
  | typeDecl (span : Span) (kind : TypeDeclKind) (name : Option String)

end

instance : Inhabited Expr := ⟨.atom default .this⟩
instance : Inhabited Key := ⟨.bigint default⟩
instance : Inhabited Pat := ⟨.blank default⟩
instance : Inhabited Stmt := ⟨.simple default⟩
instance : Inhabited Func := ⟨⟨default, [], none⟩⟩
instance : Inhabited Class := ⟨⟨default, [], none, []⟩⟩
instance : Inhabited Declarator := ⟨⟨default, default, none⟩⟩

end BundleLens
