/-
Module: BundleLens.Shape.Reference
Layer: Shapes
Purpose: The small tests that all shapes are made of: names, texts, member names and references.
  Parentheses never matter to them.
Imports: BundleLens.Syntax.View, BundleLens.Number.Shortest, BundleLens.Shape.Helper
Main exports: Expr.ident?, Expr.isNamed, Expr.string?, Expr.isUndefined, Key.name?, Member.name?,
  Expr.isReference, Expr.helperName?, Expr.helperCall?, Expr.elements?
-/
import BundleLens.Syntax.View
import BundleLens.Number.Shortest
import BundleLens.Shape.Helper

namespace BundleLens

/-- The identifier that an expression is. -/
def Expr.ident? (e : Expr) : Option Ident :=
  match e.bare with
  | .ident id => some id
  | _ => none

/-- Whether an expression is the given identifier. -/
def Expr.isNamed (e : Expr) (name : String) : Bool :=
  match e.ident? with
  | some id => id.name == name
  | none => false

/-- The text that an expression writes. -/
def Expr.string? (e : Expr) : Option String :=
  match e.bare with
  | .string _ value => value
  | _ => none

/-- `undefined`, or `void` with any operand. -/
def Expr.isUndefined (e : Expr) : Bool :=
  match e.bare with
  | .ident id => id.name == "undefined"
  | .unary _ op _ => op == .void
  | _ => false

/-- `null`. -/
def Expr.isNull (e : Expr) : Bool :=
  match e.bare with
  | .atom _ kind => kind == .null
  | _ => false

/-- `this`. -/
def Expr.isThis (e : Expr) : Bool :=
  match e.bare with
  | .atom _ kind => kind == .this
  | _ => false

/-- The name that a property key stands for. Numbers are named by their shortest decimal text; a
    computed key has a name if it is a text. -/
def Key.name? : Key → Option String
  | .ident id => some id.name
  | .string _ value => value
  | .number _ value => some value.render
  | .computed _ e => e.string?
  | .bigint _ => none
  | .hidden _ => none

/-- The name of a member access: `a.b` or `a["b"]`. -/
def Member.name? (m : Member) : Option String :=
  match m.key with
  | .ident id => some id.name
  | .computed _ e => e.string?
  | _ => none

/-- An identifier, or members by plain names of one. -/
def Expr.isReference : Expr → Bool
  | .paren _ inner => inner.isReference
  | .ident _ => true
  | .member _ false owner (.ident _) => owner.isReference
  | _ => false

/-- The helper that a callee names: `__decorate`, `lib.__decorate` and `__decorate$1` all name
    `__decorate`. -/
def Expr.helperName? (e : Expr) : Option String :=
  match e.bare with
  | .ident id => some (stripSuffix id.name)
  | .member span false owner key =>
    if owner.ident?.isSome then (Member.name? ⟨span, owner, key⟩).map stripSuffix else none
  | _ => none

/-- The call of the helper with the given name that an expression is. -/
def Expr.helperCall? (e : Expr) (name : String) : Option Call := do
  let call ← e.call?
  let callee ← call.function?
  let helper ← callee.helperName?
  if helper == name then some call else none

/-- The elements of an array literal; holes and spreads are left out. -/
def Expr.elements? (e : Expr) : Option (List Expr) :=
  match e.bare with
  | .array _ elements => some (elements.filterMap Element.plain?)
  | _ => none

/-- A statement that is only a text, such as `'use strict'`. -/
def Stmt.isDirective : Stmt → Bool
  | .expr _ (.string _ _) => true
  | _ => false

/-- The module that `require('x')` names: exactly one argument, a text. -/
def Call.requires? (call : Call) : Option String := do
  let callee ← call.function?
  if callee.isNamed "require" then
    match ← call.plainArgs? with
    | [arg] => arg.string?
    | _ => none
  else none

/-- The module that an expression of the form `require('x')` names. -/
def Expr.requires? (e : Expr) : Option String := do (← e.call?).requires?

/-- Whether two expressions are the same identifier, the same members of the same thing, or
    requirements of the same module. -/
def sameReference : Expr → Expr → Bool
  | .paren _ a, b => sameReference a b
  | .ident a, b =>
    match b.bare with
    | .ident b => a.name == b.name
    | _ => false
  | .member span false owner key, b =>
    match b.bare with
    | .member span' false owner' key' =>
      let name := Member.name? ⟨span, owner, key⟩
      name.isSome && name == Member.name? ⟨span', owner', key'⟩ && sameReference owner owner'
    | _ => false
  | .call span .plain callee args, b =>
    match b.bare with
    | .call span' .plain callee' args' =>
      let source := Call.requires? ⟨span, callee, args⟩
      source.isSome && source == Call.requires? ⟨span', callee', args'⟩
    | _ => false
  | _, _ => false

end BundleLens
