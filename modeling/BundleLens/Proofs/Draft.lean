/-
Module: BundleLens.Proofs.Draft
Layer: Proofs
Purpose: Syntax trees as they are written, before anything is known about the places of their nodes.
  What an emitter writes is such a draft; it becomes a tree by any assignment of ranges to its nodes, so
  what holds of a draft holds wherever its text stands in a file.
Imports: BundleLens.Shape.ClassBody
Main exports: Draft, Draft.list, Draft.given, Draft.call, Draft.parens, Draft.list_append,
  Draft.plainArgs?_callOf, Draft.elements?_array, Draft.bare_parens, Draft.iife?_call
-/
import BundleLens.Shape.ClassBody

namespace BundleLens

/-- A piece of syntax that depends on the ranges of its nodes. A node is told by the way to it from the
    top: the number of a part, then that of a part of this part, and so on. -/
abbrev Draft (α : Type) : Type := (List Nat → Span) → α

namespace Draft

variable {α : Type}

/-- A draft as the part with the given number of a larger one. -/
def part (number : Nat) (draft : Draft α) : Draft α := fun place => draft fun way => place (number :: way)

/-- Drafts as parts of a larger one, numbered from the given number on. -/
def list (number : Nat) : List (Draft α) → Draft (List α)
  | [], _ => []
  | draft :: rest, place => draft.part number place :: list (number + 1) rest place

/-- A piece of syntax that has its ranges already. -/
def given (node : α) : Draft α := fun _ => node

/-! ### Expressions -/

def ident (name : String) : Draft Expr := fun place => .ident ⟨name, place []⟩

def string (value : String) : Draft Expr := fun place => .string (place []) (some value)

def number (value : Nat) : Draft Expr := fun place => .number (place []) (.ofNat value)

def this : Draft Expr := fun place => .atom (place []) .this

def array (elements : List (Draft Expr)) : Draft Expr := fun place =>
  .array (place []) ((list 0 elements place).map .item)

def object (properties : List (Draft Property)) : Draft Expr := fun place =>
  .object (place []) (list 0 properties place)

def property (name : String) (value : Draft Expr) : Draft Property := fun place =>
  .keyValue (.ident ⟨name, place []⟩) (value.part 0 place)

def typeOf (operand : Draft Expr) : Draft Expr := fun place =>
  .unary (place []) .typeOf (operand.part 0 place)

def binary (left : Draft Expr) (op : BinaryOp) (right : Draft Expr) : Draft Expr := fun place =>
  .binary (place []) op (left.part 0 place) (right.part 1 place)

def member (owner : Draft Expr) (name : String) : Draft Expr := fun place =>
  .member (place []) false (owner.part 0 place) (.ident ⟨name, place [1]⟩)

/-- `owner[key]` -/
def keyed (owner key : Draft Expr) : Draft Expr := fun place =>
  .member (place []) false (owner.part 0 place) (.computed (place [1]) (key.part 1 place))

def callOf (callee : Draft Expr) (args : List (Draft Expr)) : Draft Call := fun place =>
  ⟨place [], callee.part 0 place, (list 1 args place).map .item⟩

/-- A call as an expression. -/
def ofCall (call : Draft Call) : Draft Expr := fun place =>
  .call (call place).span .plain (call place).callee (call place).args

def call (callee : Draft Expr) (args : List (Draft Expr)) : Draft Expr := ofCall (callOf callee args)

/-- `name = value` -/
def assign (name : String) (value : Draft Expr) : Draft Expr := fun place =>
  .assign (place []) .plain (.ident (place [0]) ⟨name, place [0, 0]⟩) (value.part 1 place)

/-- `owner.name = value` -/
def assignMember (owner : Draft Expr) (name : String) (value : Draft Expr) : Draft Expr := fun place =>
  .assign (place []) .plain (.expr ((owner.member name).part 0 place)) (value.part 1 place)

/-- `owner[key] = value` -/
def assignKeyed (owner key value : Draft Expr) : Draft Expr := fun place =>
  .assign (place []) .plain (.expr ((owner.keyed key).part 0 place)) (value.part 1 place)

def conditional (test consequent alternate : Draft Expr) : Draft Expr := fun place =>
  .conditional (place []) (test.part 0 place) (consequent.part 1 place) (alternate.part 2 place)

def sequence (parts : List (Draft Expr)) : Draft Expr := fun place =>
  .sequence (place []) (list 0 parts place)

def paren (inner : Draft Expr) : Draft Expr := fun place => .paren (place []) (inner.part 0 place)

/-- An expression in any number of parentheses. -/
def parens : Nat → Draft Expr → Draft Expr
  | 0, inner => inner
  | count + 1, inner => paren (parens count inner)

/-! ### Functions and statements -/

def param (id : Draft Ident) : Draft Param := fun place =>
  ⟨place [], [], .ident (place [0]) (id.part 0 place), false⟩

def funcOf (params : List (Draft Ident)) (body : List (Draft Stmt)) : Draft Func := fun place =>
  ⟨place [], list 0 (params.map param) place, some (list params.length body place)⟩

/-- A function without a name as an expression. -/
def ofFunc (func : Draft Func) : Draft Expr := fun place => .function none (func place)

def statement (value : Draft Expr) : Draft Stmt := fun place => .expr (place []) (value.part 0 place)

def returned (value : Draft Expr) : Draft Stmt := fun place =>
  .ret (place []) (some (value.part 0 place))

def block (body : List (Draft Stmt)) : Draft Stmt := fun place => .block (place []) (list 0 body place)

def ifElse (test : Draft Expr) (consequent alternate : Draft Stmt) : Draft Stmt := fun place =>
  .ifElse (place []) (test.part 0 place) (consequent.part 1 place) (some (alternate.part 2 place))

/-! ### Their views -/

@[simp] theorem list_nil (number : Nat) (place : List Nat → Span) :
    list number ([] : List (Draft α)) place = [] := rfl

@[simp] theorem list_cons (number : Nat) (draft : Draft α) (rest : List (Draft α))
    (place : List Nat → Span) :
    list number (draft :: rest) place = draft.part number place :: list (number + 1) rest place := rfl

theorem list_append (first second : List (Draft α)) (number : Nat) (place : List Nat → Span) :
    list number (first ++ second) place =
      list number first place ++ list (number + first.length) second place := by
  induction first generalizing number with
  | nil => rfl
  | cons draft rest ih =>
      rw [List.cons_append, list_cons, list_cons, ih, List.cons_append, List.length_cons, Nat.add_assoc,
        Nat.add_comm 1]

theorem getElem?_list (drafts : List (Draft α)) (number i : Nat) (place : List Nat → Span) :
    (list number drafts place)[i]? = (drafts[i]?).map fun draft => draft.part (number + i) place := by
  induction drafts generalizing number i with
  | nil => rfl
  | cons draft rest ih =>
      cases i with
      | zero => rfl
      | succ i =>
          rw [list_cons, List.getElem?_cons_succ, List.getElem?_cons_succ, ih, Nat.add_assoc,
            Nat.add_comm 1]

theorem list_given (nodes : List α) (number : Nat) (place : List Nat → Span) :
    list number (nodes.map given) place = nodes := by
  induction nodes generalizing number with
  | nil => rfl
  | cons node rest ih =>
      rw [List.map_cons, list_cons, ih]
      rfl

theorem plainArgs?_callOf (callee : Draft Expr) (args : List (Draft Expr)) (place : List Nat → Span) :
    (callOf callee args place).plainArgs? = some (list 1 args place) := by
  rw [Call.plainArgs?, callOf]
  induction list 1 args place with
  | nil => rfl
  | cons e rest ih =>
      rw [List.map_cons, List.mapM_cons, ih]
      rfl

theorem elements?_array (elements : List (Draft Expr)) (place : List Nat → Span) :
    (array elements place).elements? = some (list 0 elements place) := by
  simp [array, Expr.elements?, Expr.bare, List.filterMap_map, Function.comp_def, Element.plain?]

theorem elements?_array_given (elements : List Expr) (place : List Nat → Span) :
    (array (elements.map given) place).elements? = some elements := by
  rw [elements?_array, list_given]

/-- Parentheses around a draft only move it. -/
theorem bare_parens (count : Nat) (inner : Draft Expr) (place : List Nat → Span) :
    ∃ place', (parens count inner place).bare = (inner place').bare := by
  induction count generalizing place with
  | zero => exact ⟨place, rfl⟩
  | succ count ih => exact ih fun way => place (0 :: way)

/-- A function that is called where it is written, in any number of parentheses. -/
theorem iife?_call (count : Nat) (func : Draft Func) (args : List (Draft Expr))
    (place : List Nat → Span) :
    ∃ place', (call (parens count (ofFunc func)) args place).iife? =
      some ⟨callOf (parens count (ofFunc func)) args place, func place'⟩ := by
  obtain ⟨place', same⟩ := bare_parens count (ofFunc func) fun way => place (0 :: way)
  have called : (callOf (parens count (ofFunc func)) args place).function? =
      some (.function none (func place')) := by
    simp only [Call.function?, callOf, part, same]
    rfl
  refine ⟨place', ?_⟩
  have plain : (call (parens count (ofFunc func)) args place).unnegated.call? =
      some (callOf (parens count (ofFunc func)) args place) := rfl
  simp [Expr.iife?, plain, called]

end Draft

end BundleLens
