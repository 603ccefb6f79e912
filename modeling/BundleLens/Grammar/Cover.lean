/-
Module: BundleLens.Grammar.Cover
Layer: Grammar
Purpose: Expressions that turn out to be patterns. What stands in front of `=` or `=>` is read as an
  expression first; here it becomes the pattern that it covers. Most faults of a pattern do not stop
  the reading: an operand that binds nothing is kept as a blank.
Imports: BundleLens.Grammar.Cursor
Main exports: Expr.toPat, Expr.toTarget, Element.toParam
-/
import BundleLens.Grammar.Cursor

namespace BundleLens

mutual

/-- The pattern that an expression covers. In a parameter list (`binding`) only names and destructuring
    bind something; in an assignment other operands are targets as they are. A property with a body
    is a fault, given by its position. -/
def Expr.toPat (binding : Bool) : Expr → Except Nat Pat
  | .ident id => .ok (.ident id.span id)
  | .array span elements => do return .array span (← elementsToPats binding elements)
  | .object span properties => do return .object span (← propertiesToPats binding properties)
  | .assign span .plain target value => .ok (.default span target value)
  | .assign span .compound _ _ => .ok (.blank span)
  | .paren span inner => .ok (if binding then .blank span else .expr (.paren span inner))
  | .member span chained owner key =>
    .ok (if binding || chained then .blank span else .expr (.member span chained owner key))
  | .superMember span key => .ok (if binding then .blank span else .expr (.superMember span key))
  | .call span kind callee args =>
    .ok (if binding || kind == .optional then .blank span else .expr (.call span kind callee args))
  | .string span value => .ok (if binding then .blank span else .expr (.string span value))
  | .number span value => .ok (if binding then .blank span else .expr (.number span value))
  | .function name func => .ok (if binding then .blank func.span else .expr (.function name func))
  | .classExpr name cls => .ok (if binding then .blank cls.span else .expr (.classExpr name cls))
  | .template span tag parts => .ok (if binding then .blank span else .expr (.template span tag parts))
  | .atom span _ | .arrow span _ _ _ | .unary span _ _ | .binary span _ _ _ | .conditional span _ _ _
  | .sequence span _ | .yield span _ => .ok (.blank span)

/-- The patterns that array elements cover. Only the last one may be a spread. -/
def elementsToPats (binding : Bool) : List Element → Except Nat (List Pat)
  | [] => .ok []
  | .hole :: rest => do return .blank ⟨0, 0⟩ :: (← elementsToPats binding rest)
  | .item e :: rest => do
    let pat ← e.toPat binding
    return pat :: (← elementsToPats binding rest)
  | [.spread e] => do
    let pat ← e.toPat binding
    return [.rest e.span pat]
  | .spread _ :: rest => elementsToPats binding rest

/-- The pattern properties that the properties of an object literal cover. -/
def propertiesToPats (binding : Bool) : List Property → Except Nat (List PatProperty)
  | [] => .ok []
  | .shorthand id :: rest => do return .shorthand id none :: (← propertiesToPats binding rest)
  | .keyValue key value :: rest => do
    let pat ← value.toPat binding
    return .keyValue key pat :: (← propertiesToPats binding rest)
  | .initialized id value :: rest => do
    return .shorthand id (some value) :: (← propertiesToPats binding rest)
  | .spread e :: rest => do
    let pat ← e.toPat binding
    return .rest pat :: (← propertiesToPats binding rest)
  | .getter span _ _ :: _ | .setter span _ _ _ :: _ => .error span.lo
  | .method _ func :: _ => .error func.span.lo

end

/-- The target of an assignment. A plain assignment may destructure. Only names, members and
    parenthesized expressions take a value otherwise. -/
def Expr.toTarget (op : AssignOp) : Expr → Except Nat Pat
  | .ident id => .ok (.ident id.span id)
  | .array span elements =>
    if op == .plain then (Expr.array span elements).toPat false else .error span.lo
  | .object span properties =>
    if op == .plain then (Expr.object span properties).toPat false else .error span.lo
  | .member span chained owner key => .ok (.expr (.member span chained owner key))
  | .call span .optional callee args => .ok (.expr (.call span .optional callee args))
  | .superMember span key => .ok (.expr (.superMember span key))
  | .paren span inner => .ok (.expr (.paren span inner))
  | .unary span .assertType inner => .ok (.expr (.unary span .assertType inner))
  | e => .error e.span.lo

/-- The parameter of an arrow function that an item between parentheses covers; `lo` is where the item
    starts. -/
def Element.toParam (lo : Nat) : Element → Except Nat Pat
  | .hole => .ok (.blank ⟨lo, lo⟩)
  | .item e => e.toPat true
  | .spread e => do return .rest ⟨lo, e.span.hi⟩ (← e.toPat true)

/-- Lifts the reading of a pattern into a grammar rule. -/
def Grammar.cover {α : Type} (result : Except Nat α) : Grammar.Parse α :=
  match result with
  | .ok a => pure a
  | .error pos => Grammar.failAt pos

end BundleLens
