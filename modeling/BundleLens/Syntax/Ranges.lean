/-
Module: BundleLens.Syntax.Ranges
Layer: Syntax
Purpose: The range of each kind of syntax node, and the expression under any number of parentheses.
Imports: BundleLens.Syntax.Tree
Main exports: Expr.span, Key.span, Pat.span, Stmt.span, ClassMember.span, Property.keyValueSpan,
  Expr.bare
-/
import BundleLens.Syntax.Tree

namespace BundleLens

/-- The range of an expression. A function or class expression covers its function or class. -/
def Expr.span : Expr → Span
  | .ident id => id.span
  | .string s _ | .number s _ | .atom s _ | .array s _ | .object s _ | .arrow s _ _ _
  | .unary s _ _ | .binary s _ _ _ | .assign s _ _ _ | .member s _ _ _ | .superMember s _
  | .conditional s _ _ _ | .call s _ _ _ | .sequence s _ | .template s _ _ | .yield s _
  | .paren s _ => s
  | .function _ f => f.span
  | .classExpr _ c => c.span

/-- The range of a property name; a computed one includes its brackets. -/
def Key.span : Key → Span
  | .ident id => id.span
  | .string s _ | .number s _ | .bigint s | .computed s _ | .hidden s => s

/-- The range of `key: value`. -/
def Property.keyValueSpan (key : Key) (value : Expr) : Span := key.span.through value.span

/-- The range of a property of an object literal. -/
def Property.span : Property → Span
  | .shorthand id => id.span
  | .keyValue key value => keyValueSpan key value
  | .initialized id value => id.span.through value.span
  | .getter s _ _ | .setter s _ _ _ => s
  | .method _ f => f.span
  | .spread e => e.span

/-- The range of a pattern. -/
def Pat.span : Pat → Span
  | .ident s _ | .array s _ | .object s _ | .rest s _ | .default s _ _ | .blank s => s
  | .expr e => e.span

/-- The range of a class member. -/
def ClassMember.span : ClassMember → Span
  | .ctor s _ _ | .field s _ _ _ _ | .accessor s _ _ _ _ | .staticBlock s _ | .other s => s
  | .method _ _ _ _ f => f.span

/-- The range of a statement. A function or class declaration covers its function or class. -/
def Stmt.span : Stmt → Span
  | .block s _ | .simple s | .expr s _ | .ret s _ | .throw s _ | .ifElse s _ _ _ | .labeled s _
  | .switch s _ _ | .clause s _ _ | .tryCatch s _ _ _ | .handler s _ _ | .whileLoop s _ _
  | .doWhile s _ _ | .forLoop s _ _ _ _ | .forIn s _ _ _ | .forOf s _ _ _ | .withObject s _ _
  | .vars s _ _ | .typeDecl s _ _ => s
  | .target p => p.span
  | .function _ f => f.span
  | .classDecl _ c => c.span

/-- The expression under any number of parentheses. -/
def Expr.bare : Expr → Expr
  | .paren _ inner => inner.bare
  | e => e

end BundleLens
