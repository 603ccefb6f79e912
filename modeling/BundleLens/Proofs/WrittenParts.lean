/-
Module: BundleLens.Proofs.WrittenParts
Layer: Proofs
Purpose: How the parts of syntax nest. Expressions and statements declare no imports, and the own name
  of a function expression is always the first part of the scope of its function, in front of the
  parameters and the body. What holds of all parts that nest like this holds of every piece of syntax.
Imports: BundleLens.Proofs.LexicalScoping
Main exports: Binding.IsPlain, Written, Expr.parts_written, Stmt.parts_written, Item.parts_written
-/
import BundleLens.Proofs.LexicalScoping

namespace BundleLens

/-- Whether a binding is an import. -/
def Binding.isImported : Binding → Bool
  | .imported _ _ => true
  | _ => false

/-- Whether a binding is the own name of a function expression. -/
def Binding.isFunctionName : Binding → Bool
  | .functionName _ _ => true
  | _ => false

/-- A binding is plain if it is neither an import nor the own name of a function expression. -/
structure Binding.IsPlain (binding : Binding) : Prop where
  notImported : binding.isImported = false
  notOwnName : binding.isFunctionName = false

/-- The own name of a function expression stands in front of all other parts of its function. -/
theorem Func.part_eq (name : Option Ident) (expression : Bool) (func : Func) :
    func.part name expression = .scope true (some func)
      ((name.map fun id => .declaration .block (.functionName ⟨name, func⟩ id)).toList ++
        (paramsParts func expression 0 func.params ++ bodyParts func.body)) := by
  obtain ⟨span, params, body⟩ := func
  rw [← List.append_assoc]
  rfl

/-- Parts that declare nothing but allowed bindings and own names of function expressions, each of these
    in front of the other parts of its function. -/
inductive Written (allowed : Binding → Prop) : List Part → Prop where
  | nil : Written allowed []
  | use {ps : List Part} (id : Ident) (rest : Written allowed ps) : Written allowed (.use id :: ps)
  | declare {ps : List Part} (home : Home) {binding : Binding} (own : allowed binding)
      (rest : Written allowed ps) : Written allowed (.declaration home binding :: ps)
  | scope {ps qs : List Part} (ofFunction : Bool) (func : Option Func) (inside : Written allowed ps)
      (rest : Written allowed qs) : Written allowed (.scope ofFunction func ps :: qs)
  | named {qs : List Part} (func : Func) (own : Ident)
      (inside : Written allowed (paramsParts func true 0 func.params ++ bodyParts func.body))
      (rest : Written allowed qs) : Written allowed (func.part (some own) true :: qs)

section

variable {allowed more : Binding → Prop} {ps qs : List Part}

theorem Written.append (first : Written allowed ps) (second : Written allowed qs) :
    Written allowed (ps ++ qs) := by
  induction first with
  | nil => exact second
  | use id _ ih => exact .use id ih
  | declare home own _ ih => exact .declare home own ih
  | scope ofFunction func inside _ _ ih => exact .scope ofFunction func inside ih
  | named func own inside _ _ ih => exact .named func own inside ih

theorem Written.mono (implies : ∀ binding, allowed binding → more binding) (parts : Written allowed ps) :
    Written more ps := by
  induction parts with
  | nil => exact .nil
  | use id _ ih => exact .use id ih
  | declare home own _ ih => exact .declare home (implies _ own) ih
  | scope ofFunction func _ _ ihInside ih => exact .scope ofFunction func ihInside ih
  | named func own _ _ ihInside ih => exact .named func own ihInside ih

/-- The part of a function without a name of its own. -/
theorem Written.func (expression : Bool) {func : Func}
    (inside : Written allowed (paramsParts func expression 0 func.params ++ bodyParts func.body)) :
    Written allowed [func.part none expression] := by
  rw [Func.part_eq]
  exact .scope true (some func) inside .nil

theorem Written.uses (ids : List Ident) : Written allowed (ids.map .use) := by
  induction ids with
  | nil => exact .nil
  | cons id rest ih => exact .use id ih

end

theorem Written.className (name : Option Ident) {cls : Class} :
    Written Binding.IsPlain
      (name.map fun id => Part.declaration .block (.className ⟨name, cls⟩ id)).toList := by
  cases name with
  | none => exact .nil
  | some id => exact .declare .block ⟨rfl, rfl⟩ .nil

theorem isPlain_patBinding (declarator : Option Declarator) (span : Span) (id : Ident) :
    (patBinding declarator span id).IsPlain := by
  unfold patBinding
  split
  · split <;> exact ⟨rfl, rfl⟩
  · exact ⟨rfl, rfl⟩

theorem isPlain_shorthandBinding (declarator : Option Declarator) (id : Ident) :
    (shorthandBinding declarator id).IsPlain := by
  unfold shorthandBinding
  split <;> exact ⟨rfl, rfl⟩

mutual

theorem Expr.parts_written : (e : Expr) → Written Binding.IsPlain e.parts
  | .ident id => .use id .nil
  | .array _ elements => elementsParts_written elements
  | .object _ properties => propertiesParts_written properties
  | .function none func => .func true (func.parts_written true)
  | .function (some own) func => .named func own (func.parts_written true) .nil
  | .arrow _ params _ body =>
    .scope true none ((patsParts_written .block none params).append (stmtsParts_written body)) .nil
  | .classExpr name cls =>
    .scope false none ((Written.className name).append cls.parts_written) .nil
  | .unary _ _ operand => operand.parts_written
  | .binary _ _ left right => left.parts_written.append right.parts_written
  | .assign _ _ target value => target.assignedParts_written.append value.parts_written
  | .member _ _ owner key => owner.parts_written.append key.parts_written
  | .superMember _ key => key.parts_written
  | .conditional _ test consequent alternate =>
    (test.parts_written.append consequent.parts_written).append alternate.parts_written
  | .call _ _ callee args => callee.parts_written.append (elementsParts_written args)
  | .sequence _ parts => exprsParts_written parts
  | .template _ tag parts => (optParts_written tag).append (exprsParts_written parts)
  | .yield _ operand => optParts_written operand
  | .paren _ inner => inner.parts_written
  | .string _ _ => .nil
  | .number _ _ => .nil
  | .atom _ _ => .nil

theorem optParts_written : (e : Option Expr) → Written Binding.IsPlain (optParts e)
  | none => .nil
  | some e => e.parts_written

theorem exprsParts_written : (es : List Expr) → Written Binding.IsPlain (exprsParts es)
  | [] => .nil
  | e :: rest => e.parts_written.append (exprsParts_written rest)

theorem elementsParts_written : (es : List Element) → Written Binding.IsPlain (elementsParts es)
  | [] => .nil
  | e :: rest => e.parts_written.append (elementsParts_written rest)

theorem Element.parts_written : (e : Element) → Written Binding.IsPlain e.parts
  | .hole => .nil
  | .item e => e.parts_written
  | .spread e => e.parts_written

theorem Key.parts_written : (key : Key) → Written Binding.IsPlain key.parts
  | .computed _ e => e.parts_written
  | .ident _ => .nil
  | .string _ _ => .nil
  | .number _ _ => .nil
  | .bigint _ => .nil
  | .hidden _ => .nil

theorem propertiesParts_written : (ps : List Property) → Written Binding.IsPlain (propertiesParts ps)
  | [] => .nil
  | p :: rest => p.parts_written.append (propertiesParts_written rest)

theorem Property.parts_written : (p : Property) → Written Binding.IsPlain p.parts
  | .shorthand id => .use id .nil
  | .keyValue key value => key.parts_written.append value.parts_written
  | .initialized _ value => value.parts_written
  | .getter _ key body =>
    key.parts_written.append (.scope true none (stmtsParts_written body) .nil)
  | .setter _ key param body =>
    key.parts_written.append
      (.scope true none ((param.parts_written .block none).append (stmtsParts_written body)) .nil)
  | .method key func => key.parts_written.append (.func false (func.parts_written false))
  | .spread e => e.parts_written

theorem Func.parts_written (expression : Bool) : (func : Func) →
    Written Binding.IsPlain (paramsParts func expression 0 func.params ++ bodyParts func.body)
  | ⟨span, params, body⟩ =>
    (paramsParts_written ⟨span, params, body⟩ expression 0 params).append (bodyParts_written body)

theorem bodyParts_written : (body : Option (List Stmt)) → Written Binding.IsPlain (bodyParts body)
  | none => .nil
  | some body => stmtsParts_written body

theorem paramsParts_written (func : Func) (expression : Bool) (index : Nat) : (ps : List Param) →
    Written Binding.IsPlain (paramsParts func expression index ps)
  | [] => .nil
  | p :: rest =>
    (p.parts_written func expression index).append
      (paramsParts_written func expression (index + 1) rest)

theorem Param.parts_written (func : Func) (expression : Bool) (index : Nat) : (p : Param) →
    Written Binding.IsPlain (p.parts func expression index)
  | ⟨span, decorators, pat, promoted⟩ => by
      have others := exprsParts_written decorators
      have bound := pat.parts_written .block none
      cases pat with
      | ident patSpan id => exact .declare .block ⟨rfl, rfl⟩ others
      | _ => exact bound.append others

theorem ctorParamsParts_written : (ps : List Param) → Written Binding.IsPlain (ctorParamsParts ps)
  | [] => .nil
  | p :: rest => p.ctorParts_written.append (ctorParamsParts_written rest)

theorem Param.ctorParts_written : (p : Param) → Written Binding.IsPlain p.ctorParts
  | ⟨_, decorators, pat, _⟩ =>
    (exprsParts_written decorators).append (pat.parts_written .block none)

theorem Pat.parts_written (home : Home) (declarator : Option Declarator) : (pat : Pat) →
    Written Binding.IsPlain (pat.parts home declarator)
  | .ident span id => .declare home (isPlain_patBinding declarator span id) .nil
  | .array _ elements => patsParts_written home declarator elements
  | .object _ properties => patPropertiesParts_written home declarator properties
  | .rest _ inner => inner.parts_written home declarator
  | .default _ left value => (left.parts_written home declarator).append value.parts_written
  | .expr e => e.parts_written
  | .blank _ => .nil

theorem patsParts_written (home : Home) (declarator : Option Declarator) : (pats : List Pat) →
    Written Binding.IsPlain (patsParts home declarator pats)
  | [] => .nil
  | p :: rest =>
    (p.parts_written home declarator).append (patsParts_written home declarator rest)

theorem patPropertiesParts_written (home : Home) (declarator : Option Declarator) :
    (ps : List PatProperty) → Written Binding.IsPlain (patPropertiesParts home declarator ps)
  | [] => .nil
  | p :: rest =>
    (p.parts_written home declarator).append (patPropertiesParts_written home declarator rest)

theorem PatProperty.parts_written (home : Home) (declarator : Option Declarator) :
    (p : PatProperty) → Written Binding.IsPlain (p.parts home declarator)
  | .keyValue key value => key.parts_written.append (value.parts_written home declarator)
  | .shorthand id default =>
    .declare home (isPlain_shorthandBinding declarator id) (optParts_written default)
  | .rest inner => inner.parts_written home declarator

theorem Pat.usedParts_written : (pat : Pat) → Written Binding.IsPlain pat.usedParts
  | .ident _ id => .use id .nil
  | .array _ elements => patsUsedParts_written elements
  | .object _ properties => patPropertiesUsedParts_written properties
  | .rest _ inner => inner.usedParts_written
  | .default _ left value => left.usedParts_written.append value.parts_written
  | .expr e => e.parts_written
  | .blank _ => .nil

theorem patsUsedParts_written : (pats : List Pat) → Written Binding.IsPlain (patsUsedParts pats)
  | [] => .nil
  | p :: rest => p.usedParts_written.append (patsUsedParts_written rest)

theorem patPropertiesUsedParts_written : (ps : List PatProperty) →
    Written Binding.IsPlain (patPropertiesUsedParts ps)
  | [] => .nil
  | p :: rest => p.usedParts_written.append (patPropertiesUsedParts_written rest)

theorem PatProperty.usedParts_written : (p : PatProperty) → Written Binding.IsPlain p.usedParts
  | .keyValue _ value => value.usedParts_written
  | .shorthand id default => .use id (optParts_written default)
  | .rest inner => inner.usedParts_written

theorem Pat.assignedParts_written : (pat : Pat) → Written Binding.IsPlain pat.assignedParts
  | .ident _ id => .use id .nil
  | .expr (.member _ false owner key) => owner.parts_written.append key.parts_written
  | .expr (.paren _ inner) => inner.parts_written
  | .array _ elements => patsUsedParts_written elements
  | .object _ properties => keyValuesParts_written properties
  | .expr (.member _ true _ _) | .expr (.ident _) | .expr (.string _ _) | .expr (.number _ _)
  | .expr (.atom _ _) | .expr (.array _ _) | .expr (.object _ _) | .expr (.function _ _)
  | .expr (.arrow _ _ _ _) | .expr (.classExpr _ _) | .expr (.unary _ _ _) | .expr (.binary _ _ _ _)
  | .expr (.assign _ _ _ _) | .expr (.superMember _ _) | .expr (.conditional _ _ _ _)
  | .expr (.call _ _ _ _) | .expr (.sequence _ _) | .expr (.template _ _ _) | .expr (.yield _ _)
  | .rest _ _ | .default _ _ _ | .blank _ => .nil

theorem keyValuesParts_written : (ps : List PatProperty) → Written Binding.IsPlain (keyValuesParts ps)
  | [] => .nil
  | p :: rest => p.keyValueParts_written.append (keyValuesParts_written rest)

theorem PatProperty.keyValueParts_written : (p : PatProperty) → Written Binding.IsPlain p.keyValueParts
  | .keyValue _ value => value.usedParts_written
  | .shorthand _ _ => .nil
  | .rest _ => .nil

theorem Class.parts_written : (cls : Class) → Written Binding.IsPlain cls.parts
  | ⟨_, decorators, base, members⟩ =>
    ((exprsParts_written decorators).append (optParts_written base)).append
      (membersParts_written members)

theorem membersParts_written : (members : List ClassMember) → Written Binding.IsPlain (membersParts members)
  | [] => .nil
  | m :: rest => m.parts_written.append (membersParts_written rest)

theorem ClassMember.parts_written : (m : ClassMember) → Written Binding.IsPlain m.parts
  | .ctor _ params body =>
    .scope true none ((ctorParamsParts_written params).append (bodyParts_written body)) .nil
  | .method _ _ decorators key func => by
      have own := Written.func false (func.parts_written false)
      have all := (key.parts_written.append (exprsParts_written decorators)).append own
      cases key with
      | hidden span => exact own
      | _ => exact all
  | .field _ _ decorators key value => by
      have initial := optParts_written value
      have all := (key.parts_written.append (exprsParts_written decorators)).append initial
      cases key with
      | hidden span => exact initial
      | _ => exact all
  | .accessor _ _ decorators _ value =>
    (exprsParts_written decorators).append (optParts_written value)
  | .staticBlock _ body => .scope false none (stmtsParts_written body) .nil
  | .other _ => .nil

theorem declaratorsParts_written (home : Home) : (ds : List Declarator) →
    Written Binding.IsPlain (declaratorsParts home ds)
  | [] => .nil
  | d :: rest => (d.parts_written home).append (declaratorsParts_written home rest)

theorem Declarator.parts_written (home : Home) : (d : Declarator) → Written Binding.IsPlain (d.parts home)
  | ⟨span, pat, init⟩ =>
    (pat.parts_written home (some ⟨span, pat, init⟩)).append (optParts_written init)

theorem stmtsParts_written : (body : List Stmt) → Written Binding.IsPlain (stmtsParts body)
  | [] => .nil
  | s :: rest => s.parts_written.append (stmtsParts_written rest)

theorem optStmtParts_written : (s : Option Stmt) → Written Binding.IsPlain (optStmtParts s)
  | none => .nil
  | some s => s.parts_written

/-- At any depth a statement declares nothing but plain bindings and the own names of function
    expressions. -/
theorem Stmt.parts_written : (s : Stmt) → Written Binding.IsPlain s.parts
  | .block _ body => .scope false none (stmtsParts_written body) .nil
  | .simple _ => .nil
  | .expr _ e => e.parts_written
  | .ret _ value => optParts_written value
  | .throw _ value => value.parts_written
  | .ifElse _ test consequent alternate =>
    (test.parts_written.append consequent.parts_written).append (optStmtParts_written alternate)
  | .labeled _ body => body.parts_written
  | .switch _ subject clauses =>
    subject.parts_written.append (.scope false none (stmtsParts_written clauses) .nil)
  | .clause _ test body => (optParts_written test).append (stmtsParts_written body)
  | .tryCatch _ body handler finalizer =>
    .scope false none (stmtsParts_written body)
      ((optStmtParts_written handler).append (optStmtParts_written finalizer))
  | .handler _ param body =>
    .scope false none ((param.parts_written .block none).append (stmtsParts_written body)) .nil
  | .whileLoop _ test body => test.parts_written.append body.parts_written
  | .doWhile _ body test => body.parts_written.append test.parts_written
  | .forLoop _ init test update body =>
    .scope false none ((((optStmtParts_written init).append (optParts_written test)).append
      (optParts_written update)).append body.parts_written) .nil
  | .forIn _ head source body =>
    .scope false none ((head.parts_written.append source.parts_written).append
      body.parts_written) .nil
  | .forOf _ head source body =>
    .scope false none ((head.parts_written.append source.parts_written).append
      body.parts_written) .nil
  | .target pat => pat.usedParts_written
  | .withObject _ owner body => owner.parts_written.append body.parts_written
  | .vars _ .var declarators => declaratorsParts_written .function declarators
  | .vars _ .letKind declarators => declaratorsParts_written .block declarators
  | .vars _ .const declarators => declaratorsParts_written .block declarators
  | .function _ func => .declare .function ⟨rfl, rfl⟩ (.func false (func.parts_written false))
  | .classDecl _ cls => .declare .block ⟨rfl, rfl⟩ cls.parts_written
  | .typeDecl _ _ _ => .nil

end

theorem Item.parts_written (item : Item) :
    Written (fun binding => binding.isFunctionName = false) item.parts := by
  have plain {parts : List Part} (written : Written Binding.IsPlain parts) :
      Written (fun binding => binding.isFunctionName = false) parts :=
    written.mono fun _ isPlain => isPlain.notOwnName
  cases item with
  | importDecl decl =>
      simp only [Item.parts]
      induction decl.specifiers with
      | nil => exact .nil
      | cons s rest ih => exact .declare .file rfl ih
  | stmt s => exact plain s.parts_written
  | exportDecl s => exact plain s.parts_written
  | exportList specifiers => exact .uses _
  | exportClass name cls => exact plain (Expr.classExpr name cls).parts_written
  | exportFunction name func => exact plain (Expr.function name func).parts_written
  | exportValue value => exact plain value.parts_written
  | exportFrom specifiers source => exact .nil
  | exportAll source => exact .nil
  | other => exact .nil

/-- The parts of every file nest in this way. -/
theorem itemsParts_written (items : List Item) :
    Written (fun binding => binding.isFunctionName = false) (itemsParts items) := by
  induction items with
  | nil => exact .nil
  | cons item rest ih => exact item.parts_written.append ih

end BundleLens
