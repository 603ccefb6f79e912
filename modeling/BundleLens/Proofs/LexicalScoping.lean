/-
Module: BundleLens.Proofs.LexicalScoping
Layer: Proofs
Purpose: The scopes that a file's index holds are those of lexical scoping. The parts of a syntax tree
  say which constructs open scopes and what kind of scope is home to each declaration; the walk that
  builds the index lists the events of just these parts.
Imports: BundleLens.Proofs.ScopeTree
Main exports: Expr.parts, Stmt.parts, itemsParts, Shows, itemsTrace_shows, build_lexicalScoping
-/
import BundleLens.Proofs.ScopeTree

namespace BundleLens

mutual

/-- The parts of an expression. Functions of every kind are scopes of functions; a class expression is a
    scope for its own name. -/
def Expr.parts : Expr → List Part
  | .ident id => [.use id]
  | .array _ elements => elementsParts elements
  | .object _ properties => propertiesParts properties
  | .function name func => [func.part name true]
  | .arrow _ params _ body => [.scope true none (patsParts .block none params ++ stmtsParts body)]
  | .classExpr name cls =>
    [.scope false none
      ((name.map fun id => .declaration .block (.className ⟨name, cls⟩ id)).toList ++ cls.parts)]
  | .unary _ _ operand => operand.parts
  | .binary _ _ left right => left.parts ++ right.parts
  | .assign _ _ target value => target.assignedParts ++ value.parts
  | .member _ _ owner key => owner.parts ++ key.parts
  | .superMember _ key => key.parts
  | .conditional _ test consequent alternate => test.parts ++ consequent.parts ++ alternate.parts
  | .call _ _ callee args => callee.parts ++ elementsParts args
  | .sequence _ parts => exprsParts parts
  | .template _ tag parts => optParts tag ++ exprsParts parts
  | .yield _ operand => optParts operand
  | .paren _ inner => inner.parts
  | .string _ _ => []
  | .number _ _ => []
  | .atom _ _ => []

def optParts : Option Expr → List Part
  | none => []
  | some e => e.parts

def exprsParts : List Expr → List Part
  | [] => []
  | e :: rest => e.parts ++ exprsParts rest

def elementsParts : List Element → List Part
  | [] => []
  | e :: rest => e.parts ++ elementsParts rest

def Element.parts : Element → List Part
  | .hole => []
  | .item e => e.parts
  | .spread e => e.parts

def Key.parts : Key → List Part
  | .computed _ e => e.parts
  | .ident _ => []
  | .string _ _ => []
  | .number _ _ => []
  | .bigint _ => []
  | .hidden _ => []

def propertiesParts : List Property → List Part
  | [] => []
  | p :: rest => p.parts ++ propertiesParts rest

def Property.parts : Property → List Part
  | .shorthand id => [.use id]
  | .keyValue key value => key.parts ++ value.parts
  | .initialized _ value => value.parts
  | .getter _ key body => key.parts ++ [.scope true none (stmtsParts body)]
  | .setter _ key param body =>
    key.parts ++ [.scope true none (param.parts .block none ++ stmtsParts body)]
  | .method key func => key.parts ++ [func.part none false]
  | .spread e => e.parts

/-- The scope of a function: it is home to the function's own name, if it is an expression, to its
    parameters and to the variables of its body. -/
def Func.part (name : Option Ident) (expression : Bool) : Func → Part
  | ⟨span, params, body⟩ =>
    let func : Func := ⟨span, params, body⟩
    .scope true (some func)
      ((name.map fun id => .declaration .block (.functionName ⟨name, func⟩ id)).toList ++
        paramsParts func expression 0 params ++ bodyParts body)

def bodyParts : Option (List Stmt) → List Part
  | none => []
  | some body => stmtsParts body

def paramsParts (func : Func) (expression : Bool) (index : Nat) : List Param → List Part
  | [] => []
  | p :: rest => p.parts func expression index ++ paramsParts func expression (index + 1) rest

def Param.parts (func : Func) (expression : Bool) (index : Nat) : Param → List Part
  | ⟨span, decorators, .ident patSpan id, promoted⟩ =>
    let param : Param := ⟨span, decorators, .ident patSpan id, promoted⟩
    .declaration .block (.param func index param id expression) :: exprsParts decorators
  | ⟨_, decorators, pat, _⟩ => pat.parts .block none ++ exprsParts decorators

def ctorParamsParts : List Param → List Part
  | [] => []
  | p :: rest => p.ctorParts ++ ctorParamsParts rest

def Param.ctorParts : Param → List Part
  | ⟨_, decorators, pat, _⟩ => exprsParts decorators ++ pat.parts .block none

/-- The parts of a pattern whose names are declared. -/
def Pat.parts (home : Home) (declarator : Option Declarator) : Pat → List Part
  | .ident span id => [.declaration home (patBinding declarator span id)]
  | .array _ elements => patsParts home declarator elements
  | .object _ properties => patPropertiesParts home declarator properties
  | .rest _ inner => inner.parts home declarator
  | .default _ left value => left.parts home declarator ++ value.parts
  | .expr e => e.parts
  | .blank _ => []

def patsParts (home : Home) (declarator : Option Declarator) : List Pat → List Part
  | [] => []
  | p :: rest => p.parts home declarator ++ patsParts home declarator rest

def patPropertiesParts (home : Home) (declarator : Option Declarator) : List PatProperty → List Part
  | [] => []
  | p :: rest => p.parts home declarator ++ patPropertiesParts home declarator rest

def PatProperty.parts (home : Home) (declarator : Option Declarator) : PatProperty → List Part
  | .keyValue key value => key.parts ++ value.parts home declarator
  | .shorthand id default =>
    .declaration home (shorthandBinding declarator id) :: optParts default
  | .rest inner => inner.parts home declarator

/-- The parts of a pattern whose names are used. -/
def Pat.usedParts : Pat → List Part
  | .ident _ id => [.use id]
  | .array _ elements => patsUsedParts elements
  | .object _ properties => patPropertiesUsedParts properties
  | .rest _ inner => inner.usedParts
  | .default _ left value => left.usedParts ++ value.parts
  | .expr e => e.parts
  | .blank _ => []

def patsUsedParts : List Pat → List Part
  | [] => []
  | p :: rest => p.usedParts ++ patsUsedParts rest

def patPropertiesUsedParts : List PatProperty → List Part
  | [] => []
  | p :: rest => p.usedParts ++ patPropertiesUsedParts rest

def PatProperty.usedParts : PatProperty → List Part
  | .keyValue _ value => value.usedParts
  | .shorthand id default => .use id :: optParts default
  | .rest inner => inner.usedParts

/-- The parts of the target of an assignment, as far as the walk looks into it. -/
def Pat.assignedParts : Pat → List Part
  | .ident _ id => [.use id]
  | .expr (.member _ false owner key) => owner.parts ++ key.parts
  | .expr (.paren _ inner) => inner.parts
  | .expr _ => []
  | .array _ elements => patsUsedParts elements
  | .object _ properties => keyValuesParts properties
  | .rest _ _ => []
  | .default _ _ _ => []
  | .blank _ => []

def keyValuesParts : List PatProperty → List Part
  | [] => []
  | p :: rest => p.keyValueParts ++ keyValuesParts rest

def PatProperty.keyValueParts : PatProperty → List Part
  | .keyValue _ value => value.usedParts
  | .shorthand _ _ => []
  | .rest _ => []

def Class.parts : Class → List Part
  | ⟨_, decorators, base, members⟩ => exprsParts decorators ++ optParts base ++ membersParts members

def membersParts : List ClassMember → List Part
  | [] => []
  | m :: rest => m.parts ++ membersParts rest

def ClassMember.parts : ClassMember → List Part
  | .ctor _ params body => [.scope true none (ctorParamsParts params ++ bodyParts body)]
  | .method _ _ _ (.hidden _) func => [func.part none false]
  | .method _ _ decorators key func => key.parts ++ exprsParts decorators ++ [func.part none false]
  | .field _ _ _ (.hidden _) value => optParts value
  | .field _ _ decorators key value => key.parts ++ exprsParts decorators ++ optParts value
  | .accessor _ _ decorators _ value => exprsParts decorators ++ optParts value
  | .staticBlock _ body => [.scope false none (stmtsParts body)]
  | .other _ => []

def declaratorsParts (home : Home) : List Declarator → List Part
  | [] => []
  | d :: rest => d.parts home ++ declaratorsParts home rest

def Declarator.parts (home : Home) : Declarator → List Part
  | ⟨span, pat, init⟩ => pat.parts home (some ⟨span, pat, init⟩) ++ optParts init

def stmtsParts : List Stmt → List Part
  | [] => []
  | s :: rest => s.parts ++ stmtsParts rest

def optStmtParts : Option Stmt → List Part
  | none => []
  | some s => s.parts

/-- The parts of a statement. Blocks, the clauses of a `switch`, the three blocks of a `try` and loops
    with a head of their own are scopes; branches, labels and the other loops are none. Variables with
    `var` and functions have their home in a function, all other declarations in the innermost scope. -/
def Stmt.parts : Stmt → List Part
  | .block _ body => [.scope false none (stmtsParts body)]
  | .simple _ => []
  | .expr _ e => e.parts
  | .ret _ value => optParts value
  | .throw _ value => value.parts
  | .ifElse _ test consequent alternate => test.parts ++ consequent.parts ++ optStmtParts alternate
  | .labeled _ body => body.parts
  | .switch _ subject clauses => subject.parts ++ [.scope false none (stmtsParts clauses)]
  | .clause _ test body => optParts test ++ stmtsParts body
  | .tryCatch _ body handler finalizer =>
    .scope false none (stmtsParts body) :: (optStmtParts handler ++ optStmtParts finalizer)
  | .handler _ param body => [.scope false none (param.parts .block none ++ stmtsParts body)]
  | .whileLoop _ test body => test.parts ++ body.parts
  | .doWhile _ body test => body.parts ++ test.parts
  | .forLoop _ init test update body =>
    [.scope false none (optStmtParts init ++ optParts test ++ optParts update ++ body.parts)]
  | .forIn _ head source body => [.scope false none (head.parts ++ source.parts ++ body.parts)]
  | .forOf _ head source body => [.scope false none (head.parts ++ source.parts ++ body.parts)]
  | .target pat => pat.usedParts
  | .withObject _ owner body => owner.parts ++ body.parts
  | .vars _ .var declarators => declaratorsParts .function declarators
  | .vars _ .letKind declarators => declaratorsParts .block declarators
  | .vars _ .const declarators => declaratorsParts .block declarators
  | .function name func => [.declaration .function (.function ⟨name, func⟩), func.part none false]
  | .classDecl name cls => .declaration .block (.classDecl ⟨name, cls⟩) :: cls.parts
  | .typeDecl _ _ _ => []

end

/-- The parts of an item of a file. What is imported belongs to the file; a function or class that is
    the default export counts as an expression. -/
def Item.parts : Item → List Part
  | .stmt s => s.parts
  | .importDecl decl => decl.specifiers.map fun s => .declaration .file (.imported decl s)
  | .exportDecl decl => decl.parts
  | .exportList specifiers => (specifiers.filterMap ExportSpecifier.used?).map .use
  | .exportClass name cls => (Expr.classExpr name cls).parts
  | .exportFunction name func => (Expr.function name func).parts
  | .exportValue value => value.parts
  | .exportFrom _ _ => []
  | .exportAll _ => []
  | .other => []

def itemsParts (items : List Item) : List Part := items.flatMap Item.parts

/-! ### The walk shows the parts -/

/-- Whether an event matters to scopes. -/
def Event.isScoping : Event → Bool
  | .enter _ _ => true
  | .leave => true
  | .declare _ _ => true
  | .refer _ => true
  | .assign _ _ => false
  | .invoke _ _ => false
  | .foundClass _ => false
  | .foundEnum _ => false

/-- The events that matter to scopes are those of the parts. -/
def Shows (events : List Event) (parts : List Part) : Prop :=
  events.filter Event.isScoping = partsEvents parts

/-- The events show some parts, then open a scope and show parts of it. -/
def Opens (events : List Event) (before : List Part) (ofFunction : Bool) (func : Option Func)
    (parts : List Part) : Prop :=
  events.filter Event.isScoping = partsEvents before ++ .enter ofFunction func :: partsEvents parts

section

variable {a b : List Event} {ps qs before : List Part} {ofFunction : Bool} {func : Option Func}

theorem Shows.nil : Shows [] [] := rfl

theorem Shows.append (first : Shows a ps) (second : Shows b qs) : Shows (a ++ b) (ps ++ qs) := by
  unfold Shows at *
  rw [List.filter_append, first, second, partsEvents_append]

/-- Events that matter to other questions than scopes show nothing. -/
theorem Shows.behind (first : Shows a []) (second : Shows b qs) : Shows (a ++ b) qs :=
  first.append second

theorem Shows.declare (home : Home) (binding : Binding) (rest : Shows a ps) :
    Shows (.declare home binding :: a) (.declaration home binding :: ps) :=
  congrArg (List.cons (Event.declare home binding)) rest

theorem Shows.refer (id : Ident) (rest : Shows a ps) : Shows (.refer id :: a) (.use id :: ps) :=
  congrArg (List.cons (Event.refer id)) rest

theorem Shows.enter (ofFunction : Bool) (func : Option Func) (first : Shows a before) :
    Opens (a ++ [.enter ofFunction func]) before ofFunction func [] := by
  unfold Opens Shows at *
  rw [List.filter_append, first]
  rfl

theorem Opens.start : Opens [.enter ofFunction func] [] ofFunction func [] := rfl

theorem Opens.append (first : Opens a before ofFunction func ps) (second : Shows b qs) :
    Opens (a ++ b) before ofFunction func (ps ++ qs) := by
  unfold Opens Shows at *
  rw [List.filter_append, first, second, partsEvents_append, List.append_assoc, List.cons_append]

theorem Opens.close (opened : Opens a before ofFunction func ps) :
    Shows (a ++ [.leave]) (before ++ [.scope ofFunction func ps]) := by
  unfold Opens Shows at *
  rw [List.filter_append, opened, partsEvents_append]
  simp [Event.isScoping, Part.events]

end

theorem Stmt.shapes_shows (s : Stmt) (following : List Stmt) : Shows (s.shapes following) [] := by
  refine List.filter_eq_nil_iff.mpr fun event found => ?_
  rw [Stmt.shapes, List.mem_append, List.mem_map, Option.mem_toList, Option.map_eq_some_iff] at found
  rcases found with ⟨shape, _, rfl⟩ | ⟨shape, _, rfl⟩ <;> exact Bool.false_ne_true

theorem invocation_shows (call : Call) : Shows (invocation call) [] := by
  unfold invocation
  split <;> rfl

theorem ownName_shows (name : Option Ident) (binding : Ident → Binding) :
    Shows (name.map fun id => Event.declare .block (binding id)).toList
      (name.map fun id => Part.declaration .block (binding id)).toList := by
  cases name <;> rfl

mutual

theorem Expr.trace_shows : (e : Expr) → Shows e.trace e.parts
  | .ident id => .refer id .nil
  | .array _ elements => elementsTrace_shows elements
  | .object _ properties => propertiesTrace_shows properties
  | .function name func => func.trace_shows name true
  | .arrow _ params _ body =>
    ((Opens.start.append (patsBind_shows .block none params)).append (stmtsTrace_shows body)).close
  | .classExpr name cls =>
    ((Opens.start.append (ownName_shows name (.className ⟨name, cls⟩))).append cls.trace_shows).close
  | .unary _ _ operand => operand.trace_shows
  | .binary _ _ left right => left.trace_shows.append right.trace_shows
  | .assign span op target value =>
    (target.assignTrace_shows ⟨span, op, target, value⟩).append value.trace_shows
  | .member _ _ owner key => owner.trace_shows.append key.trace_shows
  | .superMember _ key => key.trace_shows
  | .conditional _ test consequent alternate =>
    (test.trace_shows.append consequent.trace_shows).append alternate.trace_shows
  | .call span kind callee args => by
      have called := callee.trace_shows
      have given := elementsTrace_shows args
      cases kind with
      | plain => exact ((invocation_shows ⟨span, callee, args⟩).behind called).append given
      | _ => exact called.append given
  | .sequence _ parts => exprsTrace_shows parts
  | .template _ tag parts => (optTrace_shows tag).append (exprsTrace_shows parts)
  | .yield _ operand => optTrace_shows operand
  | .paren _ inner => inner.trace_shows
  | .string _ _ => .nil
  | .number _ _ => .nil
  | .atom _ _ => .nil

theorem optTrace_shows : (e : Option Expr) → Shows (optTrace e) (optParts e)
  | none => .nil
  | some e => e.trace_shows

theorem exprsTrace_shows : (es : List Expr) → Shows (exprsTrace es) (exprsParts es)
  | [] => .nil
  | e :: rest => e.trace_shows.append (exprsTrace_shows rest)

theorem elementsTrace_shows : (es : List Element) → Shows (elementsTrace es) (elementsParts es)
  | [] => .nil
  | e :: rest => e.trace_shows.append (elementsTrace_shows rest)

theorem Element.trace_shows : (e : Element) → Shows e.trace e.parts
  | .hole => .nil
  | .item e => e.trace_shows
  | .spread e => e.trace_shows

theorem Key.trace_shows : (key : Key) → Shows key.trace key.parts
  | .computed _ e => e.trace_shows
  | .ident _ => .nil
  | .string _ _ => .nil
  | .number _ _ => .nil
  | .bigint _ => .nil
  | .hidden _ => .nil

theorem propertiesTrace_shows : (ps : List Property) →
    Shows (propertiesTrace ps) (propertiesParts ps)
  | [] => .nil
  | p :: rest => p.trace_shows.append (propertiesTrace_shows rest)

theorem Property.trace_shows : (p : Property) → Shows p.trace p.parts
  | .shorthand id => .refer id .nil
  | .keyValue key value => key.trace_shows.append value.trace_shows
  | .initialized _ value => value.trace_shows
  | .getter _ key body => ((key.trace_shows.enter true none).append (stmtsTrace_shows body)).close
  | .setter _ key param body =>
    (((key.trace_shows.enter true none).append (param.bindTrace_shows .block none)).append
      (stmtsTrace_shows body)).close
  | .method key func => key.trace_shows.append (func.trace_shows none false)
  | .spread e => e.trace_shows

theorem Func.trace_shows (name : Option Ident) (expression : Bool) : (func : Func) →
    Shows (func.trace name expression) [func.part name expression]
  | ⟨span, params, body⟩ =>
    (((Opens.start.append (ownName_shows name (.functionName ⟨name, ⟨span, params, body⟩⟩))).append
      (paramsTrace_shows ⟨span, params, body⟩ expression 0 params)).append (bodyTrace_shows body)).close

theorem bodyTrace_shows : (body : Option (List Stmt)) → Shows (bodyTrace body) (bodyParts body)
  | none => .nil
  | some body => stmtsTrace_shows body

theorem paramsTrace_shows (func : Func) (expression : Bool) (index : Nat) : (ps : List Param) →
    Shows (paramsTrace func expression index ps) (paramsParts func expression index ps)
  | [] => .nil
  | p :: rest =>
    (p.trace_shows func expression index).append (paramsTrace_shows func expression (index + 1) rest)

theorem Param.trace_shows (func : Func) (expression : Bool) (index : Nat) : (p : Param) →
    Shows (p.trace func expression index) (p.parts func expression index)
  | ⟨span, decorators, pat, promoted⟩ => by
      have others := exprsTrace_shows decorators
      have bound := pat.bindTrace_shows .block none
      cases pat with
      | ident patSpan id => exact .declare _ _ others
      | _ => exact bound.append others

theorem ctorParamsTrace_shows : (ps : List Param) →
    Shows (ctorParamsTrace ps) (ctorParamsParts ps)
  | [] => .nil
  | p :: rest => p.ctorTrace_shows.append (ctorParamsTrace_shows rest)

theorem Param.ctorTrace_shows : (p : Param) → Shows p.ctorTrace p.ctorParts
  | ⟨_, decorators, pat, _⟩ => (exprsTrace_shows decorators).append (pat.bindTrace_shows .block none)

theorem Pat.bindTrace_shows (home : Home) (declarator : Option Declarator) : (pat : Pat) →
    Shows (pat.bindTrace home declarator) (pat.parts home declarator)
  | .ident _ _ => .declare home _ .nil
  | .array _ elements => patsBind_shows home declarator elements
  | .object _ properties => patPropertiesBind_shows home declarator properties
  | .rest _ inner => inner.bindTrace_shows home declarator
  | .default _ left value => (left.bindTrace_shows home declarator).append value.trace_shows
  | .expr e => e.trace_shows
  | .blank _ => .nil

theorem patsBind_shows (home : Home) (declarator : Option Declarator) : (pats : List Pat) →
    Shows (patsBind home declarator pats) (patsParts home declarator pats)
  | [] => .nil
  | p :: rest => (p.bindTrace_shows home declarator).append (patsBind_shows home declarator rest)

theorem patPropertiesBind_shows (home : Home) (declarator : Option Declarator) :
    (ps : List PatProperty) →
    Shows (patPropertiesBind home declarator ps) (patPropertiesParts home declarator ps)
  | [] => .nil
  | p :: rest =>
    (p.bindTrace_shows home declarator).append (patPropertiesBind_shows home declarator rest)

theorem PatProperty.bindTrace_shows (home : Home) (declarator : Option Declarator) :
    (p : PatProperty) → Shows (p.bindTrace home declarator) (p.parts home declarator)
  | .keyValue key value => key.trace_shows.append (value.bindTrace_shows home declarator)
  | .shorthand _ default => .declare home _ (optTrace_shows default)
  | .rest inner => inner.bindTrace_shows home declarator

theorem Pat.useTrace_shows : (pat : Pat) → Shows pat.useTrace pat.usedParts
  | .ident _ id => .refer id .nil
  | .array _ elements => patsUse_shows elements
  | .object _ properties => patPropertiesUse_shows properties
  | .rest _ inner => inner.useTrace_shows
  | .default _ left value => left.useTrace_shows.append value.trace_shows
  | .expr e => e.trace_shows
  | .blank _ => .nil

theorem patsUse_shows : (pats : List Pat) → Shows (patsUse pats) (patsUsedParts pats)
  | [] => .nil
  | p :: rest => p.useTrace_shows.append (patsUse_shows rest)

theorem patPropertiesUse_shows : (ps : List PatProperty) →
    Shows (patPropertiesUse ps) (patPropertiesUsedParts ps)
  | [] => .nil
  | p :: rest => p.useTrace_shows.append (patPropertiesUse_shows rest)

theorem PatProperty.useTrace_shows : (p : PatProperty) → Shows p.useTrace p.usedParts
  | .keyValue _ value => value.useTrace_shows
  | .shorthand id default => .refer id (optTrace_shows default)
  | .rest inner => inner.useTrace_shows

theorem Pat.assignTrace_shows (assign : Assignment) : (pat : Pat) →
    Shows (pat.assignTrace assign) pat.assignedParts
  | .ident _ id => by
      refine .refer id ?_
      split <;> rfl
  | .expr (.member _ false owner key) => owner.trace_shows.append key.trace_shows
  | .expr (.paren _ inner) => inner.trace_shows
  | .array _ elements => patsUse_shows elements
  | .object _ properties => keyValuesUse_shows properties
  | .expr (.member _ true _ _) | .expr (.ident _) | .expr (.string _ _) | .expr (.number _ _)
  | .expr (.atom _ _) | .expr (.array _ _) | .expr (.object _ _) | .expr (.function _ _)
  | .expr (.arrow _ _ _ _) | .expr (.classExpr _ _) | .expr (.unary _ _ _) | .expr (.binary _ _ _ _)
  | .expr (.assign _ _ _ _) | .expr (.superMember _ _) | .expr (.conditional _ _ _ _)
  | .expr (.call _ _ _ _) | .expr (.sequence _ _) | .expr (.template _ _ _) | .expr (.yield _ _)
  | .rest _ _ | .default _ _ _ | .blank _ => .nil

theorem keyValuesUse_shows : (ps : List PatProperty) → Shows (keyValuesUse ps) (keyValuesParts ps)
  | [] => .nil
  | p :: rest => p.keyValueUse_shows.append (keyValuesUse_shows rest)

theorem PatProperty.keyValueUse_shows : (p : PatProperty) → Shows p.keyValueUse p.keyValueParts
  | .keyValue _ value => value.useTrace_shows
  | .shorthand _ _ => .nil
  | .rest _ => .nil

theorem Class.trace_shows : (cls : Class) → Shows cls.trace cls.parts
  | ⟨_, decorators, base, members⟩ =>
    ((exprsTrace_shows decorators).append (optTrace_shows base)).append (membersTrace_shows members)

theorem membersTrace_shows : (members : List ClassMember) →
    Shows (membersTrace members) (membersParts members)
  | [] => .nil
  | m :: rest => m.trace_shows.append (membersTrace_shows rest)

theorem ClassMember.trace_shows : (m : ClassMember) → Shows m.trace m.parts
  | .ctor _ params body =>
    ((Opens.start.append (ctorParamsTrace_shows params)).append (bodyTrace_shows body)).close
  | .method _ _ decorators key func => by
      have own := func.trace_shows none false
      have all := (key.trace_shows.append (exprsTrace_shows decorators)).append own
      cases key with
      | hidden span => exact own
      | _ => exact all
  | .field _ _ decorators key value => by
      have initial := optTrace_shows value
      have all := (key.trace_shows.append (exprsTrace_shows decorators)).append initial
      cases key with
      | hidden span => exact initial
      | _ => exact all
  | .accessor _ _ decorators _ value => (exprsTrace_shows decorators).append (optTrace_shows value)
  | .staticBlock _ body => (Opens.start.append (stmtsTrace_shows body)).close
  | .other _ => .nil

theorem declaratorsTrace_shows (home : Home) : (ds : List Declarator) →
    Shows (declaratorsTrace home ds) (declaratorsParts home ds)
  | [] => .nil
  | d :: rest => (d.trace_shows home).append (declaratorsTrace_shows home rest)

theorem Declarator.trace_shows (home : Home) : (d : Declarator) → Shows (d.trace home) (d.parts home)
  | ⟨span, pat, init⟩ =>
    (pat.bindTrace_shows home (some ⟨span, pat, init⟩)).append (optTrace_shows init)

theorem stmtsTrace_shows : (body : List Stmt) → Shows (stmtsTrace body) (stmtsParts body)
  | [] => .nil
  | s :: rest => ((s.shapes_shows rest).behind s.trace_shows).append (stmtsTrace_shows rest)

theorem optStmtTrace_shows : (s : Option Stmt) → Shows (optStmtTrace s) (optStmtParts s)
  | none => .nil
  | some s => s.trace_shows

theorem Stmt.trace_shows : (s : Stmt) → Shows s.trace s.parts
  | .block _ body => (Opens.start.append (stmtsTrace_shows body)).close
  | .simple _ => .nil
  | .expr _ e => e.trace_shows
  | .ret _ value => optTrace_shows value
  | .throw _ value => value.trace_shows
  | .ifElse _ test consequent alternate =>
    (test.trace_shows.append consequent.trace_shows).append (optStmtTrace_shows alternate)
  | .labeled _ body => body.trace_shows
  | .switch _ subject clauses =>
    ((subject.trace_shows.enter false none).append (stmtsTrace_shows clauses)).close
  | .clause _ test body => (optTrace_shows test).append (stmtsTrace_shows body)
  | .tryCatch _ body handler finalizer =>
    ((Opens.start.append (stmtsTrace_shows body)).close.append (optStmtTrace_shows handler)).append
      (optStmtTrace_shows finalizer)
  | .handler _ param body =>
    ((Opens.start.append (param.bindTrace_shows .block none)).append (stmtsTrace_shows body)).close
  | .whileLoop _ test body => test.trace_shows.append body.trace_shows
  | .doWhile _ body test => body.trace_shows.append test.trace_shows
  | .forLoop _ init test update body =>
    ((((Opens.start.append (optStmtTrace_shows init)).append (optTrace_shows test)).append
      (optTrace_shows update)).append body.trace_shows).close
  | .forIn _ head source body =>
    (((Opens.start.append head.trace_shows).append source.trace_shows).append body.trace_shows).close
  | .forOf _ head source body =>
    (((Opens.start.append head.trace_shows).append source.trace_shows).append body.trace_shows).close
  | .target pat => pat.useTrace_shows
  | .withObject _ owner body => owner.trace_shows.append body.trace_shows
  | .vars _ .var declarators => declaratorsTrace_shows .function declarators
  | .vars _ .letKind declarators => declaratorsTrace_shows .block declarators
  | .vars _ .const declarators => declaratorsTrace_shows .block declarators
  | .function _ func => .declare .function _ (func.trace_shows none false)
  | .classDecl _ cls => .declare .block _ cls.trace_shows
  | .typeDecl _ _ _ => .nil

end

theorem Item.trace_shows (following : List Stmt) (item : Item) :
    Shows (item.trace following) item.parts := by
  cases item with
  | stmt s => exact (s.shapes_shows following).behind s.trace_shows
  | importDecl decl =>
      simp only [Item.trace, Item.parts]
      induction decl.specifiers with
      | nil => exact .nil
      | cons s rest ih => exact .declare .file (.imported decl s) ih
  | exportDecl decl => exact (decl.shapes_shows following).behind decl.trace_shows
  | exportList specifiers =>
      simp only [Item.trace, Item.parts]
      induction specifiers.filterMap ExportSpecifier.used? with
      | nil => exact .nil
      | cons id rest ih => exact .refer id ih
  | exportClass name cls => exact (Expr.classExpr name cls).trace_shows
  | exportFunction name func => exact (Expr.function name func).trace_shows
  | exportValue value => exact value.trace_shows
  | _ => exact .nil

theorem itemsTrace_shows (items : List Item) : Shows (itemsTrace items) (itemsParts items) := by
  induction items with
  | nil => exact .nil
  | cons item rest ih => exact (item.trace_shows (rest.filterMap Item.stmt?)).append ih

/-! ### The index of a file -/

theorem Walk.follow_scoping (w : Walk) (events : List Event) :
    w.follow (events.filter Event.isScoping) = w.follow events := by
  unfold Walk.follow
  rw [List.foldl_filter]
  congr 1
  funext w event
  cases event <;> rfl

/-- The walk over a file follows the parts of the file. -/
theorem Walk.follow_itemsTrace (items : List Item) :
    Walk.start.follow (itemsTrace items) = Walk.start.follow (partsEvents (itemsParts items)) := by
  rw [← Walk.follow_scoping, itemsTrace_shows items]

/-- The index of a file holds the scopes of lexical scoping: each scope has just the declarations that
    it is home to, in the order of the text, and no declaration is lost or stored twice. An identifier
    means what the nearest scope around it declares by its name, wherever the declaration stands. -/
theorem build_lexicalScoping (items : List Item) :
    (FileIndex.build items).scopes.toList = fileScopes (itemsParts items) ∧
    ((FileIndex.build items).scopes.toList.flatMap (·.bindings)).Perm
      (partsBindings (itemsParts items)) ∧
    ∀ id : Ident, (FileIndex.build items).resolve? id =
      nearest? (surroundings (itemsParts items) id.span) id.name := by
  obtain ⟨scopes, places⟩ := Walk.follow_start (itemsParts items)
  rw [← Walk.follow_itemsTrace] at scopes places
  refine ⟨scopes, ?_, fun id => FileIndex.resolve?_eq_nearest? scopes places id⟩
  rw [show (FileIndex.build items).scopes.toList = _ from scopes]
  exact fileScopes_perm _

-- A loop inside a function: its `let` stays in the loop, the `var` of its body goes to the function, and
-- a `var` outside belongs to the file.
example :
    let vars (kind : VarKind) (name : String) : Stmt :=
      .vars default kind [⟨default, .ident default ⟨name, default⟩, none⟩]
    let loop : Stmt := .forLoop default (some (vars .letKind "i")) none none
      (.block default [vars .var "found", vars .const "here"])
    (fileScopes (itemsParts [.stmt (.function ⟨"f", default⟩ ⟨default, [], some [loop]⟩),
      .stmt (vars .var "last")])).map (·.bindings.map (·.name)) =
        [["f", "last"], ["found"], ["i"], ["here"]] := rfl

end BundleLens
