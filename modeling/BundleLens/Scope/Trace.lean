/-
Module: BundleLens.Scope.Trace
Layer: Scopes
Purpose: One walk over a file that lists, in the order of the text, what matters to scoping: scopes that
  open and close, names that are declared, names that are used, and classes and enumerations that are
  found. A declaration says only what kind of scope is its home; which scope that is follows from the
  scopes that are open.
Imports: BundleLens.Scope.Binding
Main exports: Home, Event, Expr.trace, Stmt.trace, stmtsTrace, itemsTrace
-/
import BundleLens.Scope.Binding

namespace BundleLens

/-- The scope that a declaration belongs to: the file's, the innermost one of a function, or the
    innermost one of any kind. -/
inductive Home where
  | file
  | function
  | block
deriving DecidableEq, Repr, Inhabited

/-- A step of the walk. -/
inductive Event where
  /-- A scope opens; a scope of a function also takes the variables of the blocks inside it. -/
  | enter (ofFunction : Bool) (func : Option Func)
  | leave
  | declare (home : Home) (binding : Binding)
  | refer (id : Ident)
  /-- A plain assignment to a name. -/
  | assign (id : Ident) (assign : Assignment)
  /-- A function expression is called where it is written. -/
  | invoke (func : Span) (call : Call)
  | foundClass (shape : ClassShape)
  | foundEnum (shape : EnumShape)

/-- The classes and the enumeration that a statement holds, in front of the given statements. -/
def Stmt.shapes (s : Stmt) (following : List Stmt) : List Event :=
  (s.classes following).map .foundClass ++ (s.enumeration?.map Event.foundEnum).toList

/-- The home of the variables of a declaration. -/
def VarKind.home : VarKind → Home
  | .var => .function
  | .letKind => .block
  | .const => .block

/-- The binding of a name in a pattern. The whole pattern of a variable is the variable itself. -/
def patBinding (declarator : Option Declarator) (span : Span) (id : Ident) : Binding :=
  match declarator with
  | some d => if d.pat.span == span then .variable d id else .destructured d id
  | none => .pattern id

/-- The binding of a shorthand property of a pattern. -/
def shorthandBinding (declarator : Option Declarator) (id : Ident) : Binding :=
  match declarator with
  | some d => .destructured d id
  | none => .pattern id

/-- The event of a call whose callee is a function expression. -/
def invocation (call : Call) : List Event :=
  match call.function? with
  | some (.function _ func) => [.invoke func.span call]
  | _ => []

mutual

/-- The walk over an expression. -/
def Expr.trace : Expr → List Event
  | .ident id => [.refer id]
  | .array _ elements => elementsTrace elements
  | .object _ properties => propertiesTrace properties
  | .function name func => func.trace name true
  | .arrow _ params _ body =>
    [.enter true none] ++ patsBind .block none params ++ stmtsTrace body ++ [.leave]
  | .classExpr name cls =>
    [.enter false none] ++ (name.map fun id => .declare .block (.className ⟨name, cls⟩ id)).toList ++
      cls.trace ++ [.leave]
  | .unary _ _ operand => operand.trace
  | .binary _ _ left right => left.trace ++ right.trace
  | .assign span op target value => target.assignTrace ⟨span, op, target, value⟩ ++ value.trace
  | .member _ _ owner key => owner.trace ++ key.trace
  | .superMember _ key => key.trace
  | .conditional _ test consequent alternate => test.trace ++ consequent.trace ++ alternate.trace
  | .call span kind callee args =>
    (if kind == .plain then invocation ⟨span, callee, args⟩ else []) ++ callee.trace ++
      elementsTrace args
  | .sequence _ parts => exprsTrace parts
  | .template _ tag parts => optTrace tag ++ exprsTrace parts
  | .yield _ operand => optTrace operand
  | .paren _ inner => inner.trace
  | .string _ _ => []
  | .number _ _ => []
  | .atom _ _ => []

/-- The walk over an expression that may be missing. -/
def optTrace : Option Expr → List Event
  | none => []
  | some e => e.trace

/-- The walk over expressions. -/
def exprsTrace : List Expr → List Event
  | [] => []
  | e :: rest => e.trace ++ exprsTrace rest

/-- The walk over array elements or arguments. -/
def elementsTrace : List Element → List Event
  | [] => []
  | e :: rest => e.trace ++ elementsTrace rest

/-- The walk over an array element or argument. -/
def Element.trace : Element → List Event
  | .hole => []
  | .item e => e.trace
  | .spread e => e.trace

/-- The walk over a property name: only a computed one holds an expression. -/
def Key.trace : Key → List Event
  | .computed _ e => e.trace
  | .ident _ => []
  | .string _ _ => []
  | .number _ _ => []
  | .bigint _ => []
  | .hidden _ => []

/-- The walk over the properties of an object literal. -/
def propertiesTrace : List Property → List Event
  | [] => []
  | p :: rest => p.trace ++ propertiesTrace rest

/-- The walk over a property of an object literal. Getters and setters have scopes of functions that no
    function owns. -/
def Property.trace : Property → List Event
  | .shorthand id => [.refer id]
  | .keyValue key value => key.trace ++ value.trace
  | .initialized _ value => value.trace
  | .getter _ key body => key.trace ++ [.enter true none] ++ stmtsTrace body ++ [.leave]
  | .setter _ key param body =>
    key.trace ++ [.enter true none] ++ param.bindTrace .block none ++ stmtsTrace body ++ [.leave]
  | .method key func => key.trace ++ func.trace none false
  | .spread e => e.trace

/-- The walk over a function: its scope holds its own name, if it is an expression, its parameters and
    its variables. -/
def Func.trace (name : Option Ident) (expression : Bool) : Func → List Event
  | ⟨span, params, body⟩ =>
    let func : Func := ⟨span, params, body⟩
    [.enter true (some func)] ++
      (name.map fun id => .declare .block (.functionName ⟨name, func⟩ id)).toList ++
      paramsTrace func expression 0 params ++ bodyTrace body ++ [.leave]

/-- The walk over a body that may be missing. -/
def bodyTrace : Option (List Stmt) → List Event
  | none => []
  | some body => stmtsTrace body

/-- The walk over the parameters of a function, with the position of the first. Decorators come behind
    the parameter they belong to. -/
def paramsTrace (func : Func) (expression : Bool) (index : Nat) : List Param → List Event
  | [] => []
  | p :: rest => p.trace func expression index ++ paramsTrace func expression (index + 1) rest

/-- The walk over a parameter of a function. -/
def Param.trace (func : Func) (expression : Bool) (index : Nat) : Param → List Event
  | ⟨span, decorators, .ident patSpan id, promoted⟩ =>
    let param : Param := ⟨span, decorators, .ident patSpan id, promoted⟩
    .declare .block (.param func index param id expression) :: exprsTrace decorators
  | ⟨_, decorators, pat, _⟩ => pat.bindTrace .block none ++ exprsTrace decorators

/-- The walk over the parameters of a constructor. Decorators come in front of the parameter they belong
    to. -/
def ctorParamsTrace : List Param → List Event
  | [] => []
  | p :: rest => p.ctorTrace ++ ctorParamsTrace rest

/-- The walk over a parameter of a constructor. -/
def Param.ctorTrace : Param → List Event
  | ⟨_, decorators, pat, _⟩ => exprsTrace decorators ++ pat.bindTrace .block none

/-- The walk over a pattern that declares its names in a home. -/
def Pat.bindTrace (home : Home) (declarator : Option Declarator) : Pat → List Event
  | .ident span id => [.declare home (patBinding declarator span id)]
  | .array _ elements => patsBind home declarator elements
  | .object _ properties => patPropertiesBind home declarator properties
  | .rest _ inner => inner.bindTrace home declarator
  | .default _ left value => left.bindTrace home declarator ++ value.trace
  | .expr e => e.trace
  | .blank _ => []

/-- The walk over patterns that declare their names. -/
def patsBind (home : Home) (declarator : Option Declarator) : List Pat → List Event
  | [] => []
  | p :: rest => p.bindTrace home declarator ++ patsBind home declarator rest

/-- The walk over the properties of a pattern that declares its names. -/
def patPropertiesBind (home : Home) (declarator : Option Declarator) :
    List PatProperty → List Event
  | [] => []
  | p :: rest => p.bindTrace home declarator ++ patPropertiesBind home declarator rest

/-- The walk over a property of a pattern that declares its names. -/
def PatProperty.bindTrace (home : Home) (declarator : Option Declarator) :
    PatProperty → List Event
  | .keyValue key value => key.trace ++ value.bindTrace home declarator
  | .shorthand id default =>
    .declare home (shorthandBinding declarator id) :: optTrace default
  | .rest inner => inner.bindTrace home declarator

/-- The walk over a pattern that uses its names, because it assigns to them. Computed keys are not
    looked into. -/
def Pat.useTrace : Pat → List Event
  | .ident _ id => [.refer id]
  | .array _ elements => patsUse elements
  | .object _ properties => patPropertiesUse properties
  | .rest _ inner => inner.useTrace
  | .default _ left value => left.useTrace ++ value.trace
  | .expr e => e.trace
  | .blank _ => []

/-- The walk over patterns that use their names. -/
def patsUse : List Pat → List Event
  | [] => []
  | p :: rest => p.useTrace ++ patsUse rest

/-- The walk over the properties of a pattern that uses its names. -/
def patPropertiesUse : List PatProperty → List Event
  | [] => []
  | p :: rest => p.useTrace ++ patPropertiesUse rest

/-- The walk over a property of a pattern that uses its names. -/
def PatProperty.useTrace : PatProperty → List Event
  | .keyValue _ value => value.useTrace
  | .shorthand id default => .refer id :: optTrace default
  | .rest inner => inner.useTrace

/-- The walk over the target of an assignment. Of an object pattern only the properties with a key of
    their own are looked into. -/
def Pat.assignTrace (assign : Assignment) : Pat → List Event
  | .ident _ id => .refer id :: (if assign.op == .plain then [.assign id assign] else [])
  | .expr (.member _ false owner key) => owner.trace ++ key.trace
  | .expr (.paren _ inner) => inner.trace
  | .expr _ => []
  | .array _ elements => patsUse elements
  | .object _ properties => keyValuesUse properties
  | .rest _ _ => []
  | .default _ _ _ => []
  | .blank _ => []

/-- The walk over the properties of an assigned object pattern that have a key of their own. -/
def keyValuesUse : List PatProperty → List Event
  | [] => []
  | p :: rest => p.keyValueUse ++ keyValuesUse rest

/-- The walk over the value of a property with a key of its own. -/
def PatProperty.keyValueUse : PatProperty → List Event
  | .keyValue _ value => value.useTrace
  | .shorthand _ _ => []
  | .rest _ => []

/-- The walk over a class. -/
def Class.trace : Class → List Event
  | ⟨_, decorators, base, members⟩ =>
    exprsTrace decorators ++ optTrace base ++ membersTrace members

/-- The walk over the members of a class. -/
def membersTrace : List ClassMember → List Event
  | [] => []
  | m :: rest => m.trace ++ membersTrace rest

/-- The walk over a member of a class. Of a private member only its function or value is looked into. -/
def ClassMember.trace : ClassMember → List Event
  | .ctor _ params body =>
    [.enter true none] ++ ctorParamsTrace params ++ bodyTrace body ++ [.leave]
  | .method _ _ _ (.hidden _) func => func.trace none false
  | .method _ _ decorators key func => key.trace ++ exprsTrace decorators ++ func.trace none false
  | .field _ _ _ (.hidden _) value => optTrace value
  | .field _ _ decorators key value => key.trace ++ exprsTrace decorators ++ optTrace value
  | .accessor _ _ decorators _ value => exprsTrace decorators ++ optTrace value
  | .staticBlock _ body => [.enter false none] ++ stmtsTrace body ++ [.leave]
  | .other _ => []

/-- The walk over the variables of a declaration. -/
def declaratorsTrace (home : Home) : List Declarator → List Event
  | [] => []
  | d :: rest => d.trace home ++ declaratorsTrace home rest

/-- The walk over a variable: its names, then its initial value. -/
def Declarator.trace (home : Home) : Declarator → List Event
  | ⟨span, pat, init⟩ => pat.bindTrace home (some ⟨span, pat, init⟩) ++ optTrace init

/-- The walk over a list of statements, where classes and enumerations are looked for. -/
def stmtsTrace : List Stmt → List Event
  | [] => []
  | s :: rest => s.shapes rest ++ s.trace ++ stmtsTrace rest

/-- The walk over a statement that may be missing. -/
def optStmtTrace : Option Stmt → List Event
  | none => []
  | some s => s.trace

/-- The walk over a statement. -/
def Stmt.trace : Stmt → List Event
  | .block _ body => [.enter false none] ++ stmtsTrace body ++ [.leave]
  | .simple _ => []
  | .expr _ e => e.trace
  | .ret _ value => optTrace value
  | .throw _ value => value.trace
  | .ifElse _ test consequent alternate => test.trace ++ consequent.trace ++ optStmtTrace alternate
  | .labeled _ body => body.trace
  | .switch _ subject clauses =>
    subject.trace ++ [.enter false none] ++ stmtsTrace clauses ++ [.leave]
  | .clause _ test body => optTrace test ++ stmtsTrace body
  | .tryCatch _ body handler finalizer =>
    [.enter false none] ++ stmtsTrace body ++ [.leave] ++ optStmtTrace handler ++
      optStmtTrace finalizer
  | .handler _ param body =>
    [.enter false none] ++ param.bindTrace .block none ++ stmtsTrace body ++ [.leave]
  | .whileLoop _ test body => test.trace ++ body.trace
  | .doWhile _ body test => body.trace ++ test.trace
  | .forLoop _ init test update body =>
    [.enter false none] ++ optStmtTrace init ++ optTrace test ++ optTrace update ++ body.trace ++
      [.leave]
  | .forIn _ head source body =>
    [.enter false none] ++ head.trace ++ source.trace ++ body.trace ++ [.leave]
  | .forOf _ head source body =>
    [.enter false none] ++ head.trace ++ source.trace ++ body.trace ++ [.leave]
  | .target pat => pat.useTrace
  | .withObject _ owner body => owner.trace ++ body.trace
  | .vars _ kind declarators => declaratorsTrace kind.home declarators
  | .function name func =>
    .declare .function (.function ⟨name, func⟩) :: func.trace none false
  | .classDecl name cls => .declare .block (.classDecl ⟨name, cls⟩) :: cls.trace
  | .typeDecl _ _ _ => []

end

/-- The identifier that an entry of an export list uses. -/
def ExportSpecifier.used? : ExportSpecifier → Option Ident
  | .named (.ident id) _ => some id
  | _ => none

/-- The walk over an item of a file, in front of the given statements. -/
def Item.trace (following : List Stmt) : Item → List Event
  | .stmt s => s.shapes following ++ s.trace
  | .importDecl decl => decl.specifiers.map fun s => .declare .file (.imported decl s)
  | .exportDecl decl => decl.shapes following ++ decl.trace
  | .exportList specifiers => (specifiers.filterMap ExportSpecifier.used?).map .refer
  | .exportClass name cls => (Expr.classExpr name cls).trace
  | .exportFunction name func => (Expr.function name func).trace
  | .exportValue value => value.trace
  | .exportFrom _ _ => []
  | .exportAll _ => []
  | .other => []

/-- The walk over the items of a file. -/
def itemsTrace : List Item → List Event
  | [] => []
  | item :: rest => item.trace (rest.filterMap Item.stmt?) ++ itemsTrace rest

end BundleLens
