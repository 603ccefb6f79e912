/-
Module: BundleLens.Proofs.IdentifierUses
Layer: Proofs
Purpose: Which uses of identifiers the index of a file lists. A use is an identifier with the way to it
  through the pieces of syntax around it, so that two uses of one name stay apart. The walk goes into
  every piece but a few; a use on whose way none of these lies is listed exactly once, and all others
  are not listed at all.
Imports: BundleLens.Proofs.Built, Mathlib.Data.List.Nodup, Mathlib.Data.List.Perm.Basic,
  Mathlib.Tactic.Choose
Main exports: Piece, Piece.own?, Piece.parts, Piece.leavesOut, Use, Piece.Holds, Piece.Passes,
  Piece.uses_perm, references_perm_uses
-/
import BundleLens.Proofs.Built
import Mathlib.Data.List.Nodup
import Mathlib.Data.List.Perm.Basic
import Mathlib.Tactic.Choose

namespace BundleLens

/-! ### Pieces of syntax -/

/-- A piece of syntax, in the role that it has where it stands. -/
inductive Piece where
  | file (items : List Item)
  | item (item : Item)
  | exported (specifier : ExportSpecifier)
  | stmt (s : Stmt)
  | declarator (d : Declarator)
  | expr (e : Expr)
  | element (e : Element)
  | property (p : Property)
  | key (k : Key)
  | func (f : Func)
  | param (p : Param)
  | cls (c : Class)
  | member (m : ClassMember)
  | decorator (e : Expr)
  /-- A pattern that declares its names. -/
  | binding (p : Pat)
  | bindingProperty (p : PatProperty)
  /-- The left side of an assignment. -/
  | assigned (p : Pat)
  /-- A pattern that assigns to its names: the head of a loop, or a part of another such pattern. -/
  | target (p : Pat)
  | targetProperty (p : PatProperty)

/-- The identifier that a piece uses itself: it reads it as an expression or as a property of an object
    literal, it assigns to it alone or in a pattern, or it exports it from a list. -/
def Piece.own? : Piece → Option Ident
  | .expr (.ident id) => some id
  | .property (.shorthand id) => some id
  | .assigned (.ident _ id) => some id
  | .target (.ident _ id) => some id
  | .targetProperty (.shorthand id _) => some id
  | .exported specifier => specifier.used?
  | _ => none

/-- The parts of an expression. -/
def Expr.pieces : Expr → List Piece
  | .array _ elements => elements.map .element
  | .object _ properties => properties.map .property
  | .function _ func => [.func func]
  | .arrow _ params _ body => params.map .binding ++ body.map .stmt
  | .classExpr _ cls => [.cls cls]
  | .unary _ _ operand => [.expr operand]
  | .binary _ _ left right => [.expr left, .expr right]
  | .assign _ _ target value => [.assigned target, .expr value]
  | .member _ _ owner key => [.expr owner, .key key]
  | .superMember _ key => [.key key]
  | .conditional _ test consequent alternate => [.expr test, .expr consequent, .expr alternate]
  | .call _ _ callee args => .expr callee :: args.map .element
  | .sequence _ parts => parts.map .expr
  | .template _ tag parts => tag.toList.map .expr ++ parts.map .expr
  | .yield _ operand => operand.toList.map .expr
  | .paren _ inner => [.expr inner]
  | .ident _ | .string _ _ | .number _ _ | .atom _ _ => []

/-- The parts of a property of an object literal. The name of an initialized property is no use: outside
    of patterns such a property is an error. -/
def Property.pieces : Property → List Piece
  | .shorthand _ => []
  | .keyValue key value => [.key key, .expr value]
  | .initialized _ value => [.expr value]
  | .getter _ key body => .key key :: body.map .stmt
  | .setter _ key param body => .key key :: .binding param :: body.map .stmt
  | .method key func => [.key key, .func func]
  | .spread e => [.expr e]

/-- The parts of a member of a class. -/
def ClassMember.pieces : ClassMember → List Piece
  | .ctor _ params body => params.map .param ++ (body.getD []).map .stmt
  | .method _ _ decorators key func => decorators.map .decorator ++ [.key key, .func func]
  | .field _ _ decorators key value => decorators.map .decorator ++ .key key :: value.toList.map .expr
  | .accessor _ _ decorators key value =>
    decorators.map .decorator ++ .key key :: value.toList.map .expr
  | .staticBlock _ body => body.map .stmt
  | .other _ => []

/-- The parts of a pattern that declares its names. -/
def Pat.boundPieces : Pat → List Piece
  | .array _ elements => elements.map .binding
  | .object _ properties => properties.map .bindingProperty
  | .rest _ inner => [.binding inner]
  | .default _ left value => [.binding left, .expr value]
  | .expr e => [.expr e]
  | .ident _ _ | .blank _ => []

/-- The parts of a pattern that assigns to its names. -/
def Pat.targetPieces : Pat → List Piece
  | .array _ elements => elements.map .target
  | .object _ properties => properties.map .targetProperty
  | .rest _ inner => [.target inner]
  | .default _ left value => [.target left, .expr value]
  | .expr e => [.expr e]
  | .ident _ _ | .blank _ => []

/-- The parts of a statement. -/
def Stmt.pieces : Stmt → List Piece
  | .block _ body => body.map .stmt
  | .expr _ e => [.expr e]
  | .ret _ value => value.toList.map .expr
  | .throw _ value => [.expr value]
  | .ifElse _ test consequent alternate =>
    .expr test :: .stmt consequent :: alternate.toList.map .stmt
  | .labeled _ body => [.stmt body]
  | .switch _ subject clauses => .expr subject :: clauses.map .stmt
  | .clause _ test body => test.toList.map .expr ++ body.map .stmt
  | .tryCatch _ body caught finalizer =>
    body.map .stmt ++ caught.toList.map .stmt ++ finalizer.toList.map .stmt
  | .handler _ param body => .binding param :: body.map .stmt
  | .whileLoop _ test body => [.expr test, .stmt body]
  | .doWhile _ body test => [.stmt body, .expr test]
  | .forLoop _ init test update body =>
    init.toList.map .stmt ++ test.toList.map .expr ++ update.toList.map .expr ++ [.stmt body]
  | .forIn _ head source body => [.stmt head, .expr source, .stmt body]
  | .forOf _ head source body => [.stmt head, .expr source, .stmt body]
  | .target pat => [.target pat]
  | .withObject _ owner body => [.expr owner, .stmt body]
  | .vars _ _ declarators => declarators.map .declarator
  | .function _ func => [.func func]
  | .classDecl _ cls => [.cls cls]
  | .simple _ | .typeDecl _ _ _ => []

/-- The parts of an item of a file. -/
def Item.pieces : Item → List Piece
  | .stmt s => [.stmt s]
  | .exportDecl decl => [.stmt decl]
  | .exportList specifiers => specifiers.map .exported
  | .exportClass _ cls => [.cls cls]
  | .exportFunction _ func => [.func func]
  | .exportValue value => [.expr value]
  | .importDecl _ | .exportFrom _ _ | .exportAll _ | .other => []

/-- The parts of a piece, in the order of the text. -/
def Piece.parts : Piece → List Piece
  | .file items => items.map .item
  | .item i => i.pieces
  | .exported _ => []
  | .stmt s => s.pieces
  | .declarator d => .binding d.pat :: d.init.toList.map .expr
  | .expr e => e.pieces
  | .element .hole => []
  | .element (.item e) => [.expr e]
  | .element (.spread e) => [.expr e]
  | .property p => p.pieces
  | .key (.computed _ e) => [.expr e]
  | .key _ => []
  | .func f => f.params.map .param ++ (f.body.getD []).map .stmt
  | .param p => p.decorators.map .decorator ++ [.binding p.pat]
  | .cls c => c.decorators.map .decorator ++ c.base.toList.map .expr ++ c.members.map .member
  | .member m => m.pieces
  | .decorator e => [.expr e]
  | .binding p => p.boundPieces
  | .bindingProperty (.keyValue name value) => [.key name, .binding value]
  | .bindingProperty (.shorthand _ default) => default.toList.map .expr
  | .bindingProperty (.rest inner) => [.binding inner]
  | .assigned p => p.targetPieces
  | .target p => p.targetPieces
  | .targetProperty (.keyValue name value) => [.key name, .target value]
  | .targetProperty (.shorthand _ default) => default.toList.map .expr
  | .targetProperty (.rest inner) => [.target inner]

/-! ### What the walk leaves out -/

/-- Whether a piece is a property of a pattern with a key of its own. -/
def Piece.isKeyed : Piece → Bool
  | .targetProperty (.keyValue _ _) => true
  | _ => false

/-- Whether a piece is the key of a property or member. -/
def Piece.isKey : Piece → Bool
  | .key _ => true
  | _ => false

/-- Whether a piece is a decorator. -/
def Piece.isDecorator : Piece → Bool
  | .decorator _ => true
  | _ => false

/-- Whether a target is a member access that is no link of an optional chain, or in parentheses. -/
def Expr.isPlainTarget : Expr → Bool
  | .member _ false _ _ => true
  | .paren _ _ => true
  | _ => false

/-- Whether the walk over a piece leaves one of its parts out. Of an object pattern on the left of an
    assignment it takes only the properties with a key of their own, and of other left sides no member
    of `super`. It takes no key of a pattern that assigns to its names, no decorator of a private member
    of a class, and no key of an automatic accessor. -/
def Piece.leavesOut : Piece → Piece → Bool
  | .assigned (.object _ _), part => !part.isKeyed
  | .assigned (.expr e), _ => !e.isPlainTarget
  | .assigned (.rest _ _), _ => true
  | .assigned (.default _ _ _), _ => true
  | .targetProperty _, part => part.isKey
  | .member (.method _ _ _ (.hidden _) _), part => part.isDecorator
  | .member (.field _ _ _ (.hidden _) _), part => part.isDecorator
  | .member (.accessor _ _ _ _ _), part => part.isKey
  | _, _ => false

/-! ### Uses -/

/-- A use of an identifier: the identifier with the way to the piece that uses it, which is given by the
    numbers of the parts that lead there. -/
structure Use where
  path : List Nat
  id : Ident
deriving DecidableEq

/-- A use seen from a piece around it, in the part with the given number. -/
def Use.within (use : Use) (number : Nat) : Use := ⟨number :: use.path, use.id⟩

/-- The piece that a way leads to. -/
def Piece.at? : Piece → List Nat → Option Piece
  | p, [] => some p
  | p, number :: path => do (← p.parts[number]?).at? path

/-- A use is one of those in a piece: its way leads to a piece that uses the identifier itself. -/
def Piece.Holds (p : Piece) (use : Use) : Prop := (p.at? use.path).bind Piece.own? = some use.id

/-- A way passes through a part that the walk leaves out. -/
def Piece.Passes : Piece → List Nat → Prop
  | _, [] => False
  | p, number :: path =>
    ∃ part, p.parts[number]? = some part ∧ (p.leavesOut part = true ∨ part.Passes path)

theorem Piece.holds_here {p : Piece} {id : Ident} : p.Holds ⟨[], id⟩ ↔ p.own? = some id := Iff.rfl

theorem Piece.holds_within {p : Piece} {use : Use} {number : Nat} :
    p.Holds (use.within number) ↔ ∃ part, p.parts[number]? = some part ∧ part.Holds use := by
  cases found : p.parts[number]? <;> simp [Holds, Use.within, Piece.at?, found]

/-! ### The walk over a piece -/

/-- The identifiers that are used in some events. -/
def usedIn (events : List Event) : List Ident := events.filterMap Event.reference?

/-- The walk over a piece, as far as it matters to the uses in it: which statements follow, what an
    assignment stores and where names are at home is left open. -/
def Piece.trace : Piece → List Event
  | .file items => itemsTrace items
  | .item i => i.trace []
  | .exported specifier => (specifier.used?.map .refer).toList
  | .stmt s => s.trace
  | .declarator d => d.trace .block
  | .expr e => e.trace
  | .element e => e.trace
  | .property p => p.trace
  | .key k => k.trace
  | .func f => f.trace none false
  | .param p => p.ctorTrace
  | .cls c => c.trace
  | .member m => m.trace
  | .decorator e => e.trace
  | .binding p => p.bindTrace .block none
  | .bindingProperty p => p.bindTrace .block none
  | .assigned p => p.assignTrace default
  | .target p => p.useTrace
  | .targetProperty p => p.useTrace

/-- The identifiers that the walk over a piece uses. -/
def Piece.walked (p : Piece) : List Ident := usedIn p.trace

section Events

variable {events : List Event}

@[simp] theorem usedIn_nil : usedIn [] = [] := rfl

@[simp] theorem usedIn_append (first second : List Event) :
    usedIn (first ++ second) = usedIn first ++ usedIn second := List.filterMap_append

@[simp] theorem usedIn_refer (id : Ident) : usedIn (.refer id :: events) = id :: usedIn events := rfl

@[simp] theorem usedIn_declare (home : Home) (binding : Binding) :
    usedIn (.declare home binding :: events) = usedIn events := rfl

@[simp] theorem usedIn_enter (ofFunction : Bool) (func : Option Func) :
    usedIn (.enter ofFunction func :: events) = usedIn events := rfl

@[simp] theorem usedIn_leave : usedIn (.leave :: events) = usedIn events := rfl

@[simp] theorem usedIn_ownName (name : Option Ident) (binding : Ident → Binding) :
    usedIn (name.map fun id => Event.declare .block (binding id)).toList = [] := by
  cases name <;> rfl

@[simp] theorem usedIn_shapes (s : Stmt) (following : List Stmt) : usedIn (s.shapes following) = [] := by
  refine List.filterMap_eq_nil_iff.2 fun event found => ?_
  rw [Stmt.shapes, List.mem_append, List.mem_map, Option.mem_toList, Option.map_eq_some_iff] at found
  rcases found with ⟨shape, _, rfl⟩ | ⟨shape, _, rfl⟩ <;> rfl

@[simp] theorem usedIn_invoked (plain : Prop) [Decidable plain] (call : Call) :
    usedIn (if plain then invocation call else []) = [] := by
  unfold invocation
  split
  · split <;> rfl
  · rfl

end Events

section Pieces

@[simp] theorem usedIn_expr (e : Expr) : usedIn e.trace = (Piece.expr e).walked := rfl

@[simp] theorem usedIn_element (e : Element) : usedIn e.trace = (Piece.element e).walked := rfl

@[simp] theorem usedIn_property (p : Property) : usedIn p.trace = (Piece.property p).walked := rfl

@[simp] theorem usedIn_key (k : Key) : usedIn k.trace = (Piece.key k).walked := rfl

@[simp] theorem walked_hidden (span : Span) : (Piece.key (.hidden span)).walked = [] := rfl

@[simp] theorem usedIn_class (c : Class) : usedIn c.trace = (Piece.cls c).walked := rfl

@[simp] theorem usedIn_member (m : ClassMember) : usedIn m.trace = (Piece.member m).walked := rfl

@[simp] theorem usedIn_ctorParam (p : Param) : usedIn p.ctorTrace = (Piece.param p).walked := rfl

@[simp] theorem usedIn_target (p : Pat) : usedIn p.useTrace = (Piece.target p).walked := rfl

@[simp] theorem usedIn_targetProperty (p : PatProperty) :
    usedIn p.useTrace = (Piece.targetProperty p).walked := rfl

@[simp] theorem usedIn_stmt (s : Stmt) : usedIn s.trace = (Piece.stmt s).walked := rfl

@[simp] theorem walked_decorator (e : Expr) : (Piece.decorator e).walked = (Piece.expr e).walked := rfl

end Pieces

/-! ### The walk over a list -/

section Lists

/-- The identifiers that the walks over some pieces use. -/
def walkedAll (pieces : List Piece) : List Ident := pieces.flatMap Piece.walked

@[simp] theorem walkedAll_nil : walkedAll [] = [] := rfl

@[simp] theorem walkedAll_cons (p : Piece) (rest : List Piece) :
    walkedAll (p :: rest) = p.walked ++ walkedAll rest := List.flatMap_cons

@[simp] theorem walkedAll_append (first second : List Piece) :
    walkedAll (first ++ second) = walkedAll first ++ walkedAll second := List.flatMap_append

@[simp] theorem walkedAll_decorators (es : List Expr) :
    walkedAll (es.map .decorator) = walkedAll (es.map .expr) := by
  induction es with
  | nil => rfl
  | cons e rest ih => simp [ih]

/-- A walk over a list uses what the walks over its parts use. -/
theorem usedIn_list {α : Type} {f : List α → List Event} {piece : α → Piece} (nil : usedIn (f []) = [])
    (cons : ∀ a rest, usedIn (f (a :: rest)) = (piece a).walked ++ usedIn (f rest)) (list : List α) :
    usedIn (f list) = walkedAll (list.map piece) := by
  induction list with
  | nil => exact nil
  | cons a rest ih => rw [cons, ih, List.map_cons, walkedAll_cons]

@[simp] theorem usedIn_exprsTrace (es : List Expr) :
    usedIn (exprsTrace es) = walkedAll (es.map .expr) :=
  usedIn_list rfl (by simp [exprsTrace]) es

@[simp] theorem usedIn_elementsTrace (es : List Element) :
    usedIn (elementsTrace es) = walkedAll (es.map .element) :=
  usedIn_list rfl (by simp [elementsTrace]) es

@[simp] theorem usedIn_propertiesTrace (ps : List Property) :
    usedIn (propertiesTrace ps) = walkedAll (ps.map .property) :=
  usedIn_list rfl (by simp [propertiesTrace]) ps

@[simp] theorem usedIn_ctorParamsTrace (ps : List Param) :
    usedIn (ctorParamsTrace ps) = walkedAll (ps.map .param) :=
  usedIn_list rfl (by simp [ctorParamsTrace]) ps

@[simp] theorem usedIn_patsUse (ps : List Pat) : usedIn (patsUse ps) = walkedAll (ps.map .target) :=
  usedIn_list rfl (by simp [patsUse]) ps

@[simp] theorem usedIn_patPropertiesUse (ps : List PatProperty) :
    usedIn (patPropertiesUse ps) = walkedAll (ps.map .targetProperty) :=
  usedIn_list rfl (by simp [patPropertiesUse]) ps

@[simp] theorem usedIn_membersTrace (ms : List ClassMember) :
    usedIn (membersTrace ms) = walkedAll (ms.map .member) :=
  usedIn_list rfl (by simp [membersTrace]) ms

@[simp] theorem usedIn_stmtsTrace (body : List Stmt) :
    usedIn (stmtsTrace body) = walkedAll (body.map .stmt) :=
  usedIn_list rfl (by simp [stmtsTrace]) body

@[simp] theorem usedIn_bodyTrace (body : Option (List Stmt)) :
    usedIn (bodyTrace body) = walkedAll ((body.getD []).map .stmt) := by
  cases body <;> simp [bodyTrace]

@[simp] theorem usedIn_optTrace (e : Option Expr) :
    usedIn (optTrace e) = walkedAll (e.toList.map .expr) := by
  cases e <;> simp [optTrace]

@[simp] theorem usedIn_optStmtTrace (s : Option Stmt) :
    usedIn (optStmtTrace s) = walkedAll (s.toList.map .stmt) := by
  cases s <;> simp [optStmtTrace]

end Lists

/-! ### What a walk uses does not depend on the surroundings -/

mutual

@[simp] theorem Pat.usedIn_bindTrace (home : Home) (declarator : Option Declarator) : (p : Pat) →
    usedIn (p.bindTrace home declarator) = (Piece.binding p).walked
  | .ident _ _ => rfl
  | .array _ elements =>
    (usedIn_patsBind home declarator elements).trans (usedIn_patsBind .block none elements).symm
  | .object _ properties =>
    (usedIn_patPropertiesBind home declarator properties).trans
      (usedIn_patPropertiesBind .block none properties).symm
  | .rest _ inner => inner.usedIn_bindTrace home declarator
  | .default _ left value => by
    change usedIn (left.bindTrace home declarator ++ value.trace) =
      usedIn (left.bindTrace .block none ++ value.trace)
    rw [usedIn_append, usedIn_append, left.usedIn_bindTrace home declarator]
    rfl
  | .expr _ => rfl
  | .blank _ => rfl

@[simp] theorem usedIn_patsBind (home : Home) (declarator : Option Declarator) : (ps : List Pat) →
    usedIn (patsBind home declarator ps) = walkedAll (ps.map .binding)
  | [] => rfl
  | p :: rest => by
    rw [patsBind, usedIn_append, p.usedIn_bindTrace home declarator,
      usedIn_patsBind home declarator rest, List.map_cons, walkedAll_cons]

@[simp] theorem usedIn_patPropertiesBind (home : Home) (declarator : Option Declarator) :
    (ps : List PatProperty) →
    usedIn (patPropertiesBind home declarator ps) = walkedAll (ps.map .bindingProperty)
  | [] => rfl
  | p :: rest => by
    rw [patPropertiesBind, usedIn_append, p.usedIn_bindTrace home declarator,
      usedIn_patPropertiesBind home declarator rest, List.map_cons, walkedAll_cons]

@[simp] theorem PatProperty.usedIn_bindTrace (home : Home) (declarator : Option Declarator) :
    (p : PatProperty) → usedIn (p.bindTrace home declarator) = (Piece.bindingProperty p).walked
  | .keyValue key value => by
    change usedIn (key.trace ++ value.bindTrace home declarator) =
      usedIn (key.trace ++ value.bindTrace .block none)
    rw [usedIn_append, usedIn_append, value.usedIn_bindTrace home declarator]
    rfl
  | .shorthand _ _ => rfl
  | .rest inner => inner.usedIn_bindTrace home declarator

end

@[simp] theorem Param.usedIn_trace (func : Func) (expression : Bool) (index : Nat) (p : Param) :
    usedIn (p.trace func expression index) =
      (Piece.binding p.pat).walked ++ walkedAll (p.decorators.map .expr) := by
  rcases p with ⟨span, decorators, pat, promoted⟩
  cases pat
  case ident => exact usedIn_exprsTrace decorators
  all_goals simp [Param.trace]

@[simp] theorem usedIn_paramsTrace (func : Func) (expression : Bool) (index : Nat) (ps : List Param) :
    usedIn (paramsTrace func expression index ps) =
      ps.flatMap fun p => (Piece.binding p.pat).walked ++ walkedAll (p.decorators.map .expr) := by
  induction ps generalizing index with
  | nil => rfl
  | cons p rest ih => rw [paramsTrace, usedIn_append, Param.usedIn_trace, ih, List.flatMap_cons]

@[simp] theorem Func.usedIn_trace (name : Option Ident) (expression : Bool) (f : Func) :
    usedIn (f.trace name expression) = (Piece.func f).walked := by
  rcases f with ⟨span, params, body⟩
  change _ = usedIn (Func.trace none false ⟨span, params, body⟩)
  simp [Func.trace]

@[simp] theorem Pat.usedIn_assignTrace (a : Assignment) (p : Pat) :
    usedIn (p.assignTrace a) = (Piece.assigned p).walked := by
  cases p with
  | ident _ id =>
      change usedIn (.refer id :: if a.op == .plain then [.assign id a] else []) = [id]
      split <;> rfl
  | expr e =>
      cases e with
      | member _ chained => cases chained <;> rfl
      | _ => rfl
  | _ => rfl

@[simp] theorem Declarator.usedIn_trace (home : Home) (d : Declarator) :
    usedIn (d.trace home) = (Piece.declarator d).walked := by
  change _ = usedIn (d.trace .block)
  rcases d with ⟨span, pat, init⟩
  simp [Declarator.trace]

@[simp] theorem usedIn_declaratorsTrace (home : Home) (ds : List Declarator) :
    usedIn (declaratorsTrace home ds) = walkedAll (ds.map .declarator) :=
  usedIn_list rfl (by simp [declaratorsTrace]) ds

@[simp] theorem Item.usedIn_trace (following : List Stmt) (i : Item) :
    usedIn (i.trace following) = (Piece.item i).walked := by
  change _ = usedIn (i.trace [])
  cases i <;> simp [Item.trace]

@[simp] theorem usedIn_itemsTrace (items : List Item) :
    usedIn (itemsTrace items) = walkedAll (items.map .item) :=
  usedIn_list rfl (by simp [itemsTrace]) items

/-! ### One step of the walk -/

theorem Expr.walked_eq (e : Expr) :
    (Piece.expr e).walked = (Piece.expr e).own?.toList ++ walkedAll e.pieces := by
  change usedIn e.trace = _
  cases e
  all_goals simp [Expr.trace, Expr.pieces, Piece.own?]

theorem Stmt.walked_eq (s : Stmt) : (Piece.stmt s).walked = walkedAll s.pieces := by
  change usedIn s.trace = _
  cases s
  all_goals simp [Stmt.trace, Stmt.pieces]

theorem Property.walked_eq (p : Property) :
    (Piece.property p).walked = (Piece.property p).own?.toList ++ walkedAll p.pieces := by
  change usedIn p.trace = _
  cases p
  all_goals simp [Property.trace, Property.pieces, Piece.own?]

theorem Pat.walked_eq (p : Pat) : (Piece.binding p).walked = walkedAll p.boundPieces := by
  change usedIn (p.bindTrace .block none) = _
  cases p
  all_goals simp [Pat.bindTrace, Pat.boundPieces]

theorem Pat.walked_target (p : Pat) :
    (Piece.target p).walked = (Piece.target p).own?.toList ++ walkedAll p.targetPieces := by
  change usedIn p.useTrace = _
  cases p
  all_goals simp [Pat.useTrace, Pat.targetPieces, Piece.own?]

/-- The parts of a piece that the walk goes into. -/
def Piece.entered (p : Piece) : List Piece := p.parts.filter (!p.leavesOut ·)

section Entered

theorem entered_hiddenMethod (kind : MethodKind) (isStatic : Bool) (decorators : List Expr) (span : Span)
    (func : Func) :
    (Piece.member (.method kind isStatic decorators (.hidden span) func)).entered =
      [.key (.hidden span), .func func] := by
  simp [Piece.entered, Piece.parts, ClassMember.pieces, Piece.leavesOut, Piece.isDecorator,
    List.filter_map, Function.comp_def]

theorem entered_hiddenField (span place : Span) (isStatic : Bool) (decorators : List Expr)
    (value : Option Expr) :
    (Piece.member (.field span isStatic decorators (.hidden place) value)).entered =
      .key (.hidden place) :: value.toList.map .expr := by
  simp [Piece.entered, Piece.parts, ClassMember.pieces, Piece.leavesOut, Piece.isDecorator,
    List.filter_map, Function.comp_def]

theorem entered_accessor (span : Span) (isStatic : Bool) (decorators : List Expr) (key : Key)
    (value : Option Expr) :
    (Piece.member (.accessor span isStatic decorators key value)).entered =
      decorators.map .decorator ++ value.toList.map .expr := by
  simp [Piece.entered, Piece.parts, ClassMember.pieces, Piece.leavesOut, Piece.isKey,
    List.filter_map, Function.comp_def]

/-- Of an assigned object pattern the walk goes into the properties with a key of their own. -/
theorem usedIn_keyValuesUse (ps : List PatProperty) :
    usedIn (keyValuesUse ps) = walkedAll ((ps.map .targetProperty).filter Piece.isKeyed) := by
  induction ps with
  | nil => rfl
  | cons p rest ih =>
      rw [keyValuesUse, usedIn_append, ih]
      cases p with
      | keyValue => rfl
      | shorthand | rest => simp [PatProperty.keyValueUse, Piece.isKeyed]

end Entered

theorem ClassMember.walked_perm (m : ClassMember) :
    (Piece.member m).walked.Perm (walkedAll (Piece.member m).entered) := by
  change (usedIn m.trace).Perm _
  cases m with
  | ctor | staticBlock | other =>
      simp [ClassMember.trace, Piece.entered, Piece.parts, ClassMember.pieces, Piece.leavesOut]
  | accessor => simp [ClassMember.trace, entered_accessor]
  -- The walk takes the key of a method or field in front of the decorators.
  | method _ _ _ key _ =>
      cases key with
      | hidden => simp [ClassMember.trace, entered_hiddenMethod]
      | _ =>
          simpa [ClassMember.trace, Piece.entered, Piece.parts, ClassMember.pieces, Piece.leavesOut]
            using List.perm_append_comm_assoc _ _ _
  | field _ _ _ key _ =>
      cases key with
      | hidden => simp [ClassMember.trace, entered_hiddenField]
      | _ =>
          simpa [ClassMember.trace, Piece.entered, Piece.parts, ClassMember.pieces, Piece.leavesOut]
            using List.perm_append_comm_assoc _ _ _

/-- The walk over a function takes the decorators of a parameter behind it. -/
theorem params_perm (ps : List Param) :
    (ps.flatMap fun p => (Piece.binding p.pat).walked ++ walkedAll (p.decorators.map .expr)).Perm
      (walkedAll (ps.map .param)) := by
  rw [walkedAll, List.flatMap_map]
  apply List.Perm.flatMap_left
  intro p _
  have walks : (Piece.param p).walked =
      walkedAll (p.decorators.map .expr) ++ (Piece.binding p.pat).walked := by
    change usedIn p.ctorTrace = _
    rcases p with ⟨span, decorators, pat, promoted⟩
    simp [Param.ctorTrace]
  rw [walks]
  exact List.perm_append_comm

theorem Func.walked_perm (f : Func) : (Piece.func f).walked.Perm (walkedAll (Piece.func f).entered) := by
  rcases f with ⟨span, params, body⟩
  change (usedIn (Func.trace none false ⟨span, params, body⟩)).Perm _
  simpa [Func.trace, Piece.entered, Piece.parts, Piece.leavesOut]
    using (params_perm params).append_right _

theorem Pat.walked_assigned (p : Pat) :
    (Piece.assigned p).walked =
      (Piece.assigned p).own?.toList ++ walkedAll (Piece.assigned p).entered := by
  change usedIn (p.assignTrace Inhabited.default) = _
  cases p with
  | ident => rfl
  | expr e =>
      cases e with
      | member _ chained =>
          cases chained with
          | true => rfl
          | false =>
              simp [Pat.assignTrace, Piece.own?, Piece.entered, Piece.parts, Pat.targetPieces,
                Piece.leavesOut, Expr.isPlainTarget, Expr.walked_eq, Expr.pieces]
      | paren =>
          simp [Pat.assignTrace, Piece.own?, Piece.entered, Piece.parts, Pat.targetPieces,
            Piece.leavesOut, Expr.isPlainTarget, Expr.walked_eq, Expr.pieces]
      | _ => rfl
  | _ =>
      simp [Pat.assignTrace, Piece.own?, Piece.entered, Piece.parts, Pat.targetPieces, Piece.leavesOut,
        usedIn_keyValuesUse]

theorem PatProperty.walked_target (p : PatProperty) :
    (Piece.targetProperty p).walked =
      (Piece.targetProperty p).own?.toList ++ walkedAll (Piece.targetProperty p).entered := by
  change usedIn p.useTrace = _
  cases p with
  | shorthand _ value =>
      cases value <;>
        simp [PatProperty.useTrace, Piece.own?, Piece.entered, Piece.parts, Piece.leavesOut, Piece.isKey]
  | _ =>
      simp [PatProperty.useTrace, Piece.own?, Piece.entered, Piece.parts, Piece.leavesOut, Piece.isKey]

theorem usedIn_imports (decl : ImportDecl) :
    usedIn (decl.specifiers.map fun s => .declare .file (.imported decl s)) = [] := by
  induction decl.specifiers with
  | nil => rfl
  | cons s rest ih => exact ih

theorem usedIn_exportList (specifiers : List ExportSpecifier) :
    usedIn ((specifiers.filterMap ExportSpecifier.used?).map .refer) =
      walkedAll (specifiers.map .exported) := by
  induction specifiers with
  | nil => rfl
  | cons s rest ih =>
      cases used : s.used? with
      | none => simpa [used, Piece.walked, Piece.trace] using ih
      | some id => simpa [used, Piece.walked, Piece.trace] using ih

theorem Item.walked_eq (i : Item) : (Piece.item i).walked = walkedAll i.pieces := by
  change usedIn (i.trace []) = _
  cases i with
  | importDecl decl => exact usedIn_imports decl
  | exportList specifiers => exact usedIn_exportList specifiers
  | exportClass | exportFunction => simp [Item.trace, Item.pieces, Expr.walked_eq, Expr.pieces, Piece.own?]
  | _ => simp [Item.trace, Item.pieces]

/-- The walk over a piece uses what the piece uses itself and what the walks over the parts use that it
    goes into. -/
theorem Piece.walked_perm (p : Piece) : p.walked.Perm (p.own?.toList ++ walkedAll p.entered) := by
  cases p with
  | member m => exact m.walked_perm
  | func f => exact f.walked_perm
  | assigned p => rw [p.walked_assigned]
  | targetProperty p => rw [p.walked_target]
  | expr e => simp [e.walked_eq, entered, parts, leavesOut]
  | stmt s => simp [s.walked_eq, entered, parts, leavesOut, own?]
  | property p => simp [p.walked_eq, entered, parts, leavesOut]
  | binding p => simp [p.walked_eq, entered, parts, leavesOut, own?]
  | target p => simp [p.walked_target, entered, parts, leavesOut]
  | item i => simp [i.walked_eq, entered, parts, leavesOut, own?]
  | decorator e => simp [entered, parts, leavesOut, own?]
  | file items =>
    change (usedIn (itemsTrace items)).Perm _
    simp [entered, parts, leavesOut, own?]
  | exported s =>
    cases used : s.used? <;> simp [walked, trace, own?, entered, parts, used]
  | declarator d =>
    rcases d with ⟨span, pat, init⟩
    change (usedIn (Declarator.trace .block ⟨span, pat, init⟩)).Perm _
    simp [Declarator.trace, entered, parts, leavesOut, own?]
  | element e =>
    change (usedIn e.trace).Perm _
    cases e <;> simp [Element.trace, entered, parts, leavesOut, own?]
  | key k =>
    change (usedIn k.trace).Perm _
    cases k <;> simp [Key.trace, entered, parts, leavesOut, own?]
  | param p =>
    rcases p with ⟨span, decorators, pat, promoted⟩
    change (usedIn (Param.ctorTrace ⟨span, decorators, pat, promoted⟩)).Perm _
    simp [Param.ctorTrace, entered, parts, leavesOut, own?]
  | cls c =>
    rcases c with ⟨span, decorators, base, members⟩
    change (usedIn (Class.trace ⟨span, decorators, base, members⟩)).Perm _
    simp [Class.trace, entered, parts, leavesOut, own?]
  | bindingProperty p =>
    change (usedIn (p.bindTrace .block none)).Perm _
    cases p <;> simp [PatProperty.bindTrace, entered, parts, leavesOut, own?]

/-! ### Pieces get smaller -/

/-- The size of a piece. A decorator is more than its expression, which is its part. -/
noncomputable def Piece.size : Piece → Nat
  | .file items => sizeOf items
  | .item i => sizeOf i
  | .exported specifier => sizeOf specifier
  | .stmt s => sizeOf s
  | .declarator d => sizeOf d
  | .expr e => sizeOf e
  | .element e => sizeOf e
  | .property p => sizeOf p
  | .key k => sizeOf k
  | .func f => sizeOf f
  | .param p => sizeOf p
  | .cls c => sizeOf c
  | .member m => sizeOf m
  | .decorator e => sizeOf e + 1
  | .binding p => sizeOf p
  | .bindingProperty p => sizeOf p
  | .assigned p => sizeOf p
  | .target p => sizeOf p
  | .targetProperty p => sizeOf p

attribute [grind →] List.sizeOf_lt_of_mem

theorem sizeOf_getD_le {α : Type} [SizeOf α] (list : Option (List α)) :
    sizeOf (list.getD []) ≤ sizeOf list := by
  cases list <;> simp

theorem Expr.size_pieces (e : Expr) : ∀ part ∈ e.pieces, part.size < sizeOf e := by
  cases e <;> grind [Expr.pieces, Piece.size]

theorem Stmt.size_pieces (s : Stmt) : ∀ part ∈ s.pieces, part.size < sizeOf s := by
  cases s <;> grind [Stmt.pieces, Piece.size]

theorem Property.size_pieces (p : Property) : ∀ part ∈ p.pieces, part.size < sizeOf p := by
  cases p <;> grind [Property.pieces, Piece.size]

theorem ClassMember.size_pieces (m : ClassMember) : ∀ part ∈ m.pieces, part.size < sizeOf m := by
  cases m <;> grind [ClassMember.pieces, Piece.size, sizeOf_getD_le]

theorem Pat.size_boundPieces (p : Pat) : ∀ part ∈ p.boundPieces, part.size < sizeOf p := by
  cases p <;> grind [Pat.boundPieces, Piece.size]

theorem Pat.size_targetPieces (p : Pat) : ∀ part ∈ p.targetPieces, part.size < sizeOf p := by
  cases p <;> grind [Pat.targetPieces, Piece.size]

theorem Item.size_pieces (i : Item) : ∀ part ∈ i.pieces, part.size < sizeOf i := by
  cases i <;> grind [Item.pieces, Piece.size]

theorem Piece.size_parts (p : Piece) : ∀ part ∈ p.parts, part.size < p.size := by
  cases p with
  | expr e => exact e.size_pieces
  | stmt s => exact s.size_pieces
  | property p => exact p.size_pieces
  | member m => exact m.size_pieces
  | binding p => exact p.size_boundPieces
  | target p => exact p.size_targetPieces
  | assigned p => exact p.size_targetPieces
  | item i => exact i.size_pieces
  | element e => cases e <;> grind [Piece.parts, Piece.size]
  | key k => cases k <;> grind [Piece.parts, Piece.size]
  | bindingProperty p => cases p <;> grind [Piece.parts, Piece.size]
  | targetProperty p => cases p <;> grind [Piece.parts, Piece.size]
  | declarator d => cases d; grind [Piece.parts, Piece.size]
  | func f => cases f; grind [Piece.parts, Piece.size, sizeOf_getD_le]
  | param p => cases p; grind [Piece.parts, Piece.size]
  | cls c => cases c; grind [Piece.parts, Piece.size]
  | file | exported | decorator => grind [Piece.parts, Piece.size]

/-! ### The whole walk -/

/-- The list holds some uses, each once, and the identifiers of these uses are the given ones. -/
structure Accounts (uses : List Use) (isUse : Use → Prop) (ids : List Ident) : Prop where
  nodup : uses.Nodup
  complete : ∀ use, use ∈ uses ↔ isUse use
  perm : ids.Perm (uses.map Use.id)

/-- A use that the walk over a piece lists: one of those in the piece, and on the way to it nothing is
    left out. -/
def Piece.Lists (p : Piece) (use : Use) : Prop := p.Holds use ∧ ¬ p.Passes use.path

theorem Piece.lists_here {p : Piece} {id : Ident} : p.Lists ⟨[], id⟩ ↔ p.own? = some id := by
  simp [Lists, holds_here, Passes]

theorem Piece.lists_within {p : Piece} {use : Use} {number : Nat} :
    p.Lists (use.within number) ↔
      ∃ part, p.parts[number]? = some part ∧ p.leavesOut part = false ∧ part.Lists use := by
  rw [Lists, holds_within]
  change _ ∧ ¬ (∃ part, p.parts[number]? = some part ∧ _) ↔ _
  cases p.parts[number]? with
  | none => simp
  | some part => simp [Lists, and_left_comm]

theorem Use.within_injective (number : Nat) : Function.Injective (Use.within · number) := by
  rintro ⟨path, id⟩ ⟨path', id'⟩ same
  cases same
  rfl

/-- The uses in the parts of a piece, where `usesOf` gives those of each part. -/
def Piece.usesInside (usesOf : Piece → List Use) (p : Piece) : List Use :=
  p.parts.zipIdx.flatMap fun (part, number) =>
    if p.leavesOut part then [] else (usesOf part).map (·.within number)

theorem mem_usesInside {usesOf : Piece → List Use} {p : Piece} {use : Use} :
    use ∈ p.usesInside usesOf ↔ ∃ part number, p.parts[number]? = some part ∧
      p.leavesOut part = false ∧ ∃ below ∈ usesOf part, below.within number = use := by
  simp [Piece.usesInside, List.mk_mem_zipIdx_iff_getElem?]

/-- The numbers of the parts do not matter to the identifiers. -/
theorem ids_of_numbered (usesOf : Piece → List Use) (left : Piece → Bool) (parts : List Piece)
    (first : Nat) :
    ((parts.zipIdx first).flatMap fun (part, number) =>
      if left part then [] else (usesOf part).map (·.within number)).map Use.id =
        (parts.filter (!left ·)).flatMap fun part => (usesOf part).map Use.id := by
  induction parts generalizing first with
  | nil => rfl
  | cons part rest ih =>
      rw [List.zipIdx_cons, List.flatMap_cons, List.map_append, ih]
      cases out : left part <;> simp [out, Function.comp_def, Use.within]

section Inside

variable {p : Piece} {usesOf : Piece → List Use}
  (inside : ∀ part ∈ p.parts, Accounts (usesOf part) part.Lists part.walked)

include inside

theorem within_mem_usesInside (use : Use) (number : Nat) :
    use.within number ∈ p.usesInside usesOf ↔ p.Lists (use.within number) := by
  rw [mem_usesInside, Piece.lists_within]
  constructor
  · rintro ⟨part, place, found, whole, below, member, same⟩
    obtain ⟨rfl, rfl⟩ : place = number ∧ below = use := by
      cases below
      cases use
      cases same
      exact ⟨rfl, rfl⟩
    exact ⟨part, found, whole, ((inside part (List.mem_of_getElem? found)).complete below).1 member⟩
  · rintro ⟨part, found, whole, lists⟩
    exact ⟨part, number, found, whole, use,
      ((inside part (List.mem_of_getElem? found)).complete use).2 lists, rfl⟩

theorem usesInside_nodup : (p.usesInside usesOf).Nodup := by
  apply List.nodup_flatMap.2
  constructor
  · rintro ⟨part, number⟩ member
    have found := List.mk_mem_zipIdx_iff_getElem?.1 member
    dsimp only
    split
    · exact List.nodup_nil
    · exact (inside part (List.mem_of_getElem? found)).nodup.map (Use.within_injective number)
  · have numbers : (p.parts.zipIdx.map Prod.snd).Pairwise (· < ·) := by
      rw [List.zipIdx_map_snd]
      exact List.pairwise_lt_range'
    -- The uses in different parts differ in the first number of their ways.
    have begins {place : Piece × Nat} {use : Use} (member : use ∈ (if p.leavesOut place.1 then []
        else (usesOf place.1).map (·.within place.2))) : use.path.head? = some place.2 := by
      split at member
      · cases member
      · obtain ⟨below, _, rfl⟩ := List.mem_map.1 member
        rfl
    apply (List.pairwise_map.1 numbers).imp
    intro place other before use here there
    have same : some place.2 = some other.2 := (begins here).symm.trans (begins there)
    exact Nat.ne_of_lt before (Option.some.inj same)

theorem usesInside_perm : (walkedAll p.entered).Perm ((p.usesInside usesOf).map Use.id) := by
  rw [Piece.usesInside, ids_of_numbered]
  apply List.Perm.flatMap_left
  intro part member
  exact (inside part (List.mem_of_mem_filter member)).perm

end Inside

/-- The walk over a piece lists just the uses in it on whose way nothing is left out. The recursion goes
    down to the parts, which are smaller. -/
theorem Piece.accounted (p : Piece) : ∃ uses, Accounts uses p.Lists p.walked := by
  have inside : ∀ part ∈ p.parts, ∃ uses, Accounts uses part.Lists part.walked :=
    fun part member => part.accounted
  choose! usesOf inside using inside
  refine ⟨p.own?.toList.map (⟨[], ·⟩) ++ p.usesInside usesOf, ?_, ?_, ?_⟩
  · apply List.Nodup.append
    · cases p.own? <;> simp
    · exact usesInside_nodup inside
    · intro use own deeper
      obtain ⟨id, _, rfl⟩ := List.mem_map.1 own
      obtain ⟨_, _, _, _, _, _, same⟩ := mem_usesInside.1 deeper
      cases same
  · rintro ⟨path, id⟩
    cases path with
    | nil => simp [lists_here, mem_usesInside, Use.within]
    | cons number path =>
        have below := within_mem_usesInside inside ⟨path, id⟩ number
        simpa [Use.within] using below
  · rw [List.map_append]
    apply p.walked_perm.trans
    apply List.Perm.append
    · simp [Function.comp_def]
    · exact usesInside_perm inside
termination_by p.size
decreasing_by exact p.size_parts part member

/-- Every identifier that is read as an expression, assigned to or exported from a list of names is
    listed exactly once in the references of a file, unless the way to it passes through a part that the
    walk leaves out; then it is not listed at all. -/
theorem references_perm_uses (items : List Item) :
    ∃ uses : List Use, uses.Nodup ∧
      (∀ use, use ∈ uses ↔ (Piece.file items).Holds use ∧ ¬ (Piece.file items).Passes use.path) ∧
        (FileIndex.build items).references.Perm (uses.map Use.id) := by
  obtain ⟨uses, accounts⟩ := (Piece.file items).accounted
  exact ⟨uses, accounts.nodup, accounts.complete, accounts.perm⟩

/-- Five files with one use each that the walk leaves out: an outermost shorthand property of an
    assigned object pattern, the outermost rest of one, a key of one, the key of an assigned member of
    `super`, and a decorator of a private field. -/
def omittedUses : Program :=
  .ofTexts [
    ("/a.js", "(\x7b a \x7d = b);"),
    ("/b.js", "(\x7b ...a \x7d = b);"),
    ("/c.js", "(\x7b [a]: b \x7d = c);"),
    ("/d.js", "class A extends B \x7b m() \x7b super[a] = 1; \x7d \x7d"),
    ("/e.js", "class A \x7b @a #b; \x7d")]

/-- In each of these files the `a` is used, but it is not among the references. -/
theorem references_omittedUses :
    omittedUses.files.length = 5 ∧ ∀ file ∈ omittedUses.files, ∃ use : Use, use.id.name = "a" ∧
      (Piece.file file.items).Holds use ∧ use.id ∉ (FileIndex.build file.items).references := by
  have facts : omittedUses.files.length = 5 ∧ ∀ file ∈ omittedUses.files,
      ∃ path ∈ [[0, 0, 0, 0, 0, 0], [0, 0, 0, 0, 0, 0, 0], [0, 0, 0, 0, 0, 0, 0, 0],
          [0, 0, 0, 1, 1, 0, 0, 0, 0, 0, 0]],
        ∃ id ∈ ((Piece.file file.items).at? path).bind Piece.own?,
          id.name = "a" ∧ id ∉ (FileIndex.build file.items).references := by
    rw [omittedUses, Program.ofTexts_eq_ofBytes]
    decide +kernel
  refine ⟨facts.1, fun file member => ?_⟩
  obtain ⟨path, _, id, held, named, omitted⟩ := facts.2 file member
  exact ⟨⟨path, id⟩, named, held, omitted⟩

end BundleLens
