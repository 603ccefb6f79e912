/-
Module: BundleLens.Scope.Index
Layer: Scopes
Purpose: What a file declares and uses, ready for questions: its scopes with their bindings, the scope
  of every identifier, and its classes and enumerations with the nodes they can be found by. Everything
  follows from the trace of the file: scopes from the events that open and close them, all else from the
  events themselves.
Imports: BundleLens.Scope.Trace
Main exports: Scope, Arena, FileIndex, FileIndex.build, FileIndex.resolve?, FileIndex.lookup?,
  FileIndex.assignmentsTo, FileIndex.classAt?, FileIndex.aliasedClass?, FileIndex.enumAt?
-/
import BundleLens.Scope.Trace

namespace BundleLens

/-- A scope: the scope around it, the function that owns it, and what it declares, in the order of the
    text. -/
structure Scope where
  parent : Option Nat
  func : Option Func
  bindings : List Binding
deriving Inhabited

/-- The bindings of a name in a scope, if it has any. -/
def Scope.named? (scope : Scope) (name : String) : Option (List Binding) :=
  match scope.bindings.filter (·.name == name) with
  | [] => none
  | found => some found

/-! ### Scopes of a trace -/

/-- The scopes so far while a trace is followed, with the innermost scope, the innermost scope of a
    function, and what these two were outside of each open scope. -/
structure Walk where
  scopes : Array Scope
  scope : Nat
  functionScope : Nat
  outside : List (Nat × Nat)
  /-- The scope that was innermost at each identifier, last one first. -/
  places : List (Span × Nat)

namespace Walk

/-- At the start only the scope of the file is open. -/
def start : Walk := ⟨#[⟨none, none, []⟩], 0, 0, [], []⟩

/-- The scope that a declaration belongs to. -/
def home (w : Walk) : Home → Nat
  | .file => 0
  | .function => w.functionScope
  | .block => w.scope

/-- Follows one event. -/
def step (w : Walk) : Event → Walk
  | .enter ofFunction func =>
    let id := w.scopes.size
    { w with
      scopes := w.scopes.push ⟨some w.scope, func, []⟩
      scope := id
      functionScope := if ofFunction then id else w.functionScope
      outside := (w.scope, w.functionScope) :: w.outside }
  | .leave =>
    match w.outside with
    | (scope, functionScope) :: rest =>
      { w with scope := scope, functionScope := functionScope, outside := rest }
    | [] => w
  | .declare home binding =>
    { w with
      scopes := w.scopes.modify (w.home home) fun s => { s with bindings := s.bindings ++ [binding] }
      places := (binding.ident.span, w.scope) :: w.places }
  | .refer id => { w with places := (id.span, w.scope) :: w.places }
  | .assign _ _ => w
  | .invoke _ _ => w
  | .foundClass _ => w
  | .foundEnum _ => w

/-- Follows a trace. -/
def follow (w : Walk) (events : List Event) : Walk := events.foldl step w

end Walk

/-! ### Parts of a trace -/

namespace Event

/-- The identifier that an event uses. -/
def reference? : Event → Option Ident
  | .refer id => some id
  | _ => none

/-- The assignment to a name that an event is. -/
def assignment? : Event → Option (Ident × Assignment)
  | .assign id a => some (id, a)
  | _ => none

/-- The immediate call of a function that an event is. -/
def invocation? : Event → Option (Span × Call)
  | .invoke func call => some (func, call)
  | _ => none

/-- The class that an event finds. -/
def class? : Event → Option ClassShape
  | .foundClass shape => some shape
  | _ => none

/-- The enumeration that an event finds. -/
def enumeration? : Event → Option EnumShape
  | .foundEnum shape => some shape
  | _ => none

end Event

/-! ### Numbered things -/

/-- Things in the order in which they are found, with a table of the nodes that they can be found by. A
    thing's nodes lead to its number. In the table the entry made last stands first. -/
structure Arena (α : Type) where
  things : List α
  keys : List (Span × Nat)

namespace Arena

variable {α : Type}

/-- Nothing is found yet. -/
def empty : Arena α := ⟨[], []⟩

/-- Enters the nodes of a thing, one after the other, under the next number, and adds the thing. -/
def add (keysOf : α → List Span) (arena : Arena α) (thing : α) : Arena α :=
  let number := arena.things.length
  let keys := (keysOf thing).foldl (fun keys key => (key, number) :: keys) arena.keys
  ⟨arena.things ++ [thing], keys⟩

end Arena

/-! ### The index -/

/-- What a file declares and uses. In the tables of nodes the first entry for a node counts. -/
structure FileIndex where
  scopes : Array Scope
  places : List (Span × Nat)
  references : List Ident
  invocations : List (Span × Call)
  assignments : List (Ident × Assignment)
  classes : List ClassShape
  classKeys : List (Span × Nat)
  classAliases : List (Span × Nat)
  enums : List EnumShape
  enumKeys : List (Span × Nat)
deriving Inhabited

namespace FileIndex

/-- A scope and the scopes around it, innermost first. A scope has a smaller number than those in it, so
    its own number bounds the length of the way out. -/
def chain (index : FileIndex) : Nat → Nat → List Scope
  | 0, _ => []
  | fuel + 1, scope =>
    match index.scopes[scope]? with
    | some s =>
      s :: match s.parent with
        | some parent => chain index fuel parent
        | none => []
    | none => []

/-- The way out of a scope. -/
def scopesFrom (index : FileIndex) (scope : Nat) : List Scope := index.chain (scope + 1) scope

/-- The bindings of a name in the nearest scope that declares it. -/
def lookup? (index : FileIndex) (scope : Nat) (name : String) : Option (List Binding) :=
  (index.scopesFrom scope).findSome? (·.named? name)

/-- The scope that an identifier stands in. -/
def scopeOf (index : FileIndex) (id : Ident) : Nat := (index.places.lookup id.span).getD 0

/-- The bindings that an identifier refers to; none if it is free in the file. -/
def resolve? (index : FileIndex) (id : Ident) : Option (List Binding) :=
  index.lookup? (index.scopeOf id) id.name

/-- The function that owns the nearest scope with an owner. -/
def enclosingFunction? (index : FileIndex) (scope : Nat) : Option Func :=
  (index.scopesFrom scope).findSome? (·.func)

/-- The first variable among the bindings that an identifier refers to. -/
def declaratorOf? (index : FileIndex) (id : Ident) : Option Declarator := do
  (← index.resolve? id).findSome? Binding.declarator?

/-- The call that immediately calls the function at a range. -/
def invocation? (index : FileIndex) (func : Span) : Option Call := index.invocations.lookup func

/-- The assignments of plain names that mean the given variable. -/
def assignmentsTo (index : FileIndex) (d : Declarator) : List Assignment :=
  index.assignments.filterMap fun (id, a) =>
    if (index.declaratorOf? id).map (·.span) == some d.span then some a else none

/-- The class at a number. -/
def class? (index : FileIndex) (i : Nat) : Option ClassShape := index.classes[i]?

/-- The number of the class whose outer or inner node is at a range. -/
def classAt? (index : FileIndex) (span : Span) : Option Nat := index.classKeys.lookup span

/-- The number of the class that a variable is another name for. -/
def aliasedClass? (index : FileIndex) (d : Declarator) : Option Nat :=
  index.classAliases.lookup d.span

/-- The enumeration whose parameter, statement or variable is at a range. -/
def enumAt? (index : FileIndex) (span : Span) : Option EnumShape := do
  index.enums[← index.enumKeys.lookup span]?

/-! ### Building -/

/-- The nodes that a class can be found by. -/
def keysOfClass (shape : ClassShape) : List Span :=
  let inner := match shape.form with
    | .function inner _ => [inner.name.span]
    | .native _ _ => []
  [shape.declaration.span, shape.implementation.span] ++ inner

/-- The nodes that an enumeration can be found by. -/
def keysOfEnum (shape : EnumShape) : List Span := [shape.iife.param.span, shape.span]

/-- The index of a trace, before its classes and enumerations are linked to variables. -/
def unlinked (events : List Event) : FileIndex :=
  let walk := Walk.start.follow events
  let classes := (events.filterMap Event.class?).foldl (Arena.add keysOfClass) .empty
  let enums := (events.filterMap Event.enumeration?).foldl (Arena.add keysOfEnum) .empty
  { scopes := walk.scopes
    places := walk.places
    references := events.filterMap Event.reference?
    invocations := (events.filterMap Event.invocation?).reverse
    assignments := events.filterMap Event.assignment?
    classes := classes.things
    classKeys := classes.keys
    classAliases := []
    enums := enums.things
    enumKeys := enums.keys }

/-- The variables that names stand for, each with a number. -/
def variablesOf (index : FileIndex) (names : List (Ident × Nat)) : List (Span × Nat) :=
  names.filterMap fun (id, i) => (index.declaratorOf? id).map fun d => (d.span, i)

/-- The names that hold classes by assignment, with the numbers of the classes. -/
def assignedNames (index : FileIndex) : List (Ident × Nat) :=
  index.classes.zipIdx.filterMap fun (shape, i) =>
    match shape.outer with
    | .assign _ id => some (id, i)
    | _ => none

/-- The other names of classes, with the numbers of the classes. -/
def aliasNames (index : FileIndex) : List (Ident × Nat) :=
  index.classes.zipIdx.flatMap fun (shape, i) => shape.aliases.map (·, i)

/-- The names that hold enumerations, with the numbers of the enumerations. -/
def enumNames (index : FileIndex) : List (Ident × Nat) :=
  index.enums.zipIdx.filterMap fun (shape, i) => shape.iife.store.map (·, i)

/-- Links classes and enumerations to the variables that hold them. A variable that already leads to a
    class keeps it; for other names and for enumerations the last link counts. -/
def link (index : FileIndex) : FileIndex :=
  { index with
    classKeys := index.classKeys ++ index.variablesOf index.assignedNames
    classAliases := (index.variablesOf index.aliasNames).reverse
    enumKeys := (index.variablesOf index.enumNames).reverse ++ index.enumKeys }

/-- The index of the items of a file. -/
def build (items : List Item) : FileIndex := (unlinked (itemsTrace items)).link

end FileIndex
end BundleLens
