/-
Module: BundleLens.Reflection.Decorators
Layer: Reflection
Purpose: Decorators in the two forms in which compilers emit them: static properties of the class
  (`decorators`, `propDecorators`, `ctorParameters`), and calls of `__decorate`. A static property wins
  over calls.
Imports: BundleLens.Reflection.Dependency, BundleLens.Shape.Decoration, BundleLens.Shape.ClassBody
Main exports: World.decoratorArray?, staticProperty?, World.classDecorators?, MemberEntry,
  World.memberEntries, ParamInfo, ParamRecord, ParamNotes, World.paramInfo
-/
import BundleLens.Reflection.Dependency
import BundleLens.Shape.Decoration
import BundleLens.Shape.ClassBody

namespace BundleLens

/-- The name of a reference: an identifier, or the last member of a chain. -/
def referenceName (e : Expr) : String :=
  match e.ident? with
  | some id => id.name
  | none => (e.member?.bind Member.name?).getD ""

/-- The decorator that an object literal describes. -/
def World.decoratorOfObject (w : World) (o : DecoratorObject) : Decorator :=
  ⟨referenceName o.type, o.type, w.importOfExpression? o.type, o.node, o.args⟩

/-- Whether an entry of a decorating call is no decorator of the class itself. -/
def annotates (callee : Expr) : Bool :=
  callee.helperName? == some "__param" || callee.helperName? == some "__metadata"

/-- The decorator that an entry of a decorating call applies. -/
def World.decoratorOfApplication? (w : World) (e : Expr) : Option Decorator := do
  let (callee, args) ← e.decoratorApplication?
  if annotates callee then none
  else some ⟨referenceName callee, callee, w.importOfExpression? callee, e.bare, args⟩

/-- The decorators that an array of object literals describes; other elements are left out. -/
def World.decoratorArray? (w : World) (e : Expr) : Option (List Decorator) := do
  let elements ← e.elements?
  return (elements.filterMap Expr.decoratorObject?).map w.decoratorOfObject

/-- The value that is first assigned to a static property of a class. -/
def staticProperty? (shape : ClassShape) (property : String) : Option Expr :=
  shape.statements.findSome? fun s => do
    let a ← s.staticAssignment? shape.names
    if !a.onPrototype && a.property == property then some a.value else none

/-! ### Classes -/

/-- The decorating calls of a class, in the order of the text. -/
def classDecorations (shape : ClassShape) : List DecorateCall :=
  shape.statements.filterMap (·.classDecorate? shape.names)

/-- The decorators of a class. A class that nothing decorates has none. -/
def World.classDecorators? (w : World) (shape : ClassShape) : Option (List Decorator) :=
  match staticProperty? shape "decorators" with
  | some value => w.decoratorArray? value
  | none =>
    match classDecorations shape with
    | [] => none
    | calls => some (calls.flatMap (·.decorators.filterMap w.decoratorOfApplication?))

/-! ### Members -/

/-- The decorators of the members with one name. -/
structure MemberEntry where
  name : String
  /-- The side that the members are on, if it is known. -/
  side : Option Bool
  decorators : List Decorator
  origin : MemberOrigin
  span : Span

/-- The entry that a property of `propDecorators` makes. -/
def World.propertyEntry? (w : World) : String × PropertyValue → Option MemberEntry
  | (name, .value key expr) => do
    return ⟨name, none, ← w.decoratorArray? expr, .propDecorators,
      (PropertyValue.value key expr).span⟩
  | _ => none

/-- The entry that a statement makes by a decorating call. -/
def World.calledEntry? (w : World) (shape : ClassShape) (s : Stmt) : Option MemberEntry := do
  let (decorate, isStatic) ← s.memberDecorate? shape.names
  let decorators := decorate.decorators.filterMap w.decoratorOfApplication?
  return ⟨← decorate.member, some isStatic, decorators, .decorateCall, decorate.call.span⟩

/-- Adds an entry; decorators of a member that has an entry already go behind those it has. -/
def addEntry (entry : MemberEntry) : List MemberEntry → List MemberEntry
  | [] => [entry]
  | e :: rest =>
    if e.name == entry.name && e.side == entry.side then
      { e with decorators := e.decorators ++ entry.decorators } :: rest
    else e :: addEntry entry rest

/-- The decorators of the members of a class. -/
def World.memberEntries (w : World) (shape : ClassShape) : List MemberEntry :=
  match staticProperty? shape "propDecorators" with
  | some value =>
    match value.bare with
    | .object _ properties => (namedProperties properties).filterMap w.propertyEntry?
    | _ => []
  | none =>
    (shape.statements.filterMap (w.calledEntry? shape)).foldl (fun acc e => addEntry e acc) []

/-! ### Constructor parameters -/

/-- What is recorded about a constructor parameter. -/
structure ParamInfo where
  type : Option Expr
  decorators : Option (List Decorator)

/-- Nothing is recorded. -/
def ParamInfo.blank : ParamInfo := ⟨none, none⟩

/-- Adds a decorator behind those recorded. -/
def ParamInfo.addDecorator (info : ParamInfo) (d : Decorator) : ParamInfo :=
  { info with decorators := some (info.decorators.getD [] ++ [d]) }

/-- What an element of `ctorParameters` records. -/
def World.paramInfoOf (w : World) (e : Expr) : ParamInfo :=
  match e.bare with
  | .object _ properties =>
    { type := (propertyValue? properties "type").map Expr.bare
      decorators := (propertyValue? properties "decorators").bind w.decoratorArray? }
  | _ => .blank

/-- What an entry of a decorating call records about parameters. -/
inductive ParamRecord where
  /-- `__param(index, decorator)` -/
  | decorator (index : Nat) (decorator : Option Decorator)
  /-- `__metadata("design:paramtypes", [...])` -/
  | types (types : List Expr)

/-- The record that an entry of a decorating call makes. -/
def World.paramRecord? (w : World) (e : Expr) : Option ParamRecord :=
  match e.paramDecorator? with
  | some (index, applied) => some (.decorator index (w.decoratorOfApplication? applied))
  | none => do
    let (key, value) ← e.metadata?
    if key == "design:paramtypes" then return .types ((← value.elements?).map Expr.bare) else none

/-- Gives the first parameters the types of a list. -/
def setTypes : List ParamInfo → List Expr → List ParamInfo
  | info :: rest, type :: types => { info with type := some type } :: setTypes rest types
  | infos, _ => infos

/-- A list with at least as many parameters as given. Nothing is recorded about new ones. -/
def growTo (count : Nat) (infos : List ParamInfo) : List ParamInfo :=
  infos ++ List.replicate (count - infos.length) .blank

/-- What the entries read so far record: about parameters up to the last that was recorded, and whether
    any of them was about parameters at all. -/
structure ParamNotes where
  infos : List ParamInfo
  found : Bool

/-- Nothing is read yet. -/
def ParamNotes.start : ParamNotes := ⟨[], false⟩

/-- Notes a record. A decorator for a position that is not one of the constructor's parameters is
    dropped. Types are noted for as many parameters as there are types, whether or not the constructor
    has them. -/
def ParamNotes.note (arity : Nat) (notes : ParamNotes) : ParamRecord → ParamNotes
  | .decorator index applied =>
    if index ≥ arity then ⟨notes.infos, true⟩
    else
      let infos := growTo (index + 1) notes.infos
      match applied with
      | some d => ⟨infos.modify index (·.addDecorator d), true⟩
      | none => ⟨infos, true⟩
  | .types types => ⟨setTypes (growTo types.length notes.infos) types, true⟩

/-- What `ctorParameters` records: an array, or a function that only returns one. -/
def metadataElements? (value : Expr) : Option (List Expr) :=
  match value.elements? with
  | some elements => some elements
  | none => do (← (← value.functionLike?).returned?).elements?

/-- What is recorded about the parameters of a constructor with the given number of them, if anything
    is. Metadata of another form records nothing and is worth a warning. -/
def World.paramInfo (w : World) (shape : ClassShape) (arity : Nat) :
    Option (List ParamInfo) × Option Warning :=
  match staticProperty? shape "ctorParameters" with
  | some value =>
    match metadataElements? value with
    | some elements => (some (elements.map w.paramInfoOf), none)
    | none => (none, some ⟨shape.name, w.text value.span⟩)
  | none =>
    let records := (classDecorations shape).flatMap (·.decorators.filterMap w.paramRecord?)
    let notes := records.foldl (ParamNotes.note arity) .start
    (if notes.found then some notes.infos else none, none)

end BundleLens
