/-
Module: BundleLens.Reflection.Members
Layer: Reflection
Purpose: The members of a class: those of a class body, those that statements assign or define, and
  properties that are only known by their decorators.
Imports: BundleLens.Reflection.Decorators
Main exports: ClassMember.info?, stmtMembers, attachDecorators, World.membersOf
-/
import BundleLens.Reflection.Decorators

namespace BundleLens

/-- The member that a member of a class body is. Members without a plain name are left out. -/
def ClassMember.info? (m : ClassMember) : Option MemberInfo :=
  match m with
  | .ctor span _ _ => some ⟨"constructor", .ctor, false, none, .classMember, span, none, none⟩
  | .method kind isStatic _ key func => do
    let kind := match kind with
      | .method => MemberKind.method
      | .getter => MemberKind.getter
      | .setter => MemberKind.setter
    return ⟨← key.name?, kind, isStatic, none, .classMember, func.span, none, some func⟩
  | .field span isStatic _ key value => do
    return ⟨← key.name?, .property, isStatic, none, .classMember, span, value, none⟩
  | .accessor span isStatic _ key value => do
    return ⟨← key.name?, .accessor, isStatic, none, .classMember, span, value, none⟩
  | .staticBlock _ _ => none
  | .other _ => none

/-- The member that an assignment to a class or its prototype makes. -/
def StaticAssignment.info (a : StaticAssignment) : MemberInfo :=
  let base : MemberInfo :=
    ⟨a.property, .property, !a.onPrototype, none, .assign, a.assign.span, some a.value, none⟩
  match a.value.functionLike? with
  | some (.function func) => { base with kind := .method, value := none, implementation := some func }
  | some (.arrow _ _ _ _) => { base with kind := .method }
  | none => base

/-- The members that an accessor makes: one for reading, one for writing. -/
def PropertyAccessor.infos (a : PropertyAccessor) : List MemberInfo :=
  let member := fun kind func =>
    (⟨a.name, kind, a.isStatic, none, .defineProperty, a.call.span, none, some func⟩ : MemberInfo)
  (a.getter.map (member .getter)).toList ++ (a.setter.map (member .setter)).toList

/-- The static properties that hold decorators and are no members. -/
def decoratorProperties : List String := ["decorators", "propDecorators", "ctorParameters"]

/-- Whether an assignment makes a member. What is assigned to the prototype of a class with a body is no
    part of the class. -/
def StaticAssignment.isMember (a : StaticAssignment) (native : Bool) : Bool :=
  if a.onPrototype then !native else !decoratorProperties.contains a.property

/-- The members that a statement makes. -/
def stmtMembers (names : List String) (native : Bool) (s : Stmt) : List MemberInfo :=
  match s.staticAssignment? names with
  | some a => if a.isMember native then [a.info] else []
  | none => ((s.propertyAccessor? names).map PropertyAccessor.infos).getD []

/-- Whether an entry describes a member. -/
def MemberEntry.describes (entry : MemberEntry) (m : MemberInfo) : Bool :=
  entry.name == m.name && (entry.side.map (· == m.isStatic)).getD true

/-- The first entry that describes a member, and the other entries. -/
def takeEntry (m : MemberInfo) : List MemberEntry → Option (MemberEntry × List MemberEntry)
  | [] => none
  | entry :: rest =>
    if entry.describes m then some (entry, rest)
    else (takeEntry m rest).map fun (found, others) => (found, entry :: others)

/-- The property that only its decorators are known of. -/
def MemberEntry.toProperty (entry : MemberEntry) : MemberInfo :=
  ⟨entry.name, .property, entry.side.getD false, some entry.decorators, entry.origin, entry.span, none,
    none⟩

/-- Gives each entry of decorators to the first member that it describes. Constructors get none; entries
    that are left over are properties of their own. -/
def attachDecorators : List MemberInfo → List MemberEntry → List MemberInfo
  | [], entries => entries.map MemberEntry.toProperty
  | m :: rest, entries =>
    if m.kind == .ctor then m :: attachDecorators rest entries
    else
      match takeEntry m entries with
      | some (entry, others) =>
        { m with decorators := some entry.decorators } :: attachDecorators rest others
      | none => m :: attachDecorators rest entries

/-- The class syntax of a class. -/
def ClassShape.native? (shape : ClassShape) : Option Class :=
  match shape.form with
  | .native cls _ => some cls
  | .function _ _ => none

/-- The members of a class. -/
def World.membersOf (w : World) (shape : ClassShape) : List MemberInfo :=
  let own := (shape.native?.map (·.members.filterMap ClassMember.info?)).getD []
  let made := shape.statements.flatMap (stmtMembers shape.names shape.native?.isSome)
  attachDecorators (own ++ made) (w.memberEntries shape)

end BundleLens
