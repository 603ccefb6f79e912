/-
Module: BundleLens.Proofs.EnumEmission
Layer: Proofs
Purpose: What compilers write for an enumeration is recognized as what they meant: the members with
  their initializers in the order of the text, and the variable and the exported name that hold them. A
  function whose body does anything else is no enumeration.
Imports: BundleLens.Proofs.Draft, BundleLens.Shape.Construction, BundleLens.Shape.Enumeration
Main exports: WrittenMember, EnumStore, Draft.enumeration, Enumeration, Enumeration.enumIife?_write
-/
import BundleLens.Proofs.Draft
import BundleLens.Shape.Construction
import BundleLens.Shape.Enumeration

namespace BundleLens

/-- How a member of an enumeration is written. -/
inductive MemberForm where
  /-- `E[E["n"] = value] = "n";` -/
  | reversed
  /-- `E["n"] = value;` -/
  | quoted
  /-- `E.n = value;` -/
  | dotted

/-- A member of an enumeration as it is written. -/
structure WrittenMember where
  name : String
  initializer : Expr
  form : MemberForm

/-- Where the object of an enumeration is kept. -/
inductive EnumStore where
  /-- `L || (L = {})` -/
  | named (name : String)
  /-- `exports.N || (exports.N = {})` -/
  | exported (name : String)
  /-- `L = exports.N || (exports.N = {})` -/
  | both (name field : String)

namespace EnumStore

open Draft

/-- The variable that a store names. -/
def localName? : EnumStore → Option String
  | .named name => some name
  | .exported _ => none
  | .both name _ => some name

/-- The exported name that a store names. -/
def exportedName? : EnumStore → Option String
  | .named _ => none
  | .exported name => some name
  | .both _ name => some name

/-- `exports.N || (exports.N = {})` -/
def exportedObject (name : String) : Draft Expr :=
  binary (member (ident "exports") name) .or
    (paren (assignMember (ident "exports") name (object [])))

/-- The argument that the function of an enumeration is called with. -/
def argument : EnumStore → Draft Expr
  | .named name => binary (ident name) .or (paren (Draft.assign name (object [])))
  | .exported name => exportedObject name
  | .both name field => Draft.assign name (exportedObject field)

end EnumStore

/-- The member that is recognized in a written one. -/
def WrittenMember.meant (m : WrittenMember) : EnumMember := ⟨m.name, m.initializer.bare⟩

/-- The statement that gives a member to the enumeration in the given parameter. -/
def WrittenMember.statement (m : WrittenMember) (param : String) : Draft Stmt :=
  let owner := Draft.ident param
  let value := Draft.given m.initializer
  let key := Draft.string m.name
  .statement <|
    match m.form with
    | .reversed => .assignKeyed owner (.assignKeyed owner key value) key
    | .quoted => .assignKeyed owner key value
    | .dotted => .assignMember owner m.name value

/-- `(function (param) { body })(argument);` -/
def Draft.enumeration (param : String) (body : List (Draft Stmt)) (argument : Draft Expr) : Draft Stmt :=
  .statement (call (parens 1 (ofFunc (funcOf [fun place => ⟨param, place []⟩] body))) [argument])

/-- An enumeration as a compiler writes it. -/
structure Enumeration where
  param : String
  members : List WrittenMember
  store : EnumStore

/-- The statement of an enumeration. -/
def Enumeration.write (e : Enumeration) : Draft Stmt :=
  .enumeration e.param (e.members.map (·.statement e.param)) e.store.argument

namespace Enumeration

variable (param : String) (place : List Nat → Span)

/-! ### Members -/

theorem isNamed_ident : (Draft.ident param place).isNamed param = true := by
  simp [Draft.ident, Expr.isNamed, Expr.ident?, Expr.bare]

theorem enumMember?_statement (m : WrittenMember) :
    (m.statement param place).enumMember? param = some m.meant := by
  obtain ⟨name, initializer, form⟩ := m
  cases form <;>
    simp [WrittenMember.statement, WrittenMember.meant, Draft.statement, Draft.assignKeyed,
      Draft.assignMember, Draft.keyed, Draft.member, Draft.part, Draft.string, Draft.given,
      Stmt.enumMember?, Stmt.expr?, Expr.bare, Expr.assignment?, Pat.member?, Expr.string?, Member.name?,
      isNamed_ident]

theorem mapM_enumMember?_statements (members : List WrittenMember) (number : Nat) :
    (Draft.list number (members.map (·.statement param)) place).mapM (·.enumMember? param) =
      some (members.map WrittenMember.meant) := by
  induction members generalizing number with
  | nil => rfl
  | cons m rest ih =>
      have first : (Draft.part number (m.statement param) place).enumMember? param = some m.meant :=
        enumMember?_statement param _ m
      rw [List.map_cons, Draft.list_cons, List.mapM_cons, first, ih]
      rfl

/-- Only an assignment to a member of the parameter gives a member. -/
theorem assignsMemberOf_of_enumMember? {s : Stmt} {m : EnumMember} (given : s.enumMember? param = some m) :
    s.assignsMemberOf param = true := by
  obtain ⟨e, shown, given⟩ := Option.bind_eq_some_iff.mp given
  obtain ⟨assign, assigned, given⟩ := Option.bind_eq_some_iff.mp given
  obtain ⟨target, isMember, given⟩ := Option.bind_eq_some_iff.mp given
  cases owned : target.object.isNamed param with
  | false => simp [owned] at given
  | true => simp [Stmt.assignsMemberOf, shown, assigned, isMember, owned]

theorem mapM_enumMember?_eq_none {s : Stmt} (other : s.assignsMemberOf param = false)
    (before behind : List Stmt) : (before ++ s :: behind).mapM (·.enumMember? param) = none := by
  have none : s.enumMember? param = none := by
    cases given : s.enumMember? param with
    | none => rfl
    | some m => exact absurd (assignsMemberOf_of_enumMember? param given) (by simp [other])
  rw [List.mapM_append, List.mapM_cons, none]
  cases before.mapM (·.enumMember? param) <;> rfl

/-! ### The argument -/

theorem enumStore?_exportedObject (name : String) :
    (EnumStore.exportedObject name place).enumStore? = some (none, some name) := by
  simp [EnumStore.exportedObject, Draft.binary, Draft.member, Draft.paren, Draft.assignMember, Draft.part,
    Draft.object, Expr.enumStore?, Expr.bare, Expr.assignment?, Expr.ident?, Expr.exported?,
    Expr.member?, Member.exported?, Member.name?, Assignment.exported?, Pat.member?, isNamed_ident]

theorem enumArgument?_argument (store : EnumStore) :
    ∃ id, (store.argument place).enumArgument? = some (id, store.exportedName?) ∧
      id.map (·.name) = store.localName? := by
  cases store with
  | named name =>
      refine ⟨some ⟨name, place [0]⟩, ?_, rfl⟩
      simp [EnumStore.argument, EnumStore.exportedName?, Draft.binary, Draft.ident, Draft.paren,
        Draft.assign, Draft.part, Draft.object, Expr.enumArgument?, Expr.enumStore?, Expr.bare,
        Expr.assignment?, Expr.ident?, Pat.ident?]
  | exported name => exact ⟨none, enumStore?_exportedObject place name, rfl⟩
  | both name field =>
      have inner := enumStore?_exportedObject (fun way => place (1 :: way)) field
      have value : ((EnumStore.exportedObject field).part 1 place).enumArgument? =
          some (none, some field) := inner
      refine ⟨some ⟨name, place [0, 0]⟩, ?_, rfl⟩
      simp [EnumStore.argument, EnumStore.exportedName?, Draft.assign, Expr.enumArgument?, Pat.ident?, value]

/-! ### The whole statement -/

/-- The function of an enumeration has its parameter and its body, and is called with the argument. -/
theorem iife?_enumeration (body : List (Draft Stmt)) (argument : Draft Expr) :
    ∃ call placeOfFunction placeOfArgument,
      (Draft.enumeration param body argument place).expr?.bind Expr.iife? = some
        ⟨call, Draft.funcOf [fun place => ⟨param, place []⟩] body placeOfFunction⟩ ∧
      call.plainArgs? = some [argument placeOfArgument] := by
  obtain ⟨inside, called⟩ := Draft.iife?_call 1 (Draft.funcOf [fun place => ⟨param, place []⟩] body)
    [argument] fun way => place (0 :: way)
  exact ⟨_, inside, _, called, Draft.plainArgs?_callOf _ _ _⟩

/-- How a function that is called with the argument of a store is read: the rest depends on its body. -/
theorem enumIife?_enumeration (body : List (Draft Stmt)) (store : EnumStore) :
    ∃ (iife : Iife) (id : Option Ident) (placeOfParam : Span) (placeOfBody : List Nat → Span),
      id.map (·.name) = store.localName? ∧
      (Draft.enumeration param body store.argument place).enumIife? =
        ((Draft.list 1 body placeOfBody).mapM (Stmt.enumMember? · param)).bind fun members =>
          if members.isEmpty then none
          else some ⟨iife, ⟨param, placeOfParam⟩, id, store.exportedName?, members⟩ := by
  obtain ⟨call, inside, placeOfArgument, called, plain⟩ := iife?_enumeration param place body store.argument
  obtain ⟨e, shown, isIife⟩ := Option.bind_eq_some_iff.mp called
  obtain ⟨id, stored, named⟩ := enumArgument?_argument placeOfArgument store
  refine ⟨⟨call, Draft.funcOf [fun place => ⟨param, place []⟩] body inside⟩, id, inside [0, 0], inside,
    named, ?_⟩
  have params : (Draft.funcOf [fun place => ⟨param, place []⟩] body inside).params =
      [⟨inside [0], [], .ident (inside [0, 0]) ⟨param, inside [0, 0]⟩, false⟩] := rfl
  have statements : (Draft.funcOf [fun place => ⟨param, place []⟩] body inside).body =
      some (Draft.list 1 body inside) := rfl
  simp [Stmt.enumIife?, shown, isIife, plain, stored, params, statements, Pat.ident?]

/-- An enumeration with a member is recognized at every place: with its parameter, with its members and
    their initializers in the order of the text, whatever forms they are written in, and with the
    variable and the exported name that hold it. A statement in its body that assigns no member of the
    parameter takes all of that away, wherever it stands. -/
theorem enumIife?_write (e : Enumeration) (place : List Nat → Span) (hasMember : e.members ≠ []) :
    (∃ found, (e.write place).enumIife? = some found ∧
      found.param.name = e.param ∧
      found.members = e.members.map WrittenMember.meant ∧
      found.store.map (·.name) = e.store.localName? ∧
      found.exported = e.store.exportedName?) ∧
    ∀ (before behind : List (Draft Stmt)) (other : Stmt), other.assignsMemberOf e.param = false →
      (Draft.enumeration e.param (before ++ .given other :: behind) e.store.argument place).enumIife? =
        none := by
  constructor
  · obtain ⟨iife, id, placeOfParam, placeOfBody, named, read⟩ :=
      enumIife?_enumeration e.param place (e.members.map (·.statement e.param)) e.store
    rw [mapM_enumMember?_statements, Option.bind_some, if_neg (by simp [hasMember])] at read
    exact ⟨_, read, rfl, rfl, named, rfl⟩
  · intro before behind other isOther
    obtain ⟨iife, id, placeOfParam, placeOfBody, named, read⟩ :=
      enumIife?_enumeration e.param place (before ++ .given other :: behind) e.store
    rw [read, Draft.list_append, Draft.list_cons]
    rw [show Draft.part _ (Draft.given other) placeOfBody = other from rfl,
      mapM_enumMember?_eq_none e.param isOther]
    rfl

/-- An enumeration whose members are written in all forms; one initializer is in parentheses. -/
def mixed : Enumeration :=
  ⟨"E", [⟨"A", .number ⟨30, 31⟩ (.ofNat 0), .reversed⟩,
    ⟨"B", .paren ⟨40, 43⟩ (.string ⟨41, 42⟩ (some "b")), .quoted⟩,
    ⟨"C", .ident ⟨"other", ⟨50, 55⟩⟩, .dotted⟩], .both "E" "Exported"⟩

theorem enumIife?_write_mixed :
    (∃ found, (mixed.write fun _ => default).enumIife? = some found ∧
      found.members.map (fun m => (m.name, m.initializer.span)) =
        [("A", ⟨30, 31⟩), ("B", ⟨41, 42⟩), ("C", ⟨50, 55⟩)] ∧
      found.store.map (·.name) = some "E" ∧ found.exported = some "Exported") ∧
    (Draft.enumeration "E" [(⟨"A", .number ⟨30, 31⟩ (.ofNat 0), .reversed⟩ : WrittenMember).statement "E",
      .given (.simple ⟨60, 61⟩)] mixed.store.argument fun _ => default).enumIife? = none := by
  obtain ⟨⟨found, read, -, members, store, exported⟩, spoiled⟩ :=
    enumIife?_write mixed (fun _ => default) (by simp [mixed])
  refine ⟨⟨found, read, ?_, store, exported⟩,
    spoiled [WrittenMember.statement ⟨"A", .number ⟨30, 31⟩ (.ofNat 0), .reversed⟩ "E"] []
      (.simple ⟨60, 61⟩) rfl⟩
  rw [members]
  rfl

end Enumeration

end BundleLens
