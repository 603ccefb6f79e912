/-
Module: BundleLens.Proofs.ClassEdit
Layer: Proofs
Purpose: A class that is declared inside an immediately called function, with further statements in the
  body of that function. It is still recognized as the same class, and where it had no metadata, what is
  read of it comes from the further statements.
Imports: BundleLens.Proofs.Unparen, BundleLens.Reflection.Decorators
Main exports: Expr.editBody, ClassOuter.editBody, insertAt, ClassShape.Unannotated, ClassShape.Extends,
  classOfValue?_insertAt, Stmt.staticValue?, staticProperty?_extends, classDecorations_extends
-/
import BundleLens.Proofs.Unparen
import BundleLens.Reflection.Decorators

namespace BundleLens

/-! ### Initializers with a changed body -/

/-- An initializer with the body of the function that it calls changed. -/
def Expr.editBody (edit : List Stmt → List Stmt) : Expr → Expr
  | .paren span inner => .paren span (inner.editBody edit)
  | .assign span op target value => .assign span op target (value.editBody edit)
  | .unary span op operand => .unary span op (operand.editBody edit)
  | .call span kind callee args => .call span kind (callee.editBody edit) args
  | .function name func => .function name { func with body := func.body.map edit }
  | e => e

/-- A body with further statements at a position. -/
def insertAt (position : Nat) (new body : List Stmt) : List Stmt :=
  body.take position ++ new ++ body.drop position

section EditBody

variable (edit : List Stmt → List Stmt)

def Call.editBody (call : Call) : Call := { call with callee := call.callee.editBody edit }

def Iife.editBody (iife : Iife) : Iife :=
  ⟨iife.call.editBody edit, { iife.func with body := iife.func.body.map edit }⟩

theorem Expr.bare_editBody (e : Expr) : (e.editBody edit).bare = e.bare.editBody edit := by
  induction e using Expr.bareInduction with
  | paren span inner ih => exact ih
  | other e isBare =>
      cases e with
      | paren span inner => exact absurd rfl (isBare span inner)
      | _ => rfl

theorem aliasChain_editBody : (e : Expr) →
    aliasChain (e.editBody edit) = ((aliasChain e).1, (aliasChain e).2.editBody edit)
  | .paren _ inner => aliasChain_editBody inner
  | .assign span .plain target value => by
      have behind := aliasChain_editBody value
      simp only [Expr.editBody, aliasChain]
      cases target.ident? with
      | none => rfl
      | some id => simp [behind]
  | .assign _ .compound _ _ | .ident _ | .string _ _ | .number _ _ | .atom _ _ | .array _ _ | .object _ _
  | .function _ _ | .arrow _ _ _ _ | .classExpr _ _ | .unary _ _ _ | .binary _ _ _ _ | .member _ _ _ _
  | .superMember _ _ | .conditional _ _ _ _ | .call _ _ _ _ | .sequence _ _ | .template _ _ _
  | .yield _ _ => rfl

theorem Expr.call?_editBody (e : Expr) : (e.editBody edit).call? = e.call?.map (Call.editBody edit) := by
  simp only [Expr.call?, Expr.bare_editBody]
  cases e.bare with
  | call span kind callee args => cases kind <;> rfl
  | _ => rfl

theorem Expr.unnegated_editBody (e : Expr) :
    (e.editBody edit).unnegated = e.unnegated.editBody edit := by
  simp only [Expr.unnegated, Expr.bare_editBody]
  cases e.bare with
  | unary span op operand =>
      cases op with
      | not => exact operand.bare_editBody edit
      | _ => rfl
  | _ => rfl

theorem Call.function?_editBody (call : Call) :
    (call.editBody edit).function? = call.function?.map (Expr.editBody edit) := by
  simp only [Call.function?, Call.editBody, Expr.bare_editBody]
  cases call.callee.bare with
  | atom span kind => cases kind <;> rfl
  | _ => rfl

theorem Expr.iife?_editBody (e : Expr) : (e.editBody edit).iife? = e.iife?.map (Iife.editBody edit) := by
  simp only [Expr.iife?, Expr.unnegated_editBody, Expr.call?_editBody]
  cases e.unnegated.call? with
  | none => rfl
  | some call =>
      simp only [Option.map_some, bind, Option.bind_some, Call.function?_editBody]
      cases call.function? with
      | none => rfl
      | some callee => cases callee <;> rfl

end EditBody

section InsertAt

variable {β : Type} {position : Nat} {new body : List Stmt}

theorem findSome?_insertAt (f : Stmt → Option β) (nothing : ∀ s ∈ new, f s = none) :
    (insertAt position new body).findSome? f = body.findSome? f := by
  have skipped : new.findSome? f = none := List.findSome?_eq_none_iff.mpr nothing
  rw [insertAt, List.findSome?_append, List.findSome?_append, skipped, Option.or_none,
    ← List.findSome?_append, List.take_append_drop]

/-- Where the statements of a body say nothing, only the further ones count. -/
theorem findSome?_insertAt_new {f : Stmt → Option β} (nothing : body.findSome? f = none) :
    (insertAt position new body).findSome? f = new.findSome? f := by
  rw [← List.take_append_drop position body, List.findSome?_append, Option.or_eq_none_iff] at nothing
  rw [insertAt, List.findSome?_append, List.findSome?_append, nothing.1, nothing.2, Option.none_or,
    Option.or_none]

theorem filterMap_insertAt_new {f : Stmt → Option β} (nothing : body.filterMap f = []) :
    (insertAt position new body).filterMap f = new.filterMap f := by
  rw [← List.take_append_drop position body, List.filterMap_append, List.append_eq_nil_iff] at nothing
  rw [insertAt, List.filterMap_append, List.filterMap_append, nothing.1, nothing.2, List.nil_append,
    List.append_nil]

theorem getLast?_insertAt (inside : position < body.length) :
    (insertAt position new body).getLast? = body.getLast? := by
  have nonempty : body ≠ [] := List.ne_nil_of_length_pos (Nat.zero_lt_of_lt inside)
  rw [insertAt, List.getLast?_append, List.getLast?_drop, if_neg (Nat.not_le.mpr inside),
    Option.or_of_isSome (List.getLast?_isSome.mpr nonempty)]

/-- A class is still recognized with further statements in front of the end of its body, if these
    declare no functions. -/
theorem Expr.classIife?_insertAt {e : Expr} {found : ClassIife}
    (isClass : e.classIife? = some found) (hasBody : found.iife.func.body = some body)
    (inside : position < body.length) (noFunction : ∀ s ∈ new, s.functionDecl? = none) :
    (e.editBody (insertAt position new)).classIife? =
      some ⟨found.iife.editBody (insertAt position new), found.inner, found.aliases⟩ := by
  simp only [Expr.classIife?, bind, Option.bind_eq_some_iff] at isClass
  obtain ⟨iife, isIife, body', hasBody', name, named, inner, isInner, same⟩ := isClass
  cases same
  cases hasBody.symm.trans hasBody'
  -- The last statement names the class, so nothing may stand behind it.
  have sameName : returnedName? (insertAt position new body) = some name := by
    rw [← named, returnedName?, returnedName?, getLast?_insertAt inside]
  have sameInner : (insertAt position new body).findSome?
      (fun s => s.functionDecl?.filter (·.name.name == name)) = some inner := by
    rw [findSome?_insertAt _ fun s isNew => by rw [noFunction s isNew]; rfl, isInner]
  simp only [Expr.classIife?, aliasChain_editBody, Expr.iife?_editBody, isIife, Option.map_some,
    bind, Option.bind_some, Iife.editBody, hasBody', sameName, sameInner]

end InsertAt

/-! ### The class around the statements -/

/-- What holds a class, with the body of the function that it calls changed. -/
def ClassOuter.editBody (edit : List Stmt → List Stmt) : ClassOuter → ClassOuter
  | .variable d id => .variable { d with init := d.init.map (Expr.editBody edit) } id
  | .exports a name => .exports { a with value := a.value.editBody edit } name
  | .assign a id => .assign { a with value := a.value.editBody edit } id
  | .classDecl decl => .classDecl decl

/-- Nothing is recorded about the class. -/
structure ClassShape.Unannotated (shape : ClassShape) : Prop where
  noDecorators : staticProperty? shape "decorators" = none
  noParameters : staticProperty? shape "ctorParameters" = none
  noCalls : classDecorations shape = []

/-- The class with further statements in its body. -/
structure ClassShape.Extends (extended shape : ClassShape) (position : Nat) (new : List Stmt) : Prop where
  inner : ∃ function iife iife', shape.form = .function function iife ∧
    extended.form = .function function iife'
  names : extended.names = shape.names
  statements : extended.statements = insertAt position new shape.statements

theorem ClassShape.mem_names_make (outer : ClassOuter) (inner : FunctionDecl) (iife : Iife)
    (aliases : List Ident) (statements : List Stmt) :
    inner.name.name ∈ (make outer (.function inner iife) aliases statements).names := by
  simp only [make]
  generalize name _ :: aliases.map (·.name) = more
  have kept : ∀ (more names : List String), inner.name.name ∈ names →
      inner.name.name ∈ more.foldl (fun acc n => if acc.contains n then acc else acc ++ [n]) names := by
    intro more
    induction more with
    | nil => exact fun _ known => known
    | cons first rest ih =>
        intro names known
        rw [List.foldl_cons]
        apply ih
        split
        · exact known
        · exact List.mem_append_left _ known
  exact kept more _ List.mem_cons_self

/-- A class whose body gets further statements is still the same class. -/
theorem classOfValue?_insertAt {outer : ClassOuter} {value : Expr} {following new : List Stmt}
    {found : ClassIife} {shape : ClassShape} {position : Nat} (isClass : value.classIife? = some found)
    (isShape : classOfValue? outer value following = some shape)
    (inside : position < shape.statements.length) (noFunction : ∀ s ∈ new, s.functionDecl? = none) :
    ∃ extended, classOfValue? (outer.editBody (insertAt position new))
        (value.editBody (insertAt position new)) following = some extended ∧
      extended.Extends shape position new := by
  simp only [classOfValue?, isClass, Option.some.injEq] at isShape
  subst isShape
  cases hasBody : found.iife.func.body with
  | none => simp [ClassShape.make, hasBody] at inside
  | some body =>
      simp only [ClassShape.make, hasBody, Option.getD_some] at inside
      have extended := Expr.classIife?_insertAt isClass hasBody inside noFunction
      refine ⟨_, by rw [classOfValue?, extended], ?_⟩
      constructor
      · exact ⟨found.inner, found.iife, found.iife.editBody (insertAt position new), rfl, rfl⟩
      · cases outer <;> rfl
      · simp [ClassShape.make, Iife.editBody, hasBody]

/-! ### Metadata of the class -/

/-- The value that a statement assigns to a static property of a class with one of the names. -/
def Stmt.staticValue? (s : Stmt) (names : List String) (property : String) : Option Expr := do
  let a ← s.staticAssignment? names
  if !a.onPrototype && a.property == property then some a.value else none

theorem staticProperty?_extends {extended shape : ClassShape} {position : Nat} {new : List Stmt}
    {property : String} (isExtended : extended.Extends shape position new)
    (nothing : staticProperty? shape property = none) :
    staticProperty? extended property = new.findSome? (·.staticValue? shape.names property) := by
  rw [staticProperty?, isExtended.names, isExtended.statements]
  exact findSome?_insertAt_new nothing

theorem classDecorations_extends {extended shape : ClassShape} {position : Nat} {new : List Stmt}
    (isExtended : extended.Extends shape position new) (nothing : classDecorations shape = []) :
    classDecorations extended = new.filterMap (·.classDecorate? shape.names) := by
  rw [classDecorations, isExtended.names, isExtended.statements]
  exact filterMap_insertAt_new nothing

end BundleLens
