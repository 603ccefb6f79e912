/-
Module: BundleLens.Proofs.ScopeTree
Layer: Proofs
Purpose: Lexical scoping without a walk. What matters to scoping in a piece of a file is a list of
  parts: declarations, uses of names, and scopes that hold parts of their own. The home of a
  declaration, the numbers of scopes and what surrounds an identifier are read off the nesting of the
  scopes. The walk over the events of such parts, with its two registers, arrives at just these scopes.
Imports: BundleLens.Scope.Index
Main exports: Part, partsDeclared, fileScopes, fileSights, surroundings, nearest?, fileScopes_perm,
  Walk.follow_start, ParentsFirst, FileIndex.resolve?_eq_nearest?
-/
import Mathlib.Data.List.Forall2
import BundleLens.Scope.Index

namespace BundleLens

/-- What matters to scoping: a declared name with the kind of scope that is its home, a name that is
    used, or a scope. -/
inductive Part where
  | declaration (home : Home) (binding : Binding)
  | use (id : Ident)
  | scope (ofFunction : Bool) (func : Option Func) (parts : List Part)

/-! ### Homes -/

/-- The homes that a scope is to the parts that stand directly in it. -/
def ownHomes (ofFunction : Bool) : Home → Bool
  | .file => false
  | .function => ofFunction
  | .block => true

/-- The homes that a scope is to the parts of a scope inside it: a function keeps its variables, and any
    scope keeps what is declared in blocks. -/
def homesBeyond (ofFunction : Bool) (here : Home → Bool) : Home → Bool
  | .file => here .file
  | .function => !ofFunction && here .function
  | .block => false

mutual

/-- The declarations in a part, at any depth, whose home is the scope that is the given homes to the
    part. -/
def Part.declared (here : Home → Bool) : Part → List Binding
  | .declaration home binding => if here home then [binding] else []
  | .use _ => []
  | .scope ofFunction _ parts => partsDeclared (homesBeyond ofFunction here) parts

def partsDeclared (here : Home → Bool) : List Part → List Binding
  | [] => []
  | p :: rest => p.declared here ++ partsDeclared here rest

end

/-! ### Scopes -/

mutual

/-- The scopes in a part, outer ones first, where `parent` is the number of the scope around the part
    and `number` is the number that the first of them gets. -/
def Part.scopes (parent number : Nat) : Part → List Scope
  | .declaration _ _ => []
  | .use _ => []
  | .scope ofFunction func parts =>
    ⟨some parent, func, partsDeclared (ownHomes ofFunction) parts⟩ ::
      partsScopes number (number + 1) parts

def partsScopes (parent number : Nat) : List Part → List Scope
  | [] => []
  | p :: rest =>
    p.scopes parent number ++ partsScopes parent (number + (p.scopes parent number).length) rest

end

/-- The scopes of a file. The scope of the file is home to all that stands outside of other scopes. -/
def fileScopes (parts : List Part) : List Scope :=
  ⟨none, none, partsDeclared (fun _ => true) parts⟩ :: partsScopes 0 1 parts

/-! ### Identifiers -/

mutual

/-- The identifiers in a part, each with what is declared in the scopes around it, innermost first. -/
def Part.sights (around : List (List Binding)) : Part → List (Ident × List (List Binding))
  | .declaration _ binding => [(binding.ident, around)]
  | .use id => [(id, around)]
  | .scope ofFunction _ parts =>
    partsSights (partsDeclared (ownHomes ofFunction) parts :: around) parts

def partsSights (around : List (List Binding)) : List Part → List (Ident × List (List Binding))
  | [] => []
  | p :: rest => p.sights around ++ partsSights around rest

end

/-- The identifiers of a file with what surrounds them. -/
def fileSights (parts : List Part) : List (Ident × List (List Binding)) :=
  partsSights [partsDeclared (fun _ => true) parts] parts

/-- What is declared in the scopes around the identifier at a range. Of several identifiers at one range
    the last counts, and at a range without one there is only the scope of the file. -/
def surroundings (parts : List Part) (span : Span) : List (List Binding) :=
  (((fileSights parts).reverse.find? (·.1.span == span)).map (·.2)).getD
    [partsDeclared (fun _ => true) parts]

/-- The declarations of a name in the nearest scope that has any. -/
def nearest? (around : List (List Binding)) (name : String) : Option (List Binding) :=
  around.findSome? fun declared =>
    match declared.filter (·.name == name) with
    | [] => none
    | found => some found

mutual

/-- The identifiers in a part with the numbers of the scopes that they stand in. -/
def Part.places (scope number : Nat) : Part → List (Span × Nat)
  | .declaration _ binding => [(binding.ident.span, scope)]
  | .use id => [(id.span, scope)]
  | .scope _ _ parts => partsPlaces number (number + 1) parts

def partsPlaces (scope number : Nat) : List Part → List (Span × Nat)
  | [] => []
  | p :: rest =>
    p.places scope number ++ partsPlaces scope (number + (p.scopes scope number).length) rest

end

/-! ### Every declaration has one home -/

mutual

/-- All declarations in a part, at any depth. -/
def Part.bindings : Part → List Binding
  | .declaration _ binding => [binding]
  | .use _ => []
  | .scope _ _ parts => partsBindings parts

def partsBindings : List Part → List Binding
  | [] => []
  | p :: rest => p.bindings ++ partsBindings rest

end

theorem homesBeyond_or (ofFunction : Bool) (here there : Home → Bool) :
    homesBeyond ofFunction (fun home => here home || there home) =
      fun home => homesBeyond ofFunction here home || homesBeyond ofFunction there home := by
  funext home
  cases home <;> cases ofFunction <;> rfl

mutual

/-- Two scopes that share no home share no declaration. -/
theorem Part.declared_or {here there : Home → Bool} (apart : ∀ home, here home = true → there home = false) :
    (p : Part) →
      (p.declared here ++ p.declared there).Perm (p.declared fun home => here home || there home)
  | .declaration home binding => by
      have notBoth := apart home
      cases taken : here home <;> simp_all [Part.declared]
  | .use _ => .refl _
  | .scope ofFunction _ parts => by
      rw [Part.declared, Part.declared, Part.declared, homesBeyond_or]
      refine partsDeclared_or (fun home taken => ?_) parts
      cases home with
      | file => exact apart .file taken
      | function =>
          simp only [homesBeyond, Bool.and_eq_true] at taken
          simp [homesBeyond, apart .function taken.2]
      | block => rfl

theorem partsDeclared_or {here there : Home → Bool} (apart : ∀ home, here home = true → there home = false) :
    (parts : List Part) →
      (partsDeclared here parts ++ partsDeclared there parts).Perm
        (partsDeclared (fun home => here home || there home) parts)
  | [] => .refl _
  | p :: rest => by
      have both := (p.declared_or apart).append (partsDeclared_or apart rest)
      simp only [List.append_assoc] at both
      simp only [partsDeclared, List.append_assoc]
      exact ((List.perm_append_comm_assoc _ _ _).append_left _).trans both

end

/-- What is declared in a scope goes to the scope itself or to those around it. -/
theorem partsDeclared_split (ofFunction : Bool) (parts : List Part) :
    (partsDeclared (homesBeyond ofFunction fun _ => true) parts ++
      partsDeclared (ownHomes ofFunction) parts).Perm (partsDeclared (fun _ => true) parts) := by
  have apart : ∀ home, homesBeyond ofFunction (fun _ => true) home = true →
      ownHomes ofFunction home = false := by
    intro home
    cases home <;> cases ofFunction <;> simp [homesBeyond, ownHomes]
  have total : (fun home => homesBeyond ofFunction (fun _ => true) home || ownHomes ofFunction home) =
      fun _ => true := by
    funext home
    cases home <;> cases ofFunction <;> rfl
  have both := partsDeclared_or apart parts
  rwa [total] at both

mutual

theorem Part.bindings_perm (parent number : Nat) : (p : Part) →
    (p.declared (fun _ => true) ++ (p.scopes parent number).flatMap (·.bindings)).Perm p.bindings
  | .declaration _ _ => .refl _
  | .use _ => .refl _
  | .scope ofFunction func parts => by
      simp only [Part.declared, Part.scopes, List.flatMap_cons, ← List.append_assoc]
      exact ((partsDeclared_split ofFunction parts).append_right _).trans
        (partsBindings_perm number (number + 1) parts)

theorem partsBindings_perm (parent number : Nat) : (parts : List Part) →
    (partsDeclared (fun _ => true) parts ++
      (partsScopes parent number parts).flatMap (·.bindings)).Perm (partsBindings parts)
  | [] => .refl _
  | p :: rest => by
      have both := (p.bindings_perm parent number).append
        (partsBindings_perm parent (number + (p.scopes parent number).length) rest)
      simp only [List.append_assoc] at both
      simp only [partsDeclared, partsScopes, List.flatMap_append, List.append_assoc]
      exact ((List.perm_append_comm_assoc _ _ _).append_left _).trans both

end

/-- No declaration is lost and none is stored twice. -/
theorem fileScopes_perm (parts : List Part) :
    ((fileScopes parts).flatMap (·.bindings)).Perm (partsBindings parts) :=
  partsBindings_perm 0 1 parts

/-! ### The walk -/

mutual

/-- The steps of a walk over a part. -/
@[simp] def Part.events : Part → List Event
  | .declaration home binding => [.declare home binding]
  | .use id => [.refer id]
  | .scope ofFunction func parts => .enter ofFunction func :: (partsEvents parts ++ [.leave])

@[simp] def partsEvents : List Part → List Event
  | [] => []
  | p :: rest => p.events ++ partsEvents rest

end

@[simp] theorem partsEvents_append (ps qs : List Part) :
    partsEvents (ps ++ qs) = partsEvents ps ++ partsEvents qs := by
  induction ps with
  | nil => rfl
  | cons p rest ih => simp [partsEvents, ih]

namespace Walk

/-- The numbers that a walk holds are numbers of scopes. -/
structure Sound (w : Walk) : Prop where
  scope : w.scope < w.scopes.size
  functionScope : w.functionScope < w.scopes.size

/-- The scopes of a walk after they took the declarations that they are home to. -/
def receive (w : Walk) (declared : (Home → Bool) → List Binding) : List Scope :=
  w.scopes.toList.mapIdx fun number s =>
    { s with bindings := s.bindings ++ declared fun home => w.home home == number }

/-- A walk that went on: the scopes that it has afterwards, and the identifiers that it met. The scopes
    that it opened are closed again. -/
def after (w : Walk) (scopes : List Scope) (met : List (Span × Nat)) : Walk :=
  { w with scopes := scopes.toArray, places := met.reverse ++ w.places }

theorem length_receive (w : Walk) (declared : (Home → Bool) → List Binding) :
    (w.receive declared).length = w.scopes.size := by
  simp [receive]

theorem receive_nothing (w : Walk) : w.receive (fun _ => []) = w.scopes.toList := by
  apply List.ext_getElem?
  intro number
  simp [receive, List.getElem?_mapIdx]

theorem home_after (w : Walk) (scopes : List Scope) (met : List (Span × Nat)) :
    (w.after scopes met).home = w.home := by
  funext home
  cases home <;> rfl

theorem follow_append (w : Walk) (first second : List Event) :
    w.follow (first ++ second) = (w.follow first).follow second := by
  simp [follow]

theorem step_declare (w : Walk) (home : Home) (binding : Binding) :
    w.step (.declare home binding) =
      w.after (w.receive (Part.declared · (.declaration home binding)))
        [(binding.ident.span, w.scope)] := by
  have modified : (w.scopes.modify (w.home home) fun s =>
        { s with bindings := s.bindings ++ [binding] }).toList =
      w.receive (Part.declared · (.declaration home binding)) := by
    apply List.ext_getElem?
    intro number
    simp only [receive, Array.toList_modify, List.getElem?_modify, List.getElem?_mapIdx, Part.declared]
    cases w.scopes.toList[number]? with
    | none => simp
    | some s => by_cases same : w.home home = number <;> simp [same]
  rw [← modified]
  rfl

end Walk

mutual

/-- A scope that is no home to a part takes nothing from it. -/
theorem Part.declared_nowhere (here : Home → Bool) (nowhere : ∀ home, here home = false) :
    (p : Part) → p.declared here = []
  | .declaration home _ => by simp [Part.declared, nowhere home]
  | .use _ => rfl
  | .scope ofFunction _ parts =>
    partsDeclared_nowhere (homesBeyond ofFunction here)
      (fun home => by cases home <;> simp [homesBeyond, nowhere]) parts

theorem partsDeclared_nowhere (here : Home → Bool) (nowhere : ∀ home, here home = false) :
    (parts : List Part) → partsDeclared here parts = []
  | [] => rfl
  | p :: rest => by
      rw [partsDeclared, p.declared_nowhere here nowhere, partsDeclared_nowhere here nowhere rest]
      rfl

end

namespace Walk

theorem Sound.home_lt {w : Walk} (sound : w.Sound) (home : Home) : w.home home < w.scopes.size := by
  cases home with
  | file => exact Nat.zero_lt_of_lt sound.scope
  | function => exact sound.functionScope
  | block => exact sound.scope

theorem Sound.after {w : Walk} (sound : w.Sound) (declared : (Home → Bool) → List Binding)
    (new : List Scope) (met : List (Span × Nat)) : (w.after (w.receive declared ++ new) met).Sound := by
  have size : (w.after (w.receive declared ++ new) met).scopes.size = w.scopes.size + new.length := by
    simp [Walk.after, length_receive]
  constructor
  · rw [size]
    exact Nat.lt_add_right _ sound.scope
  · rw [size]
    exact Nat.lt_add_right _ sound.functionScope

/-- Scopes that are closed again take no further declarations. -/
theorem receive_after {w : Walk} (sound : w.Sound) (first second : (Home → Bool) → List Binding)
    (nowhere : ∀ here : Home → Bool, (∀ home, here home = false) → second here = [])
    (new : List Scope) (met : List (Span × Nat)) :
    (w.after (w.receive first ++ new) met).receive second =
      w.receive (fun here => first here ++ second here) ++ new := by
  unfold receive
  rw [home_after]
  simp only [after, List.mapIdx_append]
  congr 1
  · apply List.ext_getElem?
    intro number
    simp only [List.getElem?_mapIdx, Option.map_map]
    congr 1
    funext s
    simp
  · apply List.ext_getElem?
    intro number
    simp only [List.getElem?_mapIdx, List.length_mapIdx]
    cases new[number]? with
    | none => rfl
    | some s =>
        have closed : second (fun home => w.home home == number + w.scopes.size) = [] := by
          apply nowhere
          intro home
          have small := sound.home_lt home
          simp only [beq_eq_false_iff_ne]
          omega
        simp [closed]

theorem Sound.enter {w : Walk} (sound : w.Sound) (ofFunction : Bool) (func : Option Func) :
    (w.step (.enter ofFunction func)).Sound := by
  have size : (w.step (.enter ofFunction func)).scopes.size = w.scopes.size + 1 := by simp [step]
  constructor
  · rw [size]
    exact Nat.lt_succ_self w.scopes.size
  · rw [size]
    cases ofFunction with
    | true => exact Nat.lt_succ_self w.scopes.size
    | false => exact Nat.lt_succ_of_lt sound.functionScope

/-- What is declared behind an opened scope goes to the scopes around it or to the scope itself. -/
theorem receive_enter {w : Walk} (sound : w.Sound) (ofFunction : Bool) (func : Option Func)
    (declared : (Home → Bool) → List Binding) :
    (w.step (.enter ofFunction func)).receive declared =
      w.receive (fun here => declared (homesBeyond ofFunction here)) ++
        [⟨some w.scope, func, declared (ownHomes ofFunction)⟩] := by
  have pushed : (w.step (.enter ofFunction func)).scopes.toList =
      w.scopes.toList ++ [⟨some w.scope, func, []⟩] := by simp [step]
  have inside : (fun home => (w.step (.enter ofFunction func)).home home == w.scopes.size) =
      ownHomes ofFunction := by
    funext home
    have small := sound.home_lt home
    cases home <;> cases ofFunction <;> simp_all [step, Walk.home, ownHomes] <;> omega
  have beyond : ∀ number, number < w.scopes.size →
      (fun home => (w.step (.enter ofFunction func)).home home == number) =
        homesBeyond ofFunction (fun home => w.home home == number) := by
    intro number old
    funext home
    cases home <;> cases ofFunction <;> simp [step, Walk.home, homesBeyond] <;> omega
  simp only [receive, pushed, List.mapIdx_append]
  congr 1
  · apply List.ext_getElem?
    intro number
    simp only [List.getElem?_mapIdx]
    cases found : w.scopes.toList[number]? with
    | none => rfl
    | some s =>
        have old : number < w.scopes.size := by
          simpa using (List.getElem?_eq_some_iff.mp found).1
        simp [beyond number old]
  · simp [inside]

end Walk

mutual

/-- Following the events of a part leaves the registers as they were. Every scope takes the declarations
    that it is home to, and the scopes of the part come behind the others. -/
theorem Walk.follow_events {w : Walk} (sound : w.Sound) : (p : Part) →
    w.follow p.events =
      w.after (w.receive (Part.declared · p) ++ p.scopes w.scope w.scopes.size)
        (p.places w.scope w.scopes.size)
  | .declaration home binding => by
      simp only [Part.events, Part.scopes, Part.places, List.append_nil]
      exact w.step_declare home binding
  | .use id => by
      simp [Part.events, Part.declared, Part.scopes, Part.places, Walk.follow, Walk.step, Walk.after,
        Walk.receive_nothing]
  | .scope ofFunction func parts => by
      have inner := Walk.follow_partsEvents (sound.enter ofFunction func) parts
      rw [Walk.receive_enter sound] at inner
      have opened : (w.step (.enter ofFunction func)).scopes.size = w.scopes.size + 1 := by
        simp [Walk.step]
      have entered : (w.step (.enter ofFunction func)).scope = w.scopes.size := rfl
      rw [opened, entered] at inner
      have split : w.follow (Part.scope ofFunction func parts).events =
          ((w.step (.enter ofFunction func)).follow (partsEvents parts)).step .leave := by
        simp [Part.events, Walk.follow]
      rw [split, inner]
      simp [Walk.step, Walk.after, Part.scopes, Part.places, Part.declared]

theorem Walk.follow_partsEvents {w : Walk} (sound : w.Sound) : (parts : List Part) →
    w.follow (partsEvents parts) =
      w.after (w.receive (partsDeclared · parts) ++ partsScopes w.scope w.scopes.size parts)
        (partsPlaces w.scope w.scopes.size parts)
  | [] => by
      simp [partsEvents, partsDeclared, partsScopes, partsPlaces, Walk.follow, Walk.after,
        Walk.receive_nothing]
  | p :: rest => by
      have others := Walk.follow_partsEvents
        (sound.after (Part.declared · p) (p.scopes w.scope w.scopes.size)
          (p.places w.scope w.scopes.size)) rest
      have size : (w.after (w.receive (Part.declared · p) ++ p.scopes w.scope w.scopes.size)
          (p.places w.scope w.scopes.size)).scopes.size =
            w.scopes.size + (p.scopes w.scope w.scopes.size).length := by
        simp [Walk.after, Walk.length_receive]
      rw [Walk.receive_after sound _ _ fun here nowhere => partsDeclared_nowhere here nowhere rest,
        size] at others
      rw [partsEvents, Walk.follow_append, Walk.follow_events sound p, others]
      simp [Walk.after, partsDeclared, partsScopes, partsPlaces]

end

/-- A walk over the parts of a file arrives at the scopes of the file. -/
theorem Walk.follow_start (parts : List Part) :
    (Walk.start.follow (partsEvents parts)).scopes.toList = fileScopes parts ∧
      (Walk.start.follow (partsEvents parts)).places = (partsPlaces 0 1 parts).reverse := by
  have sound : Walk.start.Sound := ⟨Nat.zero_lt_one, Nat.zero_lt_one⟩
  have home : (fun home => Walk.start.home home == 0) = fun _ => true := by
    funext home
    cases home <;> rfl
  rw [Walk.follow_partsEvents sound]
  constructor
  · simp [Walk.after, Walk.receive, fileScopes, home, show Walk.start.scopes = #[⟨none, none, []⟩] from rfl,
      show Walk.start.scope = 0 from rfl]
  · exact List.append_nil _

/-! ### The way out of a scope -/

/-- Every scope stands behind the scope around it. -/
def ParentsFirst (scopes : List Scope) : Prop :=
  ∀ (number : Nat) (s : Scope), scopes[number]? = some s →
    ∀ parent, s.parent = some parent → parent < number

mutual

theorem Part.parent_lt {parent number : Nat} (outer : parent < number) : (p : Part) →
    ∀ i s, (p.scopes parent number)[i]? = some s → ∀ q, s.parent = some q → q < number + i
  | .declaration _ _ => by simp [Part.scopes]
  | .use _ => by simp [Part.scopes]
  | .scope ofFunction func parts => by
      intro i s found q isParent
      cases i with
      | zero =>
          simp only [Part.scopes, List.getElem?_cons_zero, Option.some.injEq] at found
          subst found
          cases isParent
          exact outer
      | succ i =>
          have inner := partsParent_lt (Nat.lt_succ_self number) parts i s found q isParent
          omega

theorem partsParent_lt {parent number : Nat} (outer : parent < number) : (parts : List Part) →
    ∀ i s, (partsScopes parent number parts)[i]? = some s → ∀ q, s.parent = some q → q < number + i
  | [] => by simp [partsScopes]
  | p :: rest => by
      intro i s found q isParent
      rw [partsScopes, List.getElem?_append] at found
      split at found
      · exact p.parent_lt outer i s found q isParent
      · have later := partsParent_lt (Nat.lt_add_right _ outer) rest _ s found q isParent
        omega

end

theorem parentsFirst_fileScopes (parts : List Part) : ParentsFirst (fileScopes parts) := by
  intro number s found q isParent
  cases number with
  | zero =>
      simp only [fileScopes, List.getElem?_cons_zero, Option.some.injEq] at found
      subst found
      cases isParent
  | succ i =>
      have inner := partsParent_lt Nat.zero_lt_one parts i s found q isParent
      omega

namespace FileIndex

variable {index : FileIndex}

/-- More fuel than the number of a scope makes no difference to its way out. -/
theorem chain_of_lt (ordered : ParentsFirst index.scopes.toList) (scope : Nat) :
    ∀ fuel, scope < fuel → index.chain fuel scope = index.scopesFrom scope := by
  induction scope using Nat.strongRecOn with
  | _ scope ih =>
      intro fuel enough
      obtain ⟨fuel, rfl⟩ := Nat.exists_eq_add_of_lt enough
      unfold scopesFrom
      simp only [chain]
      cases found : index.scopes[scope]? with
      | none => rfl
      | some s =>
          cases outer : s.parent with
          | none => simp only [outer]
          | some parent =>
              have smaller : parent < scope := ordered scope s (by simpa using found) parent outer
              simp only [outer, List.cons.injEq, true_and]
              rw [ih parent smaller _ (by omega), ih parent smaller _ smaller]

theorem scopesFrom_outermost {scope : Nat} {s : Scope} (found : index.scopes.toList[scope]? = some s)
    (outermost : s.parent = none) : index.scopesFrom scope = [s] := by
  have same : index.scopes[scope]? = some s := by simpa using found
  simp [scopesFrom, chain, same, outermost]

theorem scopesFrom_inner (ordered : ParentsFirst index.scopes.toList) {scope parent : Nat} {s : Scope}
    (found : index.scopes.toList[scope]? = some s) (inner : s.parent = some parent) :
    index.scopesFrom scope = s :: index.scopesFrom parent := by
  have same : index.scopes[scope]? = some s := by simpa using found
  have smaller := ordered scope s found parent inner
  rw [scopesFrom, chain, same]
  simp [inner, chain_of_lt ordered parent scope smaller]

/-- Whether a place of the walk is the place of an identifier of the tree: the way out of the scope at
    the place leads through the scopes around the identifier. -/
def Locates (index : FileIndex) (place : Span × Nat) (sight : Ident × List (List Binding)) : Prop :=
  place.1 = sight.1.span ∧ (index.scopesFrom place.2).map (·.bindings) = sight.2

mutual

theorem locates_places (ordered : ParentsFirst index.scopes.toList) {scope number : Nat}
    {around : List (List Binding)} (outward : (index.scopesFrom scope).map (·.bindings) = around) :
    (p : Part) → p.scopes scope number <+: index.scopes.toList.drop number →
      List.Forall₂ index.Locates (p.places scope number) (p.sights around)
  | .declaration _ binding => fun _ => .cons ⟨rfl, outward⟩ .nil
  | .use id => fun _ => .cons ⟨rfl, outward⟩ .nil
  | .scope ofFunction func parts => by
      intro ⟨rest, stored⟩
      rw [Part.scopes, List.cons_append] at stored
      have found : index.scopes.toList[number]? =
          some ⟨some scope, func, partsDeclared (ownHomes ofFunction) parts⟩ := by
        rw [← Nat.add_zero number, ← List.getElem?_drop, ← stored]
        rfl
      have inner : partsScopes number (number + 1) parts <+: index.scopes.toList.drop (number + 1) := by
        refine ⟨rest, ?_⟩
        rw [← List.drop_drop, ← stored]
        rfl
      refine locates_partsPlaces ordered ?_ parts inner
      rw [scopesFrom_inner ordered found rfl, List.map_cons, outward]

theorem locates_partsPlaces (ordered : ParentsFirst index.scopes.toList) {scope number : Nat}
    {around : List (List Binding)} (outward : (index.scopesFrom scope).map (·.bindings) = around) :
    (parts : List Part) → partsScopes scope number parts <+: index.scopes.toList.drop number →
      List.Forall₂ index.Locates (partsPlaces scope number parts) (partsSights around parts)
  | [] => fun _ => .nil
  | p :: rest => by
      intro ⟨behind, stored⟩
      rw [partsScopes, List.append_assoc] at stored
      refine List.rel_append (locates_places ordered outward p ⟨_, stored⟩) ?_
      refine locates_partsPlaces ordered outward rest ⟨behind, ?_⟩
      rw [← List.drop_drop, ← stored, List.drop_left]

end

theorem lookup?_eq_nearest? (index : FileIndex) (scope : Nat) (name : String) :
    index.lookup? scope name = nearest? ((index.scopesFrom scope).map (·.bindings)) name := by
  unfold lookup? nearest?
  rw [List.findSome?_map]
  rfl

/-- Where a range is looked up among places, the identifier is found that stands there. -/
theorem scopesFrom_lookup {places : List (Span × Nat)} {sights : List (Ident × List (List Binding))}
    (located : List.Forall₂ index.Locates places sights) (span : Span) :
    (index.scopesFrom ((places.lookup span).getD 0)).map (·.bindings) =
      ((sights.find? (·.1.span == span)).map (·.2)).getD
        ((index.scopesFrom 0).map (·.bindings)) := by
  induction located with
  | nil => rfl
  | @cons place sight _ _ first _ ih =>
      obtain ⟨there, scope⟩ := place
      obtain ⟨rfl, wayOut⟩ := first
      by_cases same : sight.1.span = span
      · subst same
        simpa [List.lookup_cons_self] using wayOut
      · have other : (span == sight.1.span) = false := beq_eq_false_iff_ne.mpr (Ne.symm same)
        rw [List.lookup_cons, other, List.find?_cons_of_neg (by simpa using same)]
        exact ih

/-- An identifier means what the nearest scope around it declares by its name. -/
theorem resolve?_eq_nearest? {parts : List Part} (scopes : index.scopes.toList = fileScopes parts)
    (places : index.places = (partsPlaces 0 1 parts).reverse) (id : Ident) :
    index.resolve? id = nearest? (surroundings parts id.span) id.name := by
  have ordered : ParentsFirst index.scopes.toList := scopes ▸ parentsFirst_fileScopes parts
  have outermost : index.scopesFrom 0 = [⟨none, none, partsDeclared (fun _ => true) parts⟩] := by
    refine scopesFrom_outermost ?_ rfl
    rw [scopes]
    rfl
  have inner : partsScopes 0 1 parts <+: index.scopes.toList.drop 1 := by
    rw [scopes]
    exact List.prefix_refl _
  have located := locates_partsPlaces ordered (congrArg (List.map Scope.bindings) outermost) parts inner
  have backwards := List.forall₂_reverse_iff.mpr located
  rw [resolve?, lookup?_eq_nearest?, scopeOf, places, scopesFrom_lookup backwards, outermost]
  rfl

end FileIndex

end BundleLens
