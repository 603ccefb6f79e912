/-
Module: BundleLens.Proofs.OwnNames
Layer: Proofs
Purpose: What the own name of a function expression means inside the function. The name shares one scope
  with the parameters and the variables of the function and stands in front of them, and it is no
  variable without a value; so inside the function it is meant wherever no nearer scope declares the
  name, whatever parameters, variables and functions have it too.
Imports: BundleLens.Proofs.Built, BundleLens.Proofs.FileBindings
Main exports: Func.ownBindings, Scope.OwnedBy, Written.ownedBy, primary?_ownName
-/
import BundleLens.Proofs.Built
import BundleLens.Proofs.FileBindings

namespace BundleLens

/-- No own name of a function expression is at home outside of its function. -/
theorem Written.notOwnName {ps : List Part}
    (written : Written (fun binding => binding.isFunctionName = false) ps) (here : Home → Bool) :
    ∀ binding ∈ partsDeclared here ps, binding.isFunctionName = false := by
  induction written generalizing here with
  | nil => exact fun _ member => nomatch member
  | use id _ ih => exact ih here
  | @declare _ home _ own _ ih =>
      refine List.forall_mem_append.2 ⟨?_, ih here⟩
      unfold Part.declared
      split
      · exact List.forall_mem_singleton.2 own
      · exact fun _ member => nomatch member
  | scope ofFunction func _ _ ihInside ih => exact List.forall_mem_append.2 ⟨ihInside _, ih here⟩
  | named func own _ _ ihInside ih =>
      rw [Func.part_eq]
      exact List.forall_mem_append.2 ⟨ihInside _, ih here⟩

/-- What a function expression declares besides its own name: its parameters, and the variables and
    functions of its body that are at home in it. -/
def Func.ownBindings (func : Func) : List Binding :=
  partsDeclared (ownHomes true) (paramsParts func true 0 func.params ++ bodyParts func.body)

/-- A scope is that of a function expression with a name: the name stands in front of all that the
    function declares besides. -/
structure Scope.OwnedBy (s : Scope) (expr : FunctionExpr) (own : Ident) : Prop where
  name : expr.name = some own
  func : s.func = some expr.func
  bindings : s.bindings = .functionName expr own :: expr.func.ownBindings

/-- A scope that holds the own name of a function expression is the one of the expression. -/
theorem Written.ownedBy {ps : List Part}
    (written : Written (fun binding => binding.isFunctionName = false) ps) (parent number : Nat) :
    ∀ s ∈ partsScopes parent number ps, ∀ expr own, Binding.functionName expr own ∈ s.bindings →
      s.OwnedBy expr own := by
  induction written generalizing parent number with
  | nil => exact fun _ member => nomatch member
  | use id _ ih => exact ih parent number
  | declare home own _ ih => exact ih parent number
  | scope ofFunction func inside _ ihInside ih =>
      refine List.forall_mem_append.2 ⟨List.forall_mem_cons.2 ⟨?_, ihInside _ _⟩, ih _ _⟩
      intro expr own member
      cases inside.notOwnName _ _ member
  | named func own inside _ ihInside ih =>
      rw [Func.part_eq]
      refine List.forall_mem_append.2 ⟨List.forall_mem_cons.2 ⟨?_, ihInside _ _⟩, ih _ _⟩
      intro expr other member
      rcases List.mem_cons.1 member with isOwn | behind
      · cases isOwn
        exact ⟨rfl, rfl, rfl⟩
      · cases inside.notOwnName _ _ behind

namespace FileIndex

variable {items : List Item} {s : Scope} {expr : FunctionExpr} {own : Ident}

theorem ownedBy_of_mem (listed : s ∈ (build items).scopes.toList)
    (holds : Binding.functionName expr own ∈ s.bindings) : s.OwnedBy expr own := by
  rw [build_scopes] at listed
  rcases List.mem_cons.1 listed with rfl | inner
  · cases (itemsParts_written items).notOwnName _ _ holds
  · exact (itemsParts_written items).ownedBy 0 1 s inner expr own holds

/-- A name is resolved by the nearest scope on the way out that declares it. -/
theorem resolve?_of_scopesFrom {index : FileIndex} {id : Ident} {nearer outer : List Scope}
    (way : index.scopesFrom (index.scopeOf id) = nearer ++ s :: outer)
    (undeclared : ∀ t ∈ nearer, t.named? id.name = none) {bindings : List Binding}
    (declares : s.named? id.name = some bindings) : index.resolve? id = some bindings := by
  rw [resolve?, lookup?, way, List.findSome?_append, List.findSome?_eq_none_iff.2 undeclared,
    List.findSome?_cons, declares]
  rfl

end FileIndex

/-- The own name of every function expression is declared in one kind of scope only, that of the
    function, in front of its parameters and of the variables and functions of its body. So inside the
    function the name means the function expression wherever no nearer scope declares it, even if a
    parameter, a variable or a function of the same scope has the name. -/
theorem primary?_ownName {items : List Item} {expr : FunctionExpr} {own : Ident}
    (declared : Binding.functionName expr own ∈ partsBindings (itemsParts items)) :
    let index := FileIndex.build items
    (∃ s ∈ index.scopes.toList, Binding.functionName expr own ∈ s.bindings) ∧
    ∀ s ∈ index.scopes.toList, Binding.functionName expr own ∈ s.bindings →
      s.OwnedBy expr own ∧
      ∀ (id : Ident) (nearer outer : List Scope), id.name = own.name →
        index.scopesFrom (index.scopeOf id) = nearer ++ s :: outer →
        (∀ t ∈ nearer, t.named? own.name = none) →
          index.resolve? id =
            some (.functionName expr own :: expr.func.ownBindings.filter (·.name == own.name)) ∧
          index.primary? id = some (.functionName expr own) := by
  intro index
  constructor
  · have stored := (fileScopes_perm (itemsParts items)).symm.subset declared
    rw [← FileIndex.build_scopes] at stored
    exact List.mem_flatMap.1 stored
  · intro s listed holds
    have owned := FileIndex.ownedBy_of_mem listed holds
    refine ⟨owned, fun id nearer outer same way undeclared => ?_⟩
    have declares : s.named? id.name =
        some (.functionName expr own :: expr.func.ownBindings.filter (·.name == own.name)) := by
      have isOwn : (Binding.functionName expr own).name == own.name := beq_self_eq_true own.name
      simp only [same, Scope.named?, owned.bindings, List.filter_cons, isOwn, if_true]
    rw [← same] at undeclared
    have resolved := FileIndex.resolve?_of_scopesFrom way undeclared declares
    exact ⟨resolved, by rw [FileIndex.primary?, resolved]; rfl⟩

/-- Whether a binding is a parameter, a variable or a function. -/
def Binding.isLocal : Binding → Bool
  | .param _ _ _ _ _ | .variable _ _ | .function _ => true
  | _ => false

/-- Function expressions with a parameter, a variable and a function of their own name. The function
    stands in a block, from where it goes to the scope of the function around. -/
def sharedNames : Program :=
  .ofTexts [("/a.js", "(function f(f) \x7b f; \x7d); (function g() \x7b var g; g; \x7d); " ++
    "(function h() \x7b \x7b function h() \x7b\x7d \x7d h; \x7d);")]

theorem primary?_ownName_sharedNames :
    ∃ file ∈ sharedNames.files, let index := FileIndex.build file.items
      index.references.map (·.name) = ["f", "g", "h"] ∧
      ∀ id ∈ index.references, ∃ expr own s outer,
        Binding.functionName expr own ∈ partsBindings (itemsParts file.items) ∧
        index.scopesFrom (index.scopeOf id) = s :: outer ∧ s.OwnedBy expr own ∧
        index.primary? id = some (.functionName expr own) := by
  have facts : ∃ file ∈ sharedNames.files, let index := FileIndex.build file.items
      index.references.map (·.name) = ["f", "g", "h"] ∧
      ∀ id ∈ index.references, (index.scopesFrom (index.scopeOf id)).head?.any (fun s =>
        s.bindings.any fun binding => binding.isFunctionName && binding.name == id.name) = true := by
    rw [sharedNames, Program.ofTexts_eq_ofBytes]
    decide +kernel
  obtain ⟨file, member, names, found⟩ := facts
  refine ⟨file, member, names, fun id used => ?_⟩
  have innermost := found id used
  simp only [Option.any_eq_true, List.any_eq_true, Bool.and_eq_true, beq_iff_eq] at innermost
  obtain ⟨s, first, binding, holds, isOwn, named⟩ := innermost
  obtain ⟨outer, way⟩ := List.head?_eq_some_iff.1 first
  cases binding with
  | functionName expr own =>
      have listed := FileIndex.mem_of_mem_chain (way ▸ List.mem_cons_self :
        s ∈ (FileIndex.build file.items).scopesFrom _)
      have declared : Binding.functionName expr own ∈ partsBindings (itemsParts file.items) := by
        refine (fileScopes_perm (itemsParts file.items)).subset ?_
        rw [← FileIndex.build_scopes]
        exact List.mem_flatMap.2 ⟨s, listed, holds⟩
      obtain ⟨owned, means⟩ := (primary?_ownName declared).2 s listed holds
      exact ⟨expr, own, s, outer, declared, way, owned,
        (means id [] outer named.symm way fun _ inNone => nomatch inNone).2⟩
  | _ => cases isOwn

/-- Each of the three names is used directly in the scope that declares the parameter, the variable or
    the function, and yet it is never that one that is meant. -/
theorem primary?_ownName_notLocal :
    ∃ file ∈ sharedNames.files, let index := FileIndex.build file.items
      index.references.map (fun id => (index.scopesFrom (index.scopeOf id)).head?.map fun s =>
          (s.bindings.filter (·.name == id.name)).map Binding.isLocal) =
        [some [false, true], some [false, true], some [false, true]] ∧
      ∀ id ∈ index.references, (index.primary? id).map (fun b => (b.isLocal, b.isFunctionName)) =
        some (false, true) := by
  rw [sharedNames, Program.ofTexts_eq_ofBytes]
  decide +kernel

end BundleLens
