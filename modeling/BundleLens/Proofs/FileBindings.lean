/-
Module: BundleLens.Proofs.FileBindings
Layer: Proofs
Purpose: What the names of a file are bound to. The scope of the file surrounds every identifier, so a
  name that the file declares at its top level is bound wherever it is used. Imports are bound by import
  declarations alone, and following a variable to the one that it receives never leaves the bindings of
  the file; so what a binding comes from is a declaration of the file or one of its import declarations.
Imports: BundleLens.Proofs.WrittenParts, BundleLens.Reflection.Origin
Main exports: ImportFree, Written.importFree, mem_items_of_imported, FileIndex.primary?_of_declared,
  FileIndex.mem_bindings_of_resolve?, FileIndex.mem_bindings_of_primary?, originOf_imported
-/
import BundleLens.Proofs.WrittenParts
import BundleLens.Reflection.Origin

namespace BundleLens

/-! ### Imports are bound by import declarations -/

/-- No declaration in the parts is an import. -/
def ImportFree (parts : List Part) : Prop :=
  ∀ binding ∈ partsBindings parts, binding.isImported = false

theorem partsBindings_append (ps qs : List Part) :
    partsBindings (ps ++ qs) = partsBindings ps ++ partsBindings qs := by
  induction ps with
  | nil => rfl
  | cons p rest ih => simp [partsBindings, ih]

/-- Parts that declare nothing but plain bindings and own names of functions declare no import. -/
theorem Written.importFree {parts : List Part} (written : Written Binding.IsPlain parts) :
    ImportFree parts := by
  unfold ImportFree
  induction written with
  | nil => exact fun _ member => nomatch member
  | use id _ ih => exact ih
  | declare home own _ ih => exact List.forall_mem_cons.2 ⟨own.notImported, ih⟩
  | scope ofFunction func _ _ ihInside ih => exact List.forall_mem_append.2 ⟨ihInside, ih⟩
  | named func own _ _ ihInside ih =>
      rw [Func.part_eq]
      exact List.forall_mem_append.2 ⟨List.forall_mem_cons.2 ⟨rfl, ihInside⟩, ih⟩

/-- An import that an item binds is one of an import declaration. -/
theorem Item.imported_mem_parts {item : Item} {decl : ImportDecl} {specifier : ImportSpecifier}
    (bound : Binding.imported decl specifier ∈ partsBindings item.parts) :
    item = .importDecl decl ∧ specifier ∈ decl.specifiers := by
  have otherwise {parts : List Part} (written : Written Binding.IsPlain parts)
      (member : Binding.imported decl specifier ∈ partsBindings parts) : False := by
    cases written.importFree _ member
  cases item with
  | importDecl other =>
      have listed : ∀ specifiers : List ImportSpecifier,
          partsBindings (specifiers.map fun s => Part.declaration .file (.imported other s)) =
            specifiers.map (Binding.imported other) := by
        intro specifiers
        induction specifiers with
        | nil => rfl
        | cons s rest ih => exact congrArg (List.cons (Binding.imported other s)) ih
      rw [Item.parts, listed, List.mem_map] at bound
      obtain ⟨found, member, same⟩ := bound
      cases same
      exact ⟨rfl, member⟩
  | stmt s => exact (otherwise s.parts_written bound).elim
  | exportDecl s => exact (otherwise s.parts_written bound).elim
  | exportList specifiers => exact (otherwise (.uses _) bound).elim
  | exportClass name cls => exact (otherwise (Expr.classExpr name cls).parts_written bound).elim
  | exportFunction name func => exact (otherwise (Expr.function name func).parts_written bound).elim
  | exportValue value => exact (otherwise value.parts_written bound).elim
  | exportFrom specifiers source => cases bound
  | exportAll source => cases bound
  | other => cases bound

/-- The imports of a file are bound by its import declarations. -/
theorem mem_items_of_imported {items : List Item} {decl : ImportDecl} {specifier : ImportSpecifier}
    (bound : Binding.imported decl specifier ∈ partsBindings (itemsParts items)) :
    Item.importDecl decl ∈ items ∧ specifier ∈ decl.specifiers := by
  induction items with
  | nil => cases bound
  | cons item rest ih =>
      rw [show itemsParts (item :: rest) = item.parts ++ itemsParts rest from rfl,
        partsBindings_append] at bound
      rcases List.mem_append.1 bound with here | behind
      · obtain ⟨rfl, member⟩ := Item.imported_mem_parts here
        exact ⟨List.mem_cons_self, member⟩
      · obtain ⟨later, member⟩ := ih behind
        exact ⟨List.mem_cons_of_mem _ later, member⟩

/-! ### The scope of the file surrounds everything -/

mutual

/-- What surrounds a part surrounds all identifiers in it. -/
theorem Part.around_suffix {around : List (List Binding)} : (p : Part) →
    ∀ sight ∈ p.sights around, around <:+ sight.2
  | .declaration _ binding => by
      intro sight member
      obtain rfl := List.mem_singleton.1 member
      exact List.suffix_refl around
  | .use id => by
      intro sight member
      obtain rfl := List.mem_singleton.1 member
      exact List.suffix_refl around
  | .scope ofFunction _ parts => by
      intro sight member
      exact (List.suffix_cons _ around).trans (partsAround_suffix parts sight member)

theorem partsAround_suffix {around : List (List Binding)} : (parts : List Part) →
    ∀ sight ∈ partsSights around parts, around <:+ sight.2
  | [] => by
      intro sight member
      cases member
  | p :: rest => by
      intro sight member
      rcases List.mem_append.1 member with here | behind
      · exact p.around_suffix sight here
      · exact partsAround_suffix rest sight behind

end

/-- The scope of the file is among the scopes around every place. -/
theorem mem_surroundings (parts : List Part) (span : Span) :
    partsDeclared (fun _ => true) parts ∈ surroundings parts span := by
  unfold surroundings
  cases found : (fileSights parts).reverse.find? (·.1.span == span) with
  | none => exact List.mem_singleton_self _
  | some sight =>
      have member : sight ∈ fileSights parts :=
        List.mem_reverse.1 (List.mem_of_find?_eq_some found)
      exact (partsAround_suffix parts sight member).subset (List.mem_singleton_self _)

theorem exists_nearest? {around : List (List Binding)} {declared : List Binding} {binding : Binding}
    (scope : declared ∈ around) (bound : binding ∈ declared) :
    ∃ first rest, nearest? around binding.name = some (first :: rest) := by
  have here : declared.filter (·.name == binding.name) ≠ [] := by
    intro empty
    simpa using List.filter_eq_nil_iff.1 empty binding bound
  cases result : nearest? around binding.name with
  | none =>
      have missing := List.findSome?_eq_none_iff.1 result declared scope
      cases filtered : declared.filter (·.name == binding.name) with
      | nil => exact absurd filtered here
      | cons first rest =>
          simp only [filtered] at missing
          cases missing
  | some found =>
      obtain ⟨other, _, chosen⟩ := List.exists_of_findSome?_eq_some result
      cases filtered : other.filter (·.name == binding.name) with
      | nil =>
          simp only [filtered] at chosen
          cases chosen
      | cons first rest =>
          simp only [filtered, Option.some.injEq] at chosen
          exact ⟨first, rest, by rw [chosen]⟩

/-! ### The index of a file -/

namespace FileIndex

theorem build_scopes (items : List Item) :
    (build items).scopes.toList = fileScopes (itemsParts items) := by
  have followed := (Walk.follow_start (itemsParts items)).1
  rw [← Walk.follow_itemsTrace] at followed
  exact followed

theorem build_resolve? (items : List Item) (id : Ident) :
    (build items).resolve? id = nearest? (surroundings (itemsParts items) id.span) id.name := by
  have followed := (Walk.follow_start (itemsParts items)).2
  rw [← Walk.follow_itemsTrace] at followed
  exact resolve?_eq_nearest? (build_scopes items) followed id

/-- A name that the file declares at its top level is bound at every place of the file. -/
theorem primary?_of_declared {items : List Item} {binding : Binding} {id : Ident}
    (declared : binding ∈ partsDeclared (fun _ => true) (itemsParts items))
    (named : binding.name = id.name) : ∃ found, (build items).primary? id = some found := by
  obtain ⟨first, rest, nearest⟩ := exists_nearest? (mem_surroundings _ id.span) declared
  rw [named, ← build_resolve?] at nearest
  unfold primary?
  rw [nearest]
  show ∃ found, primaryBinding? (first :: rest) = some found
  unfold primaryBinding?
  split
  · exact ⟨_, rfl⟩
  · exact ⟨first, rfl⟩

theorem mem_of_mem_chain {index : FileIndex} {s : Scope} :
    ∀ {fuel scope : Nat}, s ∈ index.chain fuel scope → s ∈ index.scopes.toList
  | 0, _, member => by cases member
  | fuel + 1, scope, member => by
      simp only [chain] at member
      cases found : index.scopes[scope]? with
      | none =>
          rw [found] at member
          cases member
      | some here =>
          rw [found] at member
          rcases List.mem_cons.1 member with rfl | outer
          · exact Array.mem_toList_iff.2 (Array.mem_of_getElem? found)
          · cases around : here.parent with
            | none =>
                rw [around] at outer
                cases outer
            | some parent =>
                rw [around] at outer
                exact mem_of_mem_chain outer

/-- All bindings of a name are declared somewhere in the file. -/
theorem mem_bindings_of_resolve? {items : List Item} {id : Ident} {bindings : List Binding}
    {binding : Binding} (resolved : (build items).resolve? id = some bindings)
    (listed : binding ∈ bindings) : binding ∈ partsBindings (itemsParts items) := by
  obtain ⟨scope, inside, named⟩ := List.exists_of_findSome?_eq_some resolved
  have stored : binding ∈ scope.bindings := by
    unfold Scope.named? at named
    split at named
    · cases named
    · cases named
      exact (List.mem_filter.1 listed).1
  refine (fileScopes_perm (itemsParts items)).subset ?_
  rw [← build_scopes]
  exact List.mem_flatMap.2 ⟨scope, mem_of_mem_chain inside, stored⟩

/-- What a name is bound to is declared somewhere in the file. -/
theorem mem_bindings_of_primary? {items : List Item} {id : Ident} {binding : Binding}
    (found : (build items).primary? id = some binding) :
    binding ∈ partsBindings (itemsParts items) := by
  obtain ⟨bindings, resolved, primary⟩ := Option.bind_eq_some_iff.1 found
  have listed : binding ∈ bindings := by
    unfold primaryBinding? at primary
    split at primary
    · rename_i first chosen
      cases primary
      exact List.mem_of_find?_eq_some chosen
    · exact List.mem_of_head? primary
  exact mem_bindings_of_resolve? resolved listed

end FileIndex

/-! ### Origins -/

/-- A variable stands for a binding of its own file. -/
theorem mem_bindings_of_standsFor? {items : List Item} {binding other : Binding}
    (stands : standsFor? (.build items) binding = some other) :
    other ∈ partsBindings (itemsParts items) := by
  obtain ⟨d, _, followed⟩ := Option.bind_eq_some_iff.1 stands
  split at followed
  · cases followed
  · obtain ⟨received, assigned, kept⟩ := Option.bind_eq_some_iff.1 followed
    split at kept
    · cases kept
    · cases kept
      obtain ⟨a, _, named⟩ := List.exists_of_findSome?_eq_some assigned
      obtain ⟨id, _, bound⟩ := Option.bind_eq_some_iff.1 named
      exact FileIndex.mem_bindings_of_primary? bound

theorem originWithin_imported {items : List Item} {decl : ImportDecl} {specifier : ImportSpecifier}
    {hops : Nat} {binding : Binding} (bound : binding ∈ partsBindings (itemsParts items))
    (origin : originWithin (.build items) hops binding = .imported decl specifier) :
    Binding.imported decl specifier ∈ partsBindings (itemsParts items) := by
  -- along the number of variables that may still be followed: the next one is a binding of the file too
  induction hops generalizing binding with
  | zero =>
      unfold originWithin at origin
      split at origin
      · cases origin
        exact bound
      · split at origin <;> cases origin
  | succ hops ih =>
      unfold originWithin at origin
      split at origin
      · cases origin
        exact bound
      · split at origin
        · cases origin
        · dsimp only at origin
          split at origin
          · rename_i other stands
            exact ih (mem_bindings_of_standsFor? stands) origin
          · cases origin

/-- What a binding of a file is imported by is one of the file's import declarations. -/
theorem originOf_imported {items : List Item} {decl : ImportDecl} {specifier : ImportSpecifier}
    {binding : Binding} (bound : binding ∈ partsBindings (itemsParts items))
    (origin : originOf (.build items) binding = .imported decl specifier) :
    Item.importDecl decl ∈ items ∧ specifier ∈ decl.specifiers :=
  mem_items_of_imported (originWithin_imported bound origin)

end BundleLens
