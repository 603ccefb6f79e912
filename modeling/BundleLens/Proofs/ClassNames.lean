/-
Module: BundleLens.Proofs.ClassNames
Layer: Proofs
Purpose: All names of a class lead to the class. A class goes by the variable or declaration that holds
  it, by the variables of its aliases, and by the name of its inner function or class. Wherever such a
  name is used, what it stands for leads to that class and to no other one, if the variables receive no
  other class and no other name. Every value that makes a variable a name of a class is among the values
  that the variable receives, so no other class can claim the variable.
Imports: BundleLens.Proofs.ClassKeys, BundleLens.Proofs.FileBindings
Main exports: Expr.classKey?, FileIndex.valuesOf, FileIndex.holders, FileIndex.names, FileIndex.Steady,
  classSymbol?_of_names
-/
import BundleLens.Proofs.ClassKeys
import BundleLens.Proofs.FileBindings

namespace BundleLens

/-! ### Declared variables -/

mutual

theorem Part.declare_mem_events {binding : Binding} : (p : Part) → binding ∈ p.bindings →
    ∃ home, Event.declare home binding ∈ p.events
  | .declaration home _, member => by
      cases List.mem_singleton.1 member
      exact ⟨home, List.mem_singleton_self _⟩
  | .use _, member => by cases member
  | .scope _ _ parts, member => by
      obtain ⟨home, inside⟩ := declare_mem_partsEvents parts member
      exact ⟨home, List.mem_cons_of_mem _ (List.mem_append_left _ inside)⟩

theorem declare_mem_partsEvents {binding : Binding} : (parts : List Part) →
    binding ∈ partsBindings parts → ∃ home, Event.declare home binding ∈ partsEvents parts
  | [], member => by cases member
  | p :: rest, member => by
      rcases List.mem_append.1 member with first | later
      · obtain ⟨home, inside⟩ := p.declare_mem_events first
        exact ⟨home, List.mem_append_left _ inside⟩
      · obtain ⟨home, inside⟩ := declare_mem_partsEvents rest later
        exact ⟨home, List.mem_append_right _ inside⟩

end

section Variables

variable {file : SourceFile} {d : Declarator} {id inner : Ident}

/-- A variable that is declared in a file is a node of it. -/
theorem SourceFile.declarator_mem_nodes
    (bound : Binding.variable d inner ∈ partsBindings (itemsParts file.items)) :
    SyntaxNode.declarator d ∈ file.nodes := by
  obtain ⟨home, shown⟩ := declare_mem_partsEvents _ bound
  rw [← itemsTrace_shows] at shown
  rcases (itemsTrace_covered file.items).declares home d inner (List.mem_filter.1 shown).1 with
    here | nowhere
  · exact here
  · cases nowhere

theorem FileIndex.declarator_mem_of_primary?
    (bound : (build file.items).primary? id = some (.variable d inner)) :
    SyntaxNode.declarator d ∈ file.nodes :=
  file.declarator_mem_nodes (mem_bindings_of_primary? bound)

theorem FileIndex.declarator_mem_of_declaratorOf? (bound : (build file.items).declaratorOf? id = some d) :
    SyntaxNode.declarator d ∈ file.nodes := by
  obtain ⟨bindings, resolved, first⟩ := Option.bind_eq_some_iff.1 bound
  obtain ⟨binding, listed, declares⟩ := List.exists_of_findSome?_eq_some first
  unfold Binding.declarator? at declares
  split at declares
  · cases declares
    exact file.declarator_mem_nodes (mem_bindings_of_resolve? resolved listed)
  · cases declares

end Variables

/-! ### Values that build classes -/

/-- The range of the inner function or class expression of the class that a value builds. -/
def Expr.classKey? (value : Expr) : Option Span :=
  match value.classIife?.map (·.inner), (aliasChain value).2 with
  | some inner, _ => some inner.func.span
  | none, .classExpr _ cls => some cls.span
  | none, _ => none

/-- Names in front of a value do not matter to the class that it builds. -/
theorem Expr.classKey?_of_chain {first second : Expr} (same : (aliasChain first).2 = (aliasChain second).2) :
    first.classKey? = second.classKey? := by
  have inner : first.classIife?.map (·.inner) = second.classIife?.map (·.inner) := by
    simp only [Expr.classIife?, same, Option.bind_eq_bind, Option.map_bind, Function.comp_def,
      Option.map_some]
  rw [Expr.classKey?, Expr.classKey?, inner, same]

section Values

variable {value : Expr} {outer : ClassOuter} {following : List Stmt} {shape : ClassShape} {id : Ident}

theorem classKey?_of_classOfValue? (builds : classOfValue? outer value following = some shape) :
    value.classKey? = some shape.implementation.span ∧ shape.aliases = (aliasChain value).1 := by
  unfold classOfValue? at builds
  split at builds
  · rename_i found isIife
    cases builds
    constructor
    · simp [Expr.classKey?, isIife, ClassShape.make, ClassShape.implementation, DeclNode.span]
    · simp only [Expr.classIife?, bind, Option.bind_eq_some_iff] at isIife
      obtain ⟨iife, _, body, _, name, _, decl, _, same⟩ := isIife
      cases same
      rfl
  · split at builds
    · rename_i notIife _ aliases name cls chain
      cases builds
      simp [Expr.classKey?, notIife, chain, ClassShape.make, ClassShape.implementation, DeclNode.span]
    · cases builds

theorem Pat.assign_mem_assignTrace {target : Pat} {a : Assignment} (named : target.ident? = some id)
    (isPlain : a.op = .plain) : Event.assign id a ∈ target.assignTrace a := by
  unfold Pat.ident? at named
  split at named
  · cases named
    simp [Pat.assignTrace, isPlain]
  · cases named

/-- Every name in front of a value is assigned something that builds the same class. -/
theorem assigned_of_aliasChain (isAlias : id ∈ (aliasChain value).1) :
    ∃ a, Event.assign id a ∈ value.trace ∧ a.value.classKey? = value.classKey? := by
  suffices assigned : ∃ a, Event.assign id a ∈ value.trace ∧
      (aliasChain a.value).2 = (aliasChain value).2 by
    obtain ⟨a, walked, same⟩ := assigned
    exact ⟨a, walked, Expr.classKey?_of_chain same⟩
  fun_induction aliasChain value with
  | case1 span inner ih => exact ih isAlias
  | case2 span target value first named ids last chain ih =>
      rw [chain] at ih
      rcases List.mem_cons.1 isAlias with rfl | later
      · refine ⟨⟨span, .plain, target, value⟩, ?_, ?_⟩
        · exact List.mem_append_left _ (Pat.assign_mem_assignTrace named rfl)
        · show (aliasChain value).2 = last
          rw [chain]
      · obtain ⟨a, walked, same⟩ := ih later
        exact ⟨a, List.mem_append_right _ walked, same⟩
  | case3 => cases isAlias
  | case4 => cases isAlias

theorem Expr.trace_bare (e : Expr) : e.bare.trace = e.trace := by
  induction e using Expr.bareInduction with
  | paren span inner ih => exact ih
  | other e isBare => rw [isBare.bare_eq]

theorem Expr.trace_assignment? {e : Expr} {a : Assignment} (assigned : e.assignment? = some a) :
    a.op = .plain ∧ e.trace = a.target.assignTrace a ++ a.value.trace := by
  rw [← e.trace_bare]
  unfold Expr.assignment? at assigned
  split at assigned
  · rename_i span target value same
    cases assigned
    rw [same]
    exact ⟨rfl, rfl⟩
  · cases assigned

theorem Declarator.trace_subset {d : Declarator} {ds : List Declarator} {home : Home} (listed : d ∈ ds)
    (initial : d.init = some value) : value.trace ⊆ declaratorsTrace home ds := by
  intro event walked
  induction ds with
  | nil => cases listed
  | cons first rest ih =>
      rcases List.mem_cons.1 listed with rfl | later
      · obtain ⟨span, pat, init⟩ := d
        cases initial
        exact List.mem_append_left _ (List.mem_append_right _ walked)
      · exact List.mem_append_right _ (ih later)

/-- The value that a statement builds a class of: it is walked over, it is the initial value of the
    variable that holds the class, and it is what is assigned to the name that holds the class. -/
structure Stmt.BuildsFrom (s : Stmt) (shape : ClassShape) (value : Expr) : Prop where
  key : value.classKey? = some shape.implementation.span
  aliases : shape.aliases = (aliasChain value).1
  walked : value.trace ⊆ s.trace
  initial : ∀ d id, shape.outer = .variable d id → d.init = some value
  assigned : ∀ a id, shape.outer = .assign a id → a.value = value ∧ Event.assign id a ∈ s.trace

/-- A class of a statement is declared by it, or built from a value of it. -/
theorem Stmt.classes_cases {s : Stmt} (holds : shape ∈ s.classes following) :
    (∃ decl, shape.outer = .classDecl decl ∧ shape.aliases = []) ∨ ∃ value, s.BuildsFrom shape value := by
  cases s with
  | vars span kind ds =>
      obtain ⟨d, listed, found⟩ := List.mem_filterMap.1 holds
      simp only [bind, Option.bind_eq_some_iff] at found
      obtain ⟨id, named, value, initial, builds⟩ := found
      obtain ⟨key, aliases⟩ := classKey?_of_classOfValue? builds
      have outer := classOfValue?_outer builds
      refine .inr ⟨value, key, aliases, Declarator.trace_subset listed initial, ?_, ?_⟩
      · intro other id same
        cases outer.symm.trans same
        exact initial
      · intro a id same
        cases outer.symm.trans same
  | classDecl name cls =>
      cases List.mem_singleton.1 holds
      exact .inl ⟨_, rfl, rfl⟩
  | expr span e =>
      obtain ⟨a, assigned, found⟩ := Option.bind_eq_some_iff.1 (Option.mem_toList.1 holds)
      obtain ⟨isPlain, trace⟩ := Expr.trace_assignment? assigned
      have walked : a.value.trace ⊆ e.trace := trace ▸ List.subset_append_right _ _
      obtain ⟨builds, outer⟩ := classOfAssignment?_outer found
      obtain ⟨key, aliases⟩ := classKey?_of_classOfValue? builds
      refine .inr ⟨a.value, key, aliases, walked, ?_, ?_⟩
      · intro d id same
        rcases outer with ⟨name, exported⟩ | ⟨other, _, assigned⟩
        · cases exported.symm.trans same
        · cases assigned.symm.trans same
      · intro other id same
        rcases outer with ⟨name, exported⟩ | ⟨own, named, assigned⟩
        · cases exported.symm.trans same
        · cases assigned.symm.trans same
          refine ⟨rfl, ?_⟩
          show _ ∈ e.trace
          rw [trace]
          exact List.mem_append_left _ (Pat.assign_mem_assignTrace named isPlain)
  | _ => cases holds

end Values

/-! ### Values of variables -/

namespace FileIndex

/-- The values that a variable receives: its initial value, and those that are assigned to it. -/
def valuesOf (index : FileIndex) (d : Declarator) : List Expr :=
  d.init.toList ++ (index.assignmentsTo d).map (·.value)

/-- The variables that hold a class: the one that is declared or assigned with it, and those of its
    aliases. -/
def holders (index : FileIndex) (shape : ClassShape) : List Declarator :=
  let outer := match shape.outer with
    | .variable d _ => [d]
    | .assign _ id => (index.declaratorOf? id).toList
    | .exports _ _ => []
    | .classDecl _ => []
  outer ++ shape.aliases.filterMap index.declaratorOf?

/-- Whether a binding is a name of a class: one of its variables, its declaration, or its inner function
    or class. -/
def names (index : FileIndex) (shape : ClassShape) : Binding → Bool
  | .variable d _ => (index.holders shape).any (·.span == d.span)
  | .classDecl decl =>
    match shape.outer with
    | .classDecl own => own.cls.span == decl.cls.span
    | _ => false
  | .function decl =>
    match shape.form with
    | .function inner _ => inner.func.span == decl.func.span
    | _ => false
  | .className expr _ =>
    match shape.form with
    | .native _ (some own) => own.cls.span == expr.cls.span
    | _ => false
  | _ => false

/-- The variables of a class receive no other class, and no name. -/
def Steady (index : FileIndex) (shape : ClassShape) : Prop :=
  ∀ d ∈ index.holders shape, ∀ value ∈ index.valuesOf d,
    value.ident?.isNone = true ∧ ∀ key ∈ value.classKey?, key = shape.implementation.span

instance (index : FileIndex) (shape : ClassShape) : Decidable (index.Steady shape) :=
  inferInstanceAs (Decidable (∀ d ∈ index.holders shape, ∀ value ∈ index.valuesOf d,
    value.ident?.isNone = true ∧ ∀ key ∈ value.classKey?, key = shape.implementation.span))

/-! ### Linked variables -/

theorem chain_congr {index other : FileIndex} (same : index.scopes = other.scopes) :
    ∀ fuel scope : Nat, index.chain fuel scope = other.chain fuel scope
  | 0, _ => rfl
  | fuel + 1, scope => by
      rw [chain, chain, same]
      split
      · rename_i s _
        cases s.parent with
        | none => rfl
        | some parent => simp only [chain_congr same fuel parent]
      · rfl

/-- Linking does not change what names are bound to. -/
theorem declaratorOf?_link (index : FileIndex) (id : Ident) :
    index.link.declaratorOf? id = index.declaratorOf? id := by
  have scopes : index.link.scopes = index.scopes := rfl
  have places : index.link.scopeOf id = index.scopeOf id := rfl
  simp only [declaratorOf?, resolve?, lookup?, scopesFrom, places, chain_congr scopes]

variable {file : SourceFile} {shape : ClassShape} {d : Declarator} {id : Ident} {i : Nat}

/-- The numbers that names lead to by the variables that they mean. -/
theorem mem_variablesOf {index : FileIndex} {names : List (Ident × Nat)} {span : Span} :
    (span, i) ∈ index.variablesOf names ↔
      ∃ id, (id, i) ∈ names ∧ (index.declaratorOf? id).map (·.span) = some span := by
  unfold variablesOf
  rw [List.mem_filterMap]
  constructor
  · rintro ⟨⟨id, number⟩, listed, found⟩
    obtain ⟨d, declared, same⟩ := Option.map_eq_some_iff.1 found
    cases same
    exact ⟨id, listed, by rw [declared]; rfl⟩
  · rintro ⟨id, listed, found⟩
    obtain ⟨d, declared, rfl⟩ := Option.map_eq_some_iff.1 found
    exact ⟨(id, i), listed, by simp [declared]⟩

theorem mem_aliasNames {index : FileIndex} :
    (id, i) ∈ index.aliasNames ↔ ∃ shape, index.class? i = some shape ∧ id ∈ shape.aliases := by
  unfold aliasNames
  simp only [List.mem_flatMap, List.mem_map, Prod.exists, Prod.mk.injEq, List.mk_mem_zipIdx_iff_getElem?]
  constructor
  · rintro ⟨shape, number, listed, other, isAlias, rfl, rfl⟩
    exact ⟨shape, listed, isAlias⟩
  · rintro ⟨shape, listed, isAlias⟩
    exact ⟨shape, i, listed, id, isAlias, rfl, rfl⟩

theorem mem_assignedNames {index : FileIndex} :
    (id, i) ∈ index.assignedNames ↔
      ∃ shape a, index.class? i = some shape ∧ shape.outer = .assign a id := by
  unfold assignedNames
  simp only [List.mem_filterMap, Prod.exists, List.mk_mem_zipIdx_iff_getElem?]
  constructor
  · rintro ⟨shape, number, listed, found⟩
    split at found
    · rename_i a other outer
      cases found
      exact ⟨shape, a, listed, outer⟩
    · cases found
  · rintro ⟨shape, a, listed, outer⟩
    exact ⟨shape, i, listed, by simp [outer]⟩

/-- A class at a number is built by a value that the statement of the class walks over. -/
theorem class?_cases (listed : (build file.items).class? i = some shape) :
    ∃ s : Stmt, s.trace ⊆ itemsTrace file.items ∧
      ((∃ decl, shape.outer = .classDecl decl ∧ shape.aliases = []) ∨
        ∃ value, s.BuildsFrom shape value) := by
  have walked := mem_classes_build.1 (List.mem_of_getElem? listed)
  obtain ⟨s, following, holds, inside⟩ := (itemsTrace_covered file.items).found shape walked
  exact ⟨s, inside, Stmt.classes_cases holds⟩

theorem mem_valuesOf {a : Assignment} (walked : Event.assign id a ∈ itemsTrace file.items)
    (means : ((build file.items).declaratorOf? id).map (·.span) = some d.span) :
    a.value ∈ (build file.items).valuesOf d := by
  refine List.mem_append_right _ (List.mem_map_of_mem ?_)
  refine List.mem_filterMap.2 ⟨(id, a), List.mem_filterMap.2 ⟨_, walked, rfl⟩, ?_⟩
  simp [means]

/-- What goes with a class by assignment: the names of its aliases, and the name that it is assigned
    to. -/
def goesBy (shape : ClassShape) (id : Ident) : Prop :=
  id ∈ shape.aliases ∨ ∃ a, shape.outer = .assign a id

/-- A variable receives every class that goes by it. -/
theorem receives_of_goesBy (listed : (build file.items).class? i = some shape) (goes : goesBy shape id)
    (means : ((build file.items).declaratorOf? id).map (·.span) = some d.span) :
    ∃ value ∈ (build file.items).valuesOf d, value.classKey? = some shape.implementation.span := by
  obtain ⟨s, inside, ⟨decl, declared, none⟩ | ⟨value, builds⟩⟩ := class?_cases listed
  · rcases goes with isAlias | ⟨a, assigned⟩
    · rw [none] at isAlias
      cases isAlias
    · cases declared.symm.trans assigned
  · rcases goes with isAlias | ⟨a, assigned⟩
    · rw [builds.aliases] at isAlias
      obtain ⟨a, walked, key⟩ := assigned_of_aliasChain isAlias
      exact ⟨a.value, mem_valuesOf (inside (builds.walked walked)) means, key.trans builds.key⟩
    · obtain ⟨same, walked⟩ := builds.assigned a id assigned
      exact ⟨a.value, mem_valuesOf (inside walked) means, same ▸ builds.key⟩

/-- A variable receives the class that it is declared with. -/
theorem receives_of_variable {inner : Ident} (listed : (build file.items).class? i = some shape)
    (declared : shape.outer = .variable d inner) :
    ∃ value ∈ (build file.items).valuesOf d, value.classKey? = some shape.implementation.span := by
  obtain ⟨s, _, ⟨decl, other, _⟩ | ⟨value, builds⟩⟩ := class?_cases listed
  · cases declared.symm.trans other
  · refine ⟨value, List.mem_append_left _ ?_, builds.key⟩
    rw [builds.initial d inner declared]
    exact List.mem_singleton_self _

section Steady

variable {other : ClassShape} {j : Nat}

/-- A variable of a class receives no second class. -/
theorem Steady.only (distinct : file.HasDistinctKeys) (steady : (build file.items).Steady shape)
    (listed : (build file.items).class? i = some shape) (holds : d ∈ (build file.items).holders shape)
    (listedToo : (build file.items).class? j = some other)
    (receives : ∃ value ∈ (build file.items).valuesOf d,
      value.classKey? = some other.implementation.span) : j = i := by
  obtain ⟨value, received, key⟩ := receives
  have same := (steady d holds value received).2 _ key
  have isKey : shape.implementation.span ∈ keysOfClass shape :=
    List.mem_append_left _ (List.mem_cons_of_mem _ List.mem_cons_self)
  have isKeyToo : other.implementation.span ∈ keysOfClass other :=
    List.mem_append_left _ (List.mem_cons_of_mem _ List.mem_cons_self)
  rw [same] at isKeyToo
  exact place_eq_of_key distinct.classes listedToo listed (ClassShape.mem_nodes_keys isKeyToo)
    (ClassShape.mem_nodes_keys isKey)

theorem mem_classAliases : (d.span, j) ∈ (build file.items).classAliases ↔
    ∃ other, (build file.items).class? j = some other ∧ ∃ id ∈ other.aliases,
      ((build file.items).declaratorOf? id).map (·.span) = some d.span := by
  have aliases : (build file.items).classAliases =
      ((unlinked (itemsTrace file.items)).variablesOf
        (unlinked (itemsTrace file.items)).aliasNames).reverse := rfl
  rw [aliases, List.mem_reverse, mem_variablesOf]
  constructor
  · rintro ⟨id, listed, means⟩
    obtain ⟨other, found, isAlias⟩ := mem_aliasNames.1 listed
    exact ⟨other, found, id, isAlias, by rw [build, declaratorOf?_link, means]⟩
  · rintro ⟨other, found, id, isAlias, means⟩
    refine ⟨id, mem_aliasNames.2 ⟨other, found, isAlias⟩, ?_⟩
    rwa [build, declaratorOf?_link] at means

/-- A variable of a class is an alias of no other class. -/
theorem Steady.aliasedClass?_cases (distinct : file.HasDistinctKeys)
    (steady : (build file.items).Steady shape)
    (listed : (build file.items).class? i = some shape) (holds : d ∈ (build file.items).holders shape) :
    ((build file.items).aliasedClass? d = none ∧ ∀ id ∈ shape.aliases,
        ((build file.items).declaratorOf? id).map (·.span) ≠ some d.span) ∨
      (build file.items).aliasedClass? d = some i := by
  cases found : (build file.items).aliasedClass? d with
  | some number =>
      right
      obtain ⟨before, behind, split, _⟩ := List.lookup_eq_some_iff.1 found
      have present : (d.span, number) ∈ (build file.items).classAliases := by simp [split]
      obtain ⟨other, listedToo, id, isAlias, means⟩ := mem_classAliases.1 present
      rw [steady.only distinct listed holds listedToo (receives_of_goesBy listedToo (.inl isAlias) means)]
  | none =>
      refine .inl ⟨rfl, ?_⟩
      intro id isAlias means
      have absent := List.lookup_eq_none_iff.1 found _
        (mem_classAliases.2 ⟨shape, listed, id, isAlias, means⟩)
      simp at absent

/-- A class that has the range of a variable for a key is declared with the variable. -/
theorem declared_of_key (distinct : file.HasDistinctKeys)
    (listed : (build file.items).class? j = some other) (inside : SyntaxNode.declarator d ∈ file.nodes)
    (isKey : d.span ∈ keysOfClass other) : ∃ inner, other.outer = .variable d inner := by
  obtain ⟨node, own, isKeyOfNode⟩ := List.mem_flatMap.1 (ClassShape.mem_nodes_keys isKey)
  have same : node = .declarator d :=
    eq_of_key distinct (nodes_subset listed own) inside isKeyOfNode (List.mem_singleton_self _)
  subst same
  rcases List.mem_cons.1 own with outer | inner
  · unfold ClassOuter.syntaxNode at outer
    split at outer
    · rename_i inner declared
      cases outer
      exact ⟨inner, declared⟩
    · cases outer
    · cases outer
    · cases outer
  · unfold ClassForm.syntaxNode? at inner
    split at inner
    · cases List.mem_singleton.1 inner
    · cases List.mem_singleton.1 inner
    · cases inner

/-- The variable that a class is assigned to leads to the class. -/
theorem Steady.classAt?_assigned (distinct : file.HasDistinctKeys)
    (steady : (build file.items).Steady shape) (listed : (build file.items).class? i = some shape)
    (holds : d ∈ (build file.items).holders shape) (inside : SyntaxNode.declarator d ∈ file.nodes)
    {a : Assignment} (assigned : shape.outer = .assign a id)
    (means : ((build file.items).declaratorOf? id).map (·.span) = some d.span) :
    (build file.items).classAt? d.span = some i := by
  rw [build, declaratorOf?_link] at means
  rw [classAt?, classKeys_build]
  apply lookup_of_unique
  · apply List.mem_append_right
    exact mem_variablesOf.2 ⟨id, mem_assignedNames.2 ⟨shape, a, listed, assigned⟩, means⟩
  · intro j present
    rcases List.mem_append.1 present with own | linked
    · obtain ⟨other, listedToo, isKey⟩ := mem_classKeys_unlinked.1 own
      obtain ⟨inner, declared⟩ := declared_of_key distinct listedToo inside isKey
      exact steady.only distinct listed holds listedToo (receives_of_variable listedToo declared)
    · obtain ⟨name, assignedToo, meansToo⟩ := mem_variablesOf.1 linked
      obtain ⟨other, b, listedToo, outer⟩ := mem_assignedNames.1 assignedToo
      rw [← declaratorOf?_link] at meansToo
      exact steady.only distinct listed holds listedToo
        (receives_of_goesBy listedToo (.inr ⟨b, outer⟩) meansToo)

/-- A variable of a class stands for no other name. -/
theorem Steady.standsFor? (steady : (build file.items).Steady shape)
    (holds : d ∈ (build file.items).holders shape) (inner : Ident) :
    standsFor? (build file.items) (.variable d inner) = none := by
  have nothing : receivedBinding? (build file.items) d = none := by
    refine List.findSome?_eq_none_iff.2 fun a assigned => ?_
    have unnamed := (steady d holds a.value (List.mem_append_right _ (List.mem_map_of_mem assigned))).1
    simp [Option.isNone_iff_eq_none.1 unnamed]
  simp [BundleLens.standsFor?, Binding.declarator?, nothing]

end Steady

end FileIndex

/-! ### What names of classes stand for -/

section Names

variable {program : Program} {file : SourceFile} {shape : ClassShape} {i : Nat} {d : Declarator}
  {id inner : Ident}

@[simp] theorem ClassShape.toDeclaration_node (shape : ClassShape) :
    shape.toDeclaration.node = shape.declaration := by
  unfold ClassShape.toDeclaration ClassShape.declaration
  cases shape.outer <;> rfl

theorem enumDeclaration?_node {index : FileIndex} {node : DeclNode} {span : Span} {found : Declaration}
    (isEnum : enumDeclaration? index node span = some found) : found.node = node := by
  obtain ⟨shape, _, same⟩ := Option.bind_eq_some_iff.1 isEnum
  cases same
  rfl

/-- A binding that names a class or an enumeration stands for it. -/
theorem originOf_of_shape {index : FileIndex} {binding : Binding} {found : Declaration}
    (own : binding.isImported = false) (isShape : shapeOf? index binding = some found) :
    originOf index binding = .declared found := by
  unfold originOf originWithin
  split
  · cases own
  · simp [isShape]

/-- A binding that names no shape and stands for no other name stands for itself. -/
theorem originOf_of_plain {index : FileIndex} {binding : Binding} (own : binding.isImported = false)
    (noShape : shapeOf? index binding = none) (alone : standsFor? index binding = none) :
    originOf index binding = .declared (plainDeclaration binding) := by
  unfold originOf maxHops originWithin
  split
  · cases own
  · simp [noShape, alone]

/-- What a variable of a class stands for is the class or the variable itself; a variable that is an
    alias stands for the class. -/
theorem originOf_holder (distinct : file.HasDistinctKeys)
    (steady : (FileIndex.build file.items).Steady shape)
    (listed : (FileIndex.build file.items).class? i = some shape)
    (holds : d ∈ (FileIndex.build file.items).holders shape) :
    ∃ found, originOf (.build file.items) (.variable d inner) = .declared found ∧
      (found.node = shape.declaration ∨ found.node = .variable d ∧ ∀ id ∈ shape.aliases,
        ((FileIndex.build file.items).declaratorOf? id).map (·.span) ≠ some d.span) := by
  rcases steady.aliasedClass?_cases distinct listed holds with ⟨notAlias, apart⟩ | isAlias
  · cases isEnum : enumDeclaration? (.build file.items) (.variable d) d.span with
    | some found =>
        refine ⟨found, originOf_of_shape rfl ?_, .inr ⟨enumDeclaration?_node isEnum, apart⟩⟩
        simp [shapeOf?, aliasedDeclaration?, notAlias, isEnum]
    | none =>
        refine ⟨_, originOf_of_plain rfl ?_ (steady.standsFor? holds inner), .inr ⟨rfl, apart⟩⟩
        simp [shapeOf?, aliasedDeclaration?, notAlias, isEnum]
  · refine ⟨shape.toDeclaration, originOf_of_shape rfl ?_, .inl shape.toDeclaration_node⟩
    simp [shapeOf?, aliasedDeclaration?, isAlias, listed]

/-- A variable of a class is a node of its file. -/
theorem FileIndex.declarator_mem_of_holders (listed : (build file.items).class? i = some shape)
    (holds : d ∈ (build file.items).holders shape) : SyntaxNode.declarator d ∈ file.nodes := by
  rcases List.mem_append.1 holds with outer | isAlias
  · split at outer
    · rename_i own inner declared
      cases List.mem_singleton.1 outer
      apply nodes_subset listed
      simp [ClassShape.nodes, declared, ClassOuter.syntaxNode]
    · exact declarator_mem_of_declaratorOf? (Option.mem_toList.1 outer)
    · cases outer
    · cases outer
  · obtain ⟨id, _, means⟩ := List.mem_filterMap.1 isAlias
    exact declarator_mem_of_declaratorOf? means

/-- What a variable of a class stands for leads to the class. -/
theorem classSymbol?_of_holder (built : program.Built) (member : file ∈ program.files)
    (distinct : file.HasDistinctKeys) (steady : (FileIndex.build file.items).Steady shape)
    (listed : (FileIndex.build file.items).class? i = some shape)
    (holds : d ∈ (FileIndex.build file.items).holders shape) (host : HostKind) :
    ∃ found, originOf (.build file.items) (.variable d inner) = .declared found ∧
      (World.ofProgram program host).classSymbol? found.node = some ⟨file.id, i, shape⟩ := by
  have inside := FileIndex.declarator_mem_of_holders listed holds
  have located : (World.ofProgram program host).viewAt? d.span.lo = some (.ofFile file) :=
    built.viewAt?_of_node member inside
  obtain ⟨found, origin, same | ⟨same, apart⟩⟩ := originOf_holder distinct steady listed holds
  · refine ⟨found, origin, ?_⟩
    rw [same]
    exact World.classSymbol?_declaration built member distinct listed
  · refine ⟨found, origin, ?_⟩
    rw [same]
    rcases List.mem_append.1 holds with outer | isAlias
    · split at outer
      · rename_i own name declared
        cases List.mem_singleton.1 outer
        have own : DeclNode.variable d = shape.declaration := by
          simp [ClassShape.declaration, declared]
        rw [own]
        exact World.classSymbol?_declaration built member distinct listed
      · rename_i a id assigned
        have means : ((FileIndex.build file.items).declaratorOf? id).map (·.span) = some d.span := by
          rw [Option.mem_toList.1 outer]
          rfl
        have number := steady.classAt?_assigned distinct listed holds inside assigned means
        have nodeSpan : (DeclNode.variable d).span = d.span := rfl
        simp [World.classSymbol?, nodeSpan, located, World.classNumber?, FileView.ofFile, number, listed]
      · cases outer
      · cases outer
    · obtain ⟨id, listedAlias, means⟩ := List.mem_filterMap.1 isAlias
      exact absurd (by rw [means]; rfl) (apart id listedAlias)

/-- The range of the inner node of a class leads to the declaration of the class. -/
theorem classDeclarationAt?_of_inner (distinct : file.HasDistinctKeys)
    (listed : (FileIndex.build file.items).class? i = some shape) {span : Span}
    (same : shape.implementation.span = span) :
    classDeclarationAt? (.build file.items) span = some shape.toDeclaration := by
  have isKey : span ∈ FileIndex.keysOfClass shape :=
    List.mem_append_left _ (same ▸ List.mem_cons_of_mem _ List.mem_cons_self)
  simp [classDeclarationAt?, FileIndex.classAt?_of_key distinct listed isKey, listed]

/-- A binding that is looked up by the range of the inner node of a class leads to the class. -/
theorem classSymbol?_of_inner (built : program.Built) (member : file ∈ program.files)
    (distinct : file.HasDistinctKeys) (listed : (FileIndex.build file.items).class? i = some shape)
    {binding : Binding} {span : Span} (own : binding.isImported = false)
    (lookup : shapeOf? (.build file.items) binding = classDeclarationAt? (.build file.items) span)
    (same : shape.implementation.span = span) (host : HostKind) :
    ∃ found, originOf (.build file.items) binding = .declared found ∧
      (World.ofProgram program host).classSymbol? found.node = some ⟨file.id, i, shape⟩ := by
  have isShape := lookup.trans (classDeclarationAt?_of_inner distinct listed same)
  refine ⟨_, originOf_of_shape own isShape, ?_⟩
  rw [shape.toDeclaration_node]
  exact World.classSymbol?_declaration built member distinct listed

/-- What a name of a class stands for leads to the class. -/
theorem classSymbol?_of_binding (built : program.Built) (member : file ∈ program.files)
    (distinct : file.HasDistinctKeys) (steady : (FileIndex.build file.items).Steady shape)
    (listed : (FileIndex.build file.items).class? i = some shape) {binding : Binding}
    (bound : (FileIndex.build file.items).primary? id = some binding)
    (names : (FileIndex.build file.items).names shape binding = true) (host : HostKind) :
    ∃ found, originOf (.build file.items) binding = .declared found ∧
      (World.ofProgram program host).classSymbol? found.node = some ⟨file.id, i, shape⟩ := by
  unfold FileIndex.names at names
  split at names
  · rename_i d inner
    obtain ⟨own, holds, same⟩ := List.any_eq_true.1 names
    have here := FileIndex.declarator_mem_of_primary? bound
    have there := FileIndex.declarator_mem_of_holders listed holds
    have key : own.span ∈ (SyntaxNode.declarator d).classKeys := by
      rw [eq_of_beq same]
      exact List.mem_singleton_self _
    cases eq_of_key distinct there here (List.mem_singleton_self _) key
    exact classSymbol?_of_holder built member distinct steady listed holds host
  · rename_i decl
    split at names
    · rename_i own declared
      have same : shape.declaration.span = decl.cls.span := by
        rw [ClassShape.declaration, declared]
        exact eq_of_beq names
      refine ⟨_, originOf_of_plain rfl rfl rfl, World.classSymbol?_of_key distinct listed ?_ ?_⟩
      · show (World.ofProgram program host).viewAt? decl.cls.span.lo = _
        rw [← same]
        exact shape.viewAt?_declaration built member listed
      · show decl.cls.span ∈ _
        rw [← same]
        exact List.mem_cons_self
    · cases names
  · rename_i decl
    split at names
    · rename_i inner iife form
      have same : shape.implementation.span = decl.func.span := by
        rw [ClassShape.implementation, form]
        exact eq_of_beq names
      exact classSymbol?_of_inner built member distinct listed rfl rfl same host
    · cases names
  · rename_i expr inner
    split at names
    · rename_i cls own form
      have same : shape.implementation.span = expr.cls.span := by
        rw [ClassShape.implementation, form]
        exact eq_of_beq names
      exact classSymbol?_of_inner built member distinct listed rfl rfl same host
    · cases names
  · cases names

/-- A name that is used in a file stands in the file. -/
theorem viewAt?_of_reference (built : program.Built) (member : file ∈ program.files)
    (used : id ∈ (FileIndex.build file.items).references) (host : HostKind) :
    (World.ofProgram program host).viewAt? id.span.lo = some (.ofFile file) := by
  obtain ⟨event, walked, uses⟩ := List.mem_filterMap.1 used
  unfold Event.reference? at uses
  split at uses
  · cases uses
    rcases (itemsTrace_covered file.items).uses id walked with here | here
    · exact built.viewAt?_of_node member here
    · exact built.viewAt?_of_node member here
  · cases uses

/-- A name that is declared in its file stands for what declares it. -/
theorem declarationOfIdentifier_of_declared (built : program.Built) (member : file ∈ program.files)
    (used : id ∈ (FileIndex.build file.items).references) {binding : Binding} {found : Declaration}
    (bound : (FileIndex.build file.items).primary? id = some binding)
    (origin : originOf (.build file.items) binding = .declared found) (memory : Memory) :
    (((World.ofProgram program .modules).declarationOfIdentifier id).run memory).1 = some found := by
  have located := viewAt?_of_reference built member used .modules
  have primary : (FileView.ofFile file).index.primary? id = some binding := bound
  have inquiry : (World.ofProgram program .modules).identifierInquiry id = .done (some found) := by
    simp only [World.identifierInquiry, located]
    have lexical : identifierDeclaration (World.ofProgram program .modules) (.ofFile file) id =
        lexicalDeclaration (World.ofProgram program .modules) (.ofFile file) id := rfl
    have declared : originOf (FileView.ofFile file).index binding = .declared found := origin
    simp only [lexical, lexicalDeclaration, primary, bindingDeclaration, declared]
    rfl
  rw [World.declarationOfIdentifier, inquiry]
  rfl

/-- Both nodes of a class lead to the class. If moreover its variables receive no other class and no
    name, every name of the class leads to it, wherever the name is used. -/
theorem classSymbol?_of_names (built : program.Built) (member : file ∈ program.files)
    (distinct : file.HasDistinctKeys) (listed : (FileIndex.build file.items).class? i = some shape) :
    let w := World.ofProgram program .modules
    let index := FileIndex.build file.items
    w.classSymbol? shape.declaration = some ⟨file.id, i, shape⟩ ∧
      w.classSymbol? shape.implementation = some ⟨file.id, i, shape⟩ ∧
      (index.Steady shape → ∀ id ∈ index.references, ∀ binding, index.primary? id = some binding →
        index.names shape binding = true → ∀ memory, ∃ d,
          ((w.declarationOfIdentifier id).run memory).1 = some d ∧
          w.classSymbol? d.node = some ⟨file.id, i, shape⟩) := by
  intro w index
  refine ⟨World.classSymbol?_declaration built member distinct listed,
    World.classSymbol?_implementation built member distinct listed, ?_⟩
  intro steady id used binding bound names memory
  obtain ⟨found, origin, symbol⟩ :=
    classSymbol?_of_binding built member distinct steady listed bound names .modules
  exact ⟨found, declarationOfIdentifier_of_declared built member used bound origin memory, symbol⟩

end Names

/-- A module with classes of every kind, each used by all of its names. -/
def manyNames : Program :=
  .ofTexts [("/a.js", "var A = A_1 = (function () \x7b function A() \x7b\x7d return A; \x7d()); " ++
      "var A_1, C; " ++
    "C = class D \x7b m() \x7b D; \x7d \x7d; class E \x7b\x7d A; A_1; C; E;")]

/-- Each name that is used there leads to its class. -/
theorem classSymbol?_of_names_manyNames :
    let w := World.ofProgram manyNames .modules
    ∃ file ∈ manyNames.files, file.HasDistinctKeys ∧
      let index := FileIndex.build file.items
      let number? := fun id => (index.primary? id).bind fun binding =>
        index.classes.findIdx? (index.names · binding)
      index.references.map number? =
          [some 0, some 0, some 1, some 1, some 0, some 0, some 1, some 2] ∧
        ∀ id ∈ index.references, ∀ i, number? id = some i → ∃ d,
          ((w.declarationOfIdentifier id).run .empty).1 = some d ∧
          (w.classSymbol? d.node).map (·.number) = some i := by
  have facts : ∃ file ∈ manyNames.files, file.HasDistinctKeys ∧
      let index := FileIndex.build file.items
      (∀ shape ∈ index.classes, index.Steady shape) ∧
        index.references.map (fun id => (index.primary? id).bind fun binding =>
          index.classes.findIdx? (index.names · binding)) =
          [some 0, some 0, some 1, some 1, some 0, some 0, some 1, some 2] := by
    rw [manyNames, Program.ofTexts_eq_ofBytes]
    decide +kernel
  obtain ⟨file, member, distinct, steady, numbers⟩ := facts
  refine ⟨file, member, distinct, numbers, ?_⟩
  intro id used i named
  obtain ⟨binding, bound, found⟩ := Option.bind_eq_some_iff.1 named
  obtain ⟨inside, names, _⟩ := List.findIdx?_eq_some_iff_getElem.1 found
  have listed := List.getElem?_eq_getElem inside
  have built : manyNames.Built := .ofTexts _
  obtain ⟨_, _, lead⟩ := classSymbol?_of_names built member distinct listed
  obtain ⟨d, answered, symbol⟩ :=
    lead (steady _ (List.getElem_mem inside)) id used binding bound names .empty
  exact ⟨d, answered, by rw [symbol]; rfl⟩

end BundleLens
