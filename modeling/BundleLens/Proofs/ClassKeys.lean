/-
Module: BundleLens.Proofs.ClassKeys
Layer: Proofs
Purpose: Classes are found by their nodes. The nodes that are entered while classes are found make one
  table of all classes. If no two nodes that classes are found by have one range, then no two classes of
  a file have one, since no two classes are made of one node. So the range of the outer or the inner
  node of a class leads to that class, and the node to its symbol.
Imports: BundleLens.Proofs.TraceNodes, BundleLens.Proofs.FileBounds, BundleLens.Reflection.ClassSymbol
Main exports: SyntaxNode.classKeys, SourceFile.HasDistinctKeys, keyTable, Arena.foldl_add,
  FileIndex.mem_classKeys_unlinked, FileIndex.classAt?_of_key, World.classSymbol?_declaration,
  World.classSymbol?_implementation
-/
import BundleLens.Proofs.FileBounds
import BundleLens.Proofs.TraceNodes
import BundleLens.Reflection.ClassSymbol

namespace BundleLens

/-! ### Ranges of nodes -/

/-- The ranges by which a class may be found that a node is part of. -/
def SyntaxNode.classKeys : SyntaxNode → List Span
  | .expr (.assign span _ _ _) => [span]
  | .expr (.classExpr _ cls) => [cls.span]
  | .expr _ => []
  | .name _ => []
  | .declarator d => [d.span]
  | .function decl => [decl.func.span, decl.name.span]
  | .classDecl decl => [decl.cls.span]

/-- No two nodes of a file that classes are found by have one range. -/
def SourceFile.HasDistinctKeys (file : SourceFile) : Prop :=
  (file.nodes.flatMap SyntaxNode.classKeys).Nodup

instance (file : SourceFile) : Decidable file.HasDistinctKeys :=
  inferInstanceAs (Decidable (List.Nodup _))

theorem ClassShape.declaration_key (shape : ClassShape) :
    shape.declaration.span ∈ shape.outer.syntaxNode.classKeys := by
  unfold ClassShape.declaration
  cases shape.outer <;> exact List.mem_singleton_self _

/-- Every range that a class is found by is a range of one of its nodes. -/
theorem ClassShape.mem_nodes_keys {shape : ClassShape} {key : Span}
    (isKey : key ∈ FileIndex.keysOfClass shape) : key ∈ shape.nodes.flatMap SyntaxNode.classKeys := by
  have outer := shape.declaration_key
  rw [ClassShape.nodes, List.flatMap_cons]
  simp only [FileIndex.keysOfClass, List.mem_append, List.mem_cons, List.not_mem_nil, or_false,
    ClassShape.implementation] at isKey
  rcases isKey with (rfl | rfl) | named
  · exact List.mem_append_left _ outer
  · split
    · rename_i inner iife form
      simp [form, ClassForm.syntaxNode?, SyntaxNode.classKeys, DeclNode.span]
    · rename_i cls expr form
      simp [form, ClassForm.syntaxNode?, SyntaxNode.classKeys, DeclNode.span]
    · exact List.mem_append_left _ outer
  · cases form : shape.form with
    | function inner iife =>
        rw [form] at named
        cases List.mem_singleton.1 named
        simp [ClassForm.syntaxNode?, SyntaxNode.classKeys]
    | native cls expr =>
        rw [form] at named
        cases named

/-! ### Things with one range -/

section Things

variable {α : Type} {keys : α → List Span} {things : List α} {key : Span}

/-- Things at two places have no range in common, if all ranges are different. -/
theorem place_eq_of_key (distinct : (things.flatMap keys).Nodup) {i j : Nat} {first second : α}
    (here : things[i]? = some first) (there : things[j]? = some second)
    (isKey : key ∈ keys first) (isKeyToo : key ∈ keys second) : i = j := by
  obtain ⟨_, apart⟩ := List.pairwise_flatMap.1 distinct
  rw [List.pairwise_iff_getElem] at apart
  obtain ⟨inside, rfl⟩ := List.getElem?_eq_some_iff.1 here
  obtain ⟨insideToo, rfl⟩ := List.getElem?_eq_some_iff.1 there
  rcases Nat.lt_trichotomy i j with less | same | more
  · exact absurd rfl (apart i j inside insideToo less key isKey key isKeyToo)
  · exact same
  · exact absurd rfl (apart j i insideToo inside more key isKeyToo key isKey)

/-- Two things with one range are the same thing, if all ranges are different. -/
theorem eq_of_key (distinct : (things.flatMap keys).Nodup) {first second : α} (here : first ∈ things)
    (there : second ∈ things) (isKey : key ∈ keys first) (isKeyToo : key ∈ keys second) :
    first = second := by
  obtain ⟨i, atPlace⟩ := List.getElem?_of_mem here
  obtain ⟨j, atOther⟩ := List.getElem?_of_mem there
  have same := place_eq_of_key distinct atPlace atOther isKey isKeyToo
  rw [same, atOther] at atPlace
  exact (Option.some.inj atPlace).symm

/-- A table leads to the one number that it holds for a range. -/
theorem lookup_of_unique {table : List (Span × Nat)} {number : Nat} (present : (key, number) ∈ table)
    (unique : ∀ other, (key, other) ∈ table → other = number) : table.lookup key = some number := by
  cases found : table.lookup key with
  | none =>
      have absent := List.lookup_eq_none_iff.1 found _ present
      simp at absent
  | some other =>
      obtain ⟨before, behind, rfl, _⟩ := List.lookup_eq_some_iff.1 found
      rw [unique other (List.mem_append_right _ List.mem_cons_self)]

/-! ### Tables of nodes -/

/-- A table of nodes from the things that can be found by them, numbered from the first number on. Of
    two things with one node the later one counts. -/
def keyTable (keys : α → List Span) (things : List α) (first : Nat) : List (Span × Nat) :=
  ((things.zipIdx first).flatMap fun (thing, i) => (keys thing).map (·, i)).reverse

/-- The nodes that are entered as each thing is found make the table of all things. -/
theorem Arena.foldl_add (keys : α → List Span) (things : List α) (arena : Arena α) :
    things.foldl (Arena.add keys) arena =
      ⟨arena.things ++ things, keyTable keys things arena.things.length ++ arena.keys⟩ := by
  induction things generalizing arena with
  | nil => simp [keyTable]
  | cons thing rest ih =>
      rw [List.foldl_cons, ih]
      simp [Arena.add, keyTable, List.zipIdx_cons]

/-- At the start nothing is found, so the first thing gets the number zero. -/
theorem Arena.foldl_add_empty (keys : α → List Span) (things : List α) :
    things.foldl (Arena.add keys) .empty = ⟨things, keyTable keys things 0⟩ := by
  simp [Arena.foldl_add, Arena.empty]

theorem mem_keyTable {number : Nat} : (key, number) ∈ keyTable keys things 0 ↔
    ∃ thing, things[number]? = some thing ∧ key ∈ keys thing := by
  unfold keyTable
  simp only [List.mem_reverse, List.mem_flatMap, List.mem_map, Prod.mk.injEq, Prod.exists]
  constructor
  · rintro ⟨thing, place, listed, found, isKey, rfl, rfl⟩
    exact ⟨thing, List.mk_mem_zipIdx_iff_getElem?.1 listed, isKey⟩
  · rintro ⟨thing, listed, isKey⟩
    exact ⟨thing, number, List.mk_mem_zipIdx_iff_getElem?.2 listed, key, isKey, rfl, rfl⟩

end Things

namespace FileIndex

variable {events : List Event} {items : List Item} {key : Span} {number : Nat}

theorem classes_unlinked : (unlinked events).classes = events.filterMap Event.class? := by
  simp [unlinked, Arena.foldl_add_empty]

theorem classes_build : (build items).classes = (itemsTrace items).filterMap Event.class? :=
  classes_unlinked

/-- The classes of a file are those that the walk over it finds. -/
theorem mem_classes_build {shape : ClassShape} :
    shape ∈ (build items).classes ↔ .foundClass shape ∈ itemsTrace items := by
  rw [classes_build, List.mem_filterMap]
  constructor
  · rintro ⟨event, walked, isClass⟩
    unfold Event.class? at isClass
    split at isClass
    · cases isClass
      exact walked
    · cases isClass
  · intro walked
    exact ⟨_, walked, rfl⟩

/-- The nodes that lead to a class without any link are those of the classes. -/
theorem mem_classKeys_unlinked : (key, number) ∈ (unlinked events).classKeys ↔
    ∃ shape, (unlinked events).classes[number]? = some shape ∧ key ∈ keysOfClass shape := by
  simp only [unlinked, Arena.foldl_add_empty, mem_keyTable]

theorem mem_enumKeys_unlinked : (key, number) ∈ (unlinked events).enumKeys ↔
    ∃ shape, (unlinked events).enums[number]? = some shape ∧ key ∈ keysOfEnum shape := by
  simp only [unlinked, Arena.foldl_add_empty, mem_keyTable]

/-- Nodes of classes come first, and then the variables that classes are assigned to. -/
theorem classKeys_build : (build items).classKeys = (unlinked (itemsTrace items)).classKeys ++
    (unlinked (itemsTrace items)).variablesOf (unlinked (itemsTrace items)).assignedNames := rfl

end FileIndex

/-! ### Classes of a file -/

section Classes

variable {file : SourceFile} {shape other : ClassShape} {i j : Nat} {key : Span}

/-- The ranges that the classes of a file are found by are different. -/
theorem SourceFile.HasDistinctKeys.classes (distinct : file.HasDistinctKeys) :
    ((FileIndex.build file.items).classes.flatMap fun shape =>
      shape.nodes.flatMap SyntaxNode.classKeys).Nodup := by
  have flat : ((FileIndex.build file.items).classes.flatMap fun shape =>
      shape.nodes.flatMap SyntaxNode.classKeys) =
      (classNodes (itemsTrace file.items)).flatMap SyntaxNode.classKeys := by
    rw [FileIndex.classes_build]
    exact List.flatMap_assoc.symm
  rw [flat]
  unfold SourceFile.HasDistinctKeys at distinct
  rw [List.nodup_iff_count] at distinct ⊢
  intro key
  have counted := (itemsTrace_covered file.items).classes fun node => node.classKeys.count key
  have few := distinct key
  rw [List.count_flatMap] at few ⊢
  simp only [weigh_nil, Nat.zero_add] at counted
  exact Nat.le_trans counted few

/-- A range leads to the class that is found by it. -/
theorem FileIndex.classAt?_of_key (distinct : file.HasDistinctKeys)
    (listed : (build file.items).class? i = some shape) (isKey : key ∈ keysOfClass shape) :
    (build file.items).classAt? key = some i := by
  have found : (unlinked (itemsTrace file.items)).classKeys.lookup key = some i := by
    apply lookup_of_unique
    · exact mem_classKeys_unlinked.2 ⟨shape, listed, isKey⟩
    · intro j present
      obtain ⟨other, listedToo, isKeyToo⟩ := mem_classKeys_unlinked.1 present
      exact place_eq_of_key distinct.classes listedToo listed (ClassShape.mem_nodes_keys isKeyToo)
        (ClassShape.mem_nodes_keys isKey)
  rw [classAt?, classKeys_build, List.lookup_append, found]
  rfl

/-- A class of a file is made of nodes of the file. -/
theorem FileIndex.nodes_subset (listed : (build file.items).class? i = some shape) :
    shape.nodes ⊆ file.nodes := by
  intro node inside
  have found : shape ∈ (build file.items).classes := List.mem_of_getElem? listed
  rw [classes_build] at found
  apply (itemsTrace_covered file.items).classNodes_subset
  exact List.mem_flatMap.2 ⟨shape, found, inside⟩

end Classes

/-! ### Symbols -/

section Symbols

variable {program : Program} {file : SourceFile} {host : HostKind} {shape : ClassShape} {i : Nat}

/-- A node of a file that is at a range of a class leads to the class. -/
theorem World.classSymbol?_of_key (distinct : file.HasDistinctKeys)
    (listed : (FileIndex.build file.items).class? i = some shape) {node : DeclNode}
    (located : (World.ofProgram program host).viewAt? node.span.lo = some (.ofFile file))
    (isKey : node.span ∈ FileIndex.keysOfClass shape) :
    (World.ofProgram program host).classSymbol? node = some ⟨file.id, i, shape⟩ := by
  have found := FileIndex.classAt?_of_key distinct listed isKey
  simp [World.classSymbol?, located, World.classNumber?, FileView.ofFile, found, listed]

/-- The node that declares a class stands in the file of the class. -/
theorem ClassShape.viewAt?_declaration (built : program.Built) (member : file ∈ program.files)
    (listed : (FileIndex.build file.items).class? i = some shape) :
    (World.ofProgram program host).viewAt? shape.declaration.span.lo = some (.ofFile file) := by
  have inside : shape.outer.syntaxNode ∈ file.nodes := FileIndex.nodes_subset listed List.mem_cons_self
  have same : shape.outer.syntaxNode.span = shape.declaration.span := by
    unfold ClassShape.declaration
    cases shape.outer <;> rfl
  rw [← same]
  exact built.viewAt?_of_node member inside

/-- The node that declares a class leads to the class. -/
theorem World.classSymbol?_declaration (built : program.Built) (member : file ∈ program.files)
    (distinct : file.HasDistinctKeys) (listed : (FileIndex.build file.items).class? i = some shape) :
    (World.ofProgram program host).classSymbol? shape.declaration = some ⟨file.id, i, shape⟩ :=
  classSymbol?_of_key distinct listed (shape.viewAt?_declaration built member listed) List.mem_cons_self

/-- The node that holds the constructor of a class leads to the class. -/
theorem World.classSymbol?_implementation (built : program.Built) (member : file ∈ program.files)
    (distinct : file.HasDistinctKeys) (listed : (FileIndex.build file.items).class? i = some shape) :
    (World.ofProgram program host).classSymbol? shape.implementation = some ⟨file.id, i, shape⟩ := by
  apply classSymbol?_of_key distinct listed
  · have inside := FileIndex.nodes_subset listed
    unfold ClassShape.implementation
    split
    · rename_i inner iife form
      have own : SyntaxNode.function inner ∈ file.nodes :=
        inside (by simp [ClassShape.nodes, form, ClassForm.syntaxNode?])
      exact built.viewAt?_of_node member own
    · rename_i cls expr form
      have own : SyntaxNode.expr (.classExpr expr.name expr.cls) ∈ file.nodes :=
        inside (by simp [ClassShape.nodes, form, ClassForm.syntaxNode?])
      exact built.viewAt?_of_node member own
    · exact shape.viewAt?_declaration built member listed
  · exact List.mem_cons_of_mem _ List.mem_cons_self

end Symbols

end BundleLens
