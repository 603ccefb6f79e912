/-
Module: BundleLens.Proofs.ExportedClasses
Layer: Proofs
Purpose: Classes that modules export and what may be asked about them. The table of a module is made
  from its items, and classes are found by another walk over them. Every class that the top level of a
  file declares, or holds by name, is found, and so answers the questions of classes wherever a table
  leads to it. A class that is declared by being the default export is not found.
Imports: BundleLens.Proofs.BoundExports, BundleLens.Proofs.ClassNames
Main exports: SourceFile.classNodes, SourceFile.defaultClasses, World.AnswersAsClass,
  World.RefusesAsClass, exportedClasses_answer
-/
import BundleLens.Proofs.BoundExports
import BundleLens.Proofs.ClassNames

namespace BundleLens

/-! ### Classes of the top level -/

/-- The class expression that an expression is, at the end of a chain of assignments. -/
def Expr.classValue? (value : Expr) : Option DeclNode :=
  match (aliasChain value).2 with
  | .classExpr name cls => some (.classExpr ⟨name, cls⟩)
  | _ => none

/-- The class that a statement declares, or the class expressions that its variables or its assignment
    hold under a name. -/
def Stmt.classNodes : Stmt → List DeclNode
  | .classDecl name cls => [.classDecl ⟨name, cls⟩]
  | .vars _ _ ds => ds.filterMap fun d => do
    let _ ← d.pat.ident?
    (← d.init).classValue?
  | .expr _ e => (e.assignment?.bind fun a =>
    if a.exported?.isSome || a.target.ident?.isSome then a.value.classValue? else none).toList
  | _ => []

/-- The statement of an item, exported or not. -/
def Item.statement? : Item → Option Stmt
  | .stmt s => some s
  | .exportDecl decl => some decl
  | _ => none

/-- The classes that the top level of a file declares or holds under a name. -/
def SourceFile.classNodes (file : SourceFile) : List DeclNode :=
  file.items.flatMap fun item => (item.statement?.map Stmt.classNodes).getD []

/-- The classes that are declared by being the default export of a file. -/
def SourceFile.defaultClasses (file : SourceFile) : List DeclNode :=
  file.items.filterMap fun
    | .exportClass name cls => some (.classExpr ⟨name, cls⟩)
    | _ => none

section Found

variable {value : Expr} {node : DeclNode} {s : Stmt}

/-- A class is found for every class expression that is held. -/
theorem classOfValue?_of_classValue? (isValue : value.classValue? = some node) (outer : ClassOuter)
    (following : List Stmt) :
    ∃ shape, classOfValue? outer value following = some shape ∧
      node.span ∈ FileIndex.keysOfClass shape ∧
      ∃ syntaxNode ∈ shape.nodes, syntaxNode.span = node.span := by
  unfold Expr.classValue? at isValue
  split at isValue
  · rename_i name cls last
    cases isValue
    have chain : aliasChain value = ((aliasChain value).1, .classExpr name cls) := Prod.ext rfl last
    have noFunction : value.classIife? = none := by
      rw [Expr.classIife?, chain]
      rfl
    refine ⟨_, by rw [classOfValue?, noFunction, chain], ?_, .expr (.classExpr name cls), ?_, rfl⟩
    · simp [FileIndex.keysOfClass, ClassShape.implementation, ClassShape.make]
    · simp [ClassShape.nodes, ClassShape.make, ClassForm.syntaxNode?]
  · cases isValue

/-- A class is found for every class node of a statement, by the range of the node. -/
theorem Stmt.exists_class_of_classNodes (member : node ∈ s.classNodes) (following : List Stmt) :
    ∃ shape ∈ s.classes following, node.span ∈ FileIndex.keysOfClass shape ∧
      ∃ syntaxNode ∈ shape.nodes, syntaxNode.span = node.span := by
  cases s with
  | classDecl name cls =>
      cases List.mem_singleton.1 member
      refine ⟨_, List.mem_singleton_self _, List.mem_cons_self, .classDecl ⟨name, cls⟩, ?_, rfl⟩
      exact List.mem_cons_self
  | vars span kind ds =>
      obtain ⟨d, isVariable, held⟩ := List.mem_filterMap.1 member
      obtain ⟨id, named, held⟩ := Option.bind_eq_some_iff.1 held
      obtain ⟨value, isInit, held⟩ := Option.bind_eq_some_iff.1 held
      obtain ⟨shape, found, isKey, inside⟩ :=
        classOfValue?_of_classValue? held (.variable d id) following
      refine ⟨shape, List.mem_filterMap.2 ⟨d, isVariable, ?_⟩, isKey, inside⟩
      simp [named, isInit, found]
  | expr span e =>
      obtain ⟨a, assigns, held⟩ := Option.bind_eq_some_iff.1 (Option.mem_toList.1 member)
      obtain ⟨named, held⟩ := Option.ite_none_right_eq_some.1 held
      have isFound : ∃ shape, classOfAssignment? a following = some shape ∧
          node.span ∈ FileIndex.keysOfClass shape ∧
          ∃ syntaxNode ∈ shape.nodes, syntaxNode.span = node.span := by
        unfold classOfAssignment?
        cases exported : a.exported? with
        | some name => exact classOfValue?_of_classValue? held (.exports a name) following
        | none =>
            obtain ⟨id, isTarget⟩ : ∃ id, a.target.ident? = some id := by
              simpa [exported, Option.isSome_iff_exists] using named
            simpa [isTarget] using classOfValue?_of_classValue? held (.assign a id) following
      obtain ⟨shape, found, isKey, inside⟩ := isFound
      exact ⟨shape, by simp [Stmt.classes, assigns, found], isKey, inside⟩
  | _ => cases member

end Found

/-! ### Classes of a file -/

section File

variable {file : SourceFile} {node : DeclNode}

/-- The walk over a file finds the classes of every statement of the top level. -/
theorem foundClass_mem_itemsTrace {items : List Item} {item : Item} {s : Stmt} (isItem : item ∈ items)
    (isStatement : item.statement? = some s) :
    ∃ following, ∀ shape ∈ s.classes following, Event.foundClass shape ∈ itemsTrace items := by
  induction items with
  | nil => cases isItem
  | cons first rest ih =>
      rcases List.mem_cons.1 isItem with rfl | behind
      · refine ⟨rest.filterMap Item.stmt?, ?_⟩
        intro shape found
        have shown : Event.foundClass shape ∈ s.shapes (rest.filterMap Item.stmt?) :=
          List.mem_append_left _ (List.mem_map_of_mem found)
        apply List.mem_append_left
        cases item with
        | stmt own => cases isStatement; exact List.mem_append_left _ shown
        | exportDecl own => cases isStatement; exact List.mem_append_left _ shown
        | _ => cases isStatement
      · obtain ⟨following, all⟩ := ih behind
        exact ⟨following, fun shape found => List.mem_append_right _ (all shape found)⟩

/-- A class is found for every class of the top level. -/
theorem FileIndex.exists_class_of_classNodes (member : node ∈ file.classNodes) :
    ∃ i shape, (build file.items).class? i = some shape ∧ node.span ∈ keysOfClass shape ∧
      ∃ syntaxNode ∈ shape.nodes, syntaxNode.span = node.span := by
  obtain ⟨item, isItem, member⟩ := List.mem_flatMap.1 member
  cases isStatement : item.statement? with
  | none =>
      rw [isStatement] at member
      cases member
  | some s =>
      rw [isStatement, Option.map_some, Option.getD_some] at member
      obtain ⟨following, all⟩ := foundClass_mem_itemsTrace isItem isStatement
      obtain ⟨shape, found, isKey, inside⟩ := Stmt.exists_class_of_classNodes member following
      have listed : shape ∈ (build file.items).classes := mem_classes_build.2 (all shape found)
      obtain ⟨i, atPlace⟩ := List.getElem?_of_mem listed
      exact ⟨i, shape, atPlace, isKey, inside⟩

/-- A range of a class leads to a class. -/
theorem FileIndex.exists_classAt?_of_key {i : Nat} {shape : ClassShape} {key : Span}
    (listed : (build file.items).class? i = some shape) (isKey : key ∈ keysOfClass shape) :
    ∃ j other, (build file.items).classAt? key = some j ∧ (build file.items).class? j = some other := by
  rw [classAt?, classKeys_build, List.lookup_append]
  cases found : (unlinked (itemsTrace file.items)).classKeys.lookup key with
  | none =>
      have absent := List.lookup_eq_none_iff.1 found _ (mem_classKeys_unlinked.2 ⟨shape, listed, isKey⟩)
      simp at absent
  | some j =>
      obtain ⟨before, behind, split, _⟩ := List.lookup_eq_some_iff.1 found
      have present : (key, j) ∈ (unlinked (itemsTrace file.items)).classKeys := by simp [split]
      obtain ⟨other, listedToo, _⟩ := mem_classKeys_unlinked.1 present
      exact ⟨j, other, rfl, listedToo⟩

/-- The walk over a file holds the node of a default class back: no class is made of it. -/
theorem itemsTrace_holds {items : List Item} {name : Option Ident} {cls : Class}
    (isItem : Item.exportClass name cls ∈ items) :
    Covered none [.expr (.classExpr name cls)] (itemsTrace items) (items.flatMap Item.nodes) := by
  induction items with
  | nil => cases isItem
  | cons first rest ih =>
      rcases List.mem_cons.1 isItem with rfl | behind
      · exact ((Expr.classExpr name cls).trace_covered).left (itemsTrace_covered rest)
      · exact (first.trace_covered _).right (ih behind)

/-- How often nodes have a range. -/
theorem weigh_classKeys (key : Span) (nodes : List SyntaxNode) :
    weigh (fun node => node.classKeys.count key) nodes = (nodes.flatMap SyntaxNode.classKeys).count key := by
  rw [weigh, List.count_flatMap]
  rfl

/-- No class is found by the range of a default class, if no other node has it. -/
theorem FileIndex.not_mem_keysOfClass_of_defaultClass {name : Option Ident} {cls : Class}
    (distinct : file.HasDistinctKeys) (isItem : Item.exportClass name cls ∈ file.items) {shape : ClassShape}
    (listed : shape ∈ (build file.items).classes) : cls.span ∉ keysOfClass shape := by
  intro isKey
  -- The node of the default class has the range once, and the node of the class would have it again.
  have once : (file.nodes.flatMap SyntaxNode.classKeys).count cls.span ≤ 1 :=
    List.nodup_iff_count.1 distinct _
  have own : ([.expr (.classExpr name cls)].flatMap SyntaxNode.classKeys).count cls.span = 1 := by
    simp [SyntaxNode.classKeys]
  have again : 0 < ((classNodes (itemsTrace file.items)).flatMap SyntaxNode.classKeys).count cls.span := by
    obtain ⟨node, inside, isKeyOfNode⟩ := List.mem_flatMap.1 (ClassShape.mem_nodes_keys isKey)
    rw [classes_build] at listed
    rw [List.count_pos_iff]
    exact List.mem_flatMap.2 ⟨node, List.mem_flatMap.2 ⟨shape, listed, inside⟩, isKeyOfNode⟩
  have counted := (itemsTrace_holds isItem).classes fun node => node.classKeys.count cls.span
  rw [weigh_classKeys, weigh_classKeys, weigh_classKeys, own, ← SourceFile.nodes] at counted
  omega

/-- The range of a default class leads to no class, if no other node has it. -/
theorem FileIndex.classAt?_of_defaultClasses (distinct : file.HasDistinctKeys)
    (member : node ∈ file.defaultClasses) : (build file.items).classAt? node.span = none := by
  obtain ⟨item, isItem, same⟩ := List.mem_filterMap.1 member
  cases item with
  | exportClass name cls =>
      cases same
      rw [classAt?, classKeys_build, List.lookup_eq_none_iff]
      rintro ⟨key, i⟩ present
      rw [bne_iff_ne]
      rintro rfl
      rcases List.mem_append.1 present with own | linked
      · obtain ⟨shape, listed, isKey⟩ := mem_classKeys_unlinked.1 own
        exact not_mem_keysOfClass_of_defaultClass distinct isItem (List.mem_of_getElem? listed) isKey
      · obtain ⟨id, _, means⟩ := mem_variablesOf.1 linked
        rw [← declaratorOf?_link] at means
        obtain ⟨d, declared, sameSpan⟩ := Option.map_eq_some_iff.1 means
        have ownNode : SyntaxNode.expr (.classExpr name cls) ∈ file.nodes :=
          List.mem_flatMap.2 ⟨_, isItem, Expr.mem_nodes_self _⟩
        have isVariable := declarator_mem_of_declaratorOf? declared
        have both := eq_of_key distinct isVariable ownNode (List.mem_singleton_self _)
          (sameSpan ▸ List.mem_singleton_self _)
        cases both
  | _ => cases same

end File

/-! ### The questions of classes -/

/-- Whether an answer says that a node is no class. -/
def refuses {α : Type} : Except ReflectError α → Bool
  | .error (.notAClass _ _) => true
  | _ => false

/-- A node that is a class, and is refused by none of the questions of classes. -/
structure World.AnswersAsClass (w : World) (node : DeclNode) : Prop where
  isClass : w.isClass node = true
  decorators : refuses (w.decorators node) = false
  members : refuses (w.members node) = false
  constructorParameters : ∀ memory, refuses ((w.constructorParameters node).run memory).1 = false
  baseExpression : refuses (w.baseExpression node) = false

/-- A node that is no class, and is refused by all questions of classes. -/
structure World.RefusesAsClass (w : World) (node : DeclNode) : Prop where
  isClass : w.isClass node = false
  decorators : refuses (w.decorators node) = true
  members : refuses (w.members node) = true
  constructorParameters : ∀ memory, refuses ((w.constructorParameters node).run memory).1 = true
  baseExpression : refuses (w.baseExpression node) = true

theorem World.answersAsClass {w : World} {node : DeclNode} (isClass : w.isClass node = true) :
    w.AnswersAsClass node := by
  obtain ⟨symbol, found⟩ := Option.isSome_iff_exists.1 isClass
  have required (question : ClassQuestion) : w.requireClass node question = .ok symbol := by
    rw [World.requireClass, found]
  constructor
  · exact isClass
  · rw [World.decorators, required]
    rfl
  · rw [World.members, required]
    rfl
  · intro memory
    rw [World.constructorParameters, required]
    rfl
  · rw [World.baseExpression, required]
    rfl

theorem World.refusesAsClass {w : World} {node : DeclNode} (noClass : w.classSymbol? node = none) :
    w.RefusesAsClass node := by
  have required (question : ClassQuestion) :
      w.requireClass node question = .error (.notAClass question (w.text node.span)) := by
    rw [World.requireClass, noClass]
  constructor
  · rw [World.isClass, noClass]
    rfl
  · rw [World.decorators, required]
    rfl
  · rw [World.members, required]
    rfl
  · intro memory
    rw [World.constructorParameters, required]
    rfl
  · rw [World.baseExpression, required]
    rfl

theorem DeclNode.of_same {a b : DeclNode} (same : a.same b = true) (other : a.kind ≠ .wholeModule) :
    a.kind = b.kind ∧ a.span = b.span := by
  unfold DeclNode.same at same
  split at same
  · exact absurd rfl other
  · simpa using same

/-- Classes of the top level are nodes of classes. -/
theorem Stmt.kind_of_classNodes {s : Stmt} {node : DeclNode} (member : node ∈ s.classNodes) :
    node.kind = .classDecl ∨ node.kind = .classExpr := by
  have ofValue {value : Expr} (held : value.classValue? = some node) : node.kind = .classExpr := by
    unfold Expr.classValue? at held
    split at held
    · cases held
      rfl
    · cases held
  cases s with
  | classDecl name cls =>
      cases List.mem_singleton.1 member
      exact .inl rfl
  | vars span kind ds =>
      obtain ⟨d, _, held⟩ := List.mem_filterMap.1 member
      obtain ⟨id, _, held⟩ := Option.bind_eq_some_iff.1 held
      obtain ⟨value, _, held⟩ := Option.bind_eq_some_iff.1 held
      exact .inr (ofValue held)
  | expr span e =>
      obtain ⟨a, _, held⟩ := Option.bind_eq_some_iff.1 (Option.mem_toList.1 member)
      exact .inr (ofValue (Option.ite_none_right_eq_some.1 held).2)
  | _ => cases member

section Program

variable {program : Program} {host : HostKind} {home : SourceFile} {own node : DeclNode}

/-- A node that is a class of the top level of some file answers the questions of classes. -/
theorem World.answersAsClass_of_classNodes (built : program.Built) (inside : home ∈ program.files)
    (member : own ∈ home.classNodes) (same : own.same node = true) :
    (World.ofProgram program host).AnswersAsClass node := by
  have other : own.kind ≠ .wholeModule := by
    obtain ⟨item, _, member⟩ := List.mem_flatMap.1 member
    cases isStatement : item.statement? with
    | none =>
        rw [isStatement] at member
        cases member
    | some s =>
        rw [isStatement] at member
        rcases Stmt.kind_of_classNodes member with kind | kind <;> rw [kind] <;> nofun
  obtain ⟨_, span⟩ := DeclNode.of_same same other
  obtain ⟨i, shape, listed, isKey, syntaxNode, made, sameSpan⟩ := FileIndex.exists_class_of_classNodes member
  obtain ⟨j, found, isFound, listedToo⟩ := FileIndex.exists_classAt?_of_key listed isKey
  have located : (World.ofProgram program host).viewAt? syntaxNode.span.lo = some (.ofFile home) :=
    built.viewAt?_of_node inside (FileIndex.nodes_subset listed made)
  rw [sameSpan, span] at located
  rw [span] at isFound
  apply World.answersAsClass
  simp [World.isClass, World.classSymbol?, located, World.classNumber?, FileView.ofFile, isFound, listedToo]

/-- A node that is a class which is declared by being a default export is refused, if no other node of
    its file has its range. -/
theorem World.refusesAsClass_of_defaultClasses (built : program.Built) (inside : home ∈ program.files)
    (distinct : home.HasDistinctKeys) (member : own ∈ home.defaultClasses) (same : own.same node = true) :
    (World.ofProgram program host).RefusesAsClass node := by
  have nowhere := FileIndex.classAt?_of_defaultClasses distinct member
  obtain ⟨item, isItem, isDefault⟩ := List.mem_filterMap.1 member
  cases item with
  | exportClass name cls =>
      cases isDefault
      obtain ⟨kind, span⟩ := DeclNode.of_same same nofun
      have ownNode : SyntaxNode.expr (.classExpr name cls) ∈ home.nodes :=
        List.mem_flatMap.2 ⟨_, isItem, Expr.mem_nodes_self _⟩
      have located : (World.ofProgram program host).viewAt? node.span.lo = some (.ofFile home) := by
        rw [← span]
        exact built.viewAt?_of_node inside ownNode
      rw [span] at nowhere
      apply World.refusesAsClass
      cases node with
      | classExpr expr =>
          simp only [World.classSymbol?, located, bind, Option.bind_some, World.classNumber?,
            FileView.ofFile, nowhere, Option.bind_none]
      | _ => cases kind
  | _ => cases isDefault

/-- The table of a module, after any questions. An entry that is a class which the top level of some
    file declares, or holds under a name, answers all questions of classes, and an entry that is a class
    declared by being a default export is refused by all of them. -/
theorem exportedClasses_answer (built : program.Built) {file : SourceFile} (member : file ∈ program.files)
    (isModule : file.isModule = true) (questions : List Question) :
    let w := World.ofProgram program .modules
    ∃ table, ((w.exportsOf file).run (w.memoryAfter questions)).1 = some table ∧
      ∀ name d, table.get? name = some d → ∀ home ∈ program.files,
        (∀ own ∈ home.classNodes, own.same d.node = true → w.AnswersAsClass d.node) ∧
        (home.HasDistinctKeys →
          ∀ own ∈ home.defaultClasses, own.same d.node = true → w.RefusesAsClass d.node) := by
  intro w
  have unwrapped : (FileView.ofFile file).wrapperFor? .modules = none := rfl
  have recipe := World.recipe?_of_unwrapped built member isModule unwrapped
  obtain ⟨table, answered, _⟩ := World.exists_table_after built recipe
    (Inquiry.Always.of_forall (fun _ => trivial) _) questions
  refine ⟨table, answered, ?_⟩
  intro name d entry home inside
  constructor
  · intro own isClass same
    exact World.answersAsClass_of_classNodes built inside isClass same
  · intro distinct own isDefault same
    exact World.refusesAsClass_of_defaultClasses built inside distinct isDefault same

end Program

/-- Modules that export classes: declared where they are exported, listed under another name, copied,
    handed on by name, and declared as the default export. -/
def exportedClasses : Program :=
  .ofTexts [("/a.js", "export class A \x7b\x7d class B extends A \x7b\x7d export \x7b B as C \x7d; " ++
      "export * from './b'; export default class D \x7b\x7d"),
    ("/b.js", "export \x7b G as F \x7d from './c'; export class E \x7b constructor(x) \x7b\x7d \x7d"),
    ("/c.js", "export class G \x7b\x7d")]

/-- All but the default export answer the questions of classes. -/
theorem exportedClasses_answer_exportedClasses :
    let w := World.ofProgram exportedClasses .modules
    ∃ file ∈ exportedClasses.files, ∃ table, ((w.exportsOf file).run .empty).1 = some table ∧
      (∀ name ∈ ["A", "C", "E", "F"], ∃ d, table.get? name = some d ∧ w.AnswersAsClass d.node) ∧
      ∃ d, table.get? "default" = some d ∧ w.RefusesAsClass d.node := by
  have facts :
      let w := World.ofProgram exportedClasses .modules
      ∃ file ∈ exportedClasses.files, file.isModule = true ∧
      (∀ name ∈ ["A", "C", "E", "F"], ((((w.exportsOf file).run .empty).1.bind (·.get? name)).any fun d =>
        exportedClasses.files.any fun home => home.classNodes.any (·.same d.node)) = true) ∧
      ((((w.exportsOf file).run .empty).1.bind (·.get? "default")).any fun d =>
        exportedClasses.files.any fun home =>
          decide home.HasDistinctKeys && home.defaultClasses.any (·.same d.node)) = true := by
    rw [exportedClasses, Program.ofTexts_eq_ofBytes]
    decide +kernel
  obtain ⟨file, member, isModule, named, default⟩ := facts
  have built : exportedClasses.Built := .ofTexts _
  obtain ⟨table, answered, entries⟩ := exportedClasses_answer built member isModule []
  intro w
  have answered' : ((w.exportsOf file).run .empty).1 = some table := answered
  refine ⟨file, member, table, answered', ?_, ?_⟩
  · intro name isOneOf
    have isClass := named name isOneOf
    rw [answered'] at isClass
    simp only [Option.bind_some, Option.any_eq_true, List.any_eq_true] at isClass
    obtain ⟨d, entry, home, inside, own, isOwn, same⟩ := isClass
    exact ⟨d, entry, (entries name d entry home inside).1 own isOwn same⟩
  · rw [answered'] at default
    simp only [Option.bind_some, Option.any_eq_true, List.any_eq_true, Bool.and_eq_true,
      decide_eq_true_eq] at default
    obtain ⟨d, entry, home, inside, distinct, own, isOwn, same⟩ := default
    exact ⟨d, entry, (entries "default" d entry home inside).2 distinct own isOwn same⟩

/-- A module whose default export is a class declaration. -/
def defaultClass : Program :=
  .ofTexts [("/a.js", "export default class A \x7b constructor(x) \x7b\x7d \x7d")]

/-- The entry is that class, which stands at the top level, and all questions of classes refuse it. -/
theorem exportedClasses_answer_defaultClass :
    let w := World.ofProgram defaultClass .modules
    defaultClass.files.map (fun file => (file.isModule, file.defaultClasses.length)) = [(true, 1)] ∧
    ∀ file ∈ defaultClass.files,
      ((((w.exportsOf file).run .empty).1.bind (·.get? "default")).any fun d =>
        file.defaultClasses.any (·.same d.node) && d.node.kind == .classExpr && !w.isClass d.node &&
          refuses (w.decorators d.node) && refuses (w.members d.node) &&
          refuses ((w.constructorParameters d.node).run .empty).1 && refuses (w.baseExpression d.node)) =
        true := by
  rw [defaultClass, Program.ofTexts_eq_ofBytes]
  decide +kernel

end BundleLens
