/-
Module: BundleLens.Proofs.TraceNodes
Layer: Proofs
Purpose: Where the events of a trace come from. Every name that a trace uses and every variable that it
  declares is a node of the tree, and every class that it finds is one of the classes of a statement.
  What the classes are made of is counted: no node of the tree belongs to two classes. For that, nodes
  that a class further out may be made of are held back from the classes inside.
Imports: BundleLens.Proofs.LexicalScoping, BundleLens.Proofs.Nodes, BundleLens.Proofs.Unparen,
  Mathlib.Algebra.GroupWithZero.Nat
Main exports: ClassShape.nodes, classNodes, Expr.reach, Stmt.held, Covered, itemsTrace_covered
-/
import BundleLens.Proofs.LexicalScoping
import BundleLens.Proofs.Nodes
import BundleLens.Proofs.Unparen
import Mathlib.Algebra.GroupWithZero.Nat

namespace BundleLens

/-! ### The nodes of classes -/

/-- The node that holds a class from outside. -/
def ClassOuter.syntaxNode : ClassOuter → SyntaxNode
  | .variable d _ => .declarator d
  | .exports a _ => .expr (.assign a.span a.op a.target a.value)
  | .assign a _ => .expr (.assign a.span a.op a.target a.value)
  | .classDecl decl => .classDecl decl

/-- The inner node of a class, if it has one of its own. -/
def ClassForm.syntaxNode? : ClassForm → Option SyntaxNode
  | .function inner _ => some (.function inner)
  | .native _ (some expr) => some (.expr (.classExpr expr.name expr.cls))
  | .native _ none => none

/-- The nodes that a class is made of. -/
def ClassShape.nodes (shape : ClassShape) : List SyntaxNode :=
  shape.outer.syntaxNode :: shape.form.syntaxNode?.toList

/-- The nodes that the classes of a trace are made of. -/
def classNodes (events : List Event) : List SyntaxNode :=
  (events.filterMap Event.class?).flatMap ClassShape.nodes

/-- The function declarations of a list of statements. -/
def functionNodes (body : List Stmt) : List SyntaxNode :=
  (body.filterMap Stmt.functionDecl?).map .function

theorem functionNodes_cons (s : Stmt) (rest : List Stmt) :
    functionNodes (s :: rest) = functionNodes [s] ++ functionNodes rest := by
  cases declares : s.functionDecl? <;> simp [functionNodes, declares]

/-- The nodes of an expression that a class may be made of whose value or assignment it is. -/
def Expr.reach : Expr → List SyntaxNode
  | .paren _ inner => inner.reach
  | .assign span op target value => .expr (.assign span op target value) :: value.reach
  | .classExpr name cls => [.expr (.classExpr name cls)]
  | .unary _ _ operand => operand.reach
  | .call _ _ callee _ => callee.reach
  | .function _ func => functionNodes (func.body.getD [])
  | _ => []

/-- The nodes of a variable that a class may be made of. -/
def Declarator.held (d : Declarator) : List SyntaxNode :=
  .declarator d :: (d.init.map Expr.reach).getD []

/-- The nodes of a statement that a class may be made of which the statement holds, or the function
    around it. -/
def Stmt.held : Stmt → List SyntaxNode
  | .vars _ _ ds => ds.flatMap Declarator.held
  | .function name func => [.function ⟨name, func⟩]
  | .classDecl name cls => [.classDecl ⟨name, cls⟩]
  | .expr _ value => value.reach
  | _ => []

/-! ### Counting -/

/-- The weight of a list of nodes. -/
def weigh (weight : SyntaxNode → Nat) (nodes : List SyntaxNode) : Nat := (nodes.map weight).sum

section

variable (weight : SyntaxNode → Nat)

@[simp] theorem weigh_nil : weigh weight [] = 0 := rfl

@[simp] theorem weigh_cons (node : SyntaxNode) (rest : List SyntaxNode) :
    weigh weight (node :: rest) = weight node + weigh weight rest := by
  simp [weigh]

@[simp] theorem weigh_append (first second : List SyntaxNode) :
    weigh weight (first ++ second) = weigh weight first + weigh weight second := by
  simp [weigh]

theorem weight_le_of_mem {node : SyntaxNode} {nodes : List SyntaxNode} (member : node ∈ nodes) :
    weight node ≤ weigh weight nodes := by
  obtain ⟨before, behind, rfl⟩ := List.append_of_mem member
  simp only [weigh_append, weigh_cons]
  omega

theorem exists_of_weigh_pos {nodes : List SyntaxNode} (some : 0 < weigh weight nodes) :
    ∃ node ∈ nodes, 0 < weight node := by
  induction nodes with
  | nil => cases some
  | cons first rest ih =>
      rw [weigh_cons] at some
      rcases Nat.eq_zero_or_pos (weight first) with nothing | own
      · obtain ⟨node, member, heavy⟩ := ih (by omega)
        exact ⟨node, List.mem_cons_of_mem _ member, heavy⟩
      · exact ⟨first, List.mem_cons_self, own⟩

end

@[simp] theorem classNodes_nil : classNodes [] = [] := rfl

@[simp] theorem classNodes_append (first second : List Event) :
    classNodes (first ++ second) = classNodes first ++ classNodes second := by
  simp [classNodes]

/-! ### Covered events -/

/-- Whether an event neither uses a name nor declares a variable nor finds a class. -/
def Event.isPlain : Event → Bool
  | .refer _ => false
  | .declare _ (.variable _ _) => false
  | .foundClass _ => false
  | _ => true

/-- The events come from the nodes; `own` is a variable around them that they may declare, and `held`
    are nodes that no class in them is made of. -/
structure Covered (own : Option Declarator) (held : List SyntaxNode) (events : List Event)
    (nodes : List SyntaxNode) : Prop where
  /-- Every node counts once: as one that is held back, or for one class. -/
  classes : ∀ weight, weigh weight held + weigh weight (classNodes events) ≤ weigh weight nodes
  uses : ∀ id, Event.refer id ∈ events → SyntaxNode.expr (.ident id) ∈ nodes ∨ SyntaxNode.name id ∈ nodes
  declares : ∀ home d id, Event.declare home (.variable d id) ∈ events →
    SyntaxNode.declarator d ∈ nodes ∨ own = some d
  /-- The statement that holds a class is walked over too. -/
  found : ∀ shape, Event.foundClass shape ∈ events →
    ∃ s following, shape ∈ Stmt.classes s following ∧ s.trace ⊆ events

namespace Covered

variable {own : Option Declarator} {held heldToo : List SyntaxNode} {first second events : List Event}
  {nodes here there : List SyntaxNode}

theorem classNodes_of_plain (plain : ∀ event ∈ events, event.isPlain = true) : classNodes events = [] := by
  have none : events.filterMap Event.class? = [] := by
    refine List.filterMap_eq_nil_iff.2 fun event member => ?_
    have quiet := plain event member
    cases event <;> first | rfl | cases quiet
  simp [classNodes, none]

/-- Plain events come from anywhere. -/
theorem plain (quiet : ∀ event ∈ events, event.isPlain = true) : Covered own [] events nodes where
  classes weight := by simp [classNodes_of_plain quiet]
  uses id member := Bool.noConfusion (quiet _ member)
  declares home d id member := Bool.noConfusion (quiet _ member)
  found shape member := Bool.noConfusion (quiet _ member)

theorem nil : Covered own [] [] nodes := plain nofun

/-- Events one after the other come from nodes one after the other. -/
theorem both (left : Covered own held first here) (right : Covered own heldToo second there) :
    Covered own (held ++ heldToo) (first ++ second) (here ++ there) where
  classes weight := by
    have before := left.classes weight
    have behind := right.classes weight
    simp only [weigh_append, classNodes_append]
    omega
  uses id member := by
    rcases List.mem_append.1 member with before | behind
    · exact (left.uses id before).imp (List.mem_append_left _) (List.mem_append_left _)
    · exact (right.uses id behind).imp (List.mem_append_right _) (List.mem_append_right _)
  declares home d id member := by
    rcases List.mem_append.1 member with before | behind
    · exact (left.declares home d id before).imp_left (List.mem_append_left _)
    · exact (right.declares home d id behind).imp_left (List.mem_append_right _)
  found shape member := by
    rcases List.mem_append.1 member with before | behind
    · obtain ⟨s, following, isClass, inside⟩ := left.found shape before
      exact ⟨s, following, isClass, fun event walked => List.mem_append_left _ (inside walked)⟩
    · obtain ⟨s, following, isClass, inside⟩ := right.found shape behind
      exact ⟨s, following, isClass, fun event walked => List.mem_append_right _ (inside walked)⟩

/-- What was held back need not be, and other nodes may stand around. -/
theorem weaken (covered : Covered own held events here)
    (less : ∀ weight, weigh weight heldToo + weigh weight here ≤ weigh weight held + weigh weight nodes)
    (more : here ⊆ nodes) : Covered own heldToo events nodes where
  classes weight := by
    have counted := covered.classes weight
    have fewer := less weight
    omega
  uses id member := (covered.uses id member).imp (more ·) (more ·)
  declares home d id member := (covered.declares home d id member).imp_left (more ·)
  found := covered.found

theorem free (covered : Covered own held events nodes) : Covered own [] events nodes :=
  covered.weaken (fun weight => by simp) (List.Subset.refl _)

theorem append (left : Covered own held first here) (right : Covered own heldToo second there) :
    Covered own [] (first ++ second) (here ++ there) :=
  (left.both right).free

theorem left (left : Covered own held first here) (right : Covered own heldToo second there) :
    Covered own held (first ++ second) (here ++ there) :=
  (left.both right).weaken (fun weight => by simp only [weigh_append]; omega) (List.Subset.refl _)

theorem right (left : Covered own held first here) (right : Covered own heldToo second there) :
    Covered own heldToo (first ++ second) (here ++ there) :=
  (left.both right).weaken (fun weight => by simp only [weigh_append]; omega) (List.Subset.refl _)

/-- The order of the nodes does not matter. -/
theorem swap (covered : Covered own held events (here ++ there)) : Covered own held events (there ++ here) :=
  covered.weaken (fun weight => by simp only [weigh_append]; omega)
    (fun node member => List.mem_append.2 (List.mem_append.1 member).symm)

theorem node {node : SyntaxNode} (covered : Covered own held events nodes) :
    Covered own held events (node :: nodes) :=
  covered.weaken (fun weight => by simp only [weigh_cons]; omega) (List.subset_cons_self _ _)

/-- A node that is not counted yet can be held back. -/
theorem hold {node : SyntaxNode} (covered : Covered own held events nodes) :
    Covered own (node :: held) events (node :: nodes) :=
  covered.weaken (fun weight => by simp only [weigh_cons]; omega) (List.subset_cons_self _ _)

theorem before (covered : Covered own held events here) : Covered own held events (here ++ there) :=
  covered.weaken (fun weight => by simp only [weigh_append]; omega) (List.subset_append_left _ _)

theorem behind (covered : Covered own held events there) : Covered own held events (here ++ there) :=
  covered.weaken (fun weight => by simp only [weigh_append]; omega) (List.subset_append_right _ _)

/-- Plain events may come first. -/
theorem after (quiet : ∀ event ∈ first, event.isPlain = true) (covered : Covered own held second nodes) :
    Covered own held (first ++ second) nodes :=
  (plain quiet : Covered own [] first []).right covered

theorem enter {ofFunction : Bool} {func : Option Func} (covered : Covered own held events nodes) :
    Covered own held ([.enter ofFunction func] ++ events) nodes :=
  .after (by simp [Event.isPlain]) covered

/-- A plain event may come last. -/
theorem ending {event : Event} (quiet : event.isPlain = true) (covered : Covered own held events nodes) :
    Covered own held (events ++ [event]) nodes := by
  have last : Covered own [] [event] [] := .plain (by simpa using quiet)
  simpa using covered.left last

theorem leave (covered : Covered own held events nodes) : Covered own held (events ++ [.leave]) nodes :=
  covered.ending rfl

theorem opening {ofFunction : Bool} {func : Option Func} (covered : Covered own held events nodes) :
    Covered own held (events ++ [.enter ofFunction func]) nodes :=
  covered.ending rfl

/-- An event that finds no class may come first, if its name or variable is at hand. -/
theorem cons {event : Event} (apart : event.class? = none)
    (used : ∀ id, event = .refer id → SyntaxNode.expr (.ident id) ∈ nodes ∨ SyntaxNode.name id ∈ nodes)
    (declared : ∀ home d id, event = .declare home (.variable d id) → own = some d)
    (covered : Covered own held events nodes) : Covered own held (event :: events) nodes where
  classes weight := by simpa [classNodes, apart] using covered.classes weight
  uses id member := by
    rcases List.mem_cons.1 member with same | behind
    · exact used id same.symm
    · exact covered.uses id behind
  declares home d id member := by
    rcases List.mem_cons.1 member with same | behind
    · exact .inr (declared home d id same.symm)
    · exact covered.declares home d id behind
  found shape member := by
    rcases List.mem_cons.1 member with same | behind
    · rw [← same] at apart
      cases apart
    · obtain ⟨s, following, isClass, inside⟩ := covered.found shape behind
      exact ⟨s, following, isClass, fun event walked => List.mem_cons_of_mem _ (inside walked)⟩

theorem refer {id : Ident} (inside : SyntaxNode.expr (.ident id) ∈ nodes ∨ SyntaxNode.name id ∈ nodes)
    (covered : Covered own held events nodes) : Covered own held (.refer id :: events) nodes := by
  apply covered.cons rfl
  · intro other same
    cases same
    exact inside
  · intro home d other same
    cases same

/-- A name in a pattern declares the variable around it, or no variable. -/
theorem declare {home : Home} {binding : Binding}
    (declared : ∀ d id, binding = .variable d id → own = some d)
    (covered : Covered own held events nodes) :
    Covered own held (.declare home binding :: events) nodes := by
  apply covered.cons rfl
  · intro id same
    cases same
  · intro home d id same
    cases same
    exact declared d id rfl

/-- Events that declare no variable around them. -/
theorem lift (covered : Covered none held events nodes) : Covered own held events nodes where
  classes := covered.classes
  uses := covered.uses
  declares home d id member := by
    rcases covered.declares home d id member with inside | nowhere
    · exact .inl inside
    · cases nowhere
  found := covered.found

/-- The variable that is declared is a node too. -/
theorem declarator {d : Declarator} (covered : Covered (some d) held events nodes) :
    Covered none (.declarator d :: held) events (.declarator d :: nodes) where
  classes := covered.hold.classes
  uses := covered.hold.uses
  declares home other id member := by
    rcases covered.declares home other id member with inside | same
    · exact .inl (List.mem_cons_of_mem _ inside)
    · cases same
      exact .inl List.mem_cons_self
  found := covered.found

/-- The classes are made of nodes at hand. -/
theorem classNodes_subset (covered : Covered own held events nodes) : classNodes events ⊆ nodes := by
  classical
  intro node member
  let weight : SyntaxNode → Nat := fun other => if other = node then 1 else 0
  have counted := covered.classes weight
  have own := weight_le_of_mem weight member
  have heavy : weight node = 1 := if_pos rfl
  have some : 0 < weigh weight nodes := by omega
  obtain ⟨other, listed, light⟩ := exists_of_weigh_pos weight some
  by_cases same : other = node
  · exact same ▸ listed
  · have nothing : weight other = 0 := if_neg same
    omega

end Covered

/-! ### Classes of statements -/

section Values

variable {e value : Expr} {outer : ClassOuter} {following : List Stmt} {shape : ClassShape}

theorem Expr.reach_bare (e : Expr) : e.bare.reach = e.reach := by
  induction e using Expr.bareInduction with
  | paren span inner ih => exact ih
  | other e isBare => rw [isBare.bare_eq]

theorem reach_aliasChain (e : Expr) : (aliasChain e).2.reach ⊆ e.reach := by
  fun_induction aliasChain e with
  | case1 span inner ih => exact ih
  | case2 span target value id named ids last chain ih =>
      rw [chain] at ih
      exact fun node member => List.mem_cons_of_mem _ (ih member)
  | case3 => exact List.Subset.refl _
  | case4 => exact List.Subset.refl _

theorem Expr.reach_unnegated (e : Expr) : e.unnegated.reach = e.reach := by
  rw [← e.reach_bare]
  unfold Expr.unnegated
  split
  · rename_i operand same
    rw [same]
    exact operand.reach_bare
  · rfl

/-- The function declarations of an immediately called function are in reach of the call. -/
theorem Expr.reach_iife? {iife : Iife} (called : e.iife? = some iife) :
    functionNodes (iife.func.body.getD []) = e.reach := by
  simp only [Expr.iife?, bind, Option.bind_eq_some_iff] at called
  obtain ⟨call, isCall, callee, isCallee, isFunction⟩ := called
  split at isFunction
  · rename_i name func
    cases isFunction
    rw [← e.reach_unnegated, ← e.unnegated.reach_bare]
    unfold Expr.call? at isCall
    split at isCall
    · rename_i span callee args same
      cases isCall
      rw [same]
      show functionNodes (func.body.getD []) = callee.reach
      rw [← callee.reach_bare]
      unfold Call.function? at isCallee
      split at isCallee
      · cases isCallee
      · cases isCallee
      · have bare : callee.bare = .function name func := Option.some.inj isCallee
        rw [bare]
        rfl
    · cases isCall
  · cases isFunction

/-- A class that a value builds is held by what it is built for. -/
theorem classOfValue?_outer (builds : classOfValue? outer value following = some shape) :
    shape.outer = outer := by
  unfold classOfValue? at builds
  split at builds
  · cases builds
    rfl
  · split at builds
    · cases builds
      rfl
    · cases builds

/-- The inner node of a class is in reach of the value that builds it. -/
theorem mem_reach_of_classOfValue? {node : SyntaxNode}
    (builds : classOfValue? outer value following = some shape)
    (inner : node ∈ shape.form.syntaxNode?.toList) : node ∈ value.reach := by
  unfold classOfValue? at builds
  split at builds
  · rename_i found isIife
    cases builds
    simp only [Expr.classIife?, bind, Option.bind_eq_some_iff] at isIife
    obtain ⟨iife, called, body, hasBody, name, _, decl, declared, same⟩ := isIife
    cases same
    cases List.mem_singleton.1 inner
    apply reach_aliasChain
    rw [← Expr.reach_iife? called, hasBody]
    obtain ⟨s, listed, isDecl⟩ := List.exists_of_findSome?_eq_some declared
    obtain ⟨isFunction, _⟩ := Option.filter_eq_some_iff.1 isDecl
    exact List.mem_map.2 ⟨decl, List.mem_filterMap.2 ⟨s, listed, isFunction⟩, rfl⟩
  · split at builds
    · rename_i aliases name cls chain
      cases builds
      cases List.mem_singleton.1 inner
      apply reach_aliasChain
      rw [chain]
      exact List.mem_singleton_self _
    · cases builds

/-- A class that a value builds is made of what holds it and of a node in reach of the value. -/
theorem weigh_nodes_le (weight : SyntaxNode → Nat)
    (builds : classOfValue? outer value following = some shape) :
    weigh weight shape.nodes ≤ weight outer.syntaxNode + weigh weight value.reach := by
  have inner : ∀ node ∈ shape.form.syntaxNode?.toList, node ∈ value.reach :=
    fun _ => mem_reach_of_classOfValue? builds
  rw [ClassShape.nodes, classOfValue?_outer builds, weigh_cons]
  cases form : shape.form.syntaxNode? with
  | none => simp
  | some node =>
      rw [form] at inner
      have light := weight_le_of_mem weight (inner node (List.mem_singleton_self _))
      simpa using light

theorem Expr.reach_assignment? {a : Assignment} (assigned : e.assignment? = some a) :
    e.reach = .expr (.assign a.span a.op a.target a.value) :: a.value.reach := by
  rw [← e.reach_bare]
  unfold Expr.assignment? at assigned
  split at assigned
  · rename_i span target value same
    cases assigned
    rw [same]
    rfl
  · cases assigned

/-- A class that is assigned is held by the assignment, as an export or as the name that is assigned
    to. -/
theorem classOfAssignment?_outer {a : Assignment} (builds : classOfAssignment? a following = some shape) :
    classOfValue? shape.outer a.value following = some shape ∧
      ((∃ name, shape.outer = .exports a name) ∨
        ∃ id, a.target.ident? = some id ∧ shape.outer = .assign a id) := by
  unfold classOfAssignment? at builds
  split at builds
  · rename_i name _
    have outer := classOfValue?_outer builds
    exact ⟨outer.symm ▸ builds, .inl ⟨name, outer⟩⟩
  · obtain ⟨id, named, builds⟩ := Option.bind_eq_some_iff.1 builds
    have outer := classOfValue?_outer builds
    exact ⟨outer.symm ▸ builds, .inr ⟨id, named, outer⟩⟩

theorem weigh_nodes_le_of_assignment {a : Assignment} (weight : SyntaxNode → Nat)
    (builds : classOfAssignment? a following = some shape) :
    weigh weight shape.nodes ≤
      weight (.expr (.assign a.span a.op a.target a.value)) + weigh weight a.value.reach := by
  obtain ⟨built, outer⟩ := classOfAssignment?_outer builds
  have counted := weigh_nodes_le weight built
  rcases outer with ⟨name, exported⟩ | ⟨id, _, assigned⟩
  · rwa [exported] at counted
  · rwa [assigned] at counted

theorem weigh_classesOfVariables_le (ds : List Declarator) (following : List Stmt)
    (weight : SyntaxNode → Nat) :
    weigh weight ((classesOfVariables ds following).flatMap ClassShape.nodes) ≤
      weigh weight (ds.flatMap Declarator.held) := by
  induction ds with
  | nil => exact Nat.le_refl _
  | cons d rest ih =>
      unfold classesOfVariables at ih ⊢
      rw [List.filterMap_cons]
      split
      · simp only [List.flatMap_cons, weigh_append]
        omega
      · rename_i shape builds
        simp only [bind, Option.bind_eq_some_iff] at builds
        obtain ⟨id, _, value, initial, builds⟩ := builds
        have own := weigh_nodes_le weight builds
        simp only [List.flatMap_cons, weigh_append, Declarator.held, initial, Option.map_some,
          Option.getD_some, weigh_cons]
        simp only [ClassOuter.syntaxNode] at own
        omega

end Values

/-- The classes that a statement holds are made of nodes that the statement holds back. -/
theorem Stmt.weigh_classes_le (s : Stmt) (following : List Stmt) (weight : SyntaxNode → Nat) :
    weigh weight (functionNodes [s]) + weigh weight ((s.classes following).flatMap ClassShape.nodes) ≤
      weigh weight s.held := by
  cases s with
  | vars span kind ds =>
      have counted := weigh_classesOfVariables_le ds following weight
      exact Nat.le_trans (Nat.le_of_eq (Nat.zero_add _)) counted
  | classDecl name cls => exact Nat.le_of_eq (Nat.zero_add _)
  | function name func => exact Nat.le_refl _
  | expr span e =>
      show 0 + weigh weight ((e.assignment?.bind (classOfAssignment? · following)).toList.flatMap
        ClassShape.nodes) ≤ weigh weight e.reach
      cases found : e.assignment?.bind (classOfAssignment? · following) with
      | none => exact Nat.zero_le _
      | some shape =>
          obtain ⟨a, assigned, builds⟩ := Option.bind_eq_some_iff.1 found
          have counted := weigh_nodes_le_of_assignment weight builds
          rw [Expr.reach_assignment? assigned, weigh_cons]
          simpa using counted
  | _ => exact Nat.zero_le _

theorem Stmt.classNodes_shapes (s : Stmt) (following : List Stmt) :
    classNodes (s.shapes following) = (s.classes following).flatMap ClassShape.nodes := by
  have classes : (s.shapes following).filterMap Event.class? = s.classes following := by
    have found : Event.class? ∘ Event.foundClass = some := rfl
    cases enumeration : s.enumeration? <;>
      simp [Stmt.shapes, List.filterMap_map, found, enumeration, Event.class?]
  rw [classNodes, classes]

theorem Covered.shapes {s : Stmt} {nodes : List SyntaxNode} (following : List Stmt)
    (covered : Covered none s.held s.trace nodes) :
    Covered none (functionNodes [s]) (s.shapes following ++ s.trace) nodes where
  classes weight := by
    have counted := covered.classes weight
    have fewer := s.weigh_classes_le following weight
    rw [classNodes_append, s.classNodes_shapes, weigh_append]
    omega
  uses id member := by
    rcases List.mem_append.1 member with shapes | walked
    · simp [Stmt.shapes] at shapes
    · exact covered.uses id walked
  declares home d id member := by
    rcases List.mem_append.1 member with shapes | walked
    · simp [Stmt.shapes] at shapes
    · exact covered.declares home d id walked
  found shape member := by
    rcases List.mem_append.1 member with shapes | walked
    · refine ⟨s, following, ?_, List.subset_append_right _ _⟩
      simpa [Stmt.shapes] using shapes
    · obtain ⟨other, behind, isClass, inside⟩ := covered.found shape walked
      exact ⟨other, behind, isClass, fun event listed => List.mem_append_right _ (inside listed)⟩

/-! ### All syntax -/

theorem plain_invocation (kind : CallKind) (call : Call) :
    ∀ event ∈ (if kind == .plain then invocation call else []), event.isPlain = true := by
  intro event member
  split at member
  · unfold invocation at member
    split at member
    · cases List.mem_singleton.1 member
      rfl
    · cases member
  · cases member

theorem plain_ownName (name : Option Ident) {binding : Ident → Binding} {ofFunction : Bool}
    {func : Option Func} (own : ∀ id, (Event.declare .block (binding id)).isPlain = true) :
    ∀ event ∈ [Event.enter ofFunction func] ++ (name.map fun id => Event.declare .block (binding id)).toList,
      event.isPlain = true := by
  intro event member
  rcases List.mem_append.1 member with opens | named
  · cases List.mem_singleton.1 opens
    rfl
  · cases name with
    | none => cases named
    | some id =>
        cases List.mem_singleton.1 named
        exact own id

theorem own_of_patBinding {declarator : Option Declarator} {span : Span} {id : Ident} :
    ∀ d other, patBinding declarator span id = .variable d other → declarator = some d := by
  intro d other same
  unfold patBinding at same
  split at same
  · split at same
    · cases same
      rfl
    · cases same
  · cases same

theorem own_of_shorthandBinding {declarator : Option Declarator} {id : Ident} :
    ∀ d other, shorthandBinding declarator id = .variable d other → declarator = some d := by
  intro d other same
  cases declarator <;> cases same

mutual

theorem Expr.trace_covered : (e : Expr) → Covered none e.reach e.trace e.nodes
  | .ident _ => .refer (.inl List.mem_cons_self) .nil
  | .array _ elements => .node (elementsTrace_covered elements)
  | .object _ properties => .node (propertiesTrace_covered properties)
  | .function name func => .node (func.trace_covered name true)
  | .arrow _ params _ body =>
    .node (.leave (.append (.enter (patsBind_covered .block none params)) (stmtsTrace_covered body)))
  | .classExpr name cls => .hold (.leave (.after (plain_ownName name fun _ => rfl) cls.trace_covered))
  | .unary _ _ operand => .node operand.trace_covered
  | .binary _ _ left right => .node (left.trace_covered.append right.trace_covered)
  | .assign span op target value =>
    .hold (.right (target.assignTrace_covered ⟨span, op, target, value⟩) value.trace_covered)
  | .member _ _ owner key => .node (owner.trace_covered.append key.trace_covered)
  | .superMember _ key => .node key.trace_covered
  | .conditional _ test consequent alternate =>
    .node ((test.trace_covered.append consequent.trace_covered).append alternate.trace_covered)
  | .call span kind callee args =>
    .node (.left (.after (plain_invocation kind ⟨span, callee, args⟩) callee.trace_covered)
      (elementsTrace_covered args))
  | .sequence _ parts => .node (exprsTrace_covered parts)
  | .template _ tag parts => .node ((optTrace_covered tag).append (exprsTrace_covered parts))
  | .yield _ operand => .node (optTrace_covered operand)
  | .paren _ inner => .node inner.trace_covered
  | .string _ _ => .nil
  | .number _ _ => .nil
  | .atom _ _ => .nil

theorem optTrace_covered : (e : Option Expr) → Covered none [] (optTrace e) (optNodes e)
  | none => .nil
  | some e => e.trace_covered.free

theorem exprsTrace_covered : (es : List Expr) → Covered none [] (exprsTrace es) (exprsNodes es)
  | [] => .nil
  | e :: rest => e.trace_covered.append (exprsTrace_covered rest)

theorem elementsTrace_covered : (es : List Element) →
    Covered none [] (elementsTrace es) (elementsNodes es)
  | [] => .nil
  | e :: rest => e.trace_covered.append (elementsTrace_covered rest)

theorem Element.trace_covered : (e : Element) → Covered none [] e.trace e.nodes
  | .hole => .nil
  | .item e => e.trace_covered.free
  | .spread e => e.trace_covered.free

theorem Key.trace_covered : (key : Key) → Covered none [] key.trace key.nodes
  | .computed _ e => e.trace_covered.free
  | .ident _ => .nil
  | .string _ _ => .nil
  | .number _ _ => .nil
  | .bigint _ => .nil
  | .hidden _ => .nil

theorem propertiesTrace_covered : (ps : List Property) →
    Covered none [] (propertiesTrace ps) (propertiesNodes ps)
  | [] => .nil
  | p :: rest => p.trace_covered.append (propertiesTrace_covered rest)

theorem Property.trace_covered : (p : Property) → Covered none [] p.trace p.nodes
  | .shorthand _ => .refer (.inr List.mem_cons_self) .nil
  | .keyValue key value => key.trace_covered.append value.trace_covered
  | .initialized _ value => value.trace_covered.free.node
  | .getter _ key body => .leave (key.trace_covered.opening.append (stmtsTrace_covered body))
  | .setter _ key param body =>
    .leave ((key.trace_covered.opening.append (param.bindTrace_covered .block none)).append
      (stmtsTrace_covered body))
  | .method key func => key.trace_covered.append (func.trace_covered none false)
  | .spread e => e.trace_covered.free

theorem Func.trace_covered (name : Option Ident) (expression : Bool) : (func : Func) →
    Covered none (functionNodes (func.body.getD [])) (func.trace name expression) func.nodes
  | ⟨span, params, body⟩ =>
    .leave (.right (.after (plain_ownName name fun _ => rfl)
      (paramsTrace_covered ⟨span, params, body⟩ expression 0 params)) (bodyTrace_covered body))

theorem bodyTrace_covered : (body : Option (List Stmt)) →
    Covered none (functionNodes (body.getD [])) (bodyTrace body) (bodyNodes body)
  | none => .nil
  | some body => stmtsTrace_covered body

theorem paramsTrace_covered (func : Func) (expression : Bool) (index : Nat) : (ps : List Param) →
    Covered none [] (paramsTrace func expression index ps) (paramsNodes ps)
  | [] => .nil
  | p :: rest =>
    (p.trace_covered func expression index).append (paramsTrace_covered func expression (index + 1) rest)

theorem Param.trace_covered (func : Func) (expression : Bool) (index : Nat) : (p : Param) →
    Covered none [] (p.trace func expression index) p.nodes
  | ⟨span, decorators, pat, promoted⟩ => by
      have others := exprsTrace_covered decorators
      have bound := pat.bindTrace_covered .block none
      cases pat with
      | ident patSpan id => exact (others.declare (by simp)).before
      | _ => exact (bound.append others).swap

theorem ctorParamsTrace_covered : (ps : List Param) →
    Covered none [] (ctorParamsTrace ps) (paramsNodes ps)
  | [] => .nil
  | p :: rest => p.ctorTrace_covered.append (ctorParamsTrace_covered rest)

theorem Param.ctorTrace_covered : (p : Param) → Covered none [] p.ctorTrace p.nodes
  | ⟨_, decorators, pat, _⟩ => (exprsTrace_covered decorators).append (pat.bindTrace_covered .block none)

theorem Pat.bindTrace_covered (home : Home) (declarator : Option Declarator) : (pat : Pat) →
    Covered declarator [] (pat.bindTrace home declarator) pat.nodes
  | .ident _ _ => .declare own_of_patBinding .nil
  | .array _ elements => patsBind_covered home declarator elements
  | .object _ properties => patPropertiesBind_covered home declarator properties
  | .rest _ inner => inner.bindTrace_covered home declarator
  | .default _ left value => (left.bindTrace_covered home declarator).append value.trace_covered.lift
  | .expr e => e.trace_covered.free.lift
  | .blank _ => .nil

theorem patsBind_covered (home : Home) (declarator : Option Declarator) : (pats : List Pat) →
    Covered declarator [] (patsBind home declarator pats) (patsNodes pats)
  | [] => .nil
  | p :: rest => (p.bindTrace_covered home declarator).append (patsBind_covered home declarator rest)

theorem patPropertiesBind_covered (home : Home) (declarator : Option Declarator) :
    (ps : List PatProperty) →
    Covered declarator [] (patPropertiesBind home declarator ps) (patPropertiesNodes ps)
  | [] => .nil
  | p :: rest =>
    (p.bindTrace_covered home declarator).append (patPropertiesBind_covered home declarator rest)

theorem PatProperty.bindTrace_covered (home : Home) (declarator : Option Declarator) :
    (p : PatProperty) → Covered declarator [] (p.bindTrace home declarator) p.nodes
  | .keyValue key value => key.trace_covered.lift.append (value.bindTrace_covered home declarator)
  | .shorthand _ default =>
    .declare own_of_shorthandBinding (optTrace_covered default).lift.node
  | .rest inner => inner.bindTrace_covered home declarator

theorem Pat.useTrace_covered : (pat : Pat) → Covered none [] pat.useTrace pat.nodes
  | .ident _ _ => .refer (.inr List.mem_cons_self) .nil
  | .array _ elements => patsUse_covered elements
  | .object _ properties => patPropertiesUse_covered properties
  | .rest _ inner => inner.useTrace_covered
  | .default _ left value => left.useTrace_covered.append value.trace_covered
  | .expr e => e.trace_covered.free
  | .blank _ => .nil

theorem patsUse_covered : (pats : List Pat) → Covered none [] (patsUse pats) (patsNodes pats)
  | [] => .nil
  | p :: rest => p.useTrace_covered.append (patsUse_covered rest)

theorem patPropertiesUse_covered : (ps : List PatProperty) →
    Covered none [] (patPropertiesUse ps) (patPropertiesNodes ps)
  | [] => .nil
  | p :: rest => p.useTrace_covered.append (patPropertiesUse_covered rest)

theorem PatProperty.useTrace_covered : (p : PatProperty) → Covered none [] p.useTrace p.nodes
  | .keyValue _ value => value.useTrace_covered.behind
  | .shorthand _ default => .refer (.inr List.mem_cons_self) (optTrace_covered default).node
  | .rest inner => inner.useTrace_covered

theorem Pat.assignTrace_covered (assign : Assignment) : (pat : Pat) →
    Covered none [] (pat.assignTrace assign) pat.nodes
  | .ident _ id => by
      refine .refer (.inr List.mem_cons_self) (.plain ?_)
      split <;> simp [Event.isPlain]
  | .expr (.member _ false owner key) => .node (owner.trace_covered.append key.trace_covered)
  | .expr (.paren _ inner) => .node inner.trace_covered.free
  | .array _ elements => patsUse_covered elements
  | .object _ properties => keyValuesUse_covered properties
  | .expr (.member _ true _ _) | .expr (.ident _) | .expr (.string _ _) | .expr (.number _ _)
  | .expr (.atom _ _) | .expr (.array _ _) | .expr (.object _ _) | .expr (.function _ _)
  | .expr (.arrow _ _ _ _) | .expr (.classExpr _ _) | .expr (.unary _ _ _) | .expr (.binary _ _ _ _)
  | .expr (.assign _ _ _ _) | .expr (.superMember _ _) | .expr (.conditional _ _ _ _)
  | .expr (.call _ _ _ _) | .expr (.sequence _ _) | .expr (.template _ _ _) | .expr (.yield _ _)
  | .rest _ _ | .default _ _ _ | .blank _ => .nil

theorem keyValuesUse_covered : (ps : List PatProperty) →
    Covered none [] (keyValuesUse ps) (patPropertiesNodes ps)
  | [] => .nil
  | p :: rest => p.keyValueUse_covered.append (keyValuesUse_covered rest)

theorem PatProperty.keyValueUse_covered : (p : PatProperty) → Covered none [] p.keyValueUse p.nodes
  | .keyValue _ value => value.useTrace_covered.behind
  | .shorthand _ _ => .nil
  | .rest _ => .nil

theorem Class.trace_covered : (cls : Class) → Covered none [] cls.trace cls.nodes
  | ⟨_, decorators, base, members⟩ =>
    ((exprsTrace_covered decorators).append (optTrace_covered base)).append (membersTrace_covered members)

theorem membersTrace_covered : (members : List ClassMember) →
    Covered none [] (membersTrace members) (membersNodes members)
  | [] => .nil
  | m :: rest => m.trace_covered.append (membersTrace_covered rest)

theorem ClassMember.trace_covered : (m : ClassMember) → Covered none [] m.trace m.nodes
  | .ctor _ params body =>
    .leave (.append (.enter (ctorParamsTrace_covered params)) (bodyTrace_covered body))
  | .method _ _ decorators key func => by
      have own := func.trace_covered none false
      have named := (key.trace_covered.append (exprsTrace_covered decorators)).swap
      cases key with
      | hidden span => exact own.free.behind
      | _ => exact named.append own
  | .field _ _ decorators key value => by
      have initial := optTrace_covered value
      have named := (key.trace_covered.append (exprsTrace_covered decorators)).swap
      cases key with
      | hidden span => exact initial.behind
      | _ => exact named.append initial
  | .accessor _ _ decorators _ value =>
    (exprsTrace_covered decorators).before.append (optTrace_covered value)
  | .staticBlock _ body => .leave (.enter (stmtsTrace_covered body).free)
  | .other _ => .nil

theorem declaratorsTrace_covered (home : Home) : (ds : List Declarator) →
    Covered none (ds.flatMap Declarator.held) (declaratorsTrace home ds) (declaratorsNodes ds)
  | [] => .nil
  | d :: rest => (d.trace_covered home).both (declaratorsTrace_covered home rest)

theorem Declarator.trace_covered (home : Home) : (d : Declarator) →
    Covered none d.held (d.trace home) d.nodes
  | ⟨span, pat, none⟩ =>
    .declarator ((pat.bindTrace_covered home (some ⟨span, pat, none⟩)).append .nil)
  | ⟨span, pat, some value⟩ =>
    .declarator ((pat.bindTrace_covered home (some ⟨span, pat, some value⟩)).right value.trace_covered.lift)

theorem stmtsTrace_covered : (body : List Stmt) →
    Covered none (functionNodes body) (stmtsTrace body) (stmtsNodes body)
  | [] => .nil
  | s :: rest => by
      have all := (s.trace_covered.shapes rest).both (stmtsTrace_covered rest)
      rw [functionNodes_cons]
      exact all

theorem optStmtTrace_covered : (s : Option Stmt) → Covered none [] (optStmtTrace s) (optStmtNodes s)
  | none => .nil
  | some s => s.trace_covered.free

theorem Stmt.trace_covered : (s : Stmt) → Covered none s.held s.trace s.nodes
  | .block _ body => .leave (.enter (stmtsTrace_covered body).free)
  | .simple _ => .nil
  | .expr _ e => e.trace_covered
  | .ret _ value => optTrace_covered value
  | .throw _ value => value.trace_covered.free
  | .ifElse _ test consequent alternate =>
    (test.trace_covered.append consequent.trace_covered).append (optStmtTrace_covered alternate)
  | .labeled _ body => body.trace_covered.free
  | .switch _ subject clauses =>
    .leave (subject.trace_covered.opening.append (stmtsTrace_covered clauses))
  | .clause _ test body => (optTrace_covered test).append (stmtsTrace_covered body)
  | .tryCatch _ body handler finalizer =>
    ((Covered.leave (.enter (stmtsTrace_covered body))).append (optStmtTrace_covered handler)).append
      (optStmtTrace_covered finalizer)
  | .handler _ param body =>
    .leave (.append (.enter (param.bindTrace_covered .block none)) (stmtsTrace_covered body))
  | .whileLoop _ test body => test.trace_covered.append body.trace_covered
  | .doWhile _ body test => body.trace_covered.append test.trace_covered
  | .forLoop _ init test update body =>
    .leave ((((Covered.enter (optStmtTrace_covered init)).append (optTrace_covered test)).append
      (optTrace_covered update)).append body.trace_covered)
  | .forIn _ head source body =>
    .leave (((Covered.enter head.trace_covered).append source.trace_covered).append body.trace_covered)
  | .forOf _ head source body =>
    .leave (((Covered.enter head.trace_covered).append source.trace_covered).append body.trace_covered)
  | .target pat => pat.useTrace_covered
  | .withObject _ owner body => owner.trace_covered.append body.trace_covered
  | .vars _ kind declarators => declaratorsTrace_covered kind.home declarators
  | .function _ func => .hold (.declare (by simp) (func.trace_covered none false).free)
  | .classDecl _ cls => .hold (.declare (by simp) cls.trace_covered)
  | .typeDecl _ _ _ => .nil

end

/-! ### Files -/

theorem Covered.names : (ids : List Ident) → Covered none [] (ids.map .refer) (ids.map .name)
  | [] => .nil
  | _ :: rest => .refer (.inr List.mem_cons_self) (names rest).node

theorem Item.trace_covered (following : List Stmt) : (item : Item) →
    Covered none [] (item.trace following) item.nodes
  | .stmt s => (s.trace_covered.shapes following).free
  | .exportDecl decl => (decl.trace_covered.shapes following).free
  | .importDecl decl => .plain (by simp [Item.trace, Event.isPlain])
  | .exportList specifiers => .names (specifiers.filterMap ExportSpecifier.used?)
  | .exportClass name cls => (Expr.classExpr name cls).trace_covered.free
  | .exportFunction name func => (Expr.function name func).trace_covered.free
  | .exportValue value => value.trace_covered.free
  | .exportFrom _ _ => .nil
  | .exportAll _ => .nil
  | .other => .nil

/-- The events of a file come from its nodes. -/
theorem itemsTrace_covered (items : List Item) :
    Covered none [] (itemsTrace items) (items.flatMap Item.nodes) := by
  induction items with
  | nil => exact .nil
  | cons item rest ih => exact (item.trace_covered _).append ih

end BundleLens
