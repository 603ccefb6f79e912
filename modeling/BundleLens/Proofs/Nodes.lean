/-
Module: BundleLens.Proofs.Nodes
Layer: Proofs
Purpose: The nodes of a syntax tree that questions start from or lead to: expressions, names outside of
  expressions, variables, functions and classes. Each node is listed as often as it stands in the tree,
  so what is said of all members of the list is said of all places of the tree.
Imports: BundleLens.Scope.Index
Main exports: SyntaxNode, Expr.nodes, Stmt.nodes, Item.nodes, SourceFile.nodes, NodesClosed,
  SourceFile.nodes_subset, SourceFile.nodes_closed
-/
import BundleLens.Scope.Index

namespace BundleLens

/-- A node of a syntax tree. -/
inductive SyntaxNode where
  | expr (e : Expr)
  /-- A name that is no expression: a pattern binds it or assigns to it, or it is a shorthand property
      or an entry of an export list. -/
  | name (id : Ident)
  | declarator (d : Declarator)
  | function (decl : FunctionDecl)
  | classDecl (decl : ClassDecl)

namespace SyntaxNode

/-- The range of a node. -/
@[simp] def span : SyntaxNode → Span
  | .expr e => e.span
  | .name id => id.span
  | .declarator d => d.span
  | .function decl => decl.func.span
  | .classDecl decl => decl.cls.span

end SyntaxNode

mutual

/-- The nodes of an expression, itself first. -/
@[simp] def Expr.nodes (e : Expr) : List SyntaxNode :=
  .expr e :: match e with
    | .array _ elements => elementsNodes elements
    | .object _ properties => propertiesNodes properties
    | .function _ func => func.nodes
    | .arrow _ params _ body => patsNodes params ++ stmtsNodes body
    | .classExpr _ cls => cls.nodes
    | .unary _ _ operand => operand.nodes
    | .binary _ _ left right => left.nodes ++ right.nodes
    | .assign _ _ target value => target.nodes ++ value.nodes
    | .member _ _ owner key => owner.nodes ++ key.nodes
    | .superMember _ key => key.nodes
    | .conditional _ test consequent alternate => test.nodes ++ consequent.nodes ++ alternate.nodes
    | .call _ _ callee args => callee.nodes ++ elementsNodes args
    | .sequence _ parts => exprsNodes parts
    | .template _ tag parts => optNodes tag ++ exprsNodes parts
    | .yield _ operand => optNodes operand
    | .paren _ inner => inner.nodes
    | .ident _ => []
    | .string _ _ => []
    | .number _ _ => []
    | .atom _ _ => []

@[simp] def optNodes : Option Expr → List SyntaxNode
  | none => []
  | some e => e.nodes

@[simp] def exprsNodes : List Expr → List SyntaxNode
  | [] => []
  | e :: rest => e.nodes ++ exprsNodes rest

@[simp] def elementsNodes : List Element → List SyntaxNode
  | [] => []
  | e :: rest => e.nodes ++ elementsNodes rest

@[simp] def Element.nodes : Element → List SyntaxNode
  | .hole => []
  | .item e => e.nodes
  | .spread e => e.nodes

@[simp] def Key.nodes : Key → List SyntaxNode
  | .computed _ e => e.nodes
  | .ident _ => []
  | .string _ _ => []
  | .number _ _ => []
  | .bigint _ => []
  | .hidden _ => []

@[simp] def propertiesNodes : List Property → List SyntaxNode
  | [] => []
  | p :: rest => p.nodes ++ propertiesNodes rest

@[simp] def Property.nodes : Property → List SyntaxNode
  | .shorthand id => [.name id]
  | .keyValue key value => key.nodes ++ value.nodes
  | .initialized id value => .name id :: value.nodes
  | .getter _ key body => key.nodes ++ stmtsNodes body
  | .setter _ key param body => key.nodes ++ param.nodes ++ stmtsNodes body
  | .method key func => key.nodes ++ func.nodes
  | .spread e => e.nodes

@[simp] def Func.nodes : Func → List SyntaxNode
  | ⟨_, params, body⟩ => paramsNodes params ++ bodyNodes body

@[simp] def bodyNodes : Option (List Stmt) → List SyntaxNode
  | none => []
  | some body => stmtsNodes body

@[simp] def paramsNodes : List Param → List SyntaxNode
  | [] => []
  | p :: rest => p.nodes ++ paramsNodes rest

@[simp] def Param.nodes : Param → List SyntaxNode
  | ⟨_, decorators, pat, _⟩ => exprsNodes decorators ++ pat.nodes

@[simp] def Pat.nodes : Pat → List SyntaxNode
  | .ident _ id => [.name id]
  | .array _ elements => patsNodes elements
  | .object _ properties => patPropertiesNodes properties
  | .rest _ inner => inner.nodes
  | .default _ left value => left.nodes ++ value.nodes
  | .expr e => e.nodes
  | .blank _ => []

@[simp] def patsNodes : List Pat → List SyntaxNode
  | [] => []
  | p :: rest => p.nodes ++ patsNodes rest

@[simp] def patPropertiesNodes : List PatProperty → List SyntaxNode
  | [] => []
  | p :: rest => p.nodes ++ patPropertiesNodes rest

@[simp] def PatProperty.nodes : PatProperty → List SyntaxNode
  | .keyValue key value => key.nodes ++ value.nodes
  | .shorthand id default => .name id :: optNodes default
  | .rest inner => inner.nodes

@[simp] def Class.nodes : Class → List SyntaxNode
  | ⟨_, decorators, base, members⟩ => exprsNodes decorators ++ optNodes base ++ membersNodes members

@[simp] def membersNodes : List ClassMember → List SyntaxNode
  | [] => []
  | m :: rest => m.nodes ++ membersNodes rest

@[simp] def ClassMember.nodes : ClassMember → List SyntaxNode
  | .ctor _ params body => paramsNodes params ++ bodyNodes body
  | .method _ _ decorators key func => exprsNodes decorators ++ key.nodes ++ func.nodes
  | .field _ _ decorators key value => exprsNodes decorators ++ key.nodes ++ optNodes value
  | .accessor _ _ decorators key value => exprsNodes decorators ++ key.nodes ++ optNodes value
  | .staticBlock _ body => stmtsNodes body
  | .other _ => []

@[simp] def declaratorsNodes : List Declarator → List SyntaxNode
  | [] => []
  | d :: rest => d.nodes ++ declaratorsNodes rest

/-- The nodes of a variable, itself first. -/
@[simp] def Declarator.nodes : Declarator → List SyntaxNode
  | ⟨span, pat, init⟩ => .declarator ⟨span, pat, init⟩ :: pat.nodes ++ optNodes init

@[simp] def stmtsNodes : List Stmt → List SyntaxNode
  | [] => []
  | s :: rest => s.nodes ++ stmtsNodes rest

@[simp] def optStmtNodes : Option Stmt → List SyntaxNode
  | none => []
  | some s => s.nodes

/-- The nodes of a statement. -/
@[simp] def Stmt.nodes : Stmt → List SyntaxNode
  | .block _ body => stmtsNodes body
  | .simple _ => []
  | .expr _ value => value.nodes
  | .ret _ value => optNodes value
  | .throw _ value => value.nodes
  | .ifElse _ test consequent alternate => test.nodes ++ consequent.nodes ++ optStmtNodes alternate
  | .labeled _ body => body.nodes
  | .switch _ subject clauses => subject.nodes ++ stmtsNodes clauses
  | .clause _ test body => optNodes test ++ stmtsNodes body
  | .tryCatch _ body handler finalizer =>
    stmtsNodes body ++ optStmtNodes handler ++ optStmtNodes finalizer
  | .handler _ param body => param.nodes ++ stmtsNodes body
  | .whileLoop _ test body => test.nodes ++ body.nodes
  | .doWhile _ body test => body.nodes ++ test.nodes
  | .forLoop _ init test update body =>
    optStmtNodes init ++ optNodes test ++ optNodes update ++ body.nodes
  | .forIn _ head source body => head.nodes ++ source.nodes ++ body.nodes
  | .forOf _ head source body => head.nodes ++ source.nodes ++ body.nodes
  | .target pat => pat.nodes
  | .withObject _ object body => object.nodes ++ body.nodes
  | .vars _ _ declarators => declaratorsNodes declarators
  | .function name func => .function ⟨name, func⟩ :: func.nodes
  | .classDecl name cls => .classDecl ⟨name, cls⟩ :: cls.nodes
  | .typeDecl _ _ _ => []

end

/-- An expression is a node of its own. -/
theorem Expr.mem_nodes_self (e : Expr) : SyntaxNode.expr e ∈ e.nodes := by
  rw [Expr.nodes.eq_def]
  exact List.mem_cons_self

/-- The nodes of an item of the top level. -/
@[simp] def Item.nodes : Item → List SyntaxNode
  | .stmt s => s.nodes
  | .exportDecl decl => decl.nodes
  | .exportList specifiers => (specifiers.filterMap ExportSpecifier.used?).map .name
  | .exportClass name cls => (Expr.classExpr name cls).nodes
  | .exportFunction name func => (Expr.function name func).nodes
  | .exportValue value => value.nodes
  | .importDecl _ => []
  | .exportFrom _ _ => []
  | .exportAll _ => []
  | .other => []

/-- The nodes of a file. -/
def SourceFile.nodes (file : SourceFile) : List SyntaxNode := file.items.flatMap Item.nodes

/-! ### Nodes inside of nodes -/

/-- The nodes of a node, itself first. -/
def SyntaxNode.nodes : SyntaxNode → List SyntaxNode
  | .expr e => e.nodes
  | .name id => [.name id]
  | .declarator d => d.nodes
  | .function decl => .function decl :: decl.func.nodes
  | .classDecl decl => .classDecl decl :: decl.cls.nodes

/-- With a node a list of nodes holds all nodes of the node. -/
def NodesClosed (nodes : List SyntaxNode) : Prop := ∀ node ∈ nodes, node.nodes ⊆ nodes

namespace NodesClosed

theorem nil : NodesClosed [] := nofun

theorem append {first second : List SyntaxNode} (left : NodesClosed first) (right : NodesClosed second) :
    NodesClosed (first ++ second) := by
  intro node member other inside
  rcases List.mem_append.1 member with here | there
  · exact List.mem_append_left _ (left node here inside)
  · exact List.mem_append_right _ (right node there inside)

/-- A node may stand in front if no other nodes are nodes of it. -/
theorem cons {node : SyntaxNode} {rest : List SyntaxNode} (closed : NodesClosed rest)
    (own : node.nodes ⊆ node :: rest) : NodesClosed (node :: rest) := by
  intro other member
  rcases List.mem_cons.1 member with rfl | later
  · exact own
  · exact fun _ inside => List.mem_cons_of_mem _ (closed other later inside)

/-- A node stands in front of the other nodes of it. -/
theorem own {node : SyntaxNode} {rest : List SyntaxNode} (closed : NodesClosed rest)
    (same : node.nodes = node :: rest := by rfl) : NodesClosed (node :: rest) := by
  apply closed.cons
  rw [same]
  exact List.Subset.refl _

theorem name {id : Ident} {rest : List SyntaxNode} (closed : NodesClosed rest) :
    NodesClosed (.name id :: rest) :=
  closed.cons (List.cons_subset_cons _ (List.nil_subset rest))

theorem names : (ids : List Ident) → NodesClosed (ids.map .name)
  | [] => .nil
  | _ :: rest => .name (names rest)

end NodesClosed

mutual

theorem Expr.nodes_closed : ∀ e : Expr, NodesClosed e.nodes
  | .array _ elements => .own (elementsNodes_closed elements)
  | .object _ properties => .own (propertiesNodes_closed properties)
  | .function _ func => .own func.nodes_closed
  | .arrow _ params _ body => .own (.append (patsNodes_closed params) (stmtsNodes_closed body))
  | .classExpr _ cls => .own cls.nodes_closed
  | .unary _ _ operand => .own operand.nodes_closed
  | .binary _ _ left right => .own (.append left.nodes_closed right.nodes_closed)
  | .assign _ _ target value => .own (.append target.nodes_closed value.nodes_closed)
  | .member _ _ owner key => .own (.append owner.nodes_closed key.nodes_closed)
  | .superMember _ key => .own key.nodes_closed
  | .conditional _ test consequent alternate =>
    .own (.append (.append test.nodes_closed consequent.nodes_closed) alternate.nodes_closed)
  | .call _ _ callee args => .own (.append callee.nodes_closed (elementsNodes_closed args))
  | .sequence _ parts => .own (exprsNodes_closed parts)
  | .template _ tag parts => .own (.append (optNodes_closed tag) (exprsNodes_closed parts))
  | .yield _ operand => .own (optNodes_closed operand)
  | .paren _ inner => .own inner.nodes_closed
  | .ident _ => .own .nil
  | .string _ _ => .own .nil
  | .number _ _ => .own .nil
  | .atom _ _ => .own .nil

theorem optNodes_closed : ∀ e : Option Expr, NodesClosed (optNodes e)
  | none => .nil
  | some e => e.nodes_closed

theorem exprsNodes_closed : ∀ es : List Expr, NodesClosed (exprsNodes es)
  | [] => .nil
  | e :: rest => .append e.nodes_closed (exprsNodes_closed rest)

theorem elementsNodes_closed : ∀ es : List Element, NodesClosed (elementsNodes es)
  | [] => .nil
  | e :: rest => .append e.nodes_closed (elementsNodes_closed rest)

theorem Element.nodes_closed : ∀ element : Element, NodesClosed element.nodes
  | .hole => .nil
  | .item e => e.nodes_closed
  | .spread e => e.nodes_closed

theorem Key.nodes_closed : ∀ key : Key, NodesClosed key.nodes
  | .computed _ e => e.nodes_closed
  | .ident _ => .nil
  | .string _ _ => .nil
  | .number _ _ => .nil
  | .bigint _ => .nil
  | .hidden _ => .nil

theorem propertiesNodes_closed : ∀ ps : List Property, NodesClosed (propertiesNodes ps)
  | [] => .nil
  | p :: rest => .append p.nodes_closed (propertiesNodes_closed rest)

theorem Property.nodes_closed : ∀ property : Property, NodesClosed property.nodes
  | .shorthand _ => .name .nil
  | .keyValue key value => .append key.nodes_closed value.nodes_closed
  | .initialized _ value => .name value.nodes_closed
  | .getter _ key body => .append key.nodes_closed (stmtsNodes_closed body)
  | .setter _ key param body =>
    .append (.append key.nodes_closed param.nodes_closed) (stmtsNodes_closed body)
  | .method key func => .append key.nodes_closed func.nodes_closed
  | .spread e => e.nodes_closed

theorem Func.nodes_closed : ∀ func : Func, NodesClosed func.nodes
  | ⟨_, params, body⟩ => .append (paramsNodes_closed params) (bodyNodes_closed body)

theorem bodyNodes_closed : ∀ body : Option (List Stmt), NodesClosed (bodyNodes body)
  | none => .nil
  | some body => stmtsNodes_closed body

theorem paramsNodes_closed : ∀ ps : List Param, NodesClosed (paramsNodes ps)
  | [] => .nil
  | p :: rest => .append p.nodes_closed (paramsNodes_closed rest)

theorem Param.nodes_closed : ∀ p : Param, NodesClosed p.nodes
  | ⟨_, decorators, pat, _⟩ => .append (exprsNodes_closed decorators) pat.nodes_closed

theorem Pat.nodes_closed : ∀ pat : Pat, NodesClosed pat.nodes
  | .ident _ _ => .name .nil
  | .array _ elements => patsNodes_closed elements
  | .object _ properties => patPropertiesNodes_closed properties
  | .rest _ inner => inner.nodes_closed
  | .default _ left value => .append left.nodes_closed value.nodes_closed
  | .expr e => e.nodes_closed
  | .blank _ => .nil

theorem patsNodes_closed : ∀ ps : List Pat, NodesClosed (patsNodes ps)
  | [] => .nil
  | p :: rest => .append p.nodes_closed (patsNodes_closed rest)

theorem patPropertiesNodes_closed : ∀ ps : List PatProperty, NodesClosed (patPropertiesNodes ps)
  | [] => .nil
  | p :: rest => .append p.nodes_closed (patPropertiesNodes_closed rest)

theorem PatProperty.nodes_closed : ∀ p : PatProperty, NodesClosed p.nodes
  | .keyValue key value => .append key.nodes_closed value.nodes_closed
  | .shorthand _ default => .name (optNodes_closed default)
  | .rest inner => inner.nodes_closed

theorem Class.nodes_closed : ∀ cls : Class, NodesClosed cls.nodes
  | ⟨_, decorators, base, members⟩ =>
    .append (.append (exprsNodes_closed decorators) (optNodes_closed base)) (membersNodes_closed members)

theorem membersNodes_closed : ∀ ms : List ClassMember, NodesClosed (membersNodes ms)
  | [] => .nil
  | m :: rest => .append m.nodes_closed (membersNodes_closed rest)

theorem ClassMember.nodes_closed : ∀ m : ClassMember, NodesClosed m.nodes
  | .ctor _ params body => .append (paramsNodes_closed params) (bodyNodes_closed body)
  | .method _ _ decorators key func =>
    .append (.append (exprsNodes_closed decorators) key.nodes_closed) func.nodes_closed
  | .field _ _ decorators key value =>
    .append (.append (exprsNodes_closed decorators) key.nodes_closed) (optNodes_closed value)
  | .accessor _ _ decorators key value =>
    .append (.append (exprsNodes_closed decorators) key.nodes_closed) (optNodes_closed value)
  | .staticBlock _ body => stmtsNodes_closed body
  | .other _ => .nil

theorem declaratorsNodes_closed : ∀ ds : List Declarator, NodesClosed (declaratorsNodes ds)
  | [] => .nil
  | d :: rest => .append d.nodes_closed (declaratorsNodes_closed rest)

theorem Declarator.nodes_closed : ∀ d : Declarator, NodesClosed d.nodes
  | ⟨_, pat, init⟩ => .own (.append pat.nodes_closed (optNodes_closed init))

theorem stmtsNodes_closed : ∀ body : List Stmt, NodesClosed (stmtsNodes body)
  | [] => .nil
  | s :: rest => .append s.nodes_closed (stmtsNodes_closed rest)

theorem optStmtNodes_closed : ∀ s : Option Stmt, NodesClosed (optStmtNodes s)
  | none => .nil
  | some s => s.nodes_closed

theorem Stmt.nodes_closed : ∀ s : Stmt, NodesClosed s.nodes
  | .block _ body => stmtsNodes_closed body
  | .simple _ => .nil
  | .expr _ value => value.nodes_closed
  | .ret _ value => optNodes_closed value
  | .throw _ value => value.nodes_closed
  | .ifElse _ test consequent alternate =>
    .append (.append test.nodes_closed consequent.nodes_closed) (optStmtNodes_closed alternate)
  | .labeled _ body => body.nodes_closed
  | .switch _ subject clauses => .append subject.nodes_closed (stmtsNodes_closed clauses)
  | .clause _ test body => .append (optNodes_closed test) (stmtsNodes_closed body)
  | .tryCatch _ body handler finalizer =>
    .append (.append (stmtsNodes_closed body) (optStmtNodes_closed handler))
      (optStmtNodes_closed finalizer)
  | .handler _ param body => .append param.nodes_closed (stmtsNodes_closed body)
  | .whileLoop _ test body => .append test.nodes_closed body.nodes_closed
  | .doWhile _ body test => .append body.nodes_closed test.nodes_closed
  | .forLoop _ init test update body =>
    .append (.append (.append (optStmtNodes_closed init) (optNodes_closed test)) (optNodes_closed update))
      body.nodes_closed
  | .forIn _ head source body => .append (.append head.nodes_closed source.nodes_closed) body.nodes_closed
  | .forOf _ head source body => .append (.append head.nodes_closed source.nodes_closed) body.nodes_closed
  | .target pat => pat.nodes_closed
  | .withObject _ object body => .append object.nodes_closed body.nodes_closed
  | .vars _ _ declarators => declaratorsNodes_closed declarators
  | .function _ func => .own func.nodes_closed
  | .classDecl _ cls => .own cls.nodes_closed
  | .typeDecl _ _ _ => .nil

end

theorem Item.nodes_closed : ∀ item : Item, NodesClosed item.nodes
  | .stmt s => s.nodes_closed
  | .exportDecl decl => decl.nodes_closed
  | .exportList _ => .names _
  | .exportClass name cls => (Expr.classExpr name cls).nodes_closed
  | .exportFunction name func => (Expr.function name func).nodes_closed
  | .exportValue value => value.nodes_closed
  | .importDecl _ => .nil
  | .exportFrom _ _ => .nil
  | .exportAll _ => .nil
  | .other => .nil

/-- With a node a file holds all nodes of the node. -/
theorem SourceFile.nodes_subset (file : SourceFile) : NodesClosed file.nodes := by
  intro node member other inside
  obtain ⟨item, listed, within⟩ := List.mem_flatMap.1 member
  exact List.mem_flatMap.2 ⟨item, listed, item.nodes_closed node within inside⟩

theorem SourceFile.nodes_closed (file : SourceFile) (e : Expr) (inside : SyntaxNode.expr e ∈ file.nodes) :
    e.nodes ⊆ file.nodes :=
  file.nodes_subset (.expr e) inside

end BundleLens
