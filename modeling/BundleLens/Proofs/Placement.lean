/-
Module: BundleLens.Proofs.Placement
Layer: Proofs
Purpose: What it means that something that was read from a text lies in a range: every node of it starts
  there. Each syntax node has an instance that says so if it starts there itself and its parts lie
  there, so the place of a tree is found by instance search.
Imports: BundleLens.Grammar.File, BundleLens.Proofs.Nodes, BundleLens.Proofs.ScanBounds
Main exports: Placed, Within, NodesInside, Grammar.Cursor.Inside
-/
import BundleLens.Grammar.File
import BundleLens.Proofs.Nodes
import BundleLens.Proofs.ScanBounds

namespace BundleLens

/-- Things that are read from a text, with what it means that they lie in a range. -/
class Placed (α : Type) where
  inside : Span → α → Prop

/-- A thing that was read from a text lies in a range. -/
class Within {α : Type} [Placed α] (room : Span) (a : α) : Prop where
  holds : Placed.inside room a

/-- All nodes of a list start in a range. -/
def NodesInside (room : Span) (nodes : List SyntaxNode) : Prop :=
  ∀ node ∈ nodes, room.contains node.span.lo = true

/-- The current token of a cursor lies in a range, and so does what is left behind it. -/
def Grammar.Cursor.Inside (room : Span) (cursor : Grammar.Cursor) : Prop := cursor.current.Inside room

/-! ### What is placed -/

instance : Placed Unit := ⟨fun _ _ => True⟩
instance : Placed Bool := ⟨fun _ _ => True⟩
instance : Placed String := ⟨fun _ _ => True⟩
instance : Placed Token := ⟨fun _ _ => True⟩
instance : Placed TemplateEnd := ⟨fun _ _ => True⟩
instance : Placed VarKind := ⟨fun _ _ => True⟩
instance : Placed ImportSpecifier := ⟨fun _ _ => True⟩
instance : Placed Grammar.Context := ⟨fun _ _ => True⟩
instance : Placed Nat := ⟨fun room pos => room.contains pos = true⟩
instance : Placed Span := ⟨fun room span => room.contains span.lo = true⟩
instance : Placed Ident := ⟨fun room id => room.contains id.span.lo = true⟩
instance : Placed Lexeme := ⟨Lexeme.Inside⟩
instance : Placed Grammar.Cursor := ⟨Grammar.Cursor.Inside⟩
instance : Placed Expr := ⟨fun room e => NodesInside room e.nodes⟩
instance : Placed Key := ⟨fun room key => room.contains key.span.lo = true ∧ NodesInside room key.nodes⟩
instance : Placed Element := ⟨fun room element => NodesInside room element.nodes⟩
instance : Placed Property := ⟨fun room property => NodesInside room property.nodes⟩
instance : Placed Param := ⟨fun room param => NodesInside room param.nodes⟩
instance : Placed Pat := ⟨fun room pat => NodesInside room pat.nodes⟩
instance : Placed PatProperty := ⟨fun room property => NodesInside room property.nodes⟩
instance : Placed Class := ⟨fun room cls => room.contains cls.span.lo = true ∧ NodesInside room cls.nodes⟩
instance : Placed ClassMember := ⟨fun room member => NodesInside room member.nodes⟩
instance : Placed Declarator := ⟨fun room d => NodesInside room d.nodes⟩
instance : Placed Stmt := ⟨fun room s => NodesInside room s.nodes⟩
instance : Placed Item := ⟨fun room item => NodesInside room item.nodes⟩
instance : Placed ModuleName := ⟨fun room name => ∀ id, name = .ident id → Within room id⟩
instance : Placed ExportSpecifier :=
  ⟨fun room specifier => ∀ id, specifier.used? = some id → Within room id⟩
instance : Placed Grammar.Pending := ⟨fun room pending => NodesInside room pending.left.nodes⟩

variable {α β : Type} [Placed α] [Placed β] {room : Span}

instance : Placed (List α) := ⟨fun room xs => ∀ x ∈ xs, Within room x⟩
instance : Placed (Option α) := ⟨fun room found => ∀ x, found = some x → Within room x⟩
instance : Placed (α × β) := ⟨fun room pair => Within room pair.1 ∧ Within room pair.2⟩
instance : Placed Func :=
  ⟨fun room func => Within room func.span ∧ Within room func.params ∧ Within room func.body⟩
instance : Placed Grammar.MemberHead :=
  ⟨fun room head => Within room head.lo ∧ Within room head.decorators⟩

instance (x : Unit) : Within room x := ⟨trivial⟩
instance (x : Bool) : Within room x := ⟨trivial⟩
instance (x : String) : Within room x := ⟨trivial⟩
instance (x : Token) : Within room x := ⟨trivial⟩
instance (x : TemplateEnd) : Within room x := ⟨trivial⟩
instance (x : VarKind) : Within room x := ⟨trivial⟩
instance (x : ImportSpecifier) : Within room x := ⟨trivial⟩
instance (x : Grammar.Context) : Within room x := ⟨trivial⟩

/-! ### Lists, options and pairs -/

instance : Within room ([] : List α) := ⟨nofun⟩

instance {x : α} {xs : List α} [first : Within room x] [rest : Within room xs] : Within room (x :: xs) where
  holds y member := by
    rcases List.mem_cons.1 member with rfl | later
    · exact first
    · exact rest.holds y later

instance {xs ys : List α} [first : Within room xs] [second : Within room ys] : Within room (xs ++ ys) where
  holds y member := by
    rcases List.mem_append.1 member with left | right
    · exact first.holds y left
    · exact second.holds y right

instance {xs : List α} [all : Within room xs] : Within room xs.reverse where
  holds y member := all.holds y (List.mem_reverse.1 member)

instance : Within room (none : Option α) := ⟨nofun⟩

instance {x : α} [within : Within room x] : Within room (some x) where
  holds y same := by
    cases same
    exact within

instance {found : Option α} {x : α} [within : Within room found] [other : Within room x] :
    Within room (found.getD x) := by
  cases found with
  | none => exact other
  | some y => exact within.holds y rfl

instance {x : α} {y : β} [first : Within room x] [second : Within room y] : Within room (x, y) :=
  ⟨first, second⟩

instance {x : α × β} [both : Within room x] : Within room x.1 := both.holds.1

instance {x : α × β} [both : Within room x] : Within room x.2 := both.holds.2

instance {xs : List (α × β)} [all : Within room xs] : Within room (xs.map (·.2)) where
  holds y member := by
    obtain ⟨pair, inside, rfl⟩ := List.mem_map.1 member
    exact (all.holds pair inside).holds.2

instance {c : Prop} [Decidable c] {x y : α} [yes : Within room x] [no : Within room y] :
    Within room (if c then x else y) := by
  split
  · exact yes
  · exact no

/-! ### Positions -/

@[simp] theorem contains_lo (span : Span) [within : Within room span] : room.contains span.lo = true :=
  within.holds

@[simp] theorem contains_ident (id : Ident) [within : Within room id] :
    room.contains id.span.lo = true :=
  within.holds

instance {lo hi : Nat} [within : Within room lo] : Within room (⟨lo, hi⟩ : Span) := ⟨within.holds⟩

instance {span : Span} [within : Within room span] : Within room span.lo := ⟨within.holds⟩

instance {head : Grammar.MemberHead} [within : Within room head] : Within room head.lo := within.holds.1

instance {first last : Span} [within : Within room first] : Within room (first.through last) :=
  ⟨within.holds⟩

instance {lexeme : Lexeme} [within : Within room lexeme] : Within room lexeme.span :=
  ⟨within.holds.start.contains⟩

instance {name : String} {span : Span} [within : Within room span] : Within room (⟨name, span⟩ : Ident) :=
  ⟨within.holds⟩

instance {id : Ident} [within : Within room id] : Within room id.span := ⟨within.holds⟩

instance {head : Grammar.MemberHead} [within : Within room head] : Within room head.decorators :=
  within.holds.2

instance {lo : Nat} {decs : List Expr} {isStatic : Bool} [start : Within room lo]
    [all : Within room decs] : Within room (⟨lo, decs, isStatic⟩ : Grammar.MemberHead) :=
  ⟨start, all⟩

/-! ### Nodes of parts -/

@[simp] theorem nodesInside_nil : NodesInside room [] := nofun

@[simp] theorem nodesInside_cons {node : SyntaxNode} {nodes : List SyntaxNode} :
    NodesInside room (node :: nodes) ↔ room.contains node.span.lo = true ∧ NodesInside room nodes :=
  List.forall_mem_cons

@[simp] theorem nodesInside_append {first second : List SyntaxNode} :
    NodesInside room (first ++ second) ↔ NodesInside room first ∧ NodesInside room second :=
  List.forall_mem_append

@[simp] theorem nodesInside_expr (e : Expr) [within : Within room e] : NodesInside room e.nodes :=
  within.holds

@[simp] theorem nodesInside_key (key : Key) [within : Within room key] : NodesInside room key.nodes :=
  within.holds.2

@[simp] theorem nodesInside_pat (pat : Pat) [within : Within room pat] : NodesInside room pat.nodes :=
  within.holds

@[simp] theorem nodesInside_class (cls : Class) [within : Within room cls] :
    NodesInside room cls.nodes :=
  within.holds.2

@[simp] theorem nodesInside_stmt (s : Stmt) [within : Within room s] : NodesInside room s.nodes :=
  within.holds

@[simp] theorem contains_func (func : Func) [within : Within room func] :
    room.contains func.span.lo = true :=
  within.holds.1.holds

@[simp] theorem contains_class (cls : Class) [within : Within room cls] :
    room.contains cls.span.lo = true :=
  within.holds.1

/-- The nodes of a list are those of its elements. -/
theorem nodesInside_list {nodesOf : α → List SyntaxNode} {listNodes : List α → List SyntaxNode}
    (nil : listNodes [] = []) (cons : ∀ x xs, listNodes (x :: xs) = nodesOf x ++ listNodes xs)
    (each : ∀ x, Within room x → NodesInside room (nodesOf x)) (xs : List α) [all : Within room xs] :
    NodesInside room (listNodes xs) := by
  have members := all.holds
  clear all
  induction xs with
  | nil =>
      rw [nil]
      exact nodesInside_nil
  | cons x xs ih =>
      rw [cons, nodesInside_append]
      constructor
      · exact each x (members x List.mem_cons_self)
      · exact ih fun y later => members y (List.mem_cons_of_mem x later)

@[simp] theorem nodesInside_exprs (es : List Expr) [Within room es] : NodesInside room (exprsNodes es) :=
  nodesInside_list rfl (fun _ _ => rfl) (fun _ within => within.holds) es

@[simp] theorem nodesInside_elements (es : List Element) [Within room es] :
    NodesInside room (elementsNodes es) :=
  nodesInside_list rfl (fun _ _ => rfl) (fun _ within => within.holds) es

@[simp] theorem nodesInside_properties (ps : List Property) [Within room ps] :
    NodesInside room (propertiesNodes ps) :=
  nodesInside_list rfl (fun _ _ => rfl) (fun _ within => within.holds) ps

@[simp] theorem nodesInside_params (ps : List Param) [Within room ps] :
    NodesInside room (paramsNodes ps) :=
  nodesInside_list rfl (fun _ _ => rfl) (fun _ within => within.holds) ps

@[simp] theorem nodesInside_pats (ps : List Pat) [Within room ps] : NodesInside room (patsNodes ps) :=
  nodesInside_list rfl (fun _ _ => rfl) (fun _ within => within.holds) ps

@[simp] theorem nodesInside_patProperties (ps : List PatProperty) [Within room ps] :
    NodesInside room (patPropertiesNodes ps) :=
  nodesInside_list rfl (fun _ _ => rfl) (fun _ within => within.holds) ps

@[simp] theorem nodesInside_members (ms : List ClassMember) [Within room ms] :
    NodesInside room (membersNodes ms) :=
  nodesInside_list rfl (fun _ _ => rfl) (fun _ within => within.holds) ms

@[simp] theorem nodesInside_declarators (ds : List Declarator) [Within room ds] :
    NodesInside room (declaratorsNodes ds) :=
  nodesInside_list rfl (fun _ _ => rfl) (fun _ within => within.holds) ds

@[simp] theorem nodesInside_stmts (body : List Stmt) [Within room body] :
    NodesInside room (stmtsNodes body) :=
  nodesInside_list rfl (fun _ _ => rfl) (fun _ within => within.holds) body

@[simp] theorem nodesInside_opt (e : Option Expr) [within : Within room e] :
    NodesInside room (optNodes e) := by
  cases e with
  | none => exact nodesInside_nil
  | some e => exact (within.holds e rfl).holds

@[simp] theorem nodesInside_optStmt (s : Option Stmt) [within : Within room s] :
    NodesInside room (optStmtNodes s) := by
  cases s with
  | none => exact nodesInside_nil
  | some s => exact (within.holds s rfl).holds

@[simp] theorem nodesInside_body (body : Option (List Stmt)) [within : Within room body] :
    NodesInside room (bodyNodes body) := by
  cases body with
  | none => exact nodesInside_nil
  | some body =>
      have := within.holds body rfl
      exact nodesInside_stmts body

instance {func : Func} [within : Within room func] : Within room func.span := within.holds.1

instance {func : Func} [within : Within room func] : Within room func.params := within.holds.2.1

instance {func : Func} [within : Within room func] : Within room func.body := within.holds.2.2

@[simp] theorem nodesInside_func (func : Func) [within : Within room func] :
    NodesInside room func.nodes := by
  obtain ⟨span, params, body⟩ := func
  obtain ⟨_, _, _⟩ := within.holds
  exact nodesInside_append.2 ⟨nodesInside_params params, nodesInside_body body⟩

instance {p : Param} [within : Within room p] : Within room p.pat := by
  have nodes := within.holds
  obtain ⟨span, decorators, pat, promoted⟩ := p
  exact ⟨(nodesInside_append.1 nodes).2⟩

/-- An expression starts where its first node does. -/
instance {e : Expr} [within : Within room e] : Within room e.span :=
  ⟨within.holds _ e.mem_nodes_self⟩

/-! ### Syntax nodes -/

attribute [simp] Placed.inside Expr.span Key.span

section Trees

variable {span : Span} {id : Ident} {name : Option Ident} {e e₁ e₂ e₃ : Expr} {opt opt₁ : Option Expr}
  {es : List Expr} {key : Key} {elements : List Element} {properties : List Property} {func : Func}
  {params : List Param} {pat : Pat} {pats : List Pat} {patProperties : List PatProperty} {cls : Class}
  {members : List ClassMember} {ds : List Declarator} {s : Stmt} {stmt? stmt?₁ : Option Stmt}
  {body body₁ : List Stmt} {block : Option (List Stmt)}

instance [Within room id] : Within room (Expr.ident id) := ⟨by simp⟩
instance {value} [Within room span] : Within room (Expr.string span value) := ⟨by simp⟩
instance {value} [Within room span] : Within room (Expr.number span value) := ⟨by simp⟩
instance {kind} [Within room span] : Within room (Expr.atom span kind) := ⟨by simp⟩
instance [Within room span] [Within room elements] : Within room (Expr.array span elements) := ⟨by simp⟩
instance [Within room span] [Within room properties] : Within room (Expr.object span properties) :=
  ⟨by simp⟩
instance [Within room func] : Within room (Expr.function name func) := ⟨by simp⟩
instance {concise} [Within room span] [Within room pats] [Within room body] :
    Within room (Expr.arrow span pats concise body) := ⟨by simp⟩
instance [Within room cls] : Within room (Expr.classExpr name cls) := ⟨by simp⟩
instance {op} [Within room span] [Within room e] : Within room (Expr.unary span op e) := ⟨by simp⟩
instance {op} [Within room span] [Within room e₁] [Within room e₂] :
    Within room (Expr.binary span op e₁ e₂) := ⟨by simp⟩
instance {op} [Within room span] [Within room pat] [Within room e] :
    Within room (Expr.assign span op pat e) := ⟨by simp⟩
instance {chained} [Within room span] [Within room e] [Within room key] :
    Within room (Expr.member span chained e key) := ⟨by simp⟩
instance [Within room span] [Within room key] : Within room (Expr.superMember span key) := ⟨by simp⟩
instance [Within room span] [Within room e₁] [Within room e₂] [Within room e₃] :
    Within room (Expr.conditional span e₁ e₂ e₃) := ⟨by simp⟩
instance {kind} [Within room span] [Within room e] [Within room elements] :
    Within room (Expr.call span kind e elements) := ⟨by simp⟩
instance [Within room span] [Within room es] : Within room (Expr.sequence span es) := ⟨by simp⟩
instance [Within room span] [Within room opt] [Within room es] :
    Within room (Expr.template span opt es) := ⟨by simp⟩
instance [Within room span] [Within room opt] : Within room (Expr.yield span opt) := ⟨by simp⟩
instance [Within room span] [Within room e] : Within room (Expr.paren span e) := ⟨by simp⟩

instance [Within room id] : Within room (Key.ident id) := ⟨by simp⟩
instance {value} [Within room span] : Within room (Key.string span value) := ⟨by simp⟩
instance {value} [Within room span] : Within room (Key.number span value) := ⟨by simp⟩
instance [Within room span] : Within room (Key.bigint span) := ⟨by simp⟩
instance [Within room span] : Within room (Key.hidden span) := ⟨by simp⟩
instance [Within room span] [Within room e] : Within room (Key.computed span e) := ⟨by simp⟩

instance : Within room Element.hole := ⟨by simp⟩
instance [Within room e] : Within room (Element.item e) := ⟨by simp⟩
instance [Within room e] : Within room (Element.spread e) := ⟨by simp⟩

instance [Within room id] : Within room (Property.shorthand id) := ⟨by simp⟩
instance [Within room key] [Within room e] : Within room (Property.keyValue key e) := ⟨by simp⟩
instance [Within room id] [Within room e] : Within room (Property.initialized id e) := ⟨by simp⟩
instance [Within room key] [Within room body] : Within room (Property.getter span key body) := ⟨by simp⟩
instance [Within room key] [Within room pat] [Within room body] :
    Within room (Property.setter span key pat body) := ⟨by simp⟩
instance [Within room key] [Within room func] : Within room (Property.method key func) := ⟨by simp⟩
instance [Within room e] : Within room (Property.spread e) := ⟨by simp⟩

instance [Within room span] [Within room params] [Within room block] :
    Within room (⟨span, params, block⟩ : Func) :=
  ⟨inferInstance, inferInstance, inferInstance⟩
instance {promoted} [Within room es] [Within room pat] :
    Within room (⟨span, es, pat, promoted⟩ : Param) := ⟨by simp⟩

instance [Within room id] : Within room (Pat.ident span id) := ⟨by simp⟩
instance [Within room pats] : Within room (Pat.array span pats) := ⟨by simp⟩
instance [Within room patProperties] : Within room (Pat.object span patProperties) := ⟨by simp⟩
instance [Within room pat] : Within room (Pat.rest span pat) := ⟨by simp⟩
instance [Within room pat] [Within room e] : Within room (Pat.default span pat e) := ⟨by simp⟩
instance [Within room e] : Within room (Pat.expr e) := ⟨by simp⟩
instance : Within room (Pat.blank span) := ⟨by simp⟩

instance [Within room key] [Within room pat] : Within room (PatProperty.keyValue key pat) := ⟨by simp⟩
instance [Within room id] [Within room opt] : Within room (PatProperty.shorthand id opt) := ⟨by simp⟩
instance [Within room pat] : Within room (PatProperty.rest pat) := ⟨by simp⟩

instance [Within room span] [Within room es] [Within room opt] [Within room members] :
    Within room (⟨span, es, opt, members⟩ : Class) := ⟨by simp⟩

instance [Within room params] [Within room block] : Within room (ClassMember.ctor span params block) :=
  ⟨by simp⟩
instance {kind isStatic} [Within room es] [Within room key] [Within room func] :
    Within room (ClassMember.method kind isStatic es key func) := ⟨by simp⟩
instance {isStatic} [Within room es] [Within room key] [Within room opt] :
    Within room (ClassMember.field span isStatic es key opt) := ⟨by simp⟩
instance {isStatic} [Within room es] [Within room key] [Within room opt] :
    Within room (ClassMember.accessor span isStatic es key opt) := ⟨by simp⟩
instance [Within room body] : Within room (ClassMember.staticBlock span body) := ⟨by simp⟩
instance : Within room (ClassMember.other span) := ⟨by simp⟩

instance [Within room span] [Within room pat] [Within room opt] :
    Within room (⟨span, pat, opt⟩ : Declarator) := ⟨by simp⟩

instance [Within room body] : Within room (Stmt.block span body) := ⟨by simp⟩
instance : Within room (Stmt.simple span) := ⟨by simp⟩
instance [Within room e] : Within room (Stmt.expr span e) := ⟨by simp⟩
instance [Within room opt] : Within room (Stmt.ret span opt) := ⟨by simp⟩
instance [Within room e] : Within room (Stmt.throw span e) := ⟨by simp⟩
instance [Within room e] [Within room s] [Within room stmt?] :
    Within room (Stmt.ifElse span e s stmt?) := ⟨by simp⟩
instance [Within room s] : Within room (Stmt.labeled span s) := ⟨by simp⟩
instance [Within room e] [Within room body] : Within room (Stmt.switch span e body) := ⟨by simp⟩
instance [Within room opt] [Within room body] : Within room (Stmt.clause span opt body) := ⟨by simp⟩
instance [Within room body] [Within room stmt?] [Within room stmt?₁] :
    Within room (Stmt.tryCatch span body stmt? stmt?₁) := ⟨by simp⟩
instance [Within room pat] [Within room body] : Within room (Stmt.handler span pat body) := ⟨by simp⟩
instance [Within room e] [Within room s] : Within room (Stmt.whileLoop span e s) := ⟨by simp⟩
instance [Within room s] [Within room e] : Within room (Stmt.doWhile span s e) := ⟨by simp⟩
instance [Within room stmt?] [Within room opt] [Within room opt₁] [Within room s] :
    Within room (Stmt.forLoop span stmt? opt opt₁ s) := ⟨by simp⟩
instance {head : Stmt} [Within room head] [Within room e] [Within room s] :
    Within room (Stmt.forIn span head e s) := ⟨by simp⟩
instance {head : Stmt} [Within room head] [Within room e] [Within room s] :
    Within room (Stmt.forOf span head e s) := ⟨by simp⟩
instance [Within room pat] : Within room (Stmt.target pat) := ⟨by simp⟩
instance [Within room e] [Within room s] : Within room (Stmt.withObject span e s) := ⟨by simp⟩
instance {kind} [Within room ds] : Within room (Stmt.vars span kind ds) := ⟨by simp⟩
instance [Within room func] : Within room (Stmt.function id func) := ⟨by simp⟩
instance [Within room cls] : Within room (Stmt.classDecl id cls) := ⟨by simp⟩
instance {kind text} : Within room (Stmt.typeDecl span kind text) := ⟨by simp⟩

instance [Within room s] : Within room (Item.stmt s) := ⟨by simp⟩
instance {decl} : Within room (Item.importDecl decl) := ⟨by simp⟩
instance [Within room s] : Within room (Item.exportDecl s) := ⟨by simp⟩
instance {specifiers source} : Within room (Item.exportFrom specifiers source) := ⟨by simp⟩
instance {source} : Within room (Item.exportAll source) := ⟨by simp⟩
instance [Within room cls] : Within room (Item.exportClass name cls) := ⟨by simp⟩
instance [Within room func] : Within room (Item.exportFunction name func) := ⟨by simp⟩
instance [Within room e] : Within room (Item.exportValue e) := ⟨by simp⟩
instance : Within room Item.other := ⟨by simp⟩

end Trees

end BundleLens
