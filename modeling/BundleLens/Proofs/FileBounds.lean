/-
Module: BundleLens.Proofs.FileBounds
Layer: Proofs
Purpose: Every node of a file starts in the room of the file. The rules for types, statements and items
  stay inside the range of their text, and so do all rules together, at every bound on nesting. The
  rooms of files do not meet, so the position of a node leads back to its file.
Imports: BundleLens.Proofs.GrammarBounds, BundleLens.Proofs.Registry, BundleLens.Reflection.World
Main exports: Grammar.stay_rules, Grammar.nodesInside_parseText, Program.Built.nodesInside,
  Program.Built.viewAt?_of_node
-/
import BundleLens.Proofs.GrammarBounds
import BundleLens.Proofs.Registry
import BundleLens.Reflection.World

namespace BundleLens

variable {room : Span}

namespace Grammar

variable {r : Rules} [Rules.Stay room r] {lo : Nat} [Within room lo]

/-! ### Types -/

instance : Stays room (signature r) := .bind fun _ => .bind fun _ => inferInstance

instance : Stays room (functionType r) :=
  .bind fun _ => .bind fun _ => .bind fun _ => inferInstance

/-- Names behind dots. -/
theorem stays_dottedNames : Stays room (gather do
    if ← eatPunct "." then
      let _ ← identName
      return some ()
    else return none) :=
  stays_gather (.bind fun _ => .ite (.bind fun _ => .pure) .pure)

instance : Stays room (typeName r) :=
  .bind fun _ => stays_dottedNames.andThen fun _ => .bind fun _ => .ite .pure inferInstance

instance : Stays room (importType r) := by
  have rest : Stays room (do
      expectPunct ")"
      let _ ← gather do
        if ← eatPunct "." then
          let _ ← identName
          return some ()
        else return none
      typeArgs? r) :=
    .bind fun _ => stays_dottedNames.andThen fun _ => inferInstance
  exact .bind fun _ => .bind fun _ => .bind fun _ => .bind fun _ => .ite
    (.bind fun _ => .ite rest (.bind fun _ => .bind fun _ => rest)) rest

instance : Stays room (bracketName r) := by
  refine .bind fun _ => .bind fun next => .bind fun word => ?_
  intro _
  split
  · exact .bind fun _ => .bind fun _ => .bind fun _ => inferInstance
  · exact .bind fun _ => .bind fun _ => .bind fun _ => .bind fun _ => .when inferInstance inferInstance
  · exact .bind fun _ => inferInstance

instance : Stays room modifierSign := .bind fun _ => .ite .pure (.bind fun _ => .pure)

instance : Stays room (typeMember r) := by
  have ending : Stays room (do unless ← eatPunct "," do semicolon) := .bind fun _ => .ite .pure inferInstance
  have named : Stays room (do
      modifierSign
      optionalMark
      if ← atMethod then signature r else annotation? r
      unless ← eatPunct "," do semicolon) :=
    .bind fun _ => .bind fun _ => .bind fun _ => .iteBind inferInstance inferInstance fun _ => ending
  exact .bind fun _ => .bind fun _ => .bind fun _ => .ite (.bind fun _ => ending)
    (.bind fun _ => .bind fun _ => .ite (.bind fun _ => .bind fun _ => ending)
      (.bind fun _ => .ite (.bind fun _ => named) (.bind fun _ => named)))

instance : Stays room (typeBody r) := .bind fun _ => .bind fun _ => .pure

instance : Stays room (tupleElement r) :=
  .bind fun _ => .andThen (stays_attempt (.bind fun _ => .bind fun _ => inferInstance)) fun _ =>
    .bind fun _ => .bind fun _ => .pure

/-- A template among types holds types, which leave nothing behind. -/
theorem stays_typeTemplate : Stays room (do
    let _ ← templateHoles false (do
      r.type
      return default)) := by
  let free : Placed Expr := ⟨fun _ _ => True⟩
  have hole : @Stays _ free room (do
      r.type
      return default) :=
    .bind fun _ => .give ⟨trivial⟩
  exact .andThen (stays_templateHoles hole) fun _ => .pure

instance : Stays room (primaryType r) := by
  apply Stays.bind
  intro lexeme _
  split
  · exact .bind fun _ => .bind fun _ => .ite inferInstance inferInstance
  · infer_instance
  · infer_instance
  · infer_instance
  · infer_instance
  · infer_instance
  · exact .bind fun _ => inferInstance
  · exact stays_typeTemplate
  · exact .bind fun _ => .bind fun _ => inferInstance
  · exact .bind fun _ => .bind fun _ => .pure
  · infer_instance
  · infer_instance

instance : Stays room (suffixedType r) :=
  .bind fun _ => .andThen (stays_gather (.bind fun _ => .bind fun _ => .ite
    (.bind fun _ => .bind fun _ => .whenNot inferInstance (.bind fun _ => .pure)) .pure)) fun _ => .pure

instance : Stays room (inferBound r) :=
  .andThen (stays_attempt (.bind fun _ => .bind fun _ => .bind fun _ => .ite inferInstance .pure))
    fun _ => .pure

instance : Stays room (operatorType r) := by
  refine .andThen (stays_gather ?_) fun _ => .bind fun _ => .ite inferInstance .pure
  apply Stays.bind
  intro word _
  split
  · exact .ite (.bind fun _ => .ite (.bind fun _ => .pure) .pure) .pure
  · infer_instance

instance {mark : String} {part : Parse Unit} [Stays room part] : Stays room (joinedTypes mark part) :=
  .bind fun _ => .bind fun _ => .andThen (stays_gather (.bind fun _ => .ite (.bind fun _ => .pure) .pure))
    fun _ => .pure

instance : Stays room (plainType r) := by
  have union : Stays room (do
      let function ← if ← isPunct "(" then attempt (functionType r) else pure none
      match function with
      | some _ => return ()
      | none => joinedTypes "|" (joinedTypes "&" (operatorType r))) := by
    refine .bind fun _ => .iteBind (stays_attempt inferInstance) .pure fun function => ?_
    cases function with
    | some found => exact .pure
    | none => infer_instance
  exact .bind fun _ => .bind fun _ => .when inferInstance (.bind fun _ => .bind fun _ =>
    .ite (.bind fun _ => inferInstance) (.bind fun _ => .ite inferInstance union))

instance : Stays room (predicateType? r) := by
  refine .bind fun next => .bind fun word => ?_
  intro _
  split
  · exact .ite .pure (.bind fun _ => .bind fun _ => .bind fun _ => .when inferInstance .pure)
  · exact .ite .pure (.bind fun _ => .bind fun _ => .bind fun _ => .pure)
  · infer_instance

instance : Stays room (typeRule r) :=
  .bind fun _ => .ite .pure (.bind fun _ => .bind fun _ => .bind fun _ => .ite
    (.bind fun _ => .bind fun _ => .bind fun _ => .bind fun _ => .bind fun _ => inferInstance) .pure)

/-! ### Declarations -/

instance : Stays room (declarator r) := by
  have rest {lo : Nat} {pat : Pat} [Within room lo] [Within room pat] : Stays room (do
      let pat ← annotated r pat
      let init ← if ← eatPunct "=" then some <$> r.assign else pure none
      return ⟨← spanFrom lo, pat, init⟩ : Parse Declarator) :=
    .bind fun _ => .bind fun _ => .iteBind inferInstance .pure fun _ => .bind fun _ => .pure
  exact .bind fun _ => .bind fun _ => .bind fun _ => .when inferInstance rest

instance : Stays room (declarators r) :=
  .bind fun _ => .andThen (stays_gather (.bind fun _ => .ite (.bind fun _ => .pure) .pure)) fun _ => .pure

instance : Stays room varKind? := by
  apply Stays.bind
  intro word _
  split
  · infer_instance
  · infer_instance
  · apply Stays.bind
    intro next _
    split
    · infer_instance
    · infer_instance
    · infer_instance
  · infer_instance

instance {kind : VarKind} : Stays room (varStatement r lo kind) :=
  .bind fun _ => .bind fun _ => .bind fun _ => .bind fun _ => .pure

instance : Stays room (functionDecl r lo) := by
  refine .bind fun _ => .bind fun head => ?_
  intro within
  obtain ⟨name, func⟩ := head
  have : Within room func := within.holds.2
  cases name with
  | some name => exact .pure
  | none => exact inferInstanceAs (Stays room unexpected)

instance {decs : List Expr} [Within room decs] : Stays room (classDeclaration r lo decs) := by
  refine .bind fun head => ?_
  intro within
  obtain ⟨name, cls⟩ := head
  have : Within room cls := within.holds.2
  cases name with
  | some name => exact .pure
  | none => exact inferInstanceAs (Stays room unexpected)

instance : Stays room atFunction :=
  .bind fun _ => .ite .pure (.bind fun _ => .ite (.bind fun _ => .pure) .pure)

instance : Stays room (interfaceDecl r) := by
  have rest {lo : Nat} {text : String} [Within room lo] : Stays room (do
      typeBody r
      return Stmt.typeDecl (← spanFrom lo) .interface (some text)) :=
    .bind fun _ => .bind fun _ => .pure
  exact .bind fun _ => .bind fun _ => .bind fun _ => .bind fun _ => .bind fun _ => .ite
    (.bind fun _ => .andThen (stays_gather (.bind fun _ => .ite (.bind fun _ => .pure) .pure))
      fun _ => rest) rest

instance : Stays room (aliasDecl r lo) :=
  .bind fun _ => .bind fun _ => .bind fun _ => .bind fun _ => .bind fun _ => .bind fun _ =>
    .bind fun _ => .pure

instance : Stays room (enumDecl r lo) :=
  .bind fun _ => .bind fun _ => .bind fun _ => .andThen (stays_commaList (.bind fun _ => .bind fun _ =>
    .ite (.bind fun _ => .pure) .pure)) fun _ => .bind fun _ => .pure

instance : Stays room (namespaceBody r) := .bind fun _ => inferInstance

instance : Stays room (namespaceDecl r lo) := by
  refine .bind fun _ => .bind fun word => ?_
  intro _
  split
  · exact .bind fun _ => .bind fun _ => .iteBind inferInstance inferInstance fun _ =>
      .bind fun _ => .pure
  · exact .bind fun _ => stays_dottedNames.andThen fun _ => .bind fun _ => .bind fun _ => .pure

instance {ambient : Bool} : Stays room (typeDeclaration? r lo ambient) := by
  refine .bind fun next => .bind fun word => ?_
  intro _
  split
  · exact .ite (.bind fun _ => .bind fun _ => .pure) .pure
  · exact .ite (.bind fun _ => .pure) .pure
  · exact .ite (.bind fun _ => .pure) .pure
  · exact .bind fun _ => .pure
  · exact .ite (.bind fun _ => .bind fun _ => .pure) .pure
  · exact .ite (.bind fun _ => .pure) .pure
  · exact .ite (.bind fun _ => .pure) .pure
  · exact .ite (.bind fun _ => .bind fun _ => .bind fun _ => .pure) .pure
  · infer_instance

instance {decs : List Expr} [Within room decs] : Stays room (plainDeclaration? r lo decs) := by
  refine .bind fun _ => .ite (.bind fun _ => .pure) (.bind fun _ => .ite (.bind fun _ => .pure)
    (.bind fun kind => ?_))
  intro _
  split
  · exact .bind fun _ => .pure
  · infer_instance

instance : Stays room (declaration? r) := by
  have typed {declares : Bool} {lo : Nat} [Within room lo] (found : Option Stmt)
      [within : Within room found] :
      Stays room (match found with
        | some decl => pure (some decl)
        | _ => if declares = true then do
            let decl ← plainDeclaration? r lo []
            if decl.isSome then pure decl else do
              unexpected
              plainDeclaration? r lo []
          else plainDeclaration? r lo []) := by
    cases found with
    | some decl => exact .give within
    | none => exact .ite (.bind fun _ => .ite .pure (.bind fun _ => inferInstance)) inferInstance
  exact .bind fun _ => .bind fun _ => .ite (.bind fun _ => .bind fun _ => .when inferInstance
    (.bind fun found => typed found)) inferInstance

/-! ### Statements -/

instance : Stays room (headExpr r) := .bind fun _ => .bind fun _ => .bind fun _ => .pure

instance : Stays room (block r) := .bind fun _ => .bind fun _ => .bind fun _ => .pure

instance : Stays room (ifStatement r) :=
  .bind fun _ => .bind fun _ => .bind fun _ => .bind fun _ => .bind fun _ =>
    .iteBind inferInstance .pure fun _ => .bind fun _ => .pure

instance : Stays room (whileStatement r) :=
  .bind fun _ => .bind fun _ => .bind fun _ => .bind fun _ => .bind fun _ => .pure

instance : Stays room (doStatement r) :=
  .bind fun _ => .bind fun _ => .bind fun _ => .bind fun _ => .bind fun _ => .bind fun _ =>
    .bind fun _ => .pure

instance {head : Stmt} [Within room head] : Stays room (forEachRest r lo head) :=
  .bind fun _ => .ite (.bind fun _ => .bind fun _ => .bind fun _ => .bind fun _ => .pure)
    (.bind fun _ => .bind fun _ => .bind fun _ => .bind fun _ => .bind fun _ => .pure)

instance {init : Option Stmt} [Within room init] : Stays room (forLoopRest r lo init) :=
  .bind fun _ => .bind fun _ => .iteBind .pure inferInstance fun _ => .bind fun _ => .bind fun _ =>
    .iteBind .pure inferInstance fun _ => .bind fun _ => .bind fun _ => .bind fun _ => .pure

instance : Stays room atForEach := .bind fun _ => .bind fun _ => .pure

instance : Stays room (forRest r lo) := by
  refine .bind fun _ => .bind fun _ => .ite inferInstance (.bind fun _ => .bind fun kind => ?_)
  intro _
  split
  · exact .bind fun _ => .bind fun _ => .bind fun _ => .bind fun _ => .ite inferInstance inferInstance
  · exact .bind fun _ => .bind fun _ => .ite (.bind fun _ => inferInstance) inferInstance

instance : Stays room (forStatement r) := by
  refine .bind fun _ => .bind fun _ => .bind fun _ => .bind fun _ => .bind fun stmt => ?_
  intro _
  split <;> infer_instance

instance : Stays room jump :=
  .bind fun _ => .bind fun _ => .bind fun _ => .whenNot inferInstance
    (.bind fun _ => .bind fun _ => .pure)

instance : Stays room oneWord := .bind fun _ => .bind fun _ => .bind fun _ => .bind fun _ => .pure

instance : Stays room (returnStatement r) :=
  .bind fun _ => .bind fun _ => .bind fun _ => .iteBind .pure inferInstance fun _ =>
    .bind fun _ => .bind fun _ => .pure

instance : Stays room (throwStatement r) :=
  .bind fun _ => .bind fun _ => .bind fun _ => .when inferInstance
    (.bind fun _ => .bind fun _ => .bind fun _ => .pure)

instance : Stays room (switchClause r) := by
  have rest {lo : Nat} {test : Option Expr} [Within room lo] [Within room test] : Stays room (do
      expectPunct ":"
      let body ← gather do
        if (← isWord "case") || (← isWord "default") || (← isPunct "\x7d") then return none
        else return some (← r.stmt)
      return Stmt.clause (← spanFrom lo) test body) :=
    .bind fun _ => .andThen (stays_gather (.bind fun _ => .bind fun _ => .bind fun _ =>
      .ite .pure (.bind fun _ => .pure))) fun _ => .bind fun _ => .pure
  exact .bind fun _ => .bind fun _ => .ite (.bind fun _ => rest) (.bind fun _ => .bind fun _ => rest)

instance : Stays room (switchStatement r) :=
  .bind fun _ => .bind fun _ => .bind fun _ => .bind fun _ => .bind fun _ => .bind fun _ => .pure

instance : Stays room (catchClause r) := by
  have rest {lo : Nat} {pat : Pat} [Within room lo] [Within room pat] : Stays room (do
      let body ← braced r
      return Stmt.handler (← spanFrom lo) pat body) :=
    .bind fun _ => .bind fun _ => .pure
  exact .bind fun _ => .bind fun _ => .bind fun _ => .ite
    (.bind fun _ => .bind fun _ => .bind fun _ => .bind fun _ => rest) (.bind fun _ => rest)

instance : Stays room (tryStatement r) :=
  .bind fun _ => .bind fun _ => .bind fun _ => .bind fun _ => .iteBind inferInstance .pure fun _ =>
    .bind fun _ => .iteBind inferInstance .pure fun _ => .bind fun _ => .pure

instance : Stays room (withStatement r) :=
  .bind fun _ => .bind fun _ => .bind fun _ => .bind fun _ => .bind fun _ => .pure

instance : Stays room (expressionStatement r) := by
  refine .bind fun _ => .bind fun e => ?_
  intro _
  split
  · exact .bind fun _ => .ite (.bind fun _ => .bind fun _ => .pure)
      (.bind fun _ => .bind fun _ => .pure)
  · exact .bind fun _ => .bind fun _ => .pure

instance : Stays room (decoratedClass r) := .bind fun _ => .bind fun _ => inferInstance

instance {word : String} : Stays room (wordStatement? r word) := by
  unfold wordStatement?
  split
  all_goals first
    | exact .bind fun _ => .pure
    | infer_instance

instance : Stays room (statement r) := by
  apply stays_withIn
  apply Stays.bind
  intro lexeme _
  split
  · infer_instance
  · exact .bind fun _ => .pure
  · infer_instance
  · apply Stays.bind
    intro found within
    cases found with
    | some stmt =>
        have := within.holds stmt rfl
        exact .pure
    | none =>
        apply Stays.bind
        intro decl within
        cases decl with
        | some decl =>
            have := within.holds decl rfl
            exact .pure
        | none => infer_instance
  · infer_instance

instance : Stays room (branch r) := by
  apply Stays.bind
  intro word _
  split <;> infer_instance

/-! ### Items -/

instance : Stays room (moduleSource r) := by
  apply Stays.bind
  intro word _
  split
  · rename_i value _
    have : Within room value := ⟨fun _ _ => inferInstance⟩
    exact .bind fun _ => .bind fun _ => .bind fun _ => .bind fun _ => .ite
      (.bind fun _ => .bind fun _ => .pure) .pure
  · infer_instance

instance : Stays room moduleName := by
  apply Stays.bind
  intro word _
  split
  · exact .bind fun _ => .give ⟨nofun⟩
  · refine .bind fun id => .give ⟨?_⟩
    intro other same
    cases same
    infer_instance

instance : Stays room entryModifier := by
  refine .bind fun _ => .bind fun _ => .ite (.bind fun next => ?_) .pure
  intro _
  split
  · exact .ite inferInstance .pure
  · infer_instance
  · infer_instance

instance : Stays room importSpecifier := by
  refine .bind fun _ => .bind fun _ => .bind fun name => .bind fun _ => .ite (.bind fun _ => .pure) ?_
  split
  · exact .ite inferInstance .pure
  · infer_instance

instance : Stays room importList :=
  .bind fun _ => .ite (.bind fun _ => .bind fun _ => .pure) (.bind fun _ => inferInstance)

instance {specifiers : List ImportSpecifier} : Stays room (importRest r lo specifiers) :=
  .bind fun _ => .bind fun _ => .bind fun _ => .bind fun _ => .pure

instance : Stays room (importAssignment r) := .bind fun _ => .bind fun _ => .pure

instance : Stays room importModifier := by
  refine .bind fun _ => .bind fun _ => .ite (.bind fun next => ?_) .pure
  intro _
  split
  · exact .ite inferInstance .pure
  · exact .ite inferInstance .pure
  · infer_instance

instance : Stays room (importItem r) := by
  refine .bind fun _ => .bind fun _ => .bind fun _ => .bind fun word => ?_
  intro _
  split
  · exact .bind fun _ => .bind fun _ => .bind fun _ => .pure
  · exact .bind fun _ => .bind fun _ => .bind fun _ => .ite inferInstance
      (.bind fun _ => .iteBind inferInstance .pure fun _ => inferInstance)
  · exact .bind fun _ => inferInstance

instance : Stays room exportSpecifier := by
  have entry {name : ModuleName} {exported : Option ModuleName} [named : Within room name] :
      Within room (ExportSpecifier.named name exported) := by
    constructor
    intro id used
    cases name with
    | ident own =>
        cases used
        exact named.holds id rfl
    | string value => cases used
  exact .bind fun _ => .bind fun _ => .bind fun _ => .iteBind inferInstance .pure fun _ => .give entry

instance {specifiers : List ExportSpecifier} [all : Within room specifiers] :
    Within room (Item.exportList specifiers) := by
  constructor
  intro node member
  obtain ⟨id, listed, rfl⟩ := List.mem_map.1 member
  obtain ⟨specifier, inside, used⟩ := List.mem_filterMap.1 listed
  exact ((all.holds specifier inside).holds id used).holds

instance : Stays room (exportNames r) :=
  .bind fun _ => .bind fun _ => .bind fun _ => .ite (.bind fun _ => .bind fun _ => .pure)
    (.bind fun _ => .pure)

instance : Stays room (exportStar r) := by
  have rest {name : Option ModuleName} : Stays room (do
      expectWord "from"
      let source ← moduleSource r
      semicolon
      match name with
      | some name => return Item.exportFrom [.whole name] source
      | none => return Item.exportAll source) := by
    refine .bind fun _ => .bind fun _ => .bind fun _ => ?_
    cases name <;> infer_instance
  exact .bind fun _ => .bind fun _ => .iteBind inferInstance .pure fun _ => rest

instance {decs : List Expr} [Within room decs] : Stays room (exportDefaultClass r decs) :=
  .bind fun _ => .bind fun _ => .bind fun _ => .when inferInstance (.bind fun _ => .pure)

instance {decs : List Expr} [Within room decs] : Stays room (exportDefault r decs) :=
  .bind fun _ => .bind fun _ => .bind fun _ => .bind fun _ => .ite
    (.bind fun _ => .bind fun _ => .pure)
    (.bind fun _ => .bind fun _ => .bind fun _ => .bind fun _ => .ite inferInstance
      (.bind fun _ => .bind fun _ => .ite (.bind fun _ => .pure) (.bind fun _ => .bind fun _ => .pure)))

instance : Stays room (typingsExport? r) :=
  .bind fun _ => .ite (.bind fun _ => .ite (.bind fun _ => .bind fun _ => .pure)
    (.bind fun _ => .bind fun _ => .ite
      (.bind fun _ => .bind fun _ => .bind fun _ => .bind fun _ => .pure)
      (.bind fun _ => .ite (.bind fun _ => .pure)
        (.bind fun _ => .ite
          (.ite (.bind fun _ => .bind fun _ => .pure) (.ite (.bind fun _ => .bind fun _ => .pure) .pure))
          .pure)))) .pure

instance {decs : List Expr} [Within room decs] : Stays room (exportItem r decs) := by
  refine .bind fun _ => .bind fun found => ?_
  intro within
  cases found with
  | some item =>
      have := within.holds item rfl
      exact .pure
  | none =>
      apply Stays.bind
      intro word _
      split
      · infer_instance
      · infer_instance
      · infer_instance
      · refine .bind fun _ => .bind fun _ => .ite (.bind fun _ => .bind fun _ => .pure)
          (.bind fun decl => ?_)
        intro within
        cases decl with
        | some decl =>
            have := within.holds decl rfl
            exact .pure
        | none => exact inferInstanceAs (Stays room unexpected)

instance : Stays room (item r) := by
  apply Stays.bind
  intro lexeme _
  split
  · exact .bind fun _ => .ite (.bind fun _ => .pure) inferInstance
  · infer_instance
  · exact .bind fun _ => .bind fun _ => .ite inferInstance (.bind fun _ => .pure)
  · exact .bind fun _ => .pure

instance : Stays room (items r) :=
  stays_gather (.bind fun _ => .ite .pure (.bind fun _ => .pure))

instance : Stays room (nestedItems r) := .bind fun _ => .pure

/-- All rules stay inside a range, whatever bounds their nesting. -/
theorem stay_rules (depth : Nat) : Rules.Stay room (rules depth) := by
  induction depth with
  | zero =>
      constructor <;> exact inferInstanceAs (Stays room unexpected)
  | succ depth ih =>
      constructor
      · exact inferInstanceAs (Stays room (expression (rules depth)))
      · exact inferInstanceAs (Stays room (assignment (rules depth)))
      · exact inferInstanceAs (Stays room (unary (rules depth)))
      · exact inferInstanceAs (Stays room (leftHandSide (rules depth)))
      · exact inferInstanceAs (Stays room (member (rules depth) false))
      · exact inferInstanceAs (Stays room (bindingTarget (rules depth)))
      · exact inferInstanceAs (Stays room (statement (rules depth)))
      · exact inferInstanceAs (Stays room (branch (rules depth)))
      · exact inferInstanceAs (Stays room (nestedItems (rules depth)))
      · exact inferInstanceAs (Stays room (typeRule (rules depth)))

/-- The nodes of a text that was read start in the range that it takes. -/
theorem nodesInside_parseText {typings : Bool} {base : Nat} {text : List Char} {parsed : Parsed}
    (read : parseText typings base text = .ok parsed) :
    NodesInside ⟨base, base + Text.byteCount text⟩ (parsed.items.flatMap Item.nodes) := by
  let room : Span := ⟨base, base + Text.byteCount text⟩
  have whole : Remaining.Inside room ⟨text, base⟩ := ⟨Nat.le_refl _, Nat.le_refl _⟩
  have start : Cursor.Inside room ⟨scanToken text.length (skipHashbang text base).text
      (skipHashbang text base).pos, base, text.length, false⟩ :=
    scanToken_inside text.length (skipHashbang_inside whole)
  have : Rules.Stay room (rules (2 * text.length + 64)) := stay_rules _
  have stays : Stays room (items (rules (2 * text.length + 64))) := inferInstance
  unfold parseText at read
  simp only at read
  split at read
  · rename_i list final found
    cases read
    have all := (stays.reads start found).2
    intro node member
    obtain ⟨item, listed, inside⟩ := List.mem_flatMap.1 member
    exact (all.holds item listed).holds node inside
  · cases read

end Grammar

/-! ### Files of a program -/

/-- The nodes of a file start in the range of the file. -/
theorem Program.Built.nodesInside {program : Program} (built : program.Built) {file : SourceFile}
    (member : file ∈ program.files) : NodesInside file.span file.nodes := by
  obtain ⟨before, path, source, parsed, ok, rfl⟩ := built.exists_nextFile member
  exact Grammar.nodesInside_parseText ok

/-- The files of a program that can be built stand apart. -/
theorem Program.Built.spaced {program : Program} (built : program.Built) : program.Spaced := by
  induction built with
  | empty => exact .empty
  | addSource path source _ ih => exact ih.addSource path source
  | mapPath specifier path _ ih => exact ⟨ih.apart, ih.ordered, ih.below⟩
  | setSourceRoot root _ ih => exact ⟨ih.apart, ih.ordered, ih.below⟩
  | setTypingsRoot root _ ih => exact ⟨ih.apart, ih.ordered, ih.below⟩

/-- The position of a node leads back to the file of the node. -/
theorem Program.Built.viewAt?_of_node {program : Program} (built : program.Built) {host : HostKind}
    {file : SourceFile} (member : file ∈ program.files) {node : SyntaxNode} (inside : node ∈ file.nodes) :
    (World.ofProgram program host).viewAt? node.span.lo = some (.ofFile file) := by
  have place := built.nodesInside member node inside
  unfold Span.contains at place
  obtain ⟨lower, upper⟩ := Bool.and_eq_true_iff.1 place
  have found := built.spaced.fileAt? member (of_decide_eq_true lower) (of_decide_eq_true upper)
  simp only [World.viewAt?, World.view?, World.ofProgram, found, Option.bind_eq_bind, Option.bind_some,
    List.getElem?_map, built.getElem? member, Option.map_some]

end BundleLens
