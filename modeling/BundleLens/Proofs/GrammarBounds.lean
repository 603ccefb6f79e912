/-
Module: BundleLens.Proofs.GrammarBounds
Layer: Proofs
Purpose: Every rule for patterns, functions, classes and expressions stays inside the range of the text
  that it reads. The derivations follow the rules: a step of a rule is a bind, a choice a branch, and
  what is found at the end lies in the range because its parts do.
Imports: BundleLens.Proofs.ReadBounds
Main exports: Expr.toPat_inside, the instances of Grammar.Stays
-/
import BundleLens.Proofs.ReadBounds

namespace BundleLens

variable {room : Span}

/-! ### Expressions that turn out to be patterns -/

theorem exists_of_bind_eq_ok {ε α β : Type} {x : Except ε α} {f : α → Except ε β} {b : β}
    (run : (x >>= f) = .ok b) : ∃ a, x = .ok a ∧ f a = .ok b := by
  cases x with
  | error fault => cases run
  | ok a => exact ⟨a, rfl, run⟩

mutual

/-- The pattern that an expression covers holds nothing that the expression does not hold. -/
theorem Expr.toPat_inside {binding : Bool} : ∀ (e : Expr) {pat : Pat}, NodesInside room e.nodes →
    e.toPat binding = .ok pat → NodesInside room pat.nodes
  | .ident id, _, inside, read => by
      cases read
      simpa using inside
  | .array span elements, _, inside, read => by
      obtain ⟨pats, found, same⟩ := exists_of_bind_eq_ok read
      cases same
      simp only [Expr.nodes, nodesInside_cons] at inside
      simpa using elementsToPats_inside elements inside.2 found
  | .object span properties, _, inside, read => by
      obtain ⟨pats, found, same⟩ := exists_of_bind_eq_ok read
      cases same
      simp only [Expr.nodes, nodesInside_cons] at inside
      simpa using propertiesToPats_inside properties inside.2 found
  | .assign span .plain target value, _, inside, read => by
      cases read
      simp only [Expr.nodes, nodesInside_cons] at inside
      simpa using inside.2
  | .assign span .compound target value, _, _, read => by
      cases read
      simp
  | .paren _ _, _, inside, read | .member _ _ _ _, _, inside, read | .superMember _ _, _, inside, read
  | .call _ _ _ _, _, inside, read | .string _ _, _, inside, read | .number _ _, _, inside, read
  | .function _ _, _, inside, read | .classExpr _ _, _, inside, read
  | .template _ _ _, _, inside, read => by
      cases read
      split
      · simp
      · simpa using inside
  | .atom _ _, _, _, read | .arrow _ _ _ _, _, _, read | .unary _ _ _, _, _, read
  | .binary _ _ _ _, _, _, read | .conditional _ _ _ _, _, _, read | .sequence _ _, _, _, read
  | .yield _ _, _, _, read => by
      cases read
      simp

theorem elementsToPats_inside {binding : Bool} : ∀ (elements : List Element) {pats : List Pat},
    NodesInside room (elementsNodes elements) → elementsToPats binding elements = .ok pats →
    NodesInside room (patsNodes pats)
  | [], _, _, read => by
      cases read
      simp
  | .hole :: rest, _, inside, read => by
      obtain ⟨others, found, same⟩ := exists_of_bind_eq_ok read
      cases same
      simpa using elementsToPats_inside rest inside found
  | .item e :: rest, _, inside, read => by
      obtain ⟨pat, first, more⟩ := exists_of_bind_eq_ok read
      obtain ⟨others, found, same⟩ := exists_of_bind_eq_ok more
      cases same
      obtain ⟨here, behind⟩ := nodesInside_append.1 inside
      exact nodesInside_append.2 ⟨e.toPat_inside here first, elementsToPats_inside rest behind found⟩
  | [.spread e], _, inside, read => by
      obtain ⟨pat, first, same⟩ := exists_of_bind_eq_ok read
      cases same
      have here := (nodesInside_append.1 inside).1
      simpa using e.toPat_inside here first
  | .spread e :: second :: rest, _, inside, read =>
      elementsToPats_inside (second :: rest) (nodesInside_append.1 inside).2 read

theorem propertiesToPats_inside {binding : Bool} : ∀ (properties : List Property)
    {pats : List PatProperty}, NodesInside room (propertiesNodes properties) →
    propertiesToPats binding properties = .ok pats → NodesInside room (patPropertiesNodes pats)
  | [], _, _, read => by
      cases read
      simp
  | .shorthand id :: rest, _, inside, read => by
      obtain ⟨others, found, same⟩ := exists_of_bind_eq_ok read
      cases same
      obtain ⟨here, behind⟩ := nodesInside_append.1 inside
      exact nodesInside_append.2 ⟨here, propertiesToPats_inside rest behind found⟩
  | .keyValue key value :: rest, _, inside, read => by
      obtain ⟨pat, first, more⟩ := exists_of_bind_eq_ok read
      obtain ⟨others, found, same⟩ := exists_of_bind_eq_ok more
      cases same
      obtain ⟨here, behind⟩ := nodesInside_append.1 inside
      obtain ⟨name, whole⟩ := nodesInside_append.1 here
      have both := nodesInside_append.2 ⟨name, value.toPat_inside whole first⟩
      exact nodesInside_append.2 ⟨both, propertiesToPats_inside rest behind found⟩
  | .initialized id value :: rest, _, inside, read => by
      obtain ⟨others, found, same⟩ := exists_of_bind_eq_ok read
      cases same
      obtain ⟨here, behind⟩ := nodesInside_append.1 inside
      exact nodesInside_append.2 ⟨here, propertiesToPats_inside rest behind found⟩
  | .spread e :: rest, _, inside, read => by
      obtain ⟨pat, first, more⟩ := exists_of_bind_eq_ok read
      obtain ⟨others, found, same⟩ := exists_of_bind_eq_ok more
      cases same
      obtain ⟨here, behind⟩ := nodesInside_append.1 inside
      exact nodesInside_append.2 ⟨e.toPat_inside here first, propertiesToPats_inside rest behind found⟩
  | .getter _ _ _ :: _, _, _, read => by cases read
  | .setter _ _ _ _ :: _, _, _, read => by cases read
  | .method _ _ :: _, _, _, read => by cases read

end

theorem Expr.toTarget_inside {op : AssignOp} {e : Expr} {pat : Pat} (inside : NodesInside room e.nodes)
    (read : e.toTarget op = .ok pat) : NodesInside room pat.nodes := by
  unfold Expr.toTarget at read
  split at read
  · cases read
    simpa using inside
  · split at read
    · exact Expr.toPat_inside _ inside read
    · cases read
  · split at read
    · exact Expr.toPat_inside _ inside read
    · cases read
  · cases read
    simpa using inside
  · cases read
    simpa using inside
  · cases read
    simpa using inside
  · cases read
    simpa using inside
  · cases read
    simpa using inside
  · cases read

theorem Element.toParam_inside {lo : Nat} {element : Element} {pat : Pat}
    (inside : NodesInside room element.nodes) (read : element.toParam lo = .ok pat) :
    NodesInside room pat.nodes := by
  cases element with
  | hole =>
      cases read
      simp
  | item e => exact e.toPat_inside inside read
  | spread e =>
      obtain ⟨covered, found, same⟩ := exists_of_bind_eq_ok read
      cases same
      simpa using e.toPat_inside inside found

namespace Grammar

instance {e : Expr} {op : AssignOp} [within : Within room e] : Stays room (cover (e.toTarget op)) := by
  unfold cover
  split
  · rename_i pat read
    have : Within room pat := ⟨e.toTarget_inside within.holds read⟩
    infer_instance
  · infer_instance

instance {element : Element} {lo : Nat} [within : Within room element] :
    Stays room (cover (element.toParam lo)) := by
  unfold cover
  split
  · rename_i pat read
    have : Within room pat := ⟨element.toParam_inside within.holds read⟩
    infer_instance
  · infer_instance

variable {r : Rules} [Rules.Stay room r] {lo : Nat} [Within room lo]

/-! ### Patterns -/

instance : Stays room (computedKey r) :=
  .bind fun _ => .bind fun _ => .bind fun _ => .bind fun _ => .bind fun _ => .pure

instance : Stays room (propertyName r) := by
  apply Stays.bind
  intro lexeme _
  split
  · exact .bind fun _ => .pure
  · exact .bind fun _ => .pure
  · exact .bind fun _ => .pure
  · exact .bind fun _ => .pure
  · infer_instance
  · infer_instance

instance : Stays room (annotation? r) :=
  .bind fun _ => .ite (.bind fun _ => .ite inferInstance .pure) .pure

instance {pat : Pat} [within : Within room pat] : Stays room (annotated r pat) := by
  refine .bind fun _ => .bind fun _ => .ite (.bind fun _ => .bind fun s => ?_) .pure
  -- The range of a pattern is no node of its own.
  have nodes := within.holds
  cases pat <;> (intro _; exact .give ⟨nodes⟩)

instance {pat : Pat} [Within room pat] : Stays room (withDefault r pat) :=
  .bind fun _ => .ite (.bind fun _ => .pure) .pure

instance : Stays room (bindingElement r) := .bind fun _ => inferInstance

instance : Stays room (restElement r) :=
  .bind fun _ => .bind fun _ => .bind fun _ => .bind fun _ => .pure

instance : Stays room (arrayPatElement r) := by
  apply Stays.bind
  intro lexeme _
  split
  · exact .bind fun _ => .pure
  · exact .ite (.bind fun _ => .bind fun _ => .ite .pure (.bind fun _ => .pure))
      (.bind fun _ => .bind fun _ => .ite .pure (.bind fun _ => .pure))

instance : Stays room (patProperty r) := by
  apply Stays.bind
  intro rest _
  apply Stays.ite
  · exact .bind fun _ => .pure
  · apply Stays.bind
    intro key within
    split
    · rename_i id
      have : Within room id := ⟨within.holds.1⟩
      exact .bind fun _ => .ite (.bind fun _ => .pure)
        (.bind fun _ => .ite (.bind fun _ => .pure) .pure)
    · exact .bind fun _ => .bind fun _ => .pure

instance : Stays room (bindingTarget r) :=
  .bind fun _ => .bind fun _ => .ite (.bind fun _ => .bind fun _ => .pure)
    (.bind fun _ => .ite (.bind fun _ => .bind fun _ => .pure) (.bind fun _ => .pure))

/-! ### Functions and classes -/

instance : Stays room closeAngle := by
  apply Stays.bind
  intro lexeme within
  split
  · rename_i rest _ source
    have start := within.holds.start
    rw [source] at start
    exact stays_resume start.one
  · infer_instance

instance {item : Parse Unit} [Stays room item] : Stays room (angleList item) := by
  refine .bind fun _ => .andThen (stays_gather ?_) fun _ => inferInstance
  apply Stays.bind
  intro lexeme _
  split
  · infer_instance
  · apply Stays.bind
    intro _ _
    apply Stays.bind
    intro close _
    split
    · infer_instance
    · exact .bind fun _ => .pure

instance : Stays room (typeParam r) := by
  refine .andThen (stays_gather ?_) fun _ => .bind fun _ => .bind fun _ =>
    .ite (.bind fun _ => .bind fun _ => .ite inferInstance .pure)
      (.bind fun _ => .ite inferInstance .pure)
  apply Stays.bind
  intro next _
  apply Stays.bind
  intro word _
  split
  · exact .ite (.bind fun _ => .pure) .pure
  · infer_instance

instance : Stays room (typeParams? r) := .bind fun _ => .bind fun _ => .ite inferInstance .pure

instance : Stays room (typeArgs? r) := .bind fun _ => .bind fun _ => .ite inferInstance .pure

instance : Stays room (arguments r) :=
  .bind fun _ => stays_withIn (stays_commaList
    (.bind fun _ => .ite (.bind fun _ => .pure) (.bind fun _ => .pure)))

instance : Stays room (decorator r) := by
  refine .bind fun _ => .bind fun _ => .ite (.bind fun _ => .bind fun _ => .pure)
    (.bind fun _ => .bind fun _ => stays_loop (fun _ => ?_) _)
  intro _
  exact .bind fun _ => .ite (.bind fun _ => .bind fun _ => .pure)
    (.bind fun _ => .ite (.bind fun _ => .bind fun _ => .pure) .pure)

instance : Stays room (decorators r) :=
  stays_gather (.bind fun _ => .ite (.bind fun _ => .pure) .pure)

instance {words : List String} : Stays room (modifiersIn words) := by
  refine .andThen (stays_gather ?_) fun _ => .pure
  apply Stays.bind
  intro word _
  split
  · exact .bind fun _ => .ite (.bind fun _ => .pure) .pure
  · infer_instance

instance {ofConstructor : Bool} : Stays room (param r ofConstructor) := by
  have rest {lo : Nat} {decs : List Expr} {promoted : Bool} [Within room lo] [Within room decs]
      (pat : Pat) [Within room pat] : Stays room (do
        if ← inTypings then
          let _ ← eatPunct "?"
        let pat ← annotated r pat
        let pat ← withDefault r pat
        return ⟨← spanFrom lo, if promoted then [] else decs, pat, promoted⟩ : Parse Param) :=
    .bind fun _ => .when inferInstance (.bind fun _ => .bind fun _ => .bind fun _ => .pure)
  exact .bind fun _ => .bind fun _ => .bind fun _ => .iteBind inferInstance .pure fun _ =>
    .bind fun _ => .bind fun _ => .bind fun _ => .ite (.bind fun _ => rest _)
      (.ite (.bind fun _ => .bind fun _ => rest _) (.bind fun _ => rest _))

instance {ofConstructor : Bool} : Stays room (params r ofConstructor) := .bind fun _ => inferInstance

instance : Stays room (braced r) := .bind fun _ => inferInstance

instance : Stays room (functionBody r) :=
  .bind fun _ => .bind fun _ => .ite (.bind fun _ => .pure) (.bind fun _ => .pure)

instance : Stays room (returnType? r) := inferInstanceAs (Stays room (annotation? r))

instance {generator async : Bool} : Stays room (functionRest r lo generator async) :=
  stays_within (.bind fun _ => .bind fun _ => .bind fun _ => .bind fun _ => .bind fun _ => .pure)

instance {async needsName : Bool} : Stays room (functionHead r lo async needsName) :=
  .bind fun _ => .bind fun _ => .bind fun _ => .ite (.bind fun _ => .bind fun _ => .pure)
    (.bind fun _ => .bind fun _ => .pure)

instance {async : Bool} : Stays room (functionExpr r lo async) := .bind fun _ => .pure

instance : Stays room (memberName r) := by
  apply Stays.bind
  intro lexeme _
  split
  · exact .bind fun _ => .pure
  · infer_instance

instance : Stays room atMethod := .bind fun _ => .bind fun _ => .bind fun _ => .pure

instance {lines : Bool} : Stays room (atField lines) := .bind fun _ => .bind fun _ => .pure

section Members

variable {head : MemberHead} [Within room head] {key : Key} [Within room key]

instance {kind : MethodKind} {generator async : Bool} :
    Stays room (methodRest r head kind key generator async) :=
  .bind fun _ => .pure

instance : Stays room (constructorRest r head) :=
  stays_within (.bind fun _ => .bind fun _ => .bind fun _ => .bind fun _ => .pure)

instance : Stays room (fieldRest r) := by
  have rest : Stays room (do
      let value ←
        if ← eatPunct "=" then
          some <$> within ({ · with allowIn := true, inFunction := true, async := false }) r.assign
        else pure none
      semicolon
      return value) :=
    .bind fun _ => .iteBind inferInstance .pure fun _ => .bind fun _ => .pure
  exact .bind fun _ => .ite (.bind fun _ => .bind fun _ => rest) rest

instance : Stays room (field r head key) := .bind fun _ => .bind fun _ => .pure

instance : Stays room (indexSignature? r head) :=
  .bind fun _ => .bind fun _ => .ite
    (stays_attempt (.bind fun _ => .bind fun _ => .bind fun _ => .bind fun _ => .bind fun _ =>
      .bind fun _ => .bind fun _ => .bind fun _ => .pure)) .pure

instance {word : String} : Stays room (modifierAhead word) := by
  refine .bind fun _ => .ite (.bind fun _ => .ite .pure ?_) .pure
  split <;> infer_instance

instance : Stays room optionalMark := .bind fun _ => .ite (.bind fun _ => .pure) .pure

instance : Stays room (namedMember r head) :=
  .bind fun _ => .ite (.bind fun _ => inferInstance)
    (.bind fun _ => .bind fun _ => .bind fun _ => .ite (.ite inferInstance inferInstance)
      (.bind fun _ => .bind fun _ => .bind fun _ => .bind fun _ => .ite inferInstance
        (.bind fun _ => .ite (.bind fun _ => .bind fun _ => .bind fun _ => inferInstance)
          (.ite (.bind fun _ => inferInstance) inferInstance))))

instance : Stays room (accessorMember r head) :=
  .bind fun _ => .bind fun _ => .bind fun _ => .bind fun _ => .bind fun _ => .pure

instance : Stays room (memberRest r head) := by
  refine .bind fun _ => .when inferInstance (.bind fun _ =>
    .ite (.bind fun _ => .bind fun _ => .pure) (.bind fun signature => ?_))
  intro within
  cases signature with
  | some member =>
      have := within.holds member rfl
      exact .pure
  | none => exact .bind fun _ => .bind fun _ => .ite inferInstance inferInstance

end Members

instance : Stays room (classMember r) :=
  .bind fun _ => .bind fun _ => .ite (.bind fun _ => .pure)
    (.bind fun _ => .bind fun _ => .when inferInstance
      (.bind fun _ => .bind fun _ => .ite
        (.bind fun _ => .bind fun _ => .ite (.bind fun _ => .ite inferInstance inferInstance)
          inferInstance)
        inferInstance))

instance : Stays room (baseClass r) :=
  .bind fun _ => .ite (.bind fun _ => .bind fun _ => .pure) .pure

instance : Stays room (implementsClause r) :=
  .bind fun _ => .ite (.bind fun _ => .ite (.bind fun _ =>
    .andThen (stays_gather (.bind fun _ => .ite (.bind fun _ => .pure) .pure)) fun _ => .pure) .pure) .pure

instance {decs : List Expr} {needsName : Bool} [Within room decs] :
    Stays room (classRest r lo decs needsName) :=
  .bind fun _ => .bind fun _ => .bind fun _ => .iteBind inferInstance .pure fun _ =>
    .bind fun _ => .bind fun _ => .bind fun _ => .bind fun _ => .bind fun _ => .bind fun _ => .pure

/-! ### Literals -/

instance {tagged : Bool} {mark : Lexeme} [within : Within room mark] :
    Stays room (templatePart tagged mark) := by
  unfold templatePart
  split
  · infer_instance
  · rename_i part read
    have : Stays room (resume part.rest) :=
      stays_resume (scanTemplate_inside within.holds.behind read)
    split
    · exact .whenNot inferInstance (.bind fun _ => .pure)
    · exact .bind fun _ => .pure

/-- Whatever is asked of the holes of a template, a template stays where its holes stay. -/
theorem stays_templateHoles [Placed Expr] {tagged : Bool} {hole : Parse Expr} (each : Stays room hole) :
    Stays room (templateHoles tagged hole) := by
  refine .bind fun mark => .bind fun first => .andThen (stays_loop (fun parts => ?_) _) fun _ => .pure
  intro within
  obtain ⟨ending, holes⟩ := parts
  have : Within room holes := within.holds.2
  cases ending with
  | closed => exact .pure
  | hole => exact .bind fun _ => .bind fun _ => .ite (.bind fun _ => .pure) inferInstance

instance {tag : Option Expr} [Within room tag] : Stays room (template r lo tag) :=
  .andThen (stays_templateHoles inferInstance) fun _ => .bind fun _ => .pure

instance : Stays room regex := by
  apply Stays.bind
  intro lexeme within
  split
  · rename_i rest read
    have : Stays room (resume rest) := stays_resume (scanRegex_inside within.holds read)
    exact .bind fun _ => .bind fun _ => .pure
  · infer_instance

instance {x : Parse Expr} [Stays room x] : Stays room (Element.item <$> x) :=
  .map fun _ => inferInstance

instance {x : Parse Expr} [Stays room x] : Stays room (Element.spread <$> x) :=
  .map fun _ => inferInstance

instance : Stays room (arrayElement r) :=
  .bind fun _ => .ite .pure (.bind fun _ => .iteBind inferInstance inferInstance fun _ =>
    .bind fun _ => .whenNot inferInstance .pure)

instance : Stays room (arrayLiteral r) :=
  .bind fun _ => .bind fun _ => .bind fun _ => .bind fun _ => .pure

instance {word : String} : Stays room (wordProperty r lo word) := by
  refine .ite (.bind fun _ => .bind fun _ => .bind fun _ => .pure)
    (.bind fun _ => .bind fun func => .ite .pure ?_)
  have within : Within room func.params := inferInstance
  split
  · rename_i p _ params
    have : Within room p := within.holds p (by simp [params])
    infer_instance
  · infer_instance

instance : Stays room (objectProperty r) := by
  refine .bind fun _ => .bind fun _ => .ite (.bind fun _ => .pure) (.bind fun _ =>
    .ite (.bind fun _ => .bind fun _ => .pure) (.bind fun key => .bind fun _ =>
      .ite (.bind fun _ => .pure) (.bind fun _ => .ite (.bind fun _ => .pure) ?_)))
  have within : Within room key := inferInstance
  cases key with
  | ident id =>
      have : Within room id := ⟨within.holds.1⟩
      exact .bind fun _ => .ite (.bind fun _ => .pure)
        (.bind fun _ => .bind fun _ => .ite .pure (.ite inferInstance inferInstance))
  | _ => exact inferInstanceAs (Stays room unexpected)

instance : Stays room (objectLiteral r) :=
  .bind fun _ => .bind fun _ => .bind fun _ => .bind fun _ => .pure

/-! ### Arrow functions and parentheses -/

instance {ps : List Pat} {async : Bool} [Within room ps] : Stays room (arrowRest r lo ps async) :=
  stays_within (.bind fun _ => .ite (.bind fun _ => .bind fun _ => .pure)
    (.bind fun _ => .bind fun _ => .pure))

instance : Stays room (parenItem r) :=
  .bind fun _ => .bind fun _ => .ite (.bind fun _ => .pure) (.bind fun _ => .pure)

theorem stays_plainItems : ∀ items : List (Nat × Element), [Within room items] →
    Stays room (plainItems items)
  | [], _ => inferInstanceAs (Stays room (pure []))
  | (_, .item e) :: rest, within => by
      have : Within room e := ⟨(within.holds _ List.mem_cons_self).holds.2.holds⟩
      have : Within room rest := ⟨fun x later => within.holds x (List.mem_cons_of_mem _ later)⟩
      have := stays_plainItems rest
      exact .bind fun _ => .pure
  | (_, .spread e) :: _, _ => inferInstanceAs (Stays room (failAt e.span.lo))
  | (lo, .hole) :: _, _ => inferInstanceAs (Stays room (failAt lo))

instance {async : Option Ident} [name : Within room async] : Stays room (parenOrArrow r lo async) := by
  refine .bind fun _ => .bind fun _ => .bind fun items => .bind fun _ => .ite
    (.bind fun _ => .when inferInstance (.whenNot inferInstance
      (.bind fun _ => .andThen (stays_mapM (fun item => ?_) items) fun _ => inferInstance))) ?_
  · intro within
    exact inferInstance
  · cases async with
    | some id =>
        have : Within room id := name.holds id rfl
        exact .bind fun _ => .pure
    | none =>
        refine .bind fun _ => .andThen (stays_plainItems items) fun es => ?_
        intro all
        have first : ∀ e ∈ es, Within room e := all.holds
        split
        · infer_instance
        · rename_i e
          have := first e List.mem_cons_self
          infer_instance
        · rename_i e rest _
          have := first e List.mem_cons_self
          infer_instance

instance : Stays room (identOrArrow r) :=
  .bind fun _ => .bind fun _ => .bind fun _ => .bind fun _ => .ite
    (.bind fun _ => .bind fun _ => inferInstance)
    (.bind fun _ => .ite inferInstance .pure)

instance : Stays room (asyncOperand r) :=
  .bind fun _ => .bind fun _ => .ite (.bind fun _ => inferInstance)
    (.bind fun _ => .ite (.bind fun _ => inferInstance) inferInstance)

/-! ### Operands -/

instance {kind : Atom} : Stays room (atom kind) := .bind fun _ => .bind fun _ => .pure

instance {decs : List Expr} [Within room decs] : Stays room (classOperand r lo decs) :=
  .bind fun _ => .pure

instance {word : String} : Stays room (wordOperand r word) := by
  apply Stays.bind
  intro lo _
  split <;> infer_instance

instance : Stays room (primary r) := by
  apply Stays.bind
  intro lexeme _
  split
  · infer_instance
  · infer_instance
  · exact .bind fun _ => .pure
  · exact .bind fun _ => .pure
  · infer_instance
  · exact .bind fun _ => .ite inferInstance inferInstance
  · infer_instance
  · infer_instance
  · infer_instance
  · infer_instance
  · infer_instance
  · infer_instance
  · exact .bind fun _ => inferInstance
  · infer_instance

/-! ### Members and calls -/

instance {span : Span} {chained : Bool} {e : Expr} {key : Key} [Within room span] [Within room e]
    [Within room key] : Within room (memberOf span chained e key) := by
  unfold memberOf
  split <;> infer_instance

instance : Stays room dotName := by
  apply Stays.bind
  intro lexeme _
  split
  · exact .bind fun _ => .pure
  · exact .bind fun _ => .pure

instance {calls : Bool} {e : Expr} [Within room e] : Stays room (subscript r lo calls e) := by
  have brackets {chained : Bool} : Stays room (do
      let start ← here
      advance
      let inner ← withIn r.expr
      expectPunct "]"
      let key := Key.computed (← spanFrom start) inner
      return some (memberOf (← spanFrom lo) chained e key)) :=
    .bind fun _ => .bind fun _ => .bind fun _ => .bind fun _ => .bind fun _ => .bind fun _ => .pure
  apply Stays.bind
  intro mark _
  split
  · exact .bind fun _ => .bind fun _ => .bind fun _ => .pure
  · exact .bind fun _ => .bind fun _ => .ite (.bind fun _ => .bind fun _ => .pure)
      (.bind fun _ => .ite brackets (.bind fun _ => .bind fun _ => .pure))
  · exact brackets
  · exact .ite (.bind fun _ => .bind fun _ => .pure) .pure
  · exact .bind fun _ => .bind fun _ => .ite (.bind fun _ => .bind fun _ => .pure) .pure
  · exact .bind fun _ => .pure
  · infer_instance

instance {calls : Bool} {e : Expr} [Within room e] : Stays room (subscripts r lo calls e) :=
  .ite .pure (stays_loop (fun _ => inferInstance) e)

instance : Stays room (importOperand r) := by
  have : Stays room (modify fun s => { s with moduleFound := true } : Parse Unit) :=
    stays_modify fun _ => rfl
  exact .bind fun _ => .bind fun _ => .bind fun _ => .ite
    (.bind fun _ => .bind fun _ => .bind fun _ => .pure) (.bind fun _ => .bind fun _ => .pure)

instance : Stays room (construction r) :=
  .bind fun _ => .bind fun _ => .bind fun _ => .ite (.bind fun _ => .bind fun _ => inferInstance)
    (.bind fun _ => .bind fun _ => .bind fun _ => .ite
      (.bind fun _ => .bind fun _ => inferInstance) (.bind fun _ => .pure))

instance {calls : Bool} : Stays room (member r calls) := by
  apply Stays.bind
  intro lexeme _
  split
  · exact .bind fun _ => .ite inferInstance .pure
  · exact .bind fun _ => inferInstance
  · exact .bind fun _ => inferInstance
  · exact .bind fun _ => inferInstance

instance : Stays room (leftHandSide r) := inferInstanceAs (Stays room (member r true))

/-! ### Operators -/

instance : Stays room (awaitOperand r) := by
  have : Stays room (modify fun s => { s with moduleFound := true } : Parse Unit) :=
    stays_modify fun _ => rfl
  exact .bind fun _ => .bind fun _ => .bind fun _ => .bind fun _ => .ite .pure
    (.whenNot inferInstance (.bind fun _ => .pure))

instance : Stays room (castOperand r) :=
  .bind fun _ => .bind fun _ => .bind fun _ => .whenNot inferInstance
    (.bind fun _ => .bind fun _ => .pure)

instance : Stays room (unary r) := by
  apply Stays.bind
  intro lexeme _
  split
  · exact .bind fun _ => .bind fun _ => .pure
  · exact .ite inferInstance (.bind fun _ => .ite inferInstance (.bind fun _ => .bind fun _ =>
      .ite .pure (.bind fun _ => .ite (.bind fun _ => .pure)
        (.bind fun _ => .ite (.bind fun _ => .pure) .pure))))

theorem within_reduce (level : Nat) : ∀ (stack : List Pending) (e : Expr), [Within room stack] →
    [Within room e] → Within room (reduce level stack e)
  | [], e, _, _ => inferInstanceAs (Within room (([] : List Pending), e))
  | p :: rest, e, all, _ => by
      have : Within room p.left := ⟨(all.holds p List.mem_cons_self).holds⟩
      have : Within room rest := ⟨fun x later => all.holds x (List.mem_cons_of_mem p later)⟩
      unfold reduce
      split
      · exact within_reduce level rest _
      · infer_instance

instance {left : Expr} {op : BinaryOp} {level : Nat} [within : Within room left] :
    Within room (⟨left, op, level⟩ : Pending) :=
  ⟨within.holds⟩

instance {e : Expr} [Within room e] : Stays room (typeAssertion? r lo e) :=
  .bind fun _ => .bind fun _ => .bind fun _ => .bind fun _ => .ite
    (.bind fun _ => .bind fun _ => .whenNot inferInstance (.bind fun _ => .pure)) .pure

instance : Stays room (binary r) := by
  refine .bind fun _ => .bind fun _ => .ite .pure (.bind fun _ =>
    .andThen (stays_loop (fun parts => ?_) _) fun parts => ?_)
  · intro within
    obtain ⟨stack, e⟩ := parts
    have : Within room stack := within.holds.1
    have : Within room e := within.holds.2
    refine .bind fun _ => .bind fun _ => ?_
    intro _
    split
    · infer_instance
    · rename_i op level _
      have : Within room (reduce (if op == .power then level + 1 else level) stack e) :=
        within_reduce _ stack e
      exact .bind fun _ => .when inferInstance (.bind fun _ => .pure)
  · intro within
    have : Within room (reduce 0 parts.1 parts.2) := within_reduce 0 _ _
    exact .pure

instance : Stays room (conditional r) :=
  .bind fun _ => .ite .pure (.bind fun _ => .ite
    (.bind fun _ => .bind fun _ => .bind fun _ => .pure) .pure)

instance : Stays room (yieldOperation r) :=
  .bind fun _ => .bind fun _ => .bind fun _ => .bind fun _ => .ite .pure
    (.bind fun _ => .bind fun _ => .pure)

instance : Stays room (assignment r) := by
  refine .bind fun _ => .bind fun _ => .ite inferInstance (stays_within (.bind fun left =>
    .ite .pure (.bind fun _ => ?_)))
  intro _
  split
  · infer_instance
  · exact .bind fun _ => .bind fun _ => .bind fun _ => .pure

instance : Stays room (expression r) :=
  .bind fun _ => .bind fun _ => .ite
    (.andThen (stays_gather (.bind fun _ => .ite (.bind fun _ => .pure) .pure)) fun _ => .pure) .pure

end Grammar
end BundleLens
