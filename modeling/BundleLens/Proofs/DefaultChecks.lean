/-
Module: BundleLens.Proofs.DefaultChecks
Layer: Proofs
Purpose: What is told of a function against its code. Every parameter is told once and in its place, and
  the statements that are left out are tests for default values of declared parameters. They are left
  out wherever they stand; only where they lead the body does taking them as default values move them
  past nothing that does something.
Imports: BundleLens.Proofs.Built, BundleLens.Reflection.FunctionBody
Main exports: Stmt.ChecksDefault, FunctionLike.isCheck, FunctionLike.checksLead, FunctionLike.param?,
  World.functionAt?, functionInfo?_leftOut
-/
import BundleLens.Proofs.Built
import BundleLens.Reflection.FunctionBody

namespace BundleLens

/-! ### Tests for default values -/

/-- `if (name === undefined) name = value`, also with a block around the assignment. The tested name and
    the test may stand in parentheses, and `void` of anything is undefined. -/
inductive Stmt.ChecksDefault (name : String) (value : Expr) : Stmt → Prop where
  | ifUndefined {span testSpan : Span} {test left right given : Expr} {consequent body : Stmt}
      {assign : Assignment} {target : Ident}
      (isTest : test.bare = .binary testSpan .identical left right)
      (tested : left.isNamed name = true) (undefined : right.isUndefined = true)
      (single : consequent.single? = some body) (isGiven : body.expr? = some given)
      (assigns : given.assignment? = some assign)
      (isTarget : assign.target.ident? = some target) (same : target.name = name)
      (gives : assign.value = value) :
      ChecksDefault name value (.ifElse span test consequent none)

theorem Expr.isNamed_iff {e : Expr} {name : String} :
    e.isNamed name = true ↔ ∃ id, e.ident? = some id ∧ id.name = name := by
  unfold Expr.isNamed
  cases e.ident? <;> simp

/-- A test for a default value is read exactly where one is written. -/
theorem Stmt.defaultCheck?_eq_some_iff {s : Stmt} {name : String} {value : Expr} :
    s.defaultCheck? = some (name, value) ↔ s.ChecksDefault name value := by
  constructor
  · intro checks
    unfold Stmt.defaultCheck? at checks
    split at checks
    · rename_i span test consequent
      split at checks
      · rename_i testSpan left right isTest
        simp only [bind, Option.bind_eq_some_iff, Option.ite_none_left_eq_some,
          Option.ite_none_right_eq_some, Option.some.injEq, Prod.mk.injEq, beq_iff_eq,
          Bool.not_eq_true', Bool.not_eq_false] at checks
        obtain ⟨id, isId, undefined, body, single, given, isGiven, assign, assigns, target, isTarget, same,
          named, gives⟩ := checks
        exact .ifUndefined isTest (Expr.isNamed_iff.2 ⟨id, isId, named⟩) undefined single isGiven assigns
          isTarget (same.trans named) gives
      · cases checks
    · cases checks
  · intro checks
    cases checks with
    | ifUndefined isTest tested undefined single isGiven assigns isTarget same gives =>
        obtain ⟨id, isId, named⟩ := Expr.isNamed_iff.1 tested
        simp [Stmt.defaultCheck?, isTest, isId, named, undefined, single, isGiven, assigns, isTarget, same,
          gives]

/-- A directive is no test. -/
theorem Stmt.defaultCheck?_of_isDirective {s : Stmt} (directive : s.isDirective = true) :
    s.defaultCheck? = none := by
  unfold Stmt.isDirective at directive
  split at directive
  · rfl
  · cases directive

/-- Whether a statement gives one of the names a default value. -/
def Stmt.checksOneOf (names : List (Option String)) (s : Stmt) : Bool :=
  s.defaultCheck?.any fun (name, _) => names.contains (some name)

/-- The default value that a statement gives to a name. -/
def Stmt.defaultFor? (name : String) (s : Stmt) : Option Expr :=
  s.defaultCheck?.bind fun (tested, value) => if tested == name then some value else none

/-- The default value that a body gives to a name at last. -/
def lastDefault? (name : String) (body : List Stmt) : Option Expr :=
  body.reverse.findSome? (·.defaultFor? name)

/-! ### Taking tests as default values -/

section Setting

variable {name : String} {value : Expr} {params params' : List FunctionParam}

/-- A default value is taken exactly if there is a parameter with the name. -/
theorem isSome_setDefault? (name : String) (value : Expr) (params : List FunctionParam) :
    (setDefault? name value params).isSome = (params.map (·.name)).contains (some name) := by
  induction params with
  | nil => rfl
  | cons p rest ih =>
      by_cases here : p.name = some name
      · simp [setDefault?, here]
      · simp [setDefault?, here, ih, Ne.symm here]

/-- Taking a default value changes the first parameter with the name and no other. -/
theorem setDefault?_getElem? (set : setDefault? name value params = some params') (i : Nat) :
    params'[i]? = params[i]?.map fun p =>
      if p.name = some name ∧ some name ∉ (params.take i).map (·.name) then
        { p with initializer := some value }
      else p := by
  induction params generalizing params' i with
  | nil => cases set
  | cons p rest ih =>
      by_cases here : p.name = some name
      · simp only [setDefault?, here, beq_self_eq_true, ↓reduceIte, Option.some.injEq] at set
        subst set
        cases i with
        | zero => simp [here]
        | succ i => simp [here]
      · simp only [setDefault?, beq_eq_false_iff_ne.2 here, Bool.false_eq_true, ↓reduceIte,
          Option.map_eq_some_iff] at set
        obtain ⟨tail, set, rfl⟩ := set
        cases i with
        | zero => simp [here]
        | succ i => simp [ih set, Ne.symm here]

theorem setDefault?_names (set : setDefault? name value params = some params') :
    params'.map (·.name) = params.map (·.name) := by
  apply List.ext_getElem?
  intro i
  simp only [List.getElem?_map, setDefault?_getElem? set, Option.map_map]
  congr 1
  funext p
  simp only [Function.comp_apply]
  split <;> rfl

end Setting

/-- The parameters that take the default value of a statement, if one of them has the name that it
    tests. -/
def Stmt.takenBy? (s : Stmt) (params : List FunctionParam) : Option (List FunctionParam) :=
  s.defaultCheck?.bind fun (name, value) => setDefault? name value params

/-- A statement gives one of the parameters a default value exactly if a parameter takes it. -/
theorem Stmt.checksOneOf_names (s : Stmt) (params : List FunctionParam) :
    s.checksOneOf (params.map (·.name)) = (s.takenBy? params).isSome := by
  unfold Stmt.checksOneOf Stmt.takenBy?
  cases s.defaultCheck? with
  | none => rfl
  | some tested => simp [isSome_setDefault?]

theorem Stmt.takenBy?_names (s : Stmt) (params : List FunctionParam) :
    ((s.takenBy? params).getD params).map (·.name) = params.map (·.name) := by
  cases taken : s.takenBy? params with
  | none => rfl
  | some params' =>
      obtain ⟨⟨name, value⟩, _, set⟩ := Option.bind_eq_some_iff.1 taken
      exact setDefault?_names set

theorem stripDefaults_cons (s : Stmt) (rest : List Stmt) (params : List FunctionParam) :
    stripDefaults (s :: rest) params =
      let (kept, params') := stripDefaults rest ((s.takenBy? params).getD params)
      (if s.checksOneOf (params.map (·.name)) then kept else s :: kept, params') := by
  rw [s.checksOneOf_names params, stripDefaults.eq_2, ← Stmt.takenBy?]
  cases s.takenBy? params <;> rfl

/-- The statements that stay are those that give no parameter a default value. -/
theorem stripDefaults_kept (body : List Stmt) (params : List FunctionParam) :
    (stripDefaults body params).1 = body.filter fun s => !s.checksOneOf (params.map (·.name)) := by
  induction body generalizing params with
  | nil => rfl
  | cons s rest ih =>
      simp only [stripDefaults_cons, ih, s.takenBy?_names params, List.filter_cons]
      cases s.checksOneOf (params.map (·.name)) <;> rfl

/-- A parameter with the default value that a body gives to its name at last. -/
def FunctionParam.withDefault (p : FunctionParam) (body : List Stmt) : FunctionParam :=
  { p with initializer := (p.name.bind (lastDefault? · body)).or p.initializer }

@[simp] theorem FunctionParam.withDefault_name (p : FunctionParam) (body : List Stmt) :
    (p.withDefault body).name = p.name := rfl

theorem FunctionParam.withDefault_nil (p : FunctionParam) : p.withDefault [] = p := by
  obtain ⟨name, pat, initializer⟩ := p
  cases name <;> rfl

theorem FunctionParam.withDefault_cons (p : FunctionParam) (s : Stmt) (rest : List Stmt) :
    p.withDefault (s :: rest) = (p.withDefault [s]).withDefault rest := by
  obtain ⟨name, pat, initializer⟩ := p
  cases name <;> simp [FunctionParam.withDefault, lastDefault?, List.findSome?_append, Option.or_assoc]

/-- A statement that gives a parameter no default value leaves it as it is. -/
theorem FunctionParam.withDefault_of_untested {p : FunctionParam} {s : Stmt}
    (untested : ∀ name value, s.defaultCheck? = some (name, value) → p.name ≠ some name) :
    p.withDefault [s] = p := by
  obtain ⟨name, pat, initializer⟩ := p
  cases name with
  | none => rfl
  | some name =>
      have nothing : s.defaultFor? name = none := by
        unfold Stmt.defaultFor?
        cases check : s.defaultCheck? with
        | none => rfl
        | some tested =>
            have other : ¬tested.1 = name := fun same => untested tested.1 tested.2 check (by rw [same])
            simp [other]
      simp [FunctionParam.withDefault, lastDefault?, nothing]

/-- The parameters behind one statement: the first one with the name that the statement tests takes the
    default value. -/
theorem Stmt.takenBy?_getElem? (s : Stmt) (params : List FunctionParam) (i : Nat) :
    ((s.takenBy? params).getD params)[i]? = params[i]?.map fun p =>
      if p.name ∈ (params.take i).map (·.name) then p else p.withDefault [s] := by
  cases taken : s.takenBy? params with
  | none =>
      cases found : params[i]? with
      | none => simpa using found
      | some p =>
          have untested : p.withDefault [s] = p := by
            apply FunctionParam.withDefault_of_untested
            intro name value check named
            have checks := s.checksOneOf_names params
            simp only [taken, Stmt.checksOneOf, check, Option.any_some, Option.isSome_none,
              List.contains_eq_mem, decide_eq_false_iff_not] at checks
            exact checks (List.mem_map.2 ⟨p, List.mem_of_getElem? found, named⟩)
          simp [untested, found]
  | some params' =>
      obtain ⟨⟨name, value⟩, check, set⟩ := Option.bind_eq_some_iff.1 taken
      rw [Option.getD_some, setDefault?_getElem? set]
      congr 1
      funext p
      by_cases named : p.name = some name
      · simp [named, FunctionParam.withDefault, lastDefault?, Stmt.defaultFor?, check]
      · have untested : p.withDefault [s] = p := by
          apply FunctionParam.withDefault_of_untested
          intro other given tested
          rw [check] at tested
          cases tested
          exact named
        simp [named, untested]

/-- Every parameter stays in its place, and the first one of a name takes the last default value that
    the body gives to the name. -/
theorem stripDefaults_getElem? (body : List Stmt) (params : List FunctionParam) (i : Nat) :
    (stripDefaults body params).2[i]? = params[i]?.map fun p =>
      if p.name ∈ (params.take i).map (·.name) then p else p.withDefault body := by
  induction body generalizing params with
  | nil => simp [stripDefaults, FunctionParam.withDefault_nil]
  | cons s rest ih =>
      simp only [stripDefaults_cons, ih, List.map_take, s.takenBy?_names params, s.takenBy?_getElem? params,
        Option.map_map]
      congr 1
      funext p
      by_cases earlier : p.name ∈ (params.map (·.name)).take i
      · simp [earlier]
      · simp [earlier, p.withDefault_cons s rest]

/-! ### The statements of a function that are left out -/

namespace FunctionLike

variable (f : FunctionLike)

/-- The names that the parameters of a function declare, with or without default values. -/
def declared : List (Option String) := f.params.map fun pat => (FunctionParam.ofPat pat).name

/-- Whether a statement gives a parameter of the function its default value. -/
def isCheck (s : Stmt) : Bool := s.checksOneOf f.declared

/-- A parameter as it is told: the first one of a name with the default value that the body gives to the
    name at last, all others as they are written. -/
def param? (i : Nat) : Option FunctionParam :=
  f.params[i]?.map fun pat =>
    let p := FunctionParam.ofPat pat
    if p.name ∈ f.declared.take i then p else p.withDefault (f.body?.getD [])

/-- Whether the tests for default values lead a body: behind a statement that is neither one of them nor
    a directive, none is left. -/
def checksLead (body : List Stmt) : Bool :=
  !(body.dropWhile fun s => s.isDirective || f.isCheck s).any f.isCheck

variable {f}

theorem isCheck_iff {s : Stmt} :
    f.isCheck s = true ↔ ∃ name value, some name ∈ f.declared ∧ s.ChecksDefault name value := by
  simp only [isCheck, Stmt.checksOneOf, Option.any_eq_true, Prod.exists, List.contains_eq_mem,
    decide_eq_true_eq, Stmt.defaultCheck?_eq_some_iff, and_comm]

theorem isCheck_of_isDirective {s : Stmt} (directive : s.isDirective = true) : f.isCheck s = false := by
  simp [isCheck, Stmt.checksOneOf, Stmt.defaultCheck?_of_isDirective directive]

/-- A statement is a test or a directive or does something else. -/
theorem isCheck_cases (f : FunctionLike) (s : Stmt) :
    f.isCheck s = true ∧ s.isDirective = false ∨ f.isCheck s = false ∧ s.isDirective = true ∨
      f.isCheck s = false ∧ s.isDirective = false := by
  cases directive : s.isDirective with
  | true => simp [isCheck_of_isDirective directive]
  | false => cases f.isCheck s <;> simp

theorem checksLead_cons_of_led {s : Stmt} (rest : List Stmt)
    (led : s.isDirective = true ∨ f.isCheck s = true) : f.checksLead (s :: rest) = f.checksLead rest := by
  simp [checksLead, led]

theorem checksLead_cons_of_other {s : Stmt} (rest : List Stmt) (other : f.isCheck s = false)
    (acts : s.isDirective = false) : f.checksLead (s :: rest) = !rest.any f.isCheck := by
  simp [checksLead, other, acts]

/-- The tests lead a body exactly if only directives and other tests stand in front of each. -/
theorem checksLead_iff_before {body : List Stmt} :
    f.checksLead body = true ↔ ∀ before s after, body = before ++ s :: after → f.isCheck s = true →
      ∀ t ∈ before, t.isDirective = true ∨ f.isCheck t = true := by
  induction body with
  | nil => simp [checksLead]
  | cons first rest ih =>
      by_cases led : first.isDirective = true ∨ f.isCheck first = true
      · rw [checksLead_cons_of_led rest led, ih]
        constructor
        · intro leads before s after split check t member
          cases before with
          | nil => cases member
          | cons head before =>
              cases split
              rcases List.mem_cons.1 member with rfl | member
              · exact led
              · exact leads before s after rfl check t member
        · intro leads before s after split check t member
          apply leads (first :: before) s after (by rw [split]; rfl) check t
          exact List.mem_cons_of_mem _ member
      · obtain ⟨acts, other⟩ := not_or.1 led
        rw [Bool.not_eq_true] at acts other
        rw [checksLead_cons_of_other rest other acts, Bool.not_eq_true', List.any_eq_false]
        constructor
        · intro none before s after split check
          cases before with
          | nil => nofun
          | cons head before =>
              cases split
              exact absurd check (none s (by simp))
        · intro leads s member check
          obtain ⟨before, after, rfl⟩ := List.append_of_mem member
          exact led (leads (first :: before) s after rfl check first List.mem_cons_self)

/-- Where the tests do not lead a body, one of them is behind a statement that does something else. -/
theorem exists_late {body : List Stmt} (late : f.checksLead body = false) :
    ∃ before s after t, body = before ++ s :: after ∧ f.isCheck s = true ∧ t ∈ before ∧
      t.isDirective = false ∧ f.isCheck t = false := by
  rw [← Bool.not_eq_true, checksLead_iff_before] at late
  simp only [Classical.not_forall, not_or, Bool.not_eq_true] at late
  obtain ⟨before, s, after, split, check, t, earlier, acts, other⟩ := late
  exact ⟨before, s, after, t, split, check, earlier, acts, other⟩

/-- A body whose tests lead it does the same when they are taken out in front of it. -/
theorem foldl_of_checksLead {body : List Stmt} {State : Type} {run : State → Stmt → State}
    (idle : ∀ s, s.isDirective = true → ∀ state, run state s = state) (leads : f.checksLead body = true)
    (state : State) :
    (body.filter f.isCheck ++ body.filter (!f.isCheck ·)).foldl run state = body.foldl run state := by
  induction body generalizing state with
  | nil => rfl
  | cons s rest ih =>
      rcases f.isCheck_cases s with ⟨check, acts⟩ | ⟨other, directive⟩ | ⟨other, acts⟩
      · rw [checksLead_cons_of_led rest (.inr check)] at leads
        simpa [check] using ih leads (run state s)
      · rw [checksLead_cons_of_led rest (.inl directive)] at leads
        simpa [other, idle s directive] using ih leads state
      · rw [checksLead_cons_of_other rest other acts, Bool.not_eq_true', List.any_eq_false] at leads
        have none : rest.filter f.isCheck = [] := List.filter_eq_nil_iff.2 leads
        have all : rest.filter (!f.isCheck ·) = rest :=
          List.filter_eq_self.2 fun t member => by simp [leads t member]
        simp [other, none, all]

/-- Tests that keep their places among all that does something lead the body. -/
theorem checksLead_of_order {body : List Stmt}
    (order : (body.filter f.isCheck ++ body.filter (!f.isCheck ·)).filter (!·.isDirective) =
      body.filter (!·.isDirective)) : f.checksLead body = true := by
  induction body with
  | nil => rfl
  | cons s rest ih =>
      rcases f.isCheck_cases s with ⟨check, acts⟩ | ⟨other, directive⟩ | ⟨other, acts⟩
      · rw [checksLead_cons_of_led rest (.inr check)]
        apply ih
        simpa [check, acts] using order
      · rw [checksLead_cons_of_led rest (.inl directive)]
        apply ih
        simpa [other, directive] using order
      · rw [checksLead_cons_of_other rest other acts, Bool.not_eq_true', List.any_eq_false]
        -- A test behind the statement would come first, and the statement comes first.
        cases checks : rest.filter f.isCheck with
        | nil => exact List.filter_eq_nil_iff.1 checks
        | cons t others =>
            have isCheck : f.isCheck t = true :=
              (List.mem_filter.1 (checks ▸ List.mem_cons_self)).2
            have does : t.isDirective = false := by
              cases directive : t.isDirective with
              | false => rfl
              | true => rw [isCheck_of_isDirective directive] at isCheck; cases isCheck
            simp only [List.filter_cons, other, acts, checks, does, Bool.not_false, Bool.false_eq_true,
              ↓reduceIte, List.cons_append, List.cons.injEq] at order
            rw [order.1, other] at isCheck
            cases isCheck

/-- Taking the tests out in front of a body moves none of them past a statement that does something
    exactly if they lead the body: whatever the statements do, as long as directives do nothing, the
    body does the same. -/
theorem checksLead_iff_moves {body : List Stmt} :
    f.checksLead body = true ↔
      ∀ {State : Type} (run : State → Stmt → State),
        (∀ s, s.isDirective = true → ∀ state, run state s = state) →
        ∀ state, (body.filter f.isCheck ++ body.filter (!f.isCheck ·)).foldl run state =
          body.foldl run state := by
  constructor
  · intro leads State run idle state
    exact foldl_of_checksLead idle leads state
  · intro moves
    apply checksLead_of_order
    -- The statements may do no more than to be recorded.
    have recorded : ∀ (statements seen : List Stmt),
        statements.foldl (fun seen s => if s.isDirective then seen else seen ++ [s]) seen =
          seen ++ statements.filter (!·.isDirective) := by
      intro statements
      induction statements with
      | nil => simp
      | cons s rest ih => intro seen; cases directive : s.isDirective <;> simp [directive, ih]
    have same := moves (fun seen s => if s.isDirective then seen else seen ++ [s])
      (fun s directive seen => by simp [directive]) []
    rw [recorded, recorded] at same
    simpa using same

theorem info_pats (f : FunctionLike) (node : DeclNode) (known : Option KnownDeclaration) (i : Nat) :
    (f.info node known).params[i]? = f.param? i := by
  unfold info param? declared
  cases f.body? with
  | none =>
      simp [List.getElem?_map, FunctionParam.withDefault_nil]
  | some body =>
      simp [stripDefaults_getElem?, List.getElem?_map, List.map_take, Function.comp_def]

theorem info_body (f : FunctionLike) (node : DeclNode) (known : Option KnownDeclaration) :
    (f.info node known).body = f.body?.map fun body => body.filter (!f.isCheck ·) := by
  unfold info
  cases f.body? with
  | none => rfl
  | some body => simp [stripDefaults_kept, isCheck, declared, Function.comp_def]

/-- The parameter that is told in a place is the one that is written there. -/
theorem param?_pat (f : FunctionLike) (i : Nat) : (f.param? i).map (·.pat) = f.params[i]? := by
  have written (pat : Pat) : (FunctionParam.ofPat pat).pat = pat := by cases pat <;> rfl
  unfold param?
  cases f.params[i]? with
  | none => rfl
  | some pat =>
      simp only [Option.map_some, Option.some.injEq]
      split
      · exact written pat
      · exact written pat

end FunctionLike

/-! ### Functions of a program -/

/-- The function at a node that declares one or is one, or what the variable at the node holds. -/
def World.functionAt? (w : World) : DeclNode → Option FunctionLike
  | .function decl => some (.function decl.func)
  | .functionExpr expr => some (.function expr.func)
  | .variable d => do (← w.variableValue? d).functionLike?
  | _ => none

section Functions

variable {w : World} {node : DeclNode} {info : FunctionInfo} {f : FunctionLike}

/-- Of a function all is told, under the name by which it may be known. -/
theorem World.functionInfo?_of_functionAt? (found : w.functionAt? node = some f) :
    ∃ known, w.functionInfo? node = some (f.info node known) := by
  unfold World.functionAt? at found
  unfold World.functionInfo?
  cases node with
  | function decl => cases found; exact ⟨_, rfl⟩
  | functionExpr expr => cases found; exact ⟨_, rfl⟩
  | «variable» d =>
      obtain ⟨value, held, isFunction⟩ := Option.bind_eq_some_iff.1 found
      exact ⟨d.pat.ident?.bind (knownHelper? ·.name), by simp [held, isFunction]⟩
  | _ => cases found

/-- What has no function is told to have no parameters and no body. -/
theorem World.functionInfo?_of_unknown (told : w.functionInfo? node = some info)
    (none : w.functionAt? node = none) : info.params = [] ∧ info.body = .none := by
  unfold World.functionAt? at none
  unfold World.functionInfo? at told
  cases node with
  | function decl => cases none
  | functionExpr expr => cases none
  | «variable» d =>
      simp only [bind, Option.bind_eq_some_iff, Option.bind_eq_none_iff] at told none
      obtain ⟨value, held, f, isFunction, _⟩ := told
      rw [none value held] at isFunction
      cases isFunction
  | ident id =>
      obtain ⟨known, _, same⟩ := Option.bind_eq_some_iff.1 told
      cases same
      exact ⟨rfl, rfl⟩
  | _ => cases told

/-- What is told of a function. Every parameter is told once and in its place. The body is told without
    some statements, each of them a test for the default value of a declared parameter. They have only
    directives and other tests in front of them exactly if the tests lead the body, and only then does
    taking them as default values move none of them past a statement that does something. -/
theorem functionInfo?_leftOut (w : World) (node : DeclNode) (info : FunctionInfo) :
    w.functionInfo? node = some info →
      (w.functionAt? node = none → info.params = [] ∧ info.body = none) ∧
      ∀ f, w.functionAt? node = some f →
        info.params.map (·.pat) = f.params ∧ (∀ i, info.params[i]? = f.param? i) ∧
        info.body.isSome = f.body?.isSome ∧
        ∀ body kept, f.body? = some body → info.body = some kept →
          kept.Sublist body ∧
          (∀ s ∈ body, s ∉ kept →
            ∃ name value, some name ∈ f.declared ∧ s.ChecksDefault name value) ∧
          (f.checksLead body = true ↔
            ∀ before s after, body = before ++ s :: after → s ∉ kept →
              ∀ t ∈ before, t.isDirective = true ∨ t ∉ kept) ∧
          (f.checksLead body = true ↔
            ∀ {State : Type} (run : State → Stmt → State),
              (∀ s, s.isDirective = true → ∀ state, run state s = state) →
              ∀ state, (body.filter f.isCheck ++ kept).foldl run state = body.foldl run state) := by
  intro told
  refine ⟨World.functionInfo?_of_unknown told, ?_⟩
  intro f found
  obtain ⟨known, same⟩ := World.functionInfo?_of_functionAt? found
  cases told.symm.trans same
  have params := f.info_pats node known
  refine ⟨?pats, params, ?isSome, ?statements⟩
  case pats =>
    apply List.ext_getElem?
    intro i
    rw [List.getElem?_map, params, f.param?_pat]
  case isSome => simp [f.info_body]
  case statements =>
    intro body kept isBody isKept
    rw [f.info_body, isBody, Option.map_some, Option.some.injEq] at isKept
    subst isKept
    have leftOut {s : Stmt} (member : s ∈ body) :
        s ∉ body.filter (!f.isCheck ·) ↔ f.isCheck s = true := by simp [member]
    refine ⟨List.filter_sublist, ?_, ?_, FunctionLike.checksLead_iff_moves⟩
    · intro s member left
      exact FunctionLike.isCheck_iff.1 ((leftOut member).1 left)
    · rw [FunctionLike.checksLead_iff_before]
      refine forall_congr' fun before => forall_congr' fun s => forall_congr' fun after => ?_
      refine forall_congr' fun split => ?_
      rw [leftOut (by simp [split])]
      refine forall_congr' fun _ => forall_congr' fun t => forall_congr' fun member => ?_
      rw [leftOut (by simp [split, member])]

end Functions

/-- The functions that are declared at the top level of a program. -/
def Program.functionNodes (program : Program) : List DeclNode :=
  program.files.flatMap fun file => file.statements.filterMap fun
    | .function name func => some (.function ⟨name, func⟩)
    | _ => none

/-- A function whose tests for default values lead its body behind a directive. Two of them are for one
    name, which two parameters have. -/
def leadingChecks : Program :=
  .ofTexts [("/a.js", "function f(a, b, a) \x7b 'use strict'; if (a === void 0) \x7b a = 1; \x7d " ++
    "if ((b) === undefined) b = a; if (a === void 0) a = 2; g(a); return b; \x7d")]

/-- Two default values are told, three statements are left out, and only the directive and other tests
    are in front of them. -/
theorem functionInfo?_leadingChecks :
    let w := World.ofProgram leadingChecks .modules
    ∃ node ∈ leadingChecks.functionNodes, ∃ info f body kept,
      w.functionInfo? node = some info ∧ w.functionAt? node = some f ∧ f.body? = some body ∧
      info.body = some kept ∧ body.length = 6 ∧ kept.length = 3 ∧
      info.params.map (fun p => (p.name, p.initializer.isSome)) =
        [(some "a", true), (some "b", true), (some "a", false)] ∧
      ∀ before s after, body = before ++ s :: after → s ∉ kept →
        ∀ t ∈ before, t.isDirective = true ∨ t ∉ kept := by
  have facts :
      let w := World.ofProgram leadingChecks .modules
      ∃ node ∈ leadingChecks.functionNodes,
        (w.functionAt? node).any (fun f => f.body?.any fun body =>
          f.checksLead body && body.length == 6) = true ∧
        (w.functionInfo? node).any (fun info => info.body.any (·.length == 3) &&
          info.params.map (fun p => (p.name, p.initializer.isSome)) ==
            [(some "a", true), (some "b", true), (some "a", false)]) = true := by
    rw [leadingChecks, Program.ofTexts_eq_ofBytes]
    decide +kernel
  obtain ⟨node, member, written, told⟩ := facts
  simp only [Option.any_eq_true, Bool.and_eq_true, beq_iff_eq] at written told
  obtain ⟨f, found, body, isBody, leads, length⟩ := written
  obtain ⟨info, isInfo, ⟨kept, isKept, left⟩, params⟩ := told
  obtain ⟨_, _, _, statements⟩ := (functionInfo?_leftOut _ node info isInfo).2 f found
  exact ⟨node, member, info, f, body, kept, isInfo, found, isBody, isKept, length, left, params,
    (statements body kept isBody isKept).2.2.1.1 leads⟩

/-- A function with a test for a default value behind a call. -/
def lateChecks : Program :=
  .ofTexts [("/a.js", "function f(a) \x7b g(a); if (a === void 0) \x7b a = 1; \x7d return a; \x7d")]

/-- The test is left out of the body, and the call in front of it is not. -/
theorem functionInfo?_lateChecks :
    let w := World.ofProgram lateChecks .modules
    ∃ node ∈ lateChecks.functionNodes, ∃ info f body kept,
      w.functionInfo? node = some info ∧ w.functionAt? node = some f ∧ f.body? = some body ∧
      info.body = some kept ∧
      ∃ before s after t, body = before ++ s :: after ∧ s ∉ kept ∧
        t ∈ before ∧ t.isDirective = false ∧ t ∈ kept := by
  have facts :
      let w := World.ofProgram lateChecks .modules
      ∃ node ∈ lateChecks.functionNodes,
        (w.functionAt? node).any (fun f => f.body?.any fun body => !f.checksLead body) = true := by
    rw [lateChecks, Program.ofTexts_eq_ofBytes]
    decide +kernel
  obtain ⟨node, member, written⟩ := facts
  simp only [Option.any_eq_true, Bool.not_eq_true'] at written
  obtain ⟨f, found, body, isBody, late⟩ := written
  obtain ⟨known, told⟩ := World.functionInfo?_of_functionAt? found
  obtain ⟨before, s, after, t, split, check, earlier, acts, other⟩ := FunctionLike.exists_late late
  refine ⟨node, member, _, f, body, _, told, found, isBody, by rw [f.info_body, isBody]; rfl,
    before, s, after, t, split, by simp [check], earlier, acts, ?_⟩
  simp [split, earlier, other]

end BundleLens
