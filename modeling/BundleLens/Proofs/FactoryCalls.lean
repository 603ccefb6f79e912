/-
Module: BundleLens.Proofs.FactoryCalls
Layer: Proofs
Purpose: Which calls a wrapper hands control to its factory by, and which module system each of them
  serves. A call is told by the way to it from the body of the wrapper. The tests that guard parts of
  this way decide for calls of the factory, the innermost one that asks for a module system first.
Imports: BundleLens.Proofs.Built
Main exports: Expr.Probes, Expr.ChecksFor, Code.parts, CallSite, Code.Reaches, Serves, wrapper?_calls
-/
import BundleLens.Proofs.Built
import Mathlib.Data.List.Forall2

namespace BundleLens

variable {factory : String}

/-! ### Tests -/

/-- A test probes a global: it asks for its type or for one of its members. -/
inductive Expr.Probes (name : String) : Expr → Prop where
  | paren {span : Span} {inner : Expr} (probed : inner.Probes name) : Probes name (.paren span inner)
  | typeOf {span : Span} {operand : Expr} (named : operand.isNamed name = true) :
      Probes name (.unary span .typeOf operand)
  | member {span : Span} {owner : Expr} {key : Key} (named : owner.isNamed name = true) :
      Probes name (.member span false owner key)
  | left {span : Span} {op : BinaryOp} {left right : Expr} (probed : left.Probes name) :
      Probes name (.binary span op left right)
  | right {span : Span} {op : BinaryOp} {left right : Expr} (probed : right.Probes name) :
      Probes name (.binary span op left right)

/-- A test checks for a module system by the globals it probes. One that probes globals of both checks
    for CommonJS. -/
def Expr.ChecksFor (test : Expr) : Branch → Prop
  | .commonJs => test.Probes "exports" ∨ test.Probes "module"
  | .amd => ¬ (test.Probes "exports" ∨ test.Probes "module") ∧ test.Probes "define"
  | .global => False

theorem Expr.isNamed_of_ident {e : Expr} {id : Ident} (bare : e.bare = .ident id) (name : String) :
    e.isNamed name = true ↔ name ∈ [id.name] := by
  rw [List.mem_singleton, @eq_comm _ name]
  simp [isNamed, ident?, bare]

theorem Expr.isNamed_of_noIdent {e : Expr} (noIdent : ∀ id, e.bare = .ident id → False) (name : String) :
    e.isNamed name = true ↔ name ∈ ([] : List String) := by
  unfold isNamed ident?
  split
  · next id found =>
      split at found
      · next other bare => exact (noIdent other bare).elim
      · cases found
  · simp

/-- A test probes just the globals that are read off it. -/
theorem Expr.probes_iff_mem_testedGlobals (name : String) (e : Expr) :
    e.Probes name ↔ name ∈ testedGlobals e := by
  fun_induction testedGlobals e with
  | case1 span inner ih =>
      rw [← ih]
      exact ⟨fun | .paren probed => probed, .paren⟩
  | case2 span operand id bare =>
      rw [← isNamed_of_ident bare]
      exact ⟨fun | .typeOf named => named, .typeOf⟩
  | case3 span operand noIdent =>
      rw [← isNamed_of_noIdent noIdent]
      exact ⟨fun | .typeOf named => named, .typeOf⟩
  | case4 span op left right ihLeft ihRight =>
      rw [List.mem_append, ← ihLeft, ← ihRight]
      refine ⟨fun | .left probed => .inl probed | .right probed => .inr probed, ?_⟩
      rintro (probed | probed)
      · exact .left probed
      · exact .right probed
  | case5 span owner key id bare =>
      rw [← isNamed_of_ident bare]
      exact ⟨fun | .member named => named, .member⟩
  | case6 span owner key noIdent =>
      rw [← isNamed_of_noIdent noIdent]
      exact ⟨fun | .member named => named, .member⟩
  | case7 e noParen noTypeOf noBinary noMember =>
      refine ⟨fun probed => ?_, fun member => nomatch member⟩
      cases probed with
      | paren => exact (noParen _ _ rfl).elim
      | typeOf => exact (noTypeOf _ _ rfl).elim
      | member => exact (noMember _ _ _ rfl).elim
      | left => exact (noBinary _ _ _ _ rfl).elim
      | right => exact (noBinary _ _ _ _ rfl).elim

theorem Expr.checksFor_iff (test : Expr) (branch : Branch) :
    test.ChecksFor branch ↔ testBranch? test = some branch := by
  unfold testBranch?
  cases branch <;>
    simp only [ChecksFor, probes_iff_mem_testedGlobals, Bool.or_eq_true, List.contains_iff_mem] <;>
    split <;> simp_all

/-- Which module system tests leave a factory call to, innermost test first: the first test that checks
    for one decides; without such a test it is the global one. -/
inductive Serves : List Expr → Branch → Prop where
  | untested : Serves [] .global
  | checked {test : Expr} {outer : List Expr} {branch : Branch} (checks : test.ChecksFor branch) :
      Serves (test :: outer) branch
  | unchecked {test : Expr} {outer : List Expr} {branch : Branch}
      (checksNone : ∀ other, ¬ test.ChecksFor other) (outside : Serves outer branch) :
      Serves (test :: outer) branch

theorem serves_iff (tests : List Expr) (branch : Branch) :
    Serves tests branch ↔ (tests.findSome? testBranch?).getD .global = branch := by
  induction tests with
  | nil => exact ⟨fun | .untested => rfl, fun | rfl => .untested⟩
  | cons test outer ih =>
      cases checked : testBranch? test with
      | none =>
          have checksNone : ∀ other, ¬ test.ChecksFor other := fun other checks => by
            cases checked.symm.trans ((test.checksFor_iff other).mp checks)
          rw [List.findSome?_cons, checked, ← ih]
          exact ⟨fun | .checked checks => (checksNone _ checks).elim | .unchecked _ outside => outside,
            .unchecked checksNone⟩
      | some found =>
          have checks : test.ChecksFor found := (test.checksFor_iff found).mpr checked
          rw [List.findSome?_cons, checked]
          refine ⟨?_, fun | rfl => .checked checks⟩
          rintro (_ | checks' | ⟨checksNone, _⟩)
          · exact Option.some.inj (checked.symm.trans ((test.checksFor_iff branch).mp checks'))
          · exact (checksNone found checks).elim

/-! ### The way to a call -/

/-- Whether a call is one of the factory. -/
def Call.callsFactory (call : Call) (factory : String) : Bool :=
  call.function?.any (·.isNamed factory)

/-- Whether a call is one of `define` with the factory among its arguments. -/
def Call.definesFactory (call : Call) (factory : String) : Bool :=
  call.function?.any (·.isNamed "define") && call.args.any (Element.isFactory factory)

/-- Whether a call hands control to the factory. -/
def Call.handsOver (call : Call) (factory : String) : Bool :=
  call.callsFactory factory || call.definesFactory factory

/-- What calls are looked for in. -/
inductive Code where
  | expr (e : Expr)
  | stmt (s : Stmt)
  | stmts (body : List Stmt)

/-- A part of some code. A guarded part runs only if its test holds. -/
structure CodePart where
  guard : Option Expr
  code : Code

/-- The parts of some code that calls are looked for in, in the order of the text. A call that hands
    over has none; nor has one of `super` or `import`. The else-part of a test is not guarded by it. -/
def Code.parts (factory : String) : Code → List CodePart
  | .expr (.paren _ inner) => [⟨none, .expr inner⟩]
  | .expr (.conditional _ test consequent alternate) =>
    [⟨some test, .expr consequent⟩, ⟨none, .expr alternate⟩]
  | .expr (.binary _ .and left right) => [⟨none, .expr left⟩, ⟨some left, .expr right⟩]
  | .expr (.binary _ .or left right) => [⟨none, .expr left⟩, ⟨none, .expr right⟩]
  | .expr (.sequence _ parts) => parts.map fun e => ⟨none, .expr e⟩
  | .expr (.assign _ _ _ value) => [⟨none, .expr value⟩]
  | .expr (.call span .plain callee args) =>
    let call : Call := ⟨span, callee, args⟩
    if call.function?.isSome && !call.handsOver factory then
      (args.filterMap Element.expr?).map fun e => ⟨none, .expr e⟩
    else []
  | .stmt (.expr _ e) => [⟨none, .expr e⟩]
  | .stmt (.ret _ (some e)) => [⟨none, .expr e⟩]
  | .stmt (.block _ body) => [⟨none, .stmts body⟩]
  | .stmt (.ifElse _ test consequent none) => [⟨some test, .stmt consequent⟩]
  | .stmt (.ifElse _ test consequent (some alternate)) =>
    [⟨some test, .stmt consequent⟩, ⟨none, .stmt alternate⟩]
  | .stmt (.vars _ _ ds) => (ds.filterMap (·.init)).map fun e => ⟨none, .expr e⟩
  | .stmts body => body.map fun s => ⟨none, .stmt s⟩
  | _ => []

/-- The call that some code is. -/
def Code.call? : Code → Option Call
  | .expr (.call span .plain callee args) => some ⟨span, callee, args⟩
  | _ => none

/-- A call with the way to it: the numbers of the parts it is in, outermost first, and the tests that
    guard them, innermost first. -/
structure CallSite where
  path : List Nat
  tests : List Expr
  call : Call

/-- A site seen from the code of which it is in the part with the given number. -/
def CallSite.within (site : CallSite) (number : Nat) (guard : Option Expr) : CallSite :=
  ⟨number :: site.path, site.tests ++ guard.toList, site.call⟩

/-- A site is reached from some code. -/
inductive Code.Reaches (factory : String) : Code → CallSite → Prop where
  | here {code : Code} {call : Call} (isCall : code.call? = some call) :
      Reaches factory code ⟨[], [], call⟩
  | inside {code : Code} {part : CodePart} {site : CallSite} (number : Nat)
      (isPart : (code.parts factory)[number]? = some part) (reached : part.code.Reaches factory site) :
      Reaches factory code (site.within number part.guard)

/-- The factory call of a site, in code that belongs to the given branch. -/
def CallSite.told (factory : String) (branch : Branch) (site : CallSite) : FactoryCall :=
  ⟨if site.call.callsFactory factory then (site.tests.findSome? testBranch?).getD branch else .amd,
    site.call⟩

theorem CallSite.told_within (branch : Branch) (site : CallSite) (number : Nat) (guard : Option Expr) :
    (site.within number guard).told factory branch =
      site.told factory ((guard.bind testBranch?).getD branch) := by
  have tests : (site.tests ++ guard.toList).findSome? testBranch? =
      (site.tests.findSome? testBranch?).or (guard.bind testBranch?) := by
    cases guard <;> simp [List.findSome?_append]
  simp only [told, within, tests]
  cases site.tests.findSome? testBranch? <;> rfl

/-! ### Calls as they are collected -/

/-- Calls, collected for each branch the code may belong to, are those of the sites that are reached
    from the code and hand over, in the order of the ways to them. -/
def Code.Collects (factory : String) (code : Code) (calls : Branch → List FactoryCall) : Prop :=
  ∃ sites : List CallSite, sites.Pairwise (·.path < ·.path) ∧
    (∀ site, site ∈ sites ↔ code.Reaches factory site ∧ site.call.handsOver factory = true) ∧
    ∀ branch, calls branch = sites.map (·.told factory branch)

/-- The same for some parts, numbered from the given number on. -/
def CollectsFrom (factory : String) (number : Nat) (parts : List CodePart)
    (calls : Branch → List FactoryCall) : Prop :=
  ∃ sites : List CallSite, sites.Pairwise (·.path < ·.path) ∧
    (∀ site, site ∈ sites ↔ ∃ (i : Nat) (part : CodePart) (inner : CallSite), parts[i]? = some part ∧
      part.code.Reaches factory inner ∧ inner.call.handsOver factory = true ∧
      site = inner.within (number + i) part.guard) ∧
    ∀ branch, calls branch = sites.map (·.told factory branch)

theorem CollectsFrom.nil (number : Nat) : CollectsFrom factory number [] fun _ => [] :=
  ⟨[], .nil, fun site => by simp, fun _ => rfl⟩

theorem Code.Collects.cons {number : Nat} {code : Code} {rest : List CodePart}
    {first others : Branch → List FactoryCall} (head : code.Collects factory first) (guard : Option Expr)
    (tail : CollectsFrom factory (number + 1) rest others) :
    CollectsFrom factory number (⟨guard, code⟩ :: rest) fun branch =>
      first ((guard.bind testBranch?).getD branch) ++ others branch := by
  obtain ⟨inside, sortedInside, insideIff, toldInside⟩ := head
  obtain ⟨later, sortedLater, laterIff, toldLater⟩ := tail
  refine ⟨inside.map (·.within number guard) ++ later, ?_, fun site => ?_, fun branch => ?_⟩
  · refine List.pairwise_append.mpr ⟨?_, sortedLater, ?_⟩
    · exact List.pairwise_map.mpr
        (sortedInside.imp fun before => List.cons_lt_cons_iff.mpr (.inr ⟨rfl, before⟩))
    · intro a memberA b memberB
      obtain ⟨inner, -, rfl⟩ := List.mem_map.mp memberA
      obtain ⟨i, other, innerB, -, -, -, rfl⟩ := (laterIff b).mp memberB
      exact List.cons_lt_cons_iff.mpr (.inl (by omega))
  · rw [List.mem_append, List.mem_map, laterIff]
    constructor
    · rintro (⟨inner, member, rfl⟩ | ⟨i, other, inner, isPart, reached, hands, rfl⟩)
      · obtain ⟨reached, hands⟩ := (insideIff inner).mp member
        exact ⟨0, ⟨guard, code⟩, inner, rfl, reached, hands, rfl⟩
      · exact ⟨i + 1, other, inner, isPart, reached, hands, by rw [Nat.add_assoc, Nat.add_comm 1]⟩
    · rintro ⟨i, other, inner, isPart, reached, hands, rfl⟩
      cases i with
      | zero =>
          cases isPart
          exact .inl ⟨inner, (insideIff inner).mpr ⟨reached, hands⟩, rfl⟩
      | succ i => exact .inr ⟨i, other, inner, isPart, reached, hands, by rw [Nat.add_assoc, Nat.add_comm 1]⟩
  · simp only [toldInside, toldLater, List.map_append, List.map_map, Function.comp_def,
      CallSite.told_within]

/-- Code that does not hand over itself collects what its parts collect. -/
theorem CollectsFrom.code {code : Code} {calls : Branch → List FactoryCall}
    (collects : CollectsFrom factory 0 (code.parts factory) calls)
    (handsNot : ∀ call, code.call? = some call → call.handsOver factory = false) :
    code.Collects factory calls := by
  obtain ⟨sites, sorted, sitesIff, told⟩ := collects
  refine ⟨sites, sorted, fun site => ?_, told⟩
  rw [sitesIff]
  constructor
  · rintro ⟨i, part, inner, isPart, reached, hands, rfl⟩
    rw [Nat.zero_add]
    exact ⟨.inside i isPart reached, hands⟩
  · rintro ⟨reached, hands⟩
    cases reached with
    | here isCall => exact (Bool.false_ne_true ((handsNot _ isCall).symm.trans hands)).elim
    | inside i isPart reached => exact ⟨i, _, _, isPart, reached, hands, by rw [Nat.zero_add]⟩

theorem CollectsFrom.code_of_noCall {code : Code} {calls : Branch → List FactoryCall}
    (collects : CollectsFrom factory 0 (code.parts factory) calls) (noCall : code.call? = none) :
    code.Collects factory calls :=
  collects.code fun _ isCall => nomatch noCall.symm.trans isCall

/-- Code without parts that is no call collects nothing. -/
theorem Code.Collects.nothing {code : Code} (parts : code.parts factory = []) (noCall : code.call? = none) :
    code.Collects factory fun _ => [] :=
  CollectsFrom.code_of_noCall (parts ▸ .nil 0) noCall

/-- Code of one part collects what the part does, in the branch that its guard checks for. -/
theorem Code.Collects.around {code inner : Code} {calls : Branch → List FactoryCall}
    (collects : inner.Collects factory calls) (guard : Option Expr)
    (parts : code.parts factory = [⟨guard, inner⟩]) (noCall : code.call? = none) :
    code.Collects factory fun branch => calls ((guard.bind testBranch?).getD branch) := by
  have only := collects.cons guard (.nil 1)
  simp only [List.append_nil] at only
  exact CollectsFrom.code_of_noCall (parts ▸ only) noCall

/-- Code of two parts collects what the first does and then what the second does. -/
theorem Code.Collects.both {code first second : Code} {before behind : Branch → List FactoryCall}
    (collectsFirst : first.Collects factory before) (guardFirst guardSecond : Option Expr)
    (collectsSecond : second.Collects factory behind)
    (parts : code.parts factory = [⟨guardFirst, first⟩, ⟨guardSecond, second⟩])
    (noCall : code.call? = none) :
    code.Collects factory fun branch => before ((guardFirst.bind testBranch?).getD branch) ++
      behind ((guardSecond.bind testBranch?).getD branch) := by
  have pair := collectsFirst.cons guardFirst (collectsSecond.cons guardSecond (.nil 2))
  simp only [List.append_nil] at pair
  exact CollectsFrom.code_of_noCall (parts ▸ pair) noCall

/-- A call that hands over collects itself. -/
theorem Code.Collects.itself {code : Code} {call : Call} (isCall : code.call? = some call)
    (hands : call.handsOver factory = true) (parts : code.parts factory = []) :
    code.Collects factory fun branch => [CallSite.told factory branch ⟨[], [], call⟩] := by
  refine ⟨[⟨[], [], call⟩], List.pairwise_singleton _ _, fun site => ?_, fun _ => rfl⟩
  rw [List.mem_singleton]
  constructor
  · rintro rfl
    exact ⟨.here isCall, hands⟩
  · rintro ⟨reached, -⟩
    cases reached with
    | here found => rw [Option.some.inj (isCall.symm.trans found)]
    | inside i isPart => rw [parts] at isPart; cases isPart

theorem factoryCall?_eq (branch : Branch) (call : Call) :
    factoryCall? factory branch call =
      if call.handsOver factory then some (CallSite.told factory branch ⟨[], [], call⟩) else none := by
  unfold factoryCall? Call.handsOver CallSite.told Call.callsFactory Call.definesFactory
  cases call.function? with
  | none => rfl
  | some callee => cases named : callee.isNamed factory <;> simp [named]

mutual

theorem exprCalls_collects : ∀ e : Expr, (Code.expr e).Collects factory (exprCalls factory · e)
  | .paren _ inner => (exprCalls_collects inner).around none rfl rfl
  | .conditional _ test consequent alternate =>
    (exprCalls_collects consequent).both (some test) none
      (exprCalls_collects alternate) rfl rfl
  | .binary _ op left right => by
    have before := exprCalls_collects left
    have behind := exprCalls_collects right
    cases op with
    | and => exact before.both none (some left) behind rfl rfl
    | or => exact before.both none none behind rfl rfl
    | _ => exact .nothing rfl rfl
  | .sequence _ parts =>
    CollectsFrom.code_of_noCall (partCalls_collects parts 0) rfl
  | .assign _ _ _ value => (exprCalls_collects value).around none rfl rfl
  | .call span .plain callee args => by
    cases hands : Call.handsOver ⟨span, callee, args⟩ factory with
    | true =>
        have parts : (Code.expr (.call span .plain callee args)).parts factory = [] := by
          simp [Code.parts, hands]
        simp only [exprCalls, factoryCall?_eq, hands, if_true]
        exact .itself rfl hands parts
    | false =>
        have handsNot : ∀ call, (Code.expr (.call span .plain callee args)).call? = some call →
            call.handsOver factory = false := by
          rintro _ ⟨⟩
          exact hands
        have collects := argCalls_collects args 0
        simp only [exprCalls, factoryCall?_eq, hands]
        cases called : (Call.mk span callee args).function? with
        | none => exact CollectsFrom.code (by simpa [Code.parts, called] using CollectsFrom.nil 0) handsNot
        | some e => exact CollectsFrom.code (by simpa [Code.parts, called, hands] using collects) handsNot
  | .call _ .optional _ _ | .call _ .construct _ _ | .ident _ | .string _ _ | .number _ _ | .atom _ _
  | .array _ _ | .object _ _ | .function _ _ | .arrow _ _ _ _ | .classExpr _ _ | .unary _ _ _
  | .member _ _ _ _ | .superMember _ _ | .template _ _ _ | .yield _ _ => .nothing rfl rfl

theorem partCalls_collects : ∀ (parts : List Expr) (number : Nat),
    CollectsFrom factory number (parts.map fun e => ⟨none, .expr e⟩) (partCalls factory · parts)
  | [], number => .nil number
  | e :: rest, number =>
    (exprCalls_collects e).cons none (partCalls_collects rest (number + 1))

theorem argCalls_collects : ∀ (args : List Element) (number : Nat),
    CollectsFrom factory number ((args.filterMap Element.expr?).map fun e => ⟨none, .expr e⟩)
      (argCalls factory · args)
  | [], number => .nil number
  | .hole :: rest, number => argCalls_collects rest number
  | .item e :: rest, number =>
    (exprCalls_collects e).cons none (argCalls_collects rest (number + 1))
  | .spread e :: rest, number =>
    (exprCalls_collects e).cons none (argCalls_collects rest (number + 1))

end

theorem declaratorCalls_collects (ds : List Declarator) (number : Nat) :
    CollectsFrom factory number ((ds.filterMap (·.init)).map fun e => ⟨none, .expr e⟩)
      (declaratorCalls factory · ds) := by
  induction ds generalizing number with
  | nil => exact .nil number
  | cons d rest ih =>
      obtain ⟨span, pat, init⟩ := d
      cases init with
      | none => exact ih number
      | some e => exact (exprCalls_collects e).cons none (ih (number + 1))

mutual

theorem stmtCalls_collects : ∀ s : Stmt, (Code.stmt s).Collects factory (stmtCalls factory · s)
  | .expr _ e => (exprCalls_collects e).around none rfl rfl
  | .ret _ (some e) => (exprCalls_collects e).around none rfl rfl
  | .block _ body => (stmtsCalls_collects body).around none rfl rfl
  | .ifElse _ test consequent none => by
    simp only [stmtCalls, optStmtCalls, List.append_nil]
    exact (stmtCalls_collects consequent).around (some test) rfl rfl
  | .ifElse _ test consequent (some alternate) =>
    (stmtCalls_collects consequent).both (some test) none
      (stmtCalls_collects alternate) rfl rfl
  | .vars _ _ ds => CollectsFrom.code_of_noCall (declaratorCalls_collects ds 0) rfl
  | .ret _ none | .simple _ | .throw _ _ | .labeled _ _ | .switch _ _ _ | .clause _ _ _ | .tryCatch _ _ _ _
  | .handler _ _ _ | .whileLoop _ _ _ | .doWhile _ _ _ | .forLoop _ _ _ _ _ | .forIn _ _ _ _
  | .forOf _ _ _ _ | .target _ | .withObject _ _ _ | .function _ _ | .classDecl _ _
  | .typeDecl _ _ _ => .nothing rfl rfl

theorem stmtsCalls_collects (body : List Stmt) :
    (Code.stmts body).Collects factory (stmtsCalls factory · body) :=
  CollectsFrom.code_of_noCall (stmtsCalls_collectsFrom body 0) rfl

theorem stmtsCalls_collectsFrom : ∀ (body : List Stmt) (number : Nat),
    CollectsFrom factory number (body.map fun s => ⟨none, .stmt s⟩) (stmtsCalls factory · body)
  | [], number => .nil number
  | s :: rest, number =>
    (stmtCalls_collects s).cons none (stmtsCalls_collectsFrom rest (number + 1))

end

/-! ### Wrappers -/

/-- The name that the factory has in a wrapper: that of the parameter at its position. -/
def Wrapper.factoryName? (w : Wrapper) : Option String := do
  let (index, _) ← factoryArg? (← w.call.plainArgs?)
  let param ← (← w.func.params[index]?).pat.ident?
  some param.name

/-- A factory call is what a site asks for: a call of the factory serves the module system that its
    tests leave it to, any other call that hands over serves AMD. -/
structure FactoryCall.Answers (factory : String) (site : CallSite) (found : FactoryCall) : Prop where
  call : found.call = site.call
  ofFactory : site.call.callsFactory factory = true → Serves site.tests found.branch
  ofDefine : site.call.callsFactory factory = false → found.branch = .amd

theorem CallSite.told_answers (site : CallSite) : (site.told factory .global).Answers factory site where
  call := rfl
  ofFactory calls := by
    rw [serves_iff, told, if_pos calls]
  ofDefine callsNot := by
    rw [told, if_neg (by simp [callsNot])]

/-- The factory calls of a wrapper are those in its body that hand over to the factory and are reached
    through statements, branches, operands and arguments of calls that do not hand over themselves; they
    are listed in the order of the text. A call of the factory serves the module system that the
    innermost test around it checks for, and the global one if none does; a call of `define` serves
    AMD. -/
theorem wrapper?_calls {s : Stmt} {w : Wrapper} (isWrapper : s.wrapper? = some w) :
    s.expr?.bind Expr.iife? = some ⟨w.call, w.func⟩ ∧
      ∃ factory body, w.factoryName? = some factory ∧ w.func.body = some body ∧
        ∃ sites : List CallSite, sites.Pairwise (·.path < ·.path) ∧
          (∀ site, site ∈ sites ↔
            (Code.stmts body).Reaches factory site ∧ site.call.handsOver factory = true) ∧
          List.Forall₂ (FactoryCall.Answers factory) sites w.calls := by
  obtain ⟨e, shown, found⟩ := Option.bind_eq_some_iff.mp isWrapper
  obtain ⟨iife, isIife, found⟩ := Option.bind_eq_some_iff.mp found
  obtain ⟨args, plain, found⟩ := Option.bind_eq_some_iff.mp found
  obtain ⟨⟨index, func⟩, passed, found⟩ := Option.bind_eq_some_iff.mp found
  obtain ⟨param, there, found⟩ := Option.bind_eq_some_iff.mp found
  obtain ⟨id, named, found⟩ := Option.bind_eq_some_iff.mp found
  obtain ⟨body, isBody, found⟩ := Option.bind_eq_some_iff.mp found
  have collects : (Code.stmts body).Collects id.name (stmtsCalls id.name · body) := stmtsCalls_collects body
  obtain ⟨sites, sorted, reached, told⟩ := collects
  simp only [Option.ite_none_left_eq_some, Option.some.injEq] at found
  obtain ⟨-, rfl⟩ := found
  refine ⟨by rw [shown]; exact isIife, id.name, body, ?_, isBody, sites, sorted, reached, ?_⟩
  · simp [Wrapper.factoryName?, plain, passed, there, named]
  · have calls : stmtsCalls id.name .global body = sites.map (·.told id.name .global) := told .global
    change List.Forall₂ _ sites (stmtsCalls id.name .global body)
    rw [calls, List.forall₂_map_right_iff, List.forall₂_same]
    exact fun site _ => site.told_answers

/-- A wrapper with tests in tests, an else-part, and a call among the arguments of another. -/
def nestedTests : Program :=
  .ofTexts [("/a.js", "(function (f) \x7b if (typeof exports) \x7b typeof define && g(f(1)); " ++
    "var x = typeof other ? f(2) : f(3); \x7d else typeof define && (f(4), define([], f)); \x7d" ++
    "(function () \x7b \x7d));")]

theorem wrapper?_calls_nestedTests :
    ∃ s w, nestedTests.files.flatMap SourceFile.statements = [s] ∧ s.wrapper? = some w ∧
      w.calls.map (·.branch) = [.amd, .commonJs, .commonJs, .amd, .amd] ∧
      ∃ factory body, w.factoryName? = some factory ∧ w.func.body = some body ∧
        ∃ sites : List CallSite, sites.Pairwise (·.path < ·.path) ∧
          (∀ site, site ∈ sites ↔
            (Code.stmts body).Reaches factory site ∧ site.call.handsOver factory = true) ∧
          List.Forall₂ (FactoryCall.Answers factory) sites w.calls := by
  have facts : (nestedTests.files.flatMap SourceFile.statements).map
      (fun s => s.wrapper?.map fun w => w.calls.map (·.branch)) =
        [some [.amd, .commonJs, .commonJs, .amd, .amd]] := by
    rw [nestedTests, Program.ofTexts_eq_ofBytes]
    decide +kernel
  obtain ⟨s, only, found⟩ := List.map_eq_singleton_iff.mp facts
  obtain ⟨w, isWrapper, branches⟩ := Option.map_eq_some_iff.mp found
  exact ⟨s, w, only, isWrapper, branches, (wrapper?_calls isWrapper).2⟩

/-- A wrapper whose factory has the name of the function that other wrappers define modules with. -/
def definingFactory : Program :=
  .ofTexts [("/a.js", "(function (define) \x7b define(define); \x7d)(function () \x7b \x7d);")]

/-- Its call hands the factory to `define`, but it is a call of the factory, so it serves no AMD. -/
theorem wrapper?_calls_definingFactory :
    let wrappers := definingFactory.files.flatMap fun file => file.statements.filterMap Stmt.wrapper?
    wrappers.map (·.factoryName?) = [some "define"] ∧
      wrappers.map (fun w => w.calls.map fun found => (found.branch, found.call.definesFactory "define")) =
        [[(.global, true)]] := by
  rw [definingFactory, Program.ofTexts_eq_ofBytes]
  decide +kernel

end BundleLens
