/-
Module: BundleLens.Proofs.SynthesizedConstructors
Layer: Proofs
Purpose: Classes whose constructor only hands its arguments on have a base class. Such a constructor is
  told by its body alone: a call of `apply` of some name, or of `super`. Whether the class has a base
  class is told by what is around the body. The two agree wherever the class is given what its
  constructor calls.
Imports: BundleLens.Proofs.Built, BundleLens.Reflection.ClassSymbol
Main exports: superName?, callsSuper, ClassShape.handsOn, ClassShape.isGivenBase,
  hasBase_of_synthesized
-/
import BundleLens.Proofs.Built
import BundleLens.Reflection.ClassSymbol

namespace BundleLens

/-! ### What a constructor calls -/

/-- The name in `base.apply(...)`. -/
def Expr.applyName? (e : Expr) : Option String := do
  let callee ← (← (← e.call?).function?).member?
  return (← callee.object.ident?).name

/-- The name of the base constructor in `_super.apply(this, ARGS) || this`, maybe behind a test. -/
def Expr.superName? (e : Expr) : Option String :=
  match e.bare with
  | .binary _ .or left _ =>
    match left.bare with
    | .binary _ .and _ apply => apply.applyName?
    | other => other.applyName?
  | _ => none

/-- The name of the base constructor that a constructor body calls first. -/
def superName? : List Stmt → Option String
  | .ret _ value :: _ => do (← value).superName?
  | .vars _ _ [d] :: _ => do (← d.init).superName?
  | _ => none

/-- Whether a constructor body starts with a call of `super`. -/
def callsSuper (body : List Stmt) : Bool :=
  match (body.head?.bind Stmt.expr?).bind Expr.call? with
  | some call =>
    match call.callee with
    | .atom _ .superclass => true
    | _ => false
  | none => false

section Names

variable {e args : Expr} {body : List Stmt}

theorem Expr.isSome_applyName? (applied : e.applyArguments? = some args) : e.applyName?.isSome = true := by
  simp only [Expr.applyArguments?, bind, Option.bind_eq_some_iff] at applied
  obtain ⟨call, isCall, callee, isFunction, m, isMember, applied⟩ := applied
  split at applied
  · rename_i isApply
    obtain ⟨id, named⟩ := Option.isSome_iff_exists.1 (Bool.and_eq_true_iff.1 isApply).2
    simp [Expr.applyName?, isCall, isFunction, isMember, named]
  · cases applied

/-- A call of a base constructor that hands arguments on names the constructor. -/
theorem Expr.isSome_superName? (handed : e.superArguments? = some args) : e.superName?.isSome = true := by
  unfold Expr.superArguments? at handed
  unfold Expr.superName?
  cases outer : e.bare with
  | binary span op left right =>
      cases op with
      | or =>
          simp only [outer] at handed ⊢
          obtain ⟨returns, handed⟩ := Option.ite_none_right_eq_some.1 handed
          cases inner : left.bare with
          | binary span op test apply =>
              cases op with
              | and =>
                  simp only [inner] at handed ⊢
                  exact Expr.isSome_applyName? (Option.ite_none_right_eq_some.1 handed).2
              | _ =>
                  simp only [inner] at handed ⊢
                  exact Expr.isSome_applyName? handed
          | _ =>
              simp only [inner] at handed ⊢
              exact Expr.isSome_applyName? handed
      | _ => simp [outer] at handed
  | _ => simp [outer] at handed

/-- A body that hands its arguments on to a base constructor names it. -/
theorem isSome_superName? (handed : synthesizedSuper? body = some args) :
    (superName? body).isSome = true := by
  unfold synthesizedSuper? at handed
  split at handed
  · rename_i span value rest
    obtain ⟨e, isValue, handed⟩ := Option.bind_eq_some_iff.1 handed
    simpa [superName?, isValue] using Expr.isSome_superName? handed
  · rename_i span kind d rest
    simp only [bind, Option.bind_eq_some_iff] at handed
    obtain ⟨name, _, e, isValue, args, handed, _⟩ := handed
    simpa [superName?, isValue] using Expr.isSome_superName? handed
  · cases handed

theorem callsSuper_of_isNativeSuperSpread (spreads : isNativeSuperSpread body = true) :
    callsSuper body = true := by
  unfold isNativeSuperSpread at spreads
  unfold callsSuper
  cases isCall : (body.head?.bind Stmt.expr?).bind Expr.call? with
  | some call =>
      simp only [isCall] at spreads ⊢
      split at spreads
      · rename_i same _
        simp [same]
      · cases spreads
  | none => simp [isCall] at spreads

end Names

/-! ### Constructors that hand their arguments on -/

/-- Whether the constructor of a class has no parameters and starts by handing something on to a base
    constructor. -/
def ClassShape.handsOn (shape : ClassShape) : Bool :=
  match shape.form with
  | .function inner _ =>
    inner.func.params.isEmpty && (synthesizedSuper? (inner.func.body.getD [])).isSome
  | .native cls _ => cls.ctor?.any fun (params, body) => params.isEmpty && body.any isNativeSuperSpread

section HandingOn

variable {w : World} {shape : ClassShape} {memory : Memory}

/-- A computation that goes on answers what its second part answers. -/
theorem reflect_run_bind {α β : Type} (c : Reflect α) (rest : α → Reflect β) (m : Memory) :
    (c >>= rest).run m = (rest (c.run m).1).run (c.run m).2 := rfl

theorem World.synthesizedSuper?_of_forwardsArguments {body : List Stmt}
    (forwards : ((w.forwardsArguments body).run memory).1 = true) :
    (synthesizedSuper? body).isSome = true := by
  unfold World.forwardsArguments at forwards
  split at forwards
  · rename_i args handed
    rw [handed]
    rfl
  · cases forwards

/-- A constructor counts as written by a compiler only if it hands something on. -/
theorem World.handsOn_of_constructorPats (unwritten : ((w.constructorPats shape).run memory).1 = none) :
    shape.handsOn = true := by
  unfold World.constructorPats at unwritten
  cases form : shape.form with
  | function inner iife =>
      simp only [form] at unwritten
      split at unwritten
      · rename_i isEmpty
        have forwards : ((w.forwardsArguments (inner.func.body.getD [])).run memory).1 = true := by
          cases other : ((w.forwardsArguments (inner.func.body.getD [])).run memory).1 with
          | true => rfl
          | false =>
              rw [reflect_run_bind, other] at unwritten
              cases unwritten
        simp [ClassShape.handsOn, form, isEmpty, synthesizedSuper?_of_forwardsArguments forwards]
      · cases unwritten
  | native cls expr =>
      simp only [form] at unwritten
      split at unwritten
      · rename_i params body found
        split at unwritten
        · rename_i spreads
          simp only [ClassShape.handsOn, form, found, Option.any_some]
          cases body with
          | none => simp at spreads
          | some body => simpa using spreads
        · cases unwritten
      · cases unwritten

/-- The parameters of a constructor are missing only if none are written for it. -/
theorem World.constructorPats_of_constructorParams
    (unwritten : ((w.constructorParams shape).run memory).1 = none) :
    ((w.constructorPats shape).run memory).1 = none := by
  cases pats : ((w.constructorPats shape).run memory).1 with
  | none => rfl
  | some written =>
      unfold World.constructorParams at unwritten
      rw [reflect_run_bind, pats] at unwritten
      simp only at unwritten
      split at unwritten <;> cases unwritten

end HandingOn

/-! ### Classes that are given what they call -/

/-- Whether an immediate call gives the function a value under a name. -/
def Iife.gives (iife : Iife) (name : String) : Bool :=
  (iife.func.params.zip iife.call.args).any fun (param, arg) =>
    param.pat.ident?.map (·.name) == some name && arg.expr?.isSome

/-- Whether a class is given the base class that its constructor calls. The function around a class
    takes nothing but the base class, under the name that the constructor calls; class syntax with a
    call of `super` names a base class. -/
def ClassShape.isGivenBase (shape : ClassShape) : Bool :=
  match shape.form with
  | .function inner iife =>
    (superName? (inner.func.body.getD [])).all fun name => iife.func.params.length ≤ 1 && iife.gives name
  | .native cls _ => cls.ctor?.all fun (_, body) => !body.any callsSuper || cls.base.isSome

/-- A class that hands on to a base constructor, and is given it, has a base class. -/
theorem ClassShape.isSome_base? {shape : ClassShape} (hands : shape.handsOn = true)
    (given : shape.isGivenBase = true) : shape.base?.isSome = true := by
  unfold ClassShape.handsOn at hands
  unfold ClassShape.isGivenBase at given
  cases form : shape.form with
  | function inner iife =>
      simp only [form, Bool.and_eq_true] at hands given
      obtain ⟨args, handed⟩ := Option.isSome_iff_exists.1 hands.2
      obtain ⟨name, named⟩ := Option.isSome_iff_exists.1 (isSome_superName? handed)
      rw [named, Option.all_some, Bool.and_eq_true, decide_eq_true_iff] at given
      obtain ⟨alone, gives⟩ := given
      obtain ⟨⟨param, arg⟩, listed, isValue⟩ := List.any_eq_true.1 gives
      have value := (Bool.and_eq_true_iff.1 isValue).2
      -- There is one parameter and an argument for it, so the argument is the first one.
      match params : iife.func.params, args : iife.call.args with
      | [], _ => simp [params] at listed
      | _ :: _, [] => simp [args] at listed
      | [own], first :: others =>
          simp only [params, args, List.zip_cons_cons, List.zip_nil_left, List.mem_singleton,
            Prod.mk.injEq] at listed
          obtain ⟨e, isExpr⟩ := Option.isSome_iff_exists.1 (listed.2 ▸ value)
          simp [ClassShape.base?, form, params, args, isExpr]
      | _ :: _ :: _, _ :: _ => simp [params] at alone
  | native cls expr =>
      simp only [form] at hands given
      cases found : cls.ctor? with
      | none => simp [found] at hands
      | some ctor =>
          obtain ⟨params, body⟩ := ctor
          simp only [found, Option.any_some, Option.all_some, Bool.and_eq_true] at hands given
          cases body with
          | none => simp at hands
          | some body =>
              have calls : callsSuper body = true := callsSuper_of_isNativeSuperSpread hands.2
              simpa [ClassShape.base?, form, calls] using given

/-- A class whose constructor counts as written by a compiler, because it only hands its arguments on to
    the base class, has a base class, if it is given the one that the constructor calls. -/
theorem hasBase_of_synthesized (w : World) (node : DeclNode) (memory : Memory) :
    ((w.constructorParameters node).run memory).1 = .ok none →
      (∀ symbol, w.classSymbol? node = some symbol → symbol.shape.isGivenBase = true) →
      w.hasBase node = .ok true := by
  intro synthesized given
  unfold World.constructorParameters at synthesized
  split at synthesized
  · rename_i symbol isClass
    have found : w.classSymbol? node = some symbol := by
      unfold World.requireClass at isClass
      split at isClass
      · rename_i other found
        cases isClass
        exact found
      · cases isClass
    have unwritten : ((w.constructorParams symbol.shape).run memory).1 = none := by
      rw [reflect_run_bind] at synthesized
      exact Except.ok.inj synthesized
    have hands := World.handsOn_of_constructorPats (World.constructorPats_of_constructorParams unwritten)
    simp [World.hasBase, World.requireClass, found, Except.map,
      ClassShape.isSome_base? hands (given symbol found)]
  · cases synthesized

/-- Whether the constructor of the class at a node counts as written by a compiler, asked at first. -/
def World.isSynthesized (w : World) (node : DeclNode) : Bool :=
  match ((w.constructorParameters node).run .empty).1 with
  | .ok none => true
  | _ => false

theorem World.constructorParameters_of_isSynthesized {w : World} {node : DeclNode}
    (synthesized : w.isSynthesized node = true) :
    ((w.constructorParameters node).run .empty).1 = .ok none := by
  unfold World.isSynthesized at synthesized
  split at synthesized
  · rename_i told
    exact told
  · cases synthesized

/-- Classes with a base class whose constructors only hand their arguments on, each in another way. -/
def derivedClasses : Program :=
  .ofTexts [("/a.js", "class B \x7b\x7d " ++
    "var C = (function (s) \x7b function C() \x7b var t = s !== null && " ++
      "s.apply(this, __spread(arguments)) || this; t.x = 1; return t; \x7d return C; \x7d(B)); " ++
    "class D extends C \x7b constructor() \x7b super(...arguments); \x7d \x7d")]

/-- All of them have a base class. -/
theorem hasBase_derivedClasses :
    let w := World.ofProgram derivedClasses .modules
    let nodes := derivedClasses.files.flatMap fun file =>
      (FileIndex.build file.items).classes.map ClassShape.declaration
    nodes.map (fun node => (node.name?, w.isSynthesized node)) =
        [(some "B", false), (some "C", true), (some "D", true)] ∧
      ∀ node ∈ nodes, w.isSynthesized node = true → w.hasBase node = .ok true := by
  have facts :
      let w := World.ofProgram derivedClasses .modules
      let nodes := derivedClasses.files.flatMap fun file =>
        (FileIndex.build file.items).classes.map ClassShape.declaration
      nodes.map (fun node => (node.name?, w.isSynthesized node)) =
          [(some "B", false), (some "C", true), (some "D", true)] ∧
        ∀ node ∈ nodes, (w.classSymbol? node).all (·.shape.isGivenBase) = true := by
    rw [derivedClasses, Program.ofTexts_eq_ofBytes]
    decide +kernel
  refine ⟨facts.1, ?_⟩
  intro node member synthesized
  apply hasBase_of_synthesized _ node .empty (World.constructorParameters_of_isSynthesized synthesized)
  intro symbol isClass
  have given := facts.2 node member
  rw [isClass] at given
  exact given

/-- Classes whose constructors call what is no base class of theirs: a name from elsewhere, the first of
    two parameters, and a parameter without an argument. -/
def baselessClasses : Program :=
  .ofTexts [("/a.js",
    "var A = (function () \x7b function A() \x7b return B.apply(this, arguments) || this; \x7d " ++
      "return A; \x7d()); " ++
    "var C = (function (s, x) \x7b function C() \x7b return s.apply(this, arguments) || this; \x7d " ++
      "return C; \x7d(A, 1)); " ++
    "var D = (function (s) \x7b function D() \x7b return s.apply(this, arguments) || this; \x7d " ++
      "return D; \x7d());")]

/-- The constructors of all of them count as written by a compiler, and none of them has a base
    class. -/
theorem hasBase_baselessClasses :
    let w := World.ofProgram baselessClasses .modules
    (baselessClasses.files.flatMap fun file => (FileIndex.build file.items).classes.map fun shape =>
        (shape.name, w.isSynthesized shape.declaration, (w.hasBase shape.declaration).toOption)) =
      [("A", true, some false), ("C", true, some false), ("D", true, some false)] := by
  rw [baselessClasses, Program.ofTexts_eq_ofBytes]
  decide +kernel

end BundleLens
