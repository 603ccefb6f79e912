/-
Module: BundleLens.Proofs.ReadBounds
Layer: Proofs
Purpose: Grammar rules that stay inside a range: started on a token of the range, such a rule stops on a
  token of the range, and what it reads lies in the range. The ways to build rules out of rules keep
  this, and the small steps on the cursor have it.
Imports: BundleLens.Proofs.Placement
Main exports: Grammar.Stays, Grammar.Stays.bind, Grammar.Stays.pure, Grammar.Stays.ite,
  Grammar.Rules.Stay
-/
import BundleLens.Proofs.Placement

namespace BundleLens.Grammar

/-- A rule that stays inside a range. -/
class Stays {α : Type} [Placed α] (room : Span) (rule : Parse α) : Prop where
  reads : ∀ {ctx s a s'}, Cursor.Inside room s → rule ctx s = .ok (a, s') →
    Cursor.Inside room s' ∧ Within room a

variable {α β : Type} [Placed α] [Placed β] {room : Span}

/-! ### Ways to build rules -/

namespace Stays

theorem andThen {x : Parse α} {f : α → Parse β} (first : Stays room x)
    (next : ∀ a, [Within room a] → Stays room (f a)) : Stays room (x >>= f) where
  reads {ctx s b s'} inside run := by
    simp only [Bind.bind, ReaderT.bind, StateT.bind, Except.bind] at run
    cases read : x ctx s with
    | ok result =>
        obtain ⟨a, middle⟩ := result
        simp only [read] at run
        obtain ⟨between, within⟩ := first.reads inside read
        exact (next a).reads between run
    | error pos => simp [read] at run

theorem bind {x : Parse α} {f : α → Parse β} [first : Stays room x]
    (next : ∀ a, [Within room a] → Stays room (f a)) : Stays room (x >>= f) :=
  first.andThen next

instance pure {a : α} [within : Within room a] : Stays room (pure a) where
  reads inside run := by
    cases run
    exact ⟨inside, within⟩

theorem give {a : α} (within : Within room a) : Stays room (Pure.pure a) := .pure

theorem ite {c : Prop} [Decidable c] {x y : Parse α} (yes : Stays room x) (no : Stays room y) :
    Stays room (if c then x else y) := by
  split
  · exact yes
  · exact no

/-- Two ways to go on with the same step. -/
theorem iteBind {c : Prop} [Decidable c] {x y : Parse α} {f : α → Parse β} (yes : Stays room x)
    (no : Stays room y) (next : ∀ a, [Within room a] → Stays room (f a)) :
    Stays room (if c then x >>= f else y >>= f) :=
  .ite (yes.andThen next) (no.andThen next)

/-- A step that is only taken under a condition. -/
theorem when {c : Prop} [Decidable c] {x : Parse α} {y : Parse β} (step : Stays room x)
    (next : Stays room y) : Stays room (if c then x >>= fun _ => y else y) :=
  .ite (step.andThen fun _ => next) next

/-- A step that is taken unless a condition holds. -/
theorem whenNot {c : Prop} [Decidable c] {x : Parse α} {y : Parse β} (step : Stays room x)
    (next : Stays room y) : Stays room (if c then y else x >>= fun _ => y) :=
  .ite next (step.andThen fun _ => next)

theorem map {x : Parse α} {f : α → β} [Stays room x] (each : ∀ a, [Within room a] → Within room (f a)) :
    Stays room (f <$> x) := by
  rw [← bind_pure_comp]
  exact .bind fun a => have := each a; .pure

end Stays

instance {x : Parse α} [Stays room x] : Stays room (some <$> x) := .map fun _ => inferInstance

instance {pos : Nat} : Stays room (failAt pos : Parse α) where
  reads _ run := by cases run

instance : Stays room (get : Parse Cursor) where
  reads inside run := by
    cases run
    exact ⟨inside, ⟨inside⟩⟩

instance : Stays room (read : Parse Context) where
  reads inside run := by
    cases run
    exact ⟨inside, ⟨trivial⟩⟩

/-- A change of the cursor that leaves the current token alone. -/
theorem stays_modify {change : Cursor → Cursor} (same : ∀ s, (change s).current = s.current) :
    Stays room (modify change : Parse Unit) where
  reads {ctx s a s'} inside run := by
    cases run
    unfold Cursor.Inside
    rw [same]
    exact ⟨inside, ⟨trivial⟩⟩

/-- Another context changes nothing about where a rule stays. -/
theorem stays_within {change : Context → Context} {rule : Parse α} (stays : Stays room rule) :
    Stays room (within change rule) where
  reads inside run := stays.reads inside run

instance {change : Context → Context} {rule : Parse α} [stays : Stays room rule] :
    Stays room (within change rule) :=
  stays_within stays

theorem stays_withIn {rule : Parse α} (stays : Stays room rule) : Stays room (withIn rule) :=
  stays_within stays

instance {rule : Parse α} [stays : Stays room rule] : Stays room (withIn rule) := stays_withIn stays

/-- A rule that meets a fault leaves the cursor where it was. -/
theorem stays_attempt {rule : Parse α} (stays : Stays room rule) : Stays room (attempt rule) where
  reads {ctx s a s'} inside run := by
    unfold attempt at run
    split at run
    · rename_i b middle read
      obtain ⟨insideToo, within⟩ := stays.reads inside read
      cases run
      exact ⟨insideToo, inferInstance⟩
    · cases run
      exact ⟨inside, inferInstance⟩

/-! ### Steps on the cursor -/

instance {s : Cursor} [inside : Within room s] : Within room s.current := ⟨inside.holds⟩

instance : Stays room current := .bind fun _ => .pure

instance : Stays room token := .bind fun _ => .pure

instance : Stays room here := .bind fun _ => .pure

instance {lo : Nat} [Within room lo] : Stays room (spanFrom lo) := .bind fun _ => .pure

instance : Stays room (unexpected : Parse α) := by
  apply Stays.bind
  intro lexeme _
  split
  · infer_instance
  · infer_instance

theorem stays_resume {rest : Remaining} (inside : rest.Inside room) : Stays room (resume rest) where
  reads {ctx s a s'} _ run := by
    cases run
    exact ⟨scanToken_inside s.size inside, ⟨trivial⟩⟩

instance : Stays room advance := by
  apply Stays.bind
  intro lexeme within
  exact stays_resume within.holds.behind

instance : Stays room following := by
  apply Stays.bind
  intro s within
  have : Within room (scanToken s.size s.current.rest s.current.span.hi) :=
    ⟨scanToken_inside s.size within.holds.behind⟩
  exact .pure

instance {text : String} : Stays room (isPunct text) := .bind fun _ => .pure

instance {text : String} : Stays room (isWord text) := .bind fun _ => .pure

instance {text : String} : Stays room (eatPunct text) :=
  .bind fun _ => .ite (.bind fun _ => .pure) .pure

instance {text : String} : Stays room (eatWord text) :=
  .bind fun _ => .ite (.bind fun _ => .pure) .pure

instance {text : String} : Stays room (expectPunct text) :=
  .bind fun _ => .ite .pure inferInstance

instance {text : String} : Stays room (expectWord text) :=
  .bind fun _ => .ite .pure inferInstance

instance : Stays room newlineBefore := .bind fun _ => .pure

instance : Stays room atSemicolon := .bind fun _ => .pure

instance : Stays room semicolon :=
  .bind fun _ => .ite .pure (.bind fun _ => .ite .pure inferInstance)

instance : Stays room inTypings := .bind fun _ => .pure

instance : Stays room identName := by
  apply Stays.bind
  intro lexeme _
  split
  · exact .bind fun _ => .pure
  · infer_instance

instance : Stays room identifier := .bind fun _ => .ite inferInstance inferInstance

/-! ### Loops -/

/-- A loop whose steps stay in a range from any value there stays there: the value stays there as
    well. -/
theorem stays_loopFuel {step : α → Parse (Option α)}
    (each : ∀ a, [Within room a] → Stays room (step a)) (fuel : Nat) (a : α) [Within room a] :
    Stays room (loopFuel step fuel a) := by
  induction fuel generalizing a with
  | zero => exact inferInstanceAs (Stays room unexpected)
  | succ fuel ih =>
      have := each a
      apply Stays.bind
      intro next within
      cases next with
      | none => exact .pure
      | some b =>
          have := within.holds b rfl
          exact ih b

theorem stays_loop {step : α → Parse (Option α)} (each : ∀ a, [Within room a] → Stays room (step a))
    (a : α) [Within room a] : Stays room (loop step a) :=
  .bind fun _ => stays_loopFuel each _ a

theorem stays_gather {step : Parse (Option α)} (one : Stays room step) :
    Stays room (gather step) := by
  have each : ∀ acc : List α, [Within room acc] →
      Stays room (do return (← step).map (· :: acc) : Parse (Option (List α))) := by
    intro acc _
    apply Stays.bind
    intro found within
    cases found with
    | none => exact inferInstanceAs (Stays room (pure none))
    | some x =>
        have := within.holds x rfl
        exact inferInstanceAs (Stays room (pure (some (x :: acc))))
  have := stays_loop each []
  exact .bind fun _ => .pure

theorem stays_until {close : String} {item : Parse α} (each : Stays room item) :
    Stays room (until_ close item) :=
  stays_gather (.bind fun _ => .ite .pure (each.andThen fun _ => .pure))

theorem stays_commaList {close : String} {item : Parse α} (each : Stays room item) :
    Stays room (commaList close item) :=
  stays_until (each.andThen fun _ => .bind fun _ => .ite .pure (.bind fun _ => .pure))

instance {close : String} {item : Parse α} [each : Stays room item] : Stays room (until_ close item) :=
  stays_until each

instance {close : String} {item : Parse α} [each : Stays room item] :
    Stays room (commaList close item) :=
  stays_commaList each

theorem stays_mapM {f : α → Parse β} (each : ∀ a, [Within room a] → Stays room (f a)) (xs : List α)
    [all : Within room xs] : Stays room (xs.mapM f) := by
  have members := all.holds
  clear all
  induction xs with
  | nil => exact inferInstanceAs (Stays room (pure []))
  | cons x xs ih =>
      have := members x List.mem_cons_self
      have := each x
      have rest := ih fun y later => members y (List.mem_cons_of_mem x later)
      rw [List.mapM_cons]
      exact .bind fun _ => .bind fun _ => .pure

/-! ### Rules that contain one another -/

/-- All rules of a record stay inside a range. -/
class Rules.Stay (room : Span) (r : Rules) : Prop where
  expr : Stays room r.expr
  assign : Stays room r.assign
  unary : Stays room r.unary
  operand : Stays room r.operand
  newTarget : Stays room r.newTarget
  target : Stays room r.target
  stmt : Stays room r.stmt
  branch : Stays room r.branch
  body : Stays room r.body
  type : Stays room r.type

attribute [instance] Rules.Stay.expr Rules.Stay.assign Rules.Stay.unary Rules.Stay.operand
  Rules.Stay.newTarget Rules.Stay.target Rules.Stay.stmt Rules.Stay.branch Rules.Stay.body
  Rules.Stay.type

end BundleLens.Grammar
