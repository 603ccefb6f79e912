/-
Module: BundleLens.Proofs.IndexInvariant
Layer: Proofs
Purpose: What every index of a file keeps. Each step of the walk that finds the scopes leaves only
  numbers of scopes behind: in its registers, in what it recorded for identifiers, and in the scopes
  themselves, where the number of the scope around is a smaller one. So the way out of any scope ends at
  the scope of the file. What follows a piece of syntax finds the registers as they were in front of it.
  The tables of nodes lead to classes and enumerations that are there.
Imports: BundleLens.Proofs.ClassNames
Main exports: Walk.Consistent, Walk.Consistent.follow, Walk.registers, Shows.restores,
  FileIndex.WellFormed, FileIndex.WellFormed.lookup?_eq, FileIndex.WellFormed.enclosingFunction?_eq,
  build_wellFormed
-/
import BundleLens.Proofs.ClassNames

namespace BundleLens

/-! ### Scopes around scopes -/

/-- The scope of the file has no scope around it, and every other scope has one with a smaller
    number. -/
def Rooted (scopes : Array Scope) : Prop :=
  ∀ (number : Nat) (s : Scope), scopes[number]? = some s →
    match number with
    | 0 => s.parent = none
    | _ + 1 => ∃ parent < number, s.parent = some parent

theorem Rooted.push {scopes : Array Scope} (rooted : Rooted scopes) {parent : Nat} {func : Option Func}
    (inside : parent < scopes.size) : Rooted (scopes.push ⟨some parent, func, []⟩) := by
  intro number s found
  rw [Array.getElem?_push] at found
  split at found
  · rename_i last
    cases found
    cases number with
    | zero => omega
    | succ number => exact ⟨parent, last ▸ inside, rfl⟩
  · exact rooted number s found

/-- What is declared in a scope does not move it. -/
theorem Rooted.modify {scopes : Array Scope} (rooted : Rooted scopes) (home : Nat)
    {change : Scope → Scope} (keeps : ∀ s, (change s).parent = s.parent) :
    Rooted (scopes.modify home change) := by
  intro number s found
  rw [Array.getElem?_modify] at found
  split at found
  · obtain ⟨old, present, rfl⟩ := Option.map_eq_some_iff.1 found
    rw [keeps]
    exact rooted number old present
  · exact rooted number s found

/-! ### Steps of the walk -/

namespace Walk

/-- Every number that a walk holds is the number of a scope, and its scopes stand in one another. -/
structure Consistent (w : Walk) : Prop where
  rooted : Rooted w.scopes
  scope : w.scope < w.scopes.size
  functionScope : w.functionScope < w.scopes.size
  outside : ∀ registers ∈ w.outside, registers.1 < w.scopes.size ∧ registers.2 < w.scopes.size
  places : ∀ place ∈ w.places, place.2 < w.scopes.size

theorem Consistent.start : start.Consistent where
  rooted := by
    intro number s found
    obtain ⟨inside, rfl⟩ := Array.getElem?_eq_some_iff.1 found
    cases number with
    | zero => rfl
    | succ number => exact absurd inside (Nat.not_lt.2 (Nat.succ_le_succ (Nat.zero_le number)))
  scope := Nat.zero_lt_one
  functionScope := Nat.zero_lt_one
  outside := fun _ member => nomatch member
  places := fun _ member => nomatch member

variable {w : Walk}

theorem Consistent.enter (ok : w.Consistent) (ofFunction : Bool) (func : Option Func) :
    (w.step (.enter ofFunction func)).Consistent := by
  have grows : w.scopes.size < (w.step (.enter ofFunction func)).scopes.size := by simp [step]
  constructor
  · exact ok.rooted.push ok.scope
  · exact grows
  · cases ofFunction with
    | true => exact grows
    | false => exact Nat.lt_trans ok.functionScope grows
  · intro registers member
    rcases List.mem_cons.1 member with rfl | earlier
    · exact ⟨Nat.lt_trans ok.scope grows, Nat.lt_trans ok.functionScope grows⟩
    · obtain ⟨first, second⟩ := ok.outside registers earlier
      exact ⟨Nat.lt_trans first grows, Nat.lt_trans second grows⟩
  · exact fun place member => Nat.lt_trans (ok.places place member) grows

theorem Consistent.leave (ok : w.Consistent) : (w.step .leave).Consistent := by
  simp only [step]
  cases shut : w.outside with
  | nil => exact ok
  | cons registers rest =>
      obtain ⟨first, second⟩ := ok.outside registers (by simp [shut])
      exact ⟨ok.rooted, first, second, fun other member => ok.outside other (by simp [shut, member]),
        ok.places⟩

theorem Consistent.place (ok : w.Consistent) (span : Span) :
    ({ w with places := (span, w.scope) :: w.places } : Walk).Consistent := by
  refine ⟨ok.rooted, ok.scope, ok.functionScope, ok.outside, fun place member => ?_⟩
  rcases List.mem_cons.1 member with rfl | earlier
  · exact ok.scope
  · exact ok.places place earlier

/-- A declaration is put into a scope that is there. -/
theorem Consistent.declare (ok : w.Consistent) (home : Home) (binding : Binding) :
    (w.step (.declare home binding)).Consistent := by
  have size : (w.step (.declare home binding)).scopes.size = w.scopes.size := by simp [step]
  obtain ⟨_, scope, functionScope, outside, places⟩ := ok.place binding.ident.span
  exact ⟨ok.rooted.modify _ fun _ => rfl, size ▸ scope, size ▸ functionScope, size ▸ outside, size ▸ places⟩

theorem Consistent.step (ok : w.Consistent) (event : Event) : (w.step event).Consistent := by
  cases event with
  | enter ofFunction func => exact ok.enter ofFunction func
  | leave => exact ok.leave
  | declare home binding => exact ok.declare home binding
  | refer id => exact ok.place id.span
  | _ => exact ok

/-- Whatever a walk follows, it stays consistent. -/
theorem Consistent.follow (ok : w.Consistent) (events : List Event) : (w.follow events).Consistent := by
  unfold Walk.follow
  induction events generalizing w with
  | nil => exact ok
  | cons event rest ih => exact ih (ok.step event)

theorem places_step (w : Walk) (event : Event) : w.places ⊆ (w.step event).places := by
  cases event with
  | leave =>
      simp only [Walk.step]
      cases w.outside <;> exact List.Subset.refl _
  | declare home binding => exact List.subset_cons_self _ _
  | refer id => exact List.subset_cons_self _ _
  | _ => exact List.Subset.refl _

theorem places_follow (w : Walk) (events : List Event) : w.places ⊆ (w.follow events).places := by
  unfold Walk.follow
  induction events generalizing w with
  | nil => exact List.Subset.refl _
  | cons event rest ih => exact List.Subset.trans (w.places_step event) (ih _)

/-- For every identifier that is used on the way a scope is recorded. -/
theorem exists_place_of_refer {events : List Event} {id : Ident} (uses : Event.refer id ∈ events)
    (w : Walk) :
    ∃ scope, (id.span, scope) ∈ (w.follow events).places := by
  obtain ⟨before, behind, rfl⟩ := List.append_of_mem uses
  refine ⟨(w.follow before).scope, ?_⟩
  rw [follow_append]
  exact places_follow ((w.follow before).step (.refer id)) behind List.mem_cons_self

/-! ### Registers -/

/-- The innermost scope and the innermost scope of a function, with what they were outside of each open
    scope. -/
def registers (w : Walk) : (Nat × Nat) × List (Nat × Nat) := ((w.scope, w.functionScope), w.outside)

theorem registers_leave {first : Nat × Nat} {rest : List (Nat × Nat)} (opened : w.outside = first :: rest) :
    (w.step .leave).registers = (first, rest) := by
  simp only [step, opened]
  rfl

end Walk

mutual

/-- A part of a file closes the scopes that it opens, and no others. -/
theorem Part.restores : (p : Part) → ∀ w : Walk, (w.follow p.events).registers = w.registers
  | .declaration _ _, _ => rfl
  | .use _, _ => rfl
  | .scope ofFunction func parts, w => by
      have inner := partsRestore parts (w.step (.enter ofFunction func))
      have split : w.follow (Part.scope ofFunction func parts).events =
          ((w.step (.enter ofFunction func)).follow (partsEvents parts)).step .leave := by
        simp [Part.events, Walk.follow]
      have opened : ((w.step (.enter ofFunction func)).follow (partsEvents parts)).outside =
          (w.scope, w.functionScope) :: w.outside := congrArg Prod.snd inner
      rw [split]
      exact Walk.registers_leave opened

theorem partsRestore : (parts : List Part) →
    ∀ w : Walk, (w.follow (partsEvents parts)).registers = w.registers
  | [], _ => rfl
  | p :: rest, w => by
      rw [partsEvents, Walk.follow_append, partsRestore rest, p.restores]

end

/-- A piece of syntax that shows parts leaves the registers of a walk as they were. -/
theorem Shows.restores {events : List Event} {parts : List Part} (shows : Shows events parts) (w : Walk) :
    (w.follow events).registers = w.registers := by
  rw [← Walk.follow_scoping, shows]
  exact partsRestore parts w

/-! ### The index -/

namespace FileIndex

/-- The scopes of an index stand in one another, and everything that it records is there. -/
structure WellFormed (index : FileIndex) : Prop where
  nonempty : 0 < index.scopes.size
  rooted : Rooted index.scopes
  places : ∀ place ∈ index.places, place.2 < index.scopes.size
  references : ∀ id ∈ index.references, (index.places.lookup id.span).isSome = true
  classKeys : ∀ key ∈ index.classKeys, key.2 < index.classes.length
  classAliases : ∀ key ∈ index.classAliases, key.2 < index.classes.length
  enumKeys : ∀ key ∈ index.enumKeys, key.2 < index.enums.length

variable {index : FileIndex} {names : List (Ident × Nat)} {bound : Nat}

theorem isSome_lookup_of_mem {table : List (Span × Nat)} {span : Span} {number : Nat}
    (present : (span, number) ∈ table) : (table.lookup span).isSome = true := by
  cases found : table.lookup span with
  | some _ => rfl
  | none => exact absurd (List.lookup_eq_none_iff.1 found _ present) (by simp)

/-- The tables of linked variables lead where the linked names lead. -/
theorem lt_of_mem_variablesOf (inside : ∀ entry ∈ names, entry.2 < bound) :
    ∀ key ∈ index.variablesOf names, key.2 < bound := by
  intro key member
  obtain ⟨id, listed, _⟩ := mem_variablesOf.1 member
  exact inside _ listed

theorem lt_of_mem_assignedNames : ∀ entry ∈ index.assignedNames, entry.2 < index.classes.length := by
  intro entry member
  obtain ⟨shape, a, listed, _⟩ := mem_assignedNames.1 member
  exact (List.getElem?_eq_some_iff.1 listed).1

theorem lt_of_mem_aliasNames : ∀ entry ∈ index.aliasNames, entry.2 < index.classes.length := by
  intro entry member
  obtain ⟨shape, listed, _⟩ := mem_aliasNames.1 member
  exact (List.getElem?_eq_some_iff.1 listed).1

theorem lt_of_mem_enumNames : ∀ entry ∈ index.enumNames, entry.2 < index.enums.length := by
  intro entry member
  obtain ⟨⟨shape, number⟩, listed, stores⟩ := List.mem_filterMap.1 member
  obtain ⟨id, _, rfl⟩ := Option.map_eq_some_iff.1 stores
  exact (List.getElem?_eq_some_iff.1 (List.mk_mem_zipIdx_iff_getElem?.1 listed)).1

theorem WellFormed.unlinked (events : List Event) : (unlinked events).WellFormed where
  nonempty := Nat.zero_lt_of_lt (Walk.Consistent.start.follow events).scope
  rooted := (Walk.Consistent.start.follow events).rooted
  places := (Walk.Consistent.start.follow events).places
  references := by
    intro id uses
    obtain ⟨event, present, isUse⟩ := List.mem_filterMap.1 uses
    have refers : event = .refer id := by
      cases event with
      | refer used =>
          cases isUse
          rfl
      | _ => cases isUse
    obtain ⟨scope, recorded⟩ := Walk.exists_place_of_refer (refers ▸ present) Walk.start
    exact isSome_lookup_of_mem recorded
  classKeys := by
    intro key member
    obtain ⟨shape, listed, _⟩ := mem_classKeys_unlinked.1 member
    exact (List.getElem?_eq_some_iff.1 listed).1
  classAliases := fun _ member => nomatch member
  enumKeys := by
    intro key member
    obtain ⟨shape, listed, _⟩ := mem_enumKeys_unlinked.1 member
    exact (List.getElem?_eq_some_iff.1 listed).1

/-- Linking gives classes and enumerations further names, and no number of its own. -/
theorem WellFormed.link (ok : index.WellFormed) : index.link.WellFormed where
  nonempty := ok.nonempty
  rooted := ok.rooted
  places := ok.places
  references := ok.references
  classKeys := by
    intro key member
    rcases List.mem_append.1 member with own | linked
    · exact ok.classKeys key own
    · exact lt_of_mem_variablesOf lt_of_mem_assignedNames key linked
  classAliases := fun key member =>
    lt_of_mem_variablesOf lt_of_mem_aliasNames key (List.mem_reverse.1 member)
  enumKeys := by
    intro key member
    rcases List.mem_append.1 member with linked | own
    · exact lt_of_mem_variablesOf lt_of_mem_enumNames key (List.mem_reverse.1 linked)
    · exact ok.enumKeys key own

namespace WellFormed

variable {scope : Nat} {s : Scope}

theorem parentsFirst (ok : index.WellFormed) : ParentsFirst index.scopes.toList := by
  intro number s found parent isParent
  have rooted := ok.rooted number s (by simpa using found)
  cases number with
  | zero =>
      rw [rooted] at isParent
      cases isParent
  | succ number =>
      obtain ⟨other, smaller, same⟩ := rooted
      rw [same] at isParent
      cases isParent
      exact smaller

/-- The way out of a scope goes on with the way out of the scope around it. -/
theorem scopesFrom_eq (ok : index.WellFormed) (found : index.scopes[scope]? = some s) :
    index.scopesFrom scope = s :: (s.parent.map index.scopesFrom).getD [] := by
  have listed : index.scopes.toList[scope]? = some s := by simpa using found
  cases outer : s.parent with
  | none => exact scopesFrom_outermost listed outer
  | some parent => exact scopesFrom_inner ok.parentsFirst listed outer

/-- A name is looked up in a scope and then in the scope around it. -/
theorem lookup?_eq (ok : index.WellFormed) (found : index.scopes[scope]? = some s) (name : String) :
    index.lookup? scope name = (s.named? name).or (s.parent.bind (index.lookup? · name)) := by
  unfold lookup?
  rw [ok.scopesFrom_eq found, List.findSome?_cons]
  cases s.named? name with
  | some _ => rfl
  | none => cases s.parent <;> rfl

/-- The function around a scope is its owner or the function around the next scope. -/
theorem enclosingFunction?_eq (ok : index.WellFormed) (found : index.scopes[scope]? = some s) :
    index.enclosingFunction? scope = s.func.or (s.parent.bind index.enclosingFunction?) := by
  unfold enclosingFunction?
  rw [ok.scopesFrom_eq found, List.findSome?_cons]
  cases s.func with
  | some _ => rfl
  | none => cases s.parent <;> rfl

/-- A table of nodes leads to things that are there. -/
theorem isSome_of_lookup {α : Type} {things : List α} {table : List (Span × Nat)}
    (inside : ∀ key ∈ table, key.2 < things.length) {span : Span} {number : Nat}
    (found : table.lookup span = some number) : things[number]?.isSome = true := by
  obtain ⟨before, behind, split, _⟩ := List.lookup_eq_some_iff.1 found
  have present : (span, number) ∈ table := by simp [split]
  simpa using inside _ present

end WellFormed
end FileIndex

/-- The index of every file is well formed: the scope of the file has no scope around it, every other
    scope has one with a smaller number, and all recorded numbers are numbers of scopes, classes and
    enumerations. No piece of syntax leaves another scope behind than the one that it was met in. So
    from every scope a name and the function around are looked up scope by scope until there is none
    around, and classes and enumerations that are found are there. -/
theorem build_wellFormed (items : List Item) :
    (FileIndex.build items).WellFormed ∧
    (∀ w : Walk,
      (∀ s : Stmt, (w.follow s.trace).registers = w.registers) ∧
      (∀ (pat : Pat) (home : Home) (d : Option Declarator),
        (w.follow (pat.bindTrace home d)).registers = w.registers) ∧
      (∀ pat : Pat, (w.follow pat.useTrace).registers = w.registers) ∧
      (∀ (pat : Pat) (a : Assignment), (w.follow (pat.assignTrace a)).registers = w.registers) ∧
      (∀ cls : Class, (w.follow cls.trace).registers = w.registers) ∧
      ∀ e : Expr, (w.follow e.trace).registers = w.registers) ∧
    (∀ scope < (FileIndex.build items).scopes.size, ∃ s, (FileIndex.build items).scopes[scope]? = some s ∧
      (∀ parent, s.parent = some parent → parent < scope) ∧
      (∀ name, (FileIndex.build items).lookup? scope name =
        (s.named? name).or (s.parent.bind ((FileIndex.build items).lookup? · name))) ∧
      (FileIndex.build items).enclosingFunction? scope =
        s.func.or (s.parent.bind (FileIndex.build items).enclosingFunction?)) ∧
    (∀ span i, (FileIndex.build items).classAt? span = some i →
      ((FileIndex.build items).class? i).isSome = true) ∧
    (∀ d i, (FileIndex.build items).aliasedClass? d = some i →
      ((FileIndex.build items).class? i).isSome = true) ∧
    ∀ span, ((FileIndex.build items).enumKeys.lookup span).isSome = true →
      ((FileIndex.build items).enumAt? span).isSome = true := by
  have ok : (FileIndex.build items).WellFormed := (FileIndex.WellFormed.unlinked _).link
  refine ⟨ok, fun w => ⟨fun s => s.trace_shows.restores w, fun pat home d => ?_, fun pat => ?_,
    fun pat a => (pat.assignTrace_shows a).restores w, fun cls => cls.trace_shows.restores w,
    fun e => e.trace_shows.restores w⟩, fun scope inside => ?_,
    fun span i found => FileIndex.WellFormed.isSome_of_lookup ok.classKeys found,
    fun d i found => FileIndex.WellFormed.isSome_of_lookup ok.classAliases found, fun span found => ?_⟩
  · exact (pat.bindTrace_shows home d).restores w
  · exact pat.useTrace_shows.restores w
  · have found : (FileIndex.build items).scopes[scope]? = some (FileIndex.build items).scopes[scope] :=
      Array.getElem?_eq_some_iff.2 ⟨inside, rfl⟩
    exact ⟨_, found, ok.parentsFirst scope _ (by simp [inside]), fun name => ok.lookup?_eq found name,
      ok.enclosingFunction?_eq found⟩
  · obtain ⟨i, isKey⟩ := Option.isSome_iff_exists.1 found
    have present := FileIndex.WellFormed.isSome_of_lookup ok.enumKeys isKey
    simpa [FileIndex.enumAt?, isKey] using present

end BundleLens
