/-
Module: BundleLens.Proofs.MemberDecorators
Layer: Proofs
Purpose: How the decorators that are recorded for members are shared out. The members are gone through
  in order, and each takes the first entry that fits it and is still there. So no entry is lost and none
  is used twice: an entry ends at one member, or as a property of its own behind all members.
Imports: BundleLens.Reflection.Members
Main exports: MemberEntry.Fits, Shares, attachDecorators_shares, attachDecorators_conserves
-/
import BundleLens.Reflection.Members
import Mathlib.Data.List.Perm.Basic
import Mathlib.Data.List.Nodup

namespace BundleLens

/-- An entry fits a member of its name that is no constructor, on its side if the entry tells one. -/
structure MemberEntry.Fits (entry : MemberEntry) (m : MemberInfo) : Prop where
  ordinary : m.kind ≠ .ctor
  name : entry.name = m.name
  side : ∀ side, entry.side = some side → side = m.isStatic

/-- A member with the decorators of an entry, if it gets one. -/
def MemberInfo.withEntry (m : MemberInfo) : Option MemberEntry → MemberInfo
  | some entry => { m with decorators := some entry.decorators }
  | none => m

/-- How entries are shared out among members: what each member gets, and which entries are left. -/
inductive Shares : List MemberInfo → List MemberEntry → List (Option MemberEntry) → List MemberEntry → Prop
  where
  | done (entries : List MemberEntry) : Shares [] entries [] entries
  /-- No entry fits the member. -/
  | skip {m : MemberInfo} {members : List MemberInfo} {entries left : List MemberEntry}
      {given : List (Option MemberEntry)} (unfit : ∀ entry ∈ entries, ¬ entry.Fits m)
      (rest : Shares members entries given left) : Shares (m :: members) entries (none :: given) left
  /-- The member gets the first entry that fits it. -/
  | give {m : MemberInfo} {entry : MemberEntry} {members : List MemberInfo}
      {before behind left : List MemberEntry} {given : List (Option MemberEntry)} (fits : entry.Fits m)
      (first : ∀ earlier ∈ before, ¬ earlier.Fits m) (rest : Shares members (before ++ behind) given left) :
      Shares (m :: members) (before ++ entry :: behind) (some entry :: given) left

/-! ### Attaching -/

theorem MemberEntry.fits_iff (entry : MemberEntry) (m : MemberInfo) :
    entry.Fits m ↔ m.kind ≠ .ctor ∧ entry.describes m = true := by
  have sides : (∀ side, entry.side = some side → side = m.isStatic) ↔
      (entry.side.map (· == m.isStatic)).getD true = true := by
    cases entry.side <;> simp
  rw [MemberEntry.describes, Bool.and_eq_true, beq_iff_eq, ← sides]
  exact ⟨fun fits => ⟨fits.ordinary, fits.name, fits.side⟩,
    fun ⟨ordinary, name, side⟩ => ⟨ordinary, name, side⟩⟩

theorem takeEntry_eq_none {m : MemberInfo} {entries : List MemberEntry} (none : takeEntry m entries = none) :
    ∀ entry ∈ entries, entry.describes m = false := by
  induction entries with
  | nil => exact fun _ nowhere => nomatch nowhere
  | cons entry rest ih =>
      rw [takeEntry] at none
      split at none
      · cases none
      · rename_i other
        intro found member
        rcases List.mem_cons.1 member with rfl | later
        · exact Bool.eq_false_iff.2 other
        · exact ih (Option.map_eq_none_iff.1 none) found later

/-- What is taken is the first entry that describes the member; the others stay in order. -/
theorem takeEntry_eq_some {m : MemberInfo} {entries others : List MemberEntry} {entry : MemberEntry}
    (taken : takeEntry m entries = some (entry, others)) :
    ∃ before behind, entries = before ++ entry :: behind ∧ others = before ++ behind ∧
      entry.describes m = true ∧ ∀ earlier ∈ before, earlier.describes m = false := by
  induction entries generalizing others with
  | nil => cases taken
  | cons head rest ih =>
      rw [takeEntry] at taken
      split at taken
      · rename_i describes
        cases taken
        exact ⟨[], rest, rfl, rfl, describes, fun _ nowhere => nomatch nowhere⟩
      · rename_i other
        obtain ⟨⟨found, kept⟩, inRest, same⟩ := Option.map_eq_some_iff.1 taken
        cases same
        obtain ⟨before, behind, rfl, rfl, describes, unfit⟩ := ih inRest
        refine ⟨head :: before, behind, rfl, rfl, describes, ?_⟩
        intro earlier member
        rcases List.mem_cons.1 member with rfl | later
        · exact Bool.eq_false_iff.2 other
        · exact unfit earlier later

/-- Attaching shares the entries out, and makes a property of each that is left. -/
theorem attachDecorators_shares (members : List MemberInfo) (entries : List MemberEntry) :
    ∃ given left, Shares members entries given left ∧
      attachDecorators members entries =
        List.zipWith MemberInfo.withEntry members given ++ left.map MemberEntry.toProperty := by
  induction members generalizing entries with
  | nil => exact ⟨[], entries, .done entries, rfl⟩
  | cons m rest ih =>
      by_cases isCtor : m.kind = .ctor
      · obtain ⟨given, left, shares, attached⟩ := ih entries
        refine ⟨none :: given, left, .skip (fun entry _ fits => fits.ordinary isCtor) shares, ?_⟩
        rw [attachDecorators, isCtor, attached]
        rfl
      · have ordinary : (m.kind == .ctor) = false := by simpa using isCtor
        cases taken : takeEntry m entries with
        | none =>
            obtain ⟨given, left, shares, attached⟩ := ih entries
            have unfit : ∀ entry ∈ entries, ¬ entry.Fits m := by
              intro entry member fits
              have other := takeEntry_eq_none taken entry member
              rw [((entry.fits_iff m).1 fits).2] at other
              cases other
            refine ⟨none :: given, left, .skip unfit shares, ?_⟩
            rw [attachDecorators, ordinary, taken, attached]
            rfl
        | some found =>
            obtain ⟨entry, others⟩ := found
            obtain ⟨before, behind, rfl, rfl, describes, unfit⟩ := takeEntry_eq_some taken
            obtain ⟨given, left, shares, attached⟩ := ih (before ++ behind)
            have first : ∀ earlier ∈ before, ¬ earlier.Fits m := by
              intro earlier member fits
              have other := unfit earlier member
              rw [((earlier.fits_iff m).1 fits).2] at other
              cases other
            refine ⟨some entry :: given, left,
              .give ((entry.fits_iff m).2 ⟨isCtor, describes⟩) first shares, ?_⟩
            simp only [attachDecorators, ordinary, Bool.false_eq_true, if_false, taken, attached]
            rfl

/-! ### What sharing keeps -/

namespace Shares

variable {members : List MemberInfo} {entries left : List MemberEntry} {given : List (Option MemberEntry)}

theorem length_eq (shares : Shares members entries given left) : given.length = members.length := by
  induction shares with
  | done entries => rfl
  | skip _ _ ih => simp [ih]
  | give _ _ _ ih => simp [ih]

/-- The entries that are left stand in their old order. -/
theorem left_sublist (shares : Shares members entries given left) : left.Sublist entries := by
  induction shares with
  | done entries => exact .refl entries
  | skip _ _ ih => exact ih
  | @give m entry members before behind left given _ _ _ ih =>
      exact ih.trans ((List.sublist_cons_self entry behind).append_left before)

/-- Every entry is given to a member or left, and no entry is both or twice. -/
theorem perm (shares : Shares members entries given left) : (given.filterMap id ++ left).Perm entries := by
  induction shares with
  | done entries => exact .refl entries
  | skip _ _ ih => exact ih
  | give _ _ _ ih => exact (ih.cons _).trans List.perm_middle.symm

/-- What a member gets fits it. -/
theorem fits (shares : Shares members entries given left) {i : Nat} {m : MemberInfo} {entry : MemberEntry}
    (isMember : members[i]? = some m) (gets : given[i]? = some (some entry)) : entry.Fits m := by
  induction shares generalizing i with
  | done entries => cases isMember
  | skip _ _ ih =>
      cases i with
      | zero => cases gets
      | succ i => exact ih isMember gets
  | give fits _ _ ih =>
      cases i with
      | zero =>
          cases isMember
          cases gets
          exact fits
      | succ i => exact ih isMember gets

/-- No entry that is left fits a member, if entries have different names. -/
theorem unfit_left (shares : Shares members entries given left) (distinct : (entries.map (·.name)).Nodup) :
    ∀ entry ∈ left, ∀ m ∈ members, ¬ entry.Fits m := by
  induction shares with
  | done entries => exact fun _ _ _ nowhere => nomatch nowhere
  | skip unfit rest ih =>
      intro entry isLeft m isMember
      rcases List.mem_cons.1 isMember with rfl | later
      · exact unfit entry (rest.left_sublist.subset isLeft)
      · exact ih distinct entry isLeft m later
  | @give m taken members before behind left given fits _ rest ih =>
      have fewer : (before ++ behind).Sublist (before ++ taken :: behind) :=
        (List.sublist_cons_self taken behind).append_left before
      intro entry isLeft other isMember
      rcases List.mem_cons.1 isMember with rfl | later
      · -- the entry has another name than the one that the member gets
        intro alsoFits
        have apart := (List.nodup_cons.1 ((List.perm_middle.map MemberEntry.name).nodup_iff.1 distinct)).1
        have inside : entry ∈ before ++ behind := rest.left_sublist.subset isLeft
        rw [fits.name, ← alsoFits.name] at apart
        exact apart (List.mem_map_of_mem inside)
      · exact ih (distinct.sublist (fewer.map _)) entry isLeft other later

/-- If entries have different names, then an entry that is not left is given to the first member that it
    fits. -/
theorem gives_first (shares : Shares members entries given left) (distinct : (entries.map (·.name)).Nodup)
    {entry : MemberEntry} (isEntry : entry ∈ entries) (taken : entry ∉ left) :
    ∃ before m behind, members = before ++ m :: behind ∧ entry.Fits m ∧
      given[before.length]? = some (some entry) ∧ ∀ earlier ∈ before, ¬ entry.Fits earlier := by
  induction shares with
  | done entries => exact absurd isEntry taken
  | @skip m members entries left given unfit rest ih =>
      obtain ⟨before, found, behind, rfl, fits, gets, first⟩ := ih distinct isEntry taken
      refine ⟨m :: before, found, behind, rfl, fits, gets, ?_⟩
      intro earlier isEarlier
      rcases List.mem_cons.1 isEarlier with rfl | later
      · exact unfit entry isEntry
      · exact first earlier later
  | @give m own members start stop left given fits _ rest ih =>
      have fewer : (start ++ stop).Sublist (start ++ own :: stop) :=
        (List.sublist_cons_self own stop).append_left start
      have apart := (List.nodup_cons.1 ((List.perm_middle.map MemberEntry.name).nodup_iff.1 distinct)).1
      rcases List.mem_cons.1 (List.perm_middle.mem_iff.1 isEntry) with rfl | other
      · exact ⟨[], m, members, rfl, fits, rfl, fun _ nowhere => nomatch nowhere⟩
      · obtain ⟨before, found, behind, rfl, fitsFound, gets, first⟩ :=
          ih (distinct.sublist (fewer.map _)) other taken
        refine ⟨m :: before, found, behind, rfl, fitsFound, gets, ?_⟩
        intro earlier isEarlier
        rcases List.mem_cons.1 isEarlier with rfl | later
        · intro alsoFits
          rw [fits.name, ← alsoFits.name] at apart
          exact apart (List.mem_map_of_mem other)
        · exact first earlier later

end Shares

/-- Decorators of members are neither lost nor doubled. The members come back in order, each with the
    decorators of an entry or as it was, and behind them one property for each entry that no member got,
    in the order of the entries. What the members got and what is left are all the entries, each once.
    An entry only goes to a member that it fits, so to no constructor; and if entries have different
    names, then an entry goes to the first member that it fits, and is left only if there is none. -/
theorem attachDecorators_conserves (members : List MemberInfo) (entries : List MemberEntry) :
    ∃ (given : List (Option MemberEntry)) (left : List MemberEntry),
      attachDecorators members entries =
        List.zipWith MemberInfo.withEntry members given ++ left.map MemberEntry.toProperty ∧
      given.length = members.length ∧ left.Sublist entries ∧ (given.filterMap id ++ left).Perm entries ∧
      (∀ (i : Nat) (m : MemberInfo) (entry : MemberEntry),
        members[i]? = some m → given[i]? = some (some entry) → entry.Fits m) ∧
      ((entries.map (·.name)).Nodup → ∀ entry ∈ entries,
        (∃ before m behind, members = before ++ m :: behind ∧ entry.Fits m ∧
          given[before.length]? = some (some entry) ∧ ∀ earlier ∈ before, ¬ entry.Fits earlier) ∨
        (entry ∈ left ∧ ∀ m ∈ members, ¬ entry.Fits m)) := by
  obtain ⟨given, left, shares, attached⟩ := attachDecorators_shares members entries
  refine ⟨given, left, attached, shares.length_eq, shares.left_sublist, shares.perm, ?_, ?_⟩
  · intro i m entry isMember gets
    exact shares.fits isMember gets
  · intro distinct entry isEntry
    by_cases isLeft : entry ∈ left
    · exact .inr ⟨isLeft, shares.unfit_left distinct entry isLeft⟩
    · exact .inl (shares.gives_first distinct isEntry isLeft)

/-- A member as it is read, without decorators. -/
def bareMember (name : String) (kind : MemberKind) (isStatic : Bool) : MemberInfo :=
  ⟨name, kind, isStatic, none, .classMember, default, none, none⟩

/-- An entry without decorators, from a decorating call. -/
def bareEntry (name : String) (side : Option Bool) : MemberEntry := ⟨name, side, [], .decorateCall, default⟩

/-- A constructor, a getter with its setter, and two methods with one name on both sides. -/
def mixedMembers : List MemberInfo :=
  [bareMember "constructor" .ctor false, bareMember "a" .getter false, bareMember "a" .setter false,
    bareMember "b" .method true, bareMember "b" .method false]

/-- Entries that fit members of these names, and one that fits none. -/
def mixedEntries : List MemberEntry :=
  [bareEntry "b" (some false), bareEntry "constructor" none, bareEntry "a" none]

/-- The getter and the method that is no static one get their entries; the constructor gets none. -/
theorem attachDecorators_conserves_mixed :
    (mixedEntries.map (·.name)).Nodup ∧
    (attachDecorators mixedMembers mixedEntries).map (fun m => (m.name, m.kind, m.decorators.isSome)) =
      [("constructor", .ctor, false), ("a", .getter, true), ("a", .setter, false), ("b", .method, false),
        ("b", .method, true), ("constructor", .property, true)] ∧
    ∃ (given : List (Option MemberEntry)) (left : List MemberEntry),
      attachDecorators mixedMembers mixedEntries =
        List.zipWith MemberInfo.withEntry mixedMembers given ++ left.map MemberEntry.toProperty ∧
      (given.filterMap id ++ left).Perm mixedEntries ∧
      ∀ entry ∈ mixedEntries,
        (∃ before m behind, mixedMembers = before ++ m :: behind ∧ entry.Fits m ∧
          given[before.length]? = some (some entry) ∧ ∀ earlier ∈ before, ¬ entry.Fits earlier) ∨
        (entry ∈ left ∧ ∀ m ∈ mixedMembers, ¬ entry.Fits m) := by
  have distinct : (mixedEntries.map (·.name)).Nodup := by decide
  refine ⟨distinct, by decide, ?_⟩
  obtain ⟨given, left, attached, _, _, perm, _, first⟩ :=
    attachDecorators_conserves mixedMembers mixedEntries
  exact ⟨given, left, attached, perm, first distinct⟩

end BundleLens
