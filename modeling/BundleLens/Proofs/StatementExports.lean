/-
Module: BundleLens.Proofs.StatementExports
Layer: Proofs
Purpose: The names that a statement of a factory exports. The four ways to export something exclude each
  other: an assignment is no call, a getter is defined by a call of a member of `Object`, all exports of
  a module are copied by a loop or by a call of a helper, and an enumeration calls a function where it
  is written. So the names a statement adds to the table are those it exports itself and those it
  copies, whatever is looked for first.
Imports: BundleLens.Proofs.Inquiry, BundleLens.Reflection.ExportTable
Main exports: Stmt.ownNames, Table.mem_names_insertAll, mem_names_stmtExports, mem_names_factoryTable
-/
import BundleLens.Proofs.Inquiry
import BundleLens.Reflection.ExportTable

namespace BundleLens

/-! ### Names in tables -/

namespace Table

variable {α : Type}

theorem mem_names_insert (table : Table α) (key name : String) (value : α) :
    name ∈ (table.insert key value).names ↔ name = key ∨ name ∈ table.names := by
  obtain ⟨entries⟩ := table
  show name ∈ (put key value entries).map (·.1) ↔ name = key ∨ name ∈ entries.map (·.1)
  induction entries with
  | nil => simp [put]
  | cons entry rest ih =>
      obtain ⟨other, old⟩ := entry
      by_cases same : other = key
      · simp [put, same]
      · simp only [put, beq_iff_eq, same, if_false, List.map_cons, List.mem_cons, ih]
        exact or_left_comm

/-- The names after some entries are the names before them and the names of the entries. -/
theorem mem_names_insertAll (table : Table α) (entries : List (String × α)) (name : String) :
    name ∈ (table.insertAll entries).names ↔ name ∈ table.names ∨ name ∈ entries.map (·.1) := by
  unfold insertAll
  induction entries generalizing table with
  | nil => simp
  | cons entry rest ih =>
      rw [List.foldl_cons, ih, mem_names_insert, List.map_cons, List.mem_cons]
      rw [or_assoc, or_left_comm]

end Table

/-! ### Calls and assignments -/

theorem Expr.bare_of_call? {e : Expr} {call : Call} (found : e.call? = some call) :
    e.bare = .call call.span .plain call.callee call.args := by
  unfold Expr.call? at found
  split at found
  · rename_i shown
    cases found
    exact shown
  · cases found

theorem bare_of_exportsChain {e : Expr} (exported : (exportsChain e).1 ≠ []) :
    ∃ span target value, e.bare = .assign span .plain target value := by
  fun_induction exportsChain e with
  | case1 span inner ih => exact ih exported
  | case2 span target value => exact ⟨span, target, value, rfl⟩
  | case3 => exact absurd rfl exported
  | case4 => exact absurd rfl exported

/-- What an expression statement calls, maybe behind a `!`, if it calls something. -/
def Stmt.head? (s : Stmt) : Option (Option Expr) :=
  s.expr?.map fun e => e.unnegated.call?.bind Call.function?

theorem Stmt.head?_of_call? {s : Stmt} {e callee : Expr} {call : Call} (shown : s.expr? = some e)
    (isCall : e.call? = some call) (function : call.function? = some callee) :
    s.head? = some (some callee) := by
  have bare := Expr.bare_of_call? isCall
  have same : e.unnegated.call? = some call := by
    simp [Expr.unnegated, bare, Expr.call?, Expr.bare]
  simp [Stmt.head?, shown, same, function]

/-! ### The ways to export -/

namespace Stmt

variable {s : Stmt}

/-- An assignment to members of `exports` calls nothing. -/
theorem head?_of_exportsAssignment? {assignment : ExportsAssignment}
    (found : s.exportsAssignment? = some assignment) : s.head? = some none := by
  obtain ⟨e, shown, chain⟩ := Option.bind_eq_some_iff.1 found
  have exported : (exportsChain e).1 ≠ [] := by
    intro empty
    unfold Expr.exportsAssignment? at chain
    split at chain
    · cases chain
    · rename_i targets value nonempty same
      rw [same] at empty
      exact nonempty empty
  obtain ⟨span, target, value, bare⟩ := bare_of_exportsChain exported
  simp [Stmt.head?, shown, Expr.unnegated, Expr.call?, bare, Expr.bare]

/-- A getter is defined by a call of a member with the name `defineProperty`. -/
theorem head?_of_reexport? {reexport : Reexport} (found : s.reexport? = some reexport) :
    ∃ callee m, s.head? = some (some callee) ∧ callee.member? = some m ∧
      m.name? = some "defineProperty" := by
  simp only [Stmt.reexport?, Expr.defineProperty?, bind, Option.bind_eq_some_iff] at found
  obtain ⟨e, shown, define, ⟨call, isCall, callee, function, m, member, defined⟩, _⟩ := found
  split at defined
  · rename_i names
    simp only [Bool.and_eq_true, beq_iff_eq] at names
    exact ⟨callee, m, head?_of_call? shown isCall function, member, names.2⟩
  · cases defined

/-- All exports of a module are copied by a loop or by a call of a helper. -/
theorem head?_of_wildcard? {source : Expr} (found : s.wildcard? = some source) :
    s.head? = none ∨ ∃ callee helper, s.head? = some (some callee) ∧
      callee.helperName? = some helper ∧ (helper = "__export" ∨ helper = "__exportStar") := by
  unfold Stmt.wildcard? at found
  split at found
  · exact .inl rfl
  · simp only [bind, Option.bind_eq_some_iff] at found
    obtain ⟨e, shown, call, isCall, args, _, callee, function, helper, named, copied⟩ := found
    refine .inr ⟨callee, helper, head?_of_call? shown isCall function, named, ?_⟩
    split at copied
    · exact .inl rfl
    · exact .inr rfl
    · cases copied

/-- An enumeration calls a function where it is written. -/
theorem head?_of_enumIife? {shape : EnumIife} (found : s.enumIife? = some shape) :
    ∃ name func, s.head? = some (some (.function name func)) := by
  simp only [Stmt.enumIife?, Expr.iife?, bind, Option.bind_eq_some_iff] at found
  obtain ⟨e, shown, iife, ⟨call, isCall, callee, function, written⟩, _⟩ := found
  split at written
  · rename_i name func
    exact ⟨name, func, by simp [Stmt.head?, shown, isCall, function]⟩
  · cases written

/-- A member with the name `defineProperty` has the name of no helper that copies exports. -/
theorem helperName?_of_defineProperty {callee : Expr} {m : Member} (member : callee.member? = some m)
    (name : m.name? = some "defineProperty") {helper : String}
    (named : callee.helperName? = some helper) : helper = "defineProperty" := by
  unfold Expr.member? at member
  split at member
  · rename_i shown
    cases member
    have stripped : stripSuffix "defineProperty" = "defineProperty" := by decide +kernel
    simp only [Expr.helperName?, shown, name, Option.map_some, stripped] at named
    split at named
    · exact (Option.some.inj named).symm
    · cases named
  · cases member

theorem others_of_exportsAssignment? {assignment : ExportsAssignment}
    (found : s.exportsAssignment? = some assignment) :
    s.reexport? = none ∧ s.wildcard? = none ∧ s.enumIife? = none := by
  have head := head?_of_exportsAssignment? found
  refine ⟨?_, ?_, ?_⟩
  · cases defined : s.reexport? with
    | none => rfl
    | some reexport =>
        obtain ⟨callee, m, called, _⟩ := head?_of_reexport? defined
        simp [head] at called
  · cases copied : s.wildcard? with
    | none => rfl
    | some source =>
        rcases head?_of_wildcard? copied with loop | ⟨callee, helper, called, _⟩
        · simp [head] at loop
        · simp [head] at called
  · cases written : s.enumIife? with
    | none => rfl
    | some shape =>
        obtain ⟨name, func, called⟩ := head?_of_enumIife? written
        simp [head] at called

theorem others_of_reexport? {reexport : Reexport} (found : s.reexport? = some reexport) :
    s.wildcard? = none ∧ s.enumIife? = none := by
  obtain ⟨callee, m, head, member, name⟩ := head?_of_reexport? found
  constructor
  · cases copied : s.wildcard? with
    | none => rfl
    | some source =>
        rcases head?_of_wildcard? copied with loop | ⟨other, helper, called, named, isHelper⟩
        · simp [head] at loop
        · rw [head] at called
          cases called
          have same := helperName?_of_defineProperty member name named
          rcases isHelper with rfl | rfl <;> simp at same
  · cases written : s.enumIife? with
    | none => rfl
    | some shape =>
        obtain ⟨_, func, called⟩ := head?_of_enumIife? written
        rw [head] at called
        cases called
        cases member

theorem others_of_wildcard? {source : Expr} (found : s.wildcard? = some source) :
    s.enumIife? = none := by
  cases written : s.enumIife? with
  | none => rfl
  | some shape =>
      obtain ⟨name, func, called⟩ := head?_of_enumIife? written
      rcases head?_of_wildcard? found with loop | ⟨callee, helper, head, named, _⟩
      · simp [called] at loop
      · rw [called] at head
        cases head
        cases named

end Stmt

/-! ### Enumerations -/

/-- An assignment makes an empty object the export of the given name. -/
structure Assignment.Creates (a : Assignment) (name : String) : Prop where
  exported : a.exported? = some name
  empty : ∃ span, a.value.bare = .object span []

/-- The store of an enumeration that has an exported name creates its object by an assignment to it. -/
theorem Expr.enumStore?_exported {e : Expr} {store : Option Ident} {name : String}
    (found : e.enumStore? = some (store, some name)) :
    ∃ span op left right a, e.bare = .binary span op left right ∧ right.assignment? = some a ∧
      a.Creates name := by
  unfold Expr.enumStore? at found
  split at found
  · rename_i span left right shown
    simp only [bind, Option.bind_eq_some_iff] at found
    obtain ⟨a, assigned, found⟩ := found
    refine ⟨span, _, left, right, a, shown, assigned, ?_⟩
    split at found
    · rename_i place empty
      split at found
      · split at found <;> simp at found
      · simp only [Option.bind_eq_some_iff] at found
        obtain ⟨other, _, found⟩ := found
        split at found
        · rename_i same
          simp only [Option.some.injEq, Prod.mk.injEq] at found
          rw [found.2] at same
          exact ⟨eq_of_beq same, place, empty⟩
        · cases found
    · cases found
  · cases found

/-- An argument that stores an enumeration in no variable is a store itself. -/
theorem Expr.enumStore?_of_enumArgument? {e : Expr} {exported : Option String}
    (found : e.enumArgument? = some (none, exported)) : e.enumStore? = some (none, exported) := by
  fun_induction Expr.enumArgument? e with
  | case1 span inner ih => exact ih found
  | case2 span target value _ =>
      simp only [bind, Option.bind_eq_some_iff] at found
      obtain ⟨id, _, stored, _, found⟩ := found
      split at found <;> simp at found
  | case3 => exact found

theorem Expr.enumObject_of_enumArgument? {e : Expr} {store : Option Ident} {name : String}
    (found : e.enumArgument? = some (store, some name)) :
    ∃ span op left right a, e.enumObject = .binary span op left right ∧
      right.assignment? = some a ∧ a.Creates name := by
  fun_induction Expr.enumArgument? e generalizing store with
  | case1 span inner ih => exact ih found
  | case2 span target value _ =>
      simp only [bind, Option.bind_eq_some_iff] at found
      obtain ⟨id, _, stored, inside, found⟩ := found
      split at found
      · cases found
        exact Expr.enumStore?_exported (Expr.enumStore?_of_enumArgument? inside)
      · cases found
  | case3 e _ unassigned =>
      obtain ⟨span, op, left, right, a, shown, rest⟩ := Expr.enumStore?_exported found
      have none : e.assignment? = none := by simp [Expr.assignment?, shown]
      exact ⟨span, op, left, right, a, by simp [Expr.enumObject, none, shown], rest⟩

/-- An enumeration with an exported name is exported by the assignment that creates its object. -/
theorem Stmt.enumIife?_exportAssignment? {s : Stmt} {shape : EnumIife} {name : String}
    (found : s.enumIife? = some shape) (exported : shape.exported = some name) :
    ∃ a, shape.exportAssignment? = some a ∧ a.Creates name := by
  simp only [Stmt.enumIife?, bind, Option.bind_eq_some_iff] at found
  obtain ⟨e, _, iife, _, args, plain, found⟩ := found
  split at found
  · rename_i arg _
    simp only [Option.bind_eq_some_iff] at found
    obtain ⟨param, _, ⟨store, stored⟩, argument, _, _, members, _, found⟩ := found
    split at found
    · cases found
    · cases found
      cases exported
      obtain ⟨span, op, left, right, a, shown, assigned, creates⟩ :=
        Expr.enumObject_of_enumArgument? argument
      refine ⟨a, ?_, creates⟩
      simp [EnumIife.exportAssignment?, plain, shown, assigned, creates.exported]
  · cases found

/-! ### Names that statements add -/

/-- The names that a statement exports itself: by assignments to members of `exports`, by a getter on
    it, and by an enumeration that is stored in it. -/
def Stmt.ownNames (s : Stmt) : List String :=
  (s.exportsAssignment?.map fun assignment => assignment.targets.map (·.1)).getD [] ++
    (s.reexport?.map (·.name)).toList ++ (s.enumIife?.bind (·.exported)).toList

/-- The names of entries. -/
def Entries.names (entries : Entries) : List String := entries.map (·.1)

variable {tables : Nat → Option ExportTable}

theorem names_enumExport {s : Stmt} {shape : EnumIife} (found : s.enumIife? = some shape) :
    Entries.names (enumExport shape) = shape.exported.toList := by
  cases exported : shape.exported with
  | none => simp [enumExport, entryOf, exported, Entries.names]
  | some name =>
      obtain ⟨a, assigned, _⟩ := Stmt.enumIife?_exportAssignment? found exported
      simp [enumExport, entryOf, exported, assigned, Entries.names]

/-- The names that a statement adds are those it exports itself and those it copies. -/
theorem mem_names_stmtExports (w : World) (view : FileView) (s : Stmt) (name : String) :
    name ∈ Entries.names ((stmtExports w view s).answer tables) ↔
      name ∈ s.ownNames ∨
        ∃ source, s.wildcard? = some source ∧
          name ∈ Entries.names ((wildcardExports w view source).answer tables) := by
  unfold stmtExports
  cases assigned : s.exportsAssignment? with
  | some assignment =>
      obtain ⟨noGetter, noCopy, noEnum⟩ := Stmt.others_of_exportsAssignment? assigned
      simp only [Stmt.ownNames, assigned, noGetter, noCopy, noEnum]
      simp [Inquiry.answer_mapM, Entries.names]
  | none =>
      cases defined : s.reexport? with
      | some reexport =>
          obtain ⟨noCopy, noEnum⟩ := Stmt.others_of_reexport? defined
          simp only [Stmt.ownNames, assigned, defined, noCopy, noEnum]
          simp [Entries.names]
      | none =>
          cases copied : s.wildcard? with
          | some source =>
              have noEnum := Stmt.others_of_wildcard? copied
              simp [Stmt.ownNames, assigned, defined, noEnum]
          | none =>
              cases written : s.enumIife? with
              | none => simp [Stmt.ownNames, assigned, defined, written, Entries.names]
              | some shape =>
                  simp [Stmt.ownNames, assigned, defined, written, names_enumExport written]

/-- The names in the table of a wrapped file are those that its statements add. -/
theorem mem_names_factoryTable (w : World) (view : FileView) (wrapper : Wrapper) (name : String) :
    name ∈ ((factoryTable w view wrapper).answer tables).names ↔
      ∃ s ∈ wrapper.statements, name ∈ Entries.names ((stmtExports w view s).answer tables) := by
  unfold factoryTable
  rw [Inquiry.answer_bind, Inquiry.answer_mapM]
  show name ∈ (Table.insertAll .empty _).names ↔ _
  rw [Table.mem_names_insertAll]
  simp only [Table.empty, Table.names, List.map_nil, List.not_mem_nil, false_or, Entries.names,
    List.mem_map, List.mem_flatten]
  constructor
  · rintro ⟨entry, ⟨_, ⟨s, inside, rfl⟩, member⟩, rfl⟩
    exact ⟨s, inside, entry, member, rfl⟩
  · rintro ⟨s, inside, entry, member, rfl⟩
    exact ⟨entry, ⟨_, ⟨s, inside, rfl⟩, member⟩, rfl⟩

end BundleLens
