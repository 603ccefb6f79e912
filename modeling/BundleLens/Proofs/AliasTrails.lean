/-
Module: BundleLens.Proofs.AliasTrails
Layer: Proofs
Purpose: Variables that hold other variables are followed to the end of the trail, as long as it is no
  longer than the bound; all names on such a trail stand for the same. A longer trail, or one that runs
  in a circle, is cut where the bound is reached, and there an answer is given all the same.
Imports: BundleLens.Proofs.AliasHops, BundleLens.Proofs.ClassReports, BundleLens.Proofs.IndexInvariant
Main exports: FileIndex.Holds, FileIndex.holds_iff, FileIndex.trailFrom, bindingDeclaration_of_trail,
  declarationOfIdentifier_of_trail
-/
import BundleLens.Proofs.AliasHops
import BundleLens.Proofs.ClassReports
import BundleLens.Proofs.IndexInvariant

namespace BundleLens

namespace FileIndex

variable {index : FileIndex} {binding other : Binding} {trail : List Binding}

/-! ### One variable -/

/-- A variable without an initial value that is neither another name of a class nor an enumeration holds
    a binding: that of the name it receives, unless this is its own. -/
inductive Holds (index : FileIndex) : Binding → Binding → Prop where
  | received {d : Declarator} {id y : Ident} {other : Binding} (bare : d.init = none)
      (noClass : index.aliasedClass? d = none) (noEnum : index.enumAt? d.span = none)
      (first : index.receivedName? d = some y) (means : index.primary? y = some other)
      (apart : other.ident.span ≠ id.span) : Holds index (.variable d id) other

/-- A variable that is linked to no class and to no enumeration has no shape, and only such a one. -/
theorem shapeOf?_variable_eq_none_iff (ok : index.WellFormed) (d : Declarator) (id : Ident) :
    shapeOf? index (.variable d id) = none ↔
      index.aliasedClass? d = none ∧ index.enumAt? d.span = none := by
  have ofClass : aliasedDeclaration? index d = none ↔ index.aliasedClass? d = none := by
    cases found : index.aliasedClass? d with
    | none => simp [aliasedDeclaration?, found]
    | some number =>
        obtain ⟨shape, isClass⟩ :=
          Option.isSome_iff_exists.1 (WellFormed.isSome_of_lookup ok.classAliases found)
        simp [aliasedDeclaration?, found, class?, isClass]
  have ofEnum : enumDeclaration? index (.variable d) d.span = none ↔ index.enumAt? d.span = none := by
    cases found : index.enumAt? d.span <;> simp [enumDeclaration?, found]
  rw [← ofClass, ← ofEnum, shapeOf?]
  cases aliasedDeclaration? index d <;> simp

/-- What a variable holds is what is followed next. -/
theorem holds_iff (ok : index.WellFormed) :
    index.Holds binding other ↔ nextHop? index binding = some other := by
  constructor
  · rintro (@⟨d, id, y, _, bare, noClass, noEnum, first, means, apart⟩)
    have noShape := (shapeOf?_variable_eq_none_iff ok d id).2 ⟨noClass, noEnum⟩
    have elsewhere : other.ident.span ≠ (Binding.variable d id).ident.span := apart
    simp [nextHop?, noShape, standsFor?, Binding.declarator?, bare, receivedBinding?_eq, first, means,
      elsewhere]
  · intro next
    obtain ⟨-, noShape, alone⟩ := nextHop?_eq_some next
    obtain ⟨d, isVariable, alone⟩ := Option.bind_eq_some_iff.1 alone
    cases binding with
    | «variable» own id =>
        cases isVariable
        obtain ⟨noClass, noEnum⟩ := (shapeOf?_variable_eq_none_iff ok d id).1 noShape
        split at alone
        · cases alone
        · rename_i bare
          obtain ⟨held, received, alone⟩ := Option.bind_eq_some_iff.1 alone
          rw [receivedBinding?_eq] at received
          obtain ⟨y, first, means⟩ := Option.bind_eq_some_iff.1 received
          split at alone
          · cases alone
          · rename_i apart
            cases alone
            exact .received (by simpa using bare) noClass noEnum first means
              fun same => apart (beq_iff_eq.2 same)
    | _ => cases isVariable

/-- What a variable holds is what some identifier of the file refers to. -/
theorem Holds.exists_reference {items : List Item} (holds : (build items).Holds binding other) :
    ∃ y ∈ (build items).references, (build items).primary? y = some other := by
  obtain ⟨-, -, -, first, means, -⟩ := holds
  obtain ⟨a, assigned, named⟩ := List.exists_of_findSome?_eq_some first
  exact ⟨_, mem_references_of_assigned assigned (Option.filter_eq_some_iff.1 named).1, means⟩

/-! ### Trails -/

/-- The variables that are followed from a binding, up to a number of them. -/
def trailFrom (index : FileIndex) : Nat → Binding → List Binding
  | 0, _ => []
  | hops + 1, binding =>
    match nextHop? index binding with
    | some other => other :: trailFrom index hops other
    | none => []

theorem isChain_trailFrom (ok : index.WellFormed) (hops : Nat) (binding : Binding) :
    List.IsChain index.Holds (binding :: index.trailFrom hops binding) := by
  induction hops generalizing binding with
  | zero => exact .singleton binding
  | succ hops ih =>
      unfold trailFrom
      split
      · rename_i other next
        exact .cons_cons ((holds_iff ok).2 next) (ih other)
      · exact .singleton binding

/-- A trail that is shorter than the number of variables that may be followed has come to its end. -/
theorem trailFrom_ends (index : FileIndex) (hops : Nat) (binding : Binding) :
    (index.trailFrom hops binding).length ≤ hops ∧
      ((index.trailFrom hops binding).length < hops →
        nextHop? index ((index.trailFrom hops binding).getLastD binding) = none) := by
  induction hops generalizing binding with
  | zero => exact ⟨Nat.le_refl 0, fun short => nomatch short⟩
  | succ hops ih =>
      unfold trailFrom
      split
      · rename_i other next
        obtain ⟨bounded, ends⟩ := ih other
        rw [List.length_cons, List.getLastD_cons]
        exact ⟨Nat.succ_le_succ bounded, fun short => ends (Nat.lt_of_succ_lt_succ short)⟩
      · rename_i last
        exact ⟨Nat.zero_le _, fun _ => last⟩

/-- The binding that a trail leads to is what some identifier of the file refers to. -/
theorem exists_reference_of_trail {items : List Item}
    (follows : List.IsChain (build items).Holds (binding :: trail)) (moves : trail ≠ []) :
    ∃ y ∈ (build items).references, (build items).primary? y = some (trail.getLastD binding) := by
  induction trail generalizing binding with
  | nil => exact (moves rfl).elim
  | cons other rest ih =>
      obtain ⟨holds, follows⟩ := List.isChain_cons_cons.1 follows
      rw [List.getLastD_cons]
      cases rest with
      | nil => exact holds.exists_reference
      | cons next behind => exact ih follows (List.cons_ne_nil next behind)

/-- Following a trail leaves what its last binding comes from, with as many fewer variables to
    follow. -/
theorem originWithin_trail (ok : index.WellFormed) (follows : List.IsChain index.Holds (binding :: trail))
    (hops : Nat) :
    originWithin index (trail.length + hops) binding = originWithin index hops (trail.getLastD binding) := by
  induction trail generalizing binding with
  | nil => rw [List.length_nil, Nat.zero_add, List.getLastD_nil]
  | cons other rest ih =>
      obtain ⟨holds, follows⟩ := List.isChain_cons_cons.1 follows
      rw [List.length_cons, Nat.add_right_comm, originWithin_hop ((holds_iff ok).1 holds), ih follows,
        List.getLastD_cons]

/-- A trail that comes to its end within the bound, or that is as long as the bound, leads to what its
    last binding comes from when no variable is followed. -/
theorem originOf_trail (ok : index.WellFormed) (follows : List.IsChain index.Holds (binding :: trail))
    (bounded : trail.length ≤ maxHops)
    (ends : trail.length < maxHops → ∀ other, ¬ index.Holds (trail.getLastD binding) other) :
    originOf index binding = originWithin index 0 (trail.getLastD binding) := by
  obtain ⟨more, isBound⟩ := Nat.exists_eq_add_of_le bounded
  rw [originOf, isBound, originWithin_trail ok follows]
  cases more with
  | zero => rfl
  | succ more =>
      have last : nextHop? index (trail.getLastD binding) = none :=
        Option.eq_none_iff_forall_not_mem.2 fun other next =>
          ends (by omega) other ((holds_iff ok).2 next)
      exact originWithin_stop last (more + 1)

end FileIndex

/-! ### Answers -/

/-- What a binding stands for by itself, when no variable is followed. -/
def standsAlone (w : World) (view : FileView) : Binding → Inquiry (Option Declaration)
  | .imported decl specifier => importedDeclaration w view.file decl specifier
  | binding => return some ((shapeOf? view.index binding).getD (plainDeclaration binding))

theorem standsAlone_of_own (w : World) (view : FileView) {binding : Binding}
    (own : binding.isImported = false) : standsAlone w view binding =
      .done (some ((shapeOf? view.index binding).getD (plainDeclaration binding))) := by
  cases binding with
  | imported => cases own
  | _ => rfl

theorem originWithin_zero_of_own (index : FileIndex) {binding : Binding} (own : binding.isImported = false) :
    originWithin index 0 binding =
      .declared ((shapeOf? index binding).getD (plainDeclaration binding)) := by
  unfold originWithin
  split
  · cases own
  · cases shapeOf? index binding <;> rfl

theorem bindingDeclaration_of_origin {w : World} {view : FileView} {binding last : Binding}
    (origin : originOf view.index binding = originWithin view.index 0 last) :
    bindingDeclaration w view binding = standsAlone w view last := by
  rw [bindingDeclaration, origin]
  cases own : last.isImported with
  | false =>
      rw [originWithin_zero_of_own _ own, standsAlone_of_own _ _ own]
      rfl
  | true =>
      cases last with
      | imported => rfl
      | _ => cases own

variable {program : Program} {file : SourceFile}

/-- A host that reads declarations only answers for a bound identifier by the binding alone that the
    trail of its variables leads to. -/
theorem identifierInquiry_of_trail (built : program.Built) (member : file ∈ program.files) {x : Ident}
    (used : x ∈ (FileIndex.build file.items).references) {binding : Binding} {trail : List Binding}
    (bound : (FileIndex.build file.items).primary? x = some binding)
    (follows : List.IsChain (FileIndex.build file.items).Holds (binding :: trail))
    (bounded : trail.length ≤ maxHops)
    (ends : trail.length < maxHops →
      ∀ other, ¬ (FileIndex.build file.items).Holds (trail.getLastD binding) other) :
    (World.ofProgram program .modules).identifierInquiry x =
      standsAlone (World.ofProgram program .modules) (.ofFile file) (trail.getLastD binding) := by
  have ok : (FileIndex.build file.items).WellFormed := (FileIndex.WellFormed.unlinked _).link
  have located := viewAt?_of_reference built member used .modules
  have primary : (FileView.ofFile file).index.primary? x = some binding := bound
  rw [← bindingDeclaration_of_origin (FileIndex.originOf_trail ok follows bounded ends)]
  simp only [World.identifierInquiry, located]
  simp only [identifierDeclaration, lexicalDeclaration, primary]
  rfl

/-- Where all declarations are remembered together, an answer does not depend on earlier questions. -/
theorem declarationOfIdentifier_after (built : program.Built) (x : Ident) :
    let w := World.ofProgram program .modules
    ∃ answer, ∀ questions, ((w.declarationOfIdentifier x).run (w.memoryAfter questions)).1 = answer := by
  intro w
  have proper : w.Proper := World.ofProgram_proper built .modules
  have oneFormat : program.OneFormat .modules := .inl rfl
  obtain ⟨answer, firm⟩ := World.Firm.run proper oneFormat.unmixed (w.identifierInquiry x)
  exact ⟨answer, fun questions => (firm _ (World.rested_memoryAfter proper questions)).1⟩

/-- All names that lead to the last binding of a trail of at most 16 variables stand for the same,
    whatever was asked before each of them. From every bound name such a trail starts; it is cut only
    after 16 variables, the binding that it leads to alone decides the answer, and if that is no import
    there is an answer at once. -/
theorem declarationOfIdentifier_of_trail (built : program.Built) (member : file ∈ program.files) :
    let w := World.ofProgram program .modules
    let index := FileIndex.build file.items
    (∀ x ∈ index.references, ∀ y ∈ index.references, ∀ binding trail,
      index.primary? x = some binding → List.IsChain index.Holds (binding :: trail) → trail.length ≤ 16 →
      (∀ other, ¬ index.Holds (trail.getLastD binding) other) →
      index.primary? y = some (trail.getLastD binding) →
        w.declarationOfIdentifier x = w.declarationOfIdentifier y ∧
        ∀ before behind, ((w.declarationOfIdentifier x).run (w.memoryAfter before)).1 =
          ((w.declarationOfIdentifier y).run (w.memoryAfter behind)).1) ∧
    ∀ x ∈ index.references, ∀ binding, index.primary? x = some binding →
      ∃ trail, List.IsChain index.Holds (binding :: trail) ∧ trail.length ≤ 16 ∧
        (trail.length < 16 → ∀ other, ¬ index.Holds (trail.getLastD binding) other) ∧
        w.identifierInquiry x = standsAlone w (.ofFile file) (trail.getLastD binding) ∧
        ((trail.getLastD binding).isImported = false → ∀ memory,
          ((w.declarationOfIdentifier x).run memory).1 =
            some ((shapeOf? index (trail.getLastD binding)).getD
              (plainDeclaration (trail.getLastD binding)))) := by
  intro w index
  have ok : index.WellFormed := (FileIndex.WellFormed.unlinked _).link
  constructor
  · intro x usedX y usedY binding trail bound follows bounded ends means
    have onX := identifierInquiry_of_trail built member usedX bound follows bounded fun _ => ends
    have onY := identifierInquiry_of_trail built member usedY means (.singleton _)
      (Nat.zero_le _) fun _ => ends
    have same : w.declarationOfIdentifier x = w.declarationOfIdentifier y := by
      rw [World.declarationOfIdentifier, World.declarationOfIdentifier, onX, onY, List.getLastD_nil]
    refine ⟨same, fun before behind => ?_⟩
    obtain ⟨answer, always⟩ := declarationOfIdentifier_after built y
    rw [same, always, always]
  · intro x used binding bound
    obtain ⟨bounded, ends⟩ := index.trailFrom_ends maxHops binding
    have follows := FileIndex.isChain_trailFrom ok maxHops binding
    have endsThere : (index.trailFrom maxHops binding).length < 16 → ∀ other,
        ¬ index.Holds ((index.trailFrom maxHops binding).getLastD binding) other := by
      intro short other holds
      cases (ends short).symm.trans ((FileIndex.holds_iff ok).1 holds)
    have asks := identifierInquiry_of_trail built member used bound follows bounded endsThere
    refine ⟨index.trailFrom maxHops binding, follows, bounded, endsThere, asks, fun own memory => ?_⟩
    rw [World.declarationOfIdentifier, asks, standsAlone_of_own _ _ own]
    rfl

/-- A file with a trail of 16 variables and a circle of two. -/
def trails : Program :=
  .ofTexts [("/a.js", "var a, b, c, d, e, f, g, h, i, j, k, l, m, n, o, p, q, u, v; " ++
    "a = b; b = c; c = d; d = e; e = f; f = g; g = h; h = i; i = j; j = k; k = l; l = m; m = n; n = o; " ++
    "o = p; p = q; u = v; v = u; a;")]

/-- The first name of the trail stands for what the last one stands for, and those of the circle stand
    for something. -/
theorem declarationOfIdentifier_trails :
    let w := World.ofProgram trails .modules
    ∃ file ∈ trails.files, let index := FileIndex.build file.items
      (∃ x ∈ index.references, ∃ y ∈ index.references, x.name = "a" ∧
        (index.primary? y).map (·.ident.name) = some "q" ∧
        ∀ before behind, ((w.declarationOfIdentifier x).run (w.memoryAfter before)).1 =
          ((w.declarationOfIdentifier y).run (w.memoryAfter behind)).1) ∧
      ∃ x ∈ index.references, x.name = "u" ∧
        (index.primary? x).map (fun binding => (index.trailFrom 16 binding).length) = some 16 ∧
        ∀ memory, ((w.declarationOfIdentifier x).run memory).1.isSome = true := by
  intro w
  have facts : ∃ file ∈ trails.files, let index := FileIndex.build file.items
      (∃ x ∈ index.references, x.name = "a" ∧ (index.primary? x).any (fun binding =>
        let trail := index.trailFrom 16 binding
        trail.length == 16 && (trail.getLastD binding).ident.name == "q" &&
          (nextHop? index (trail.getLastD binding)).isNone) = true) ∧
      (∃ x ∈ index.references, x.name = "u" ∧
        (index.primary? x).map (fun binding => (index.trailFrom 16 binding).length) = some 16) ∧
      ∀ y ∈ index.references, (index.primary? y).all (!·.isImported) = true := by
    rw [trails, Program.ofTexts_eq_ofBytes]
    decide +kernel
  obtain ⟨file, member, ⟨x, usedX, namedX, long⟩, ⟨u, usedU, namedU, circle⟩, own⟩ := facts
  have ok : (FileIndex.build file.items).WellFormed := (FileIndex.WellFormed.unlinked _).link
  have built : trails.Built := .ofTexts _
  obtain ⟨onTrail, always⟩ := declarationOfIdentifier_of_trail built member
  simp only [Option.any_eq_true, Bool.and_eq_true, beq_iff_eq, Option.isNone_iff_eq_none] at long
  obtain ⟨binding, bound, ⟨length, last⟩, ends⟩ := long
  have follows := FileIndex.isChain_trailFrom ok 16 binding
  obtain ⟨y, usedY, means⟩ :=
    FileIndex.exists_reference_of_trail follows (List.ne_nil_of_length_pos (by omega))
  refine ⟨file, member, ⟨x, usedX, y, usedY, namedX, ?_, ?_⟩, u, usedU, namedU, circle, ?_⟩
  · rw [means, Option.map_some, last]
  · exact (onTrail x usedX y usedY binding _ bound follows (Nat.le_of_eq length)
      (fun other holds => nomatch ends.symm.trans ((FileIndex.holds_iff ok).1 holds)) means).2
  · intro memory
    obtain ⟨first, bound, -⟩ := Option.map_eq_some_iff.1 circle
    obtain ⟨trail, follows, -, -, -, answers⟩ := always u usedU first bound
    have inFile : (trail.getLastD first).isImported = false := by
      cases trail with
      | nil => simpa [bound] using own u usedU
      | cons next behind =>
          obtain ⟨y, usedY, means⟩ := FileIndex.exists_reference_of_trail follows (List.cons_ne_nil _ _)
          simpa [means] using own y usedY
    rw [answers inFile memory, Option.isSome_some]

end BundleLens
