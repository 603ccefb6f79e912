/-
Module: BundleLens.Proofs.AliasHops
Layer: Proofs
Purpose: A variable that only receives another name stands for what that name stands for. Variables are
  followed by the scopes of the file alone, a bounded number of times, and the bound makes no difference
  where the way ends within it. A wrapper gives some names a meaning that the scopes do not know: the
  exports of the file and names of other modules. Only these are not handed on to variables that receive
  such names.
Imports: BundleLens.Proofs.AssignedValues, BundleLens.Proofs.ImportAgreement
Main exports: nextHop?, endsWithin, originWithin_eq_of_endsWithin, FileIndex.standsIn,
  FileView.ReadByScopes, declarationOfIdentifier_of_standsIn
-/
import BundleLens.Proofs.AssignedValues
import BundleLens.Proofs.ImportAgreement

namespace BundleLens

/-! ### Ways through variables -/

/-- The binding that is followed next from a binding. One that names a class or an enumeration stands
    for that and leads no further. -/
def nextHop? (index : FileIndex) (binding : Binding) : Option Binding :=
  match shapeOf? index binding with
  | some _ => none
  | none => standsFor? index binding

/-- Whether the way from a binding ends after at most a number of variables. -/
def endsWithin (index : FileIndex) : Nat → Binding → Bool
  | hops, binding =>
    match nextHop? index binding with
    | none => true
    | some other =>
      match hops with
      | 0 => false
      | hops + 1 => endsWithin index hops other

section Ways

variable {index : FileIndex} {binding other : Binding}

/-- What is followed next is another name for a variable that is declared in the file. -/
theorem nextHop?_eq_some (next : nextHop? index binding = some other) :
    binding.isImported = false ∧ shapeOf? index binding = none ∧ standsFor? index binding = some other := by
  unfold nextHop? at next
  split at next
  · cases next
  · rename_i noShape
    refine ⟨?_, noShape, next⟩
    cases binding with
    | imported decl specifier => cases next
    | _ => rfl

/-- One variable is followed: the origin is that of the binding it receives. -/
theorem originWithin_hop (next : nextHop? index binding = some other) (hops : Nat) :
    originWithin index (hops + 1) binding = originWithin index hops other := by
  obtain ⟨own, noShape, alone⟩ := nextHop?_eq_some next
  conv_lhs => unfold originWithin
  split
  · cases own
  · simp only [noShape, alone]

/-- Where no variable is followed the number that may be followed makes no difference. -/
theorem originWithin_stop (last : nextHop? index binding = none) (hops : Nat) :
    originWithin index hops binding = originWithin index 0 binding := by
  cases hops with
  | zero => rfl
  | succ hops =>
      conv_lhs => unfold originWithin
      conv_rhs => unfold originWithin
      unfold nextHop? at last
      split at last
      · rename_i shape
        cases binding <;> simp only [shape]
      · rename_i noShape
        cases binding <;> simp only [noShape, last]

/-- Where the way ends within a number of variables, following more of them changes nothing. -/
theorem originWithin_eq_of_endsWithin {hops : Nat} (ends : endsWithin index hops binding = true)
    (more : Nat) :
    originWithin index (hops + more) binding = originWithin index hops binding := by
  induction hops generalizing binding with
  | zero =>
      unfold endsWithin at ends
      split at ends
      · rename_i last
        rw [originWithin_stop last]
      · cases ends
  | succ hops ih =>
      unfold endsWithin at ends
      split at ends
      · rename_i last
        rw [originWithin_stop last, originWithin_stop last (hops + 1)]
      · rename_i other next
        rw [Nat.add_right_comm, originWithin_hop next, originWithin_hop next]
        exact ih ends

/-- A class or an enumeration is no whole module, and it is not missing. -/
theorem shapeOf?_inFile {found : Declaration} (shape : shapeOf? index binding = some found) :
    found.isMissing = false ∧ found.node.module? = none := by
  have ofClass : ∀ cls : ClassShape,
      cls.toDeclaration.isMissing = false ∧ cls.toDeclaration.node.module? = none := by
    intro cls
    unfold ClassShape.toDeclaration ClassShape.declaration
    cases cls.outer <;> exact ⟨rfl, rfl⟩
  have atRange : ∀ span, classDeclarationAt? index span = some found →
      found.isMissing = false ∧ found.node.module? = none := by
    intro span isClass
    simp only [classDeclarationAt?, bind, Option.bind_eq_some_iff] at isClass
    obtain ⟨number, _, cls, _, same⟩ := isClass
    cases same
    exact ofClass cls
  have ofEnum : ∀ node span, enumDeclaration? index node span = some found → node.module? = none →
      found.isMissing = false ∧ found.node.module? = none := by
    intro node span isEnum inFile
    simp only [enumDeclaration?, bind, Option.bind_eq_some_iff] at isEnum
    obtain ⟨shape, _, same⟩ := isEnum
    cases same
    exact ⟨rfl, inFile⟩
  cases binding with
  | «variable» d id =>
      rcases Option.or_eq_some_iff.1 (by simpa only [shapeOf?, Option.orElse_eq_orElse,
        Option.orElse_eq_or] using shape) with isAlias | ⟨_, isEnum⟩
      · simp only [aliasedDeclaration?, bind, Option.bind_eq_some_iff] at isAlias
        obtain ⟨number, _, cls, _, same⟩ := isAlias
        cases same
        exact ofClass cls
      · exact ofEnum _ _ isEnum rfl
  | function decl => exact atRange _ shape
  | className expr id => exact atRange _ shape
  | param func i p id expression => exact ofEnum _ _ shape rfl
  | _ => cases shape

/-- What a binding comes from in its own file is no whole module, and it is not missing. -/
theorem originWithin_inFile {hops : Nat} {found : Declaration}
    (origin : originWithin index hops binding = .declared found) :
    found.isMissing = false ∧ found.node.module? = none := by
  induction hops generalizing binding with
  | zero =>
      unfold originWithin at origin
      split at origin
      · cases origin
      · split at origin
        · rename_i shape
          cases origin
          exact shapeOf?_inFile shape
        · cases origin
          exact ⟨rfl, by cases binding <;> rfl⟩
  | succ hops ih =>
      cases next : nextHop? index binding with
      | some other =>
          rw [originWithin_hop next] at origin
          exact ih origin
      | none =>
          rw [originWithin_stop next, ← originWithin_stop next hops] at origin
          exact ih origin

end Ways

/-! ### Received names -/

/-- The name that a variable receives: the first bound one among the values that are assigned to it. -/
def FileIndex.receivedName? (index : FileIndex) (d : Declarator) : Option Ident :=
  (index.assignmentsTo d).findSome? fun a => a.value.ident?.filter fun id => (index.primary? id).isSome

/-- Whether an identifier stands in for another one. It refers to a variable without an initial value
    that names no class and no enumeration, and the name that the variable receives is the other one,
    which another binding declares. From there fewer variables lead on than may be followed. -/
def FileIndex.standsIn (index : FileIndex) (x y : Ident) : Bool :=
  match index.primary? x, index.primary? y with
  | some (.variable d id), some other =>
    d.init.isNone && (shapeOf? index (.variable d id)).isNone && index.receivedName? d == some y &&
      other.ident.span != id.span && endsWithin index (maxHops - 1) other
  | _, _ => false

section Received

variable {index : FileIndex} {x y : Ident}

/-- The binding that a variable receives is that of the name it receives. -/
theorem receivedBinding?_eq (index : FileIndex) (d : Declarator) :
    receivedBinding? index d = (index.receivedName? d).bind index.primary? := by
  unfold receivedBinding? FileIndex.receivedName?
  induction index.assignmentsTo d with
  | nil => rfl
  | cons a rest ih =>
      simp only [List.findSome?_cons]
      cases named : a.value.ident? with
      | none => simpa [named] using ih
      | some id =>
          cases bound : index.primary? id with
          | none => simpa [named, bound, Option.filter] using ih
          | some binding => simp [bound, Option.filter]

/-- The origin of a variable that stands in for a name is the origin of the name. -/
theorem originOf_of_standsIn (stands : index.standsIn x y = true) :
    ∃ own other, index.primary? x = some own ∧ index.primary? y = some other ∧
      (∃ d id, own = .variable d id ∧ d.init = none ∧ index.receivedName? d = some y) ∧
      originOf index own = originOf index other := by
  unfold FileIndex.standsIn at stands
  split at stands
  · rename_i d id other bound means
    simp only [Bool.and_eq_true, Option.isNone_iff_eq_none, beq_iff_eq, bne_iff_ne, ne_eq] at stands
    obtain ⟨⟨⟨⟨bare, plain⟩, received⟩, apart⟩, ends⟩ := stands
    refine ⟨_, other, bound, means, ⟨d, id, rfl, bare, received⟩, ?_⟩
    have next : nextHop? index (.variable d id) = some other := by
      have elsewhere : other.ident.span ≠ (Binding.variable d id).ident.span := apart
      simp [nextHop?, plain, standsFor?, Binding.declarator?, bare, receivedBinding?_eq, received, means,
        elsewhere]
    calc originOf index (.variable d id)
        = originWithin index (maxHops - 1) other := originWithin_hop next (maxHops - 1)
      _ = originOf index other := (originWithin_eq_of_endsWithin ends 1).symm
  · cases stands

end Received

/-! ### Meanings given by a wrapper -/

/-- What the wrapper of a file says about an identifier, if it says anything, is what the scopes say:
    the identifier names no other module, and if it is called `exports`, what declares it stands for
    itself. -/
def FileView.ReadByScopes (view : FileView) (host : HostKind) (id : Ident) : Prop :=
  ∀ wrapper binding, view.wrapperFor? host = some wrapper → view.index.primary? id = some binding →
    if id.name = "exports" then
      isFactoryParam wrapper binding = false ∧
        originOf view.index binding = .declared (.concrete binding.node)
    else dependency? wrapper binding = none

section Meanings

variable {w : World} {view : FileView} {id : Ident} {binding : Binding}

theorem FileView.ReadByScopes.of_independent {host : HostKind} (apart : view.readsAsExports host id = false)
    (independent : view.dependencyOf? host id = none) : view.ReadByScopes host id := by
  intro wrapper binding wrapped bound
  have other : id.name ≠ "exports" := by
    simpa [FileView.readsAsExports, wrapped] using apart
  rw [if_neg other]
  simpa [FileView.dependencyOf?, wrapped, bound] using independent

/-- Whether the wrapper of a file names a module by an identifier: the file itself by a parameter that
    is called `exports`, another module by other names. -/
def FileView.namesModule (view : FileView) (host : HostKind) (id : Ident) : Bool :=
  match view.wrapperFor? host, view.index.primary? id with
  | some wrapper, some binding =>
    if id.name = "exports" then isFactoryParam wrapper binding else (dependency? wrapper binding).isSome
  | _, _ => false

/-- A parameter of the factory and a variable that holds a required module stand for themselves by the
    scopes, or for a class or an enumeration. -/
theorem originOf_of_module (index : FileIndex) {wrapper : Wrapper}
    (names : isFactoryParam wrapper binding = true ∨ (dependency? wrapper binding).isSome = true) :
    ∃ own, originOf index binding = .declared own := by
  cases shape : shapeOf? index binding with
  | some own =>
      refine ⟨own, originOf_of_shape ?_ shape⟩
      cases binding <;> first | rfl | cases shape
  | none =>
      cases binding with
      | param func i p id expression => exact ⟨_, originOf_of_plain rfl shape rfl⟩
      | «variable» d id =>
          have held : d.init.isSome = true := by
            cases value : d.init with
            | none => simp [isFactoryParam, dependency?, value] at names
            | some e => rfl
          exact ⟨_, originOf_of_plain rfl shape (by simp [standsFor?, Binding.declarator?, held])⟩
      | _ => simp [isFactoryParam, dependency?] at names

/-- A name for a module is not read by the scopes, though its binding is one of the file. -/
theorem FileView.not_readByScopes_of_namesModule {host : HostKind}
    (names : view.namesModule host id = true) :
    ¬ view.ReadByScopes host id ∧ ∃ binding own, view.index.primary? id = some binding ∧
      originOf view.index binding = .declared own := by
  unfold FileView.namesModule at names
  split at names
  · rename_i wrapper binding wrapped bound
    constructor
    · intro byScopes
      have meant := byScopes wrapper binding wrapped bound
      split at names
      · rename_i named
        rw [if_pos named, names] at meant
        cases meant.1
      · rename_i other
        rw [if_neg other] at meant
        rw [meant] at names
        cases names
    · refine ⟨binding, ?_⟩
      have named : isFactoryParam wrapper binding = true ∨ (dependency? wrapper binding).isSome = true := by
        split at names <;> simp [names]
      obtain ⟨own, origin⟩ := originOf_of_module view.index named
      exact ⟨own, bound, origin⟩
  · cases names

/-- What the wrapper says about a bound identifier that is called `exports`. -/
theorem factoryDeclaration?_named (wrapper : Wrapper) (named : id.name = "exports")
    (bound : view.index.primary? id = some binding) :
    factoryDeclaration? w view wrapper id =
      if isFactoryParam wrapper binding then some (.wholeModule view.file none)
      else some (.concrete binding.node) := by
  simp [factoryDeclaration?, named, bound]

/-- What the wrapper says about any other bound identifier. -/
theorem factoryDeclaration?_unnamed (wrapper : Wrapper) (other : id.name ≠ "exports")
    (bound : view.index.primary? id = some binding) :
    factoryDeclaration? w view wrapper id = (dependency? wrapper binding).map fun found =>
      w.program.moduleDeclaration found.specifier view.file found.node := by
  cases names : dependency? wrapper binding <;> simp [factoryDeclaration?, other, bound, names]

/-- An identifier that is read by the scopes stands for what its binding stands for. -/
theorem FileView.ReadByScopes.identifierDeclaration (byScopes : view.ReadByScopes w.host id)
    (bound : view.index.primary? id = some binding) :
    identifierDeclaration w view id = bindingDeclaration w view binding := by
  have lexical : lexicalDeclaration w view id = bindingDeclaration w view binding := by
    simp only [lexicalDeclaration, bound]
  rw [identifierDeclaration_eq]
  cases wrapped : view.wrapperFor? w.host with
  | none => exact lexical
  | some wrapper =>
      have meant := byScopes wrapper binding wrapped bound
      rw [Option.bind_some]
      split at meant
      · rename_i named
        rw [factoryDeclaration?_named wrapper named bound, meant.1]
        simp [bindingDeclaration, meant.2]
      · rename_i named
        rw [factoryDeclaration?_unnamed wrapper named bound, meant]
        simpa using lexical

/-- The name of another module stands for no declaration of its own file. -/
theorem moduleDeclaration_outside (program : Program) (specifier : String) (file : SourceFile)
    (node : DeclNode) :
    let declared := program.moduleDeclaration specifier file node
    declared.isMissing = true ∨ declared.node.module?.isSome = true := by
  unfold Program.moduleDeclaration
  split
  · exact .inr rfl
  · exact .inl rfl

/-- An identifier that is not read by the scopes stands for something else than its binding comes
    from. -/
theorem identifierDeclaration_of_not_readByScopes (unscoped : ¬ view.ReadByScopes w.host id) :
    ∃ found, identifierDeclaration w view id = .done (some found) ∧
      ∀ binding own, view.index.primary? id = some binding → originOf view.index binding = .declared own →
        found ≠ own := by
  unfold FileView.ReadByScopes at unscoped
  push Not at unscoped
  obtain ⟨wrapper, binding, wrapped, bound, meant⟩ := unscoped
  have asks : ∀ found, factoryDeclaration? w view wrapper id = some found →
      identifierDeclaration w view id = .done (some found) :=
    fun found told => identifierDeclaration_of_factory wrapped told
  split at meant
  · rename_i named
    have told := factoryDeclaration?_named (w := w) wrapper named bound
    cases isParam : isFactoryParam wrapper binding with
    | true =>
        rw [isParam, if_pos rfl] at told
        refine ⟨_, asks _ told, ?_⟩
        intro other own boundToo origin same
        obtain ⟨_, inFile⟩ := originWithin_inFile origin
        rw [← same] at inFile
        cases inFile
    | false =>
        rw [isParam, if_neg Bool.false_ne_true] at told
        refine ⟨_, asks _ told, ?_⟩
        intro other own boundToo origin same
        cases bound.symm.trans boundToo
        exact meant ⟨isParam, by rw [origin, same]⟩
  · rename_i named
    have told := factoryDeclaration?_unnamed (w := w) wrapper named bound
    obtain ⟨found, names⟩ := Option.ne_none_iff_exists'.1 meant
    rw [names] at told
    refine ⟨_, asks _ told, ?_⟩
    intro other own boundToo origin same
    obtain ⟨present, inFile⟩ := originWithin_inFile origin
    rw [← same] at present inFile
    rcases moduleDeclaration_outside w.program found.specifier view.file found.node with missing | whole
    · rw [missing] at present
      cases present
    · rw [inFile] at whole
      cases whole

end Meanings

/-- An identifier that stands in for another one stands for what the other one stands for, as long as no
    wrapper gives one of the two a meaning of its own. Where a wrapper gives the other one such a
    meaning, and by the scopes it comes from its own file, the two never stand for the same. -/
theorem declarationOfIdentifier_of_standsIn {program : Program} (built : program.Built) {file : SourceFile}
    (member : file ∈ program.files) (host : HostKind) {x y : Ident} :
    let w := World.ofProgram program host
    let view := FileView.ofFile file
    x ∈ view.index.references → view.index.standsIn x y = true → view.readsAsExports host x = false →
      (view.ReadByScopes host y → w.declarationOfIdentifier x = w.declarationOfIdentifier y) ∧
      (¬ view.ReadByScopes host y → ∀ binding own, view.index.primary? y = some binding →
        originOf view.index binding = .declared own → ∀ memory,
          ((w.declarationOfIdentifier x).run memory).1 ≠ ((w.declarationOfIdentifier y).run memory).1) := by
  intro w view used stands apart
  obtain ⟨first, other, bound, means, ⟨d, id, isVariable, bare, received⟩, origin⟩ :=
    originOf_of_standsIn stands
  have usedToo : y ∈ view.index.references := by
    obtain ⟨a, assigned, named⟩ := List.exists_of_findSome?_eq_some received
    exact FileIndex.mem_references_of_assigned assigned (Option.filter_eq_some_iff.1 named).1
  have located := viewAt?_of_reference built member used host
  have locatedToo := viewAt?_of_reference built member usedToo host
  have independent : view.dependencyOf? host x = none := by
    cases wrapped : view.wrapperFor? host <;>
      simp [FileView.dependencyOf?, wrapped, bound, isVariable, dependency?, bare]
  have onX : w.identifierInquiry x = bindingDeclaration w view other := by
    simp only [World.identifierInquiry, w, located]
    rw [identifierDeclaration_of_independent bound apart independent]
    simp only [bindingDeclaration, view] at origin ⊢
    rw [origin]
  have onY : w.identifierInquiry y = identifierDeclaration w view y := by
    simp only [World.identifierInquiry, w, locatedToo, view]
  constructor
  · intro byScopes
    rw [World.declarationOfIdentifier, World.declarationOfIdentifier, onX, onY,
      byScopes.identifierDeclaration means]
  · intro unscoped binding own boundToo declared memory
    cases means.symm.trans boundToo
    obtain ⟨found, answered, differs⟩ := identifierDeclaration_of_not_readByScopes (w := w) unscoped
    rw [World.declarationOfIdentifier, World.declarationOfIdentifier, onX, onY, answered,
      bindingDeclaration, declared]
    intro same
    exact differs _ own means declared (Option.some.inj same).symm

/-- A wrapped file whose variables receive a class, a function, each other, the names of another module
    and the exports of the file. -/
def receivers : Program :=
  .ofTexts [("/a.js", "(function (g, f) \x7b typeof exports === 'object' ? f(exports, require('./b')) : " ++
      "f(g, g.b); \x7d(this, function (exports, b) \x7b class K \x7b\x7d function f() \x7b\x7d " ++
      "var c = require('./b'), U, V, W, X, Y, Z; U = K; V = f; W = V; X = b; Y = exports; Z = c; " ++
      "\x7d));"),
    ("/b.js", wrappedText "exports.B = 1;")]

/-- The pairs of identifiers of a file of which the first stands in for the second. -/
def FileIndex.standIns (index : FileIndex) : List (Ident × Ident) :=
  index.references.flatMap fun x => (index.references.filter (index.standsIn x)).map (x, ·)

theorem FileIndex.mem_standIns {index : FileIndex} {x y : Ident} (listed : (x, y) ∈ index.standIns) :
    x ∈ index.references ∧ index.standsIn x y = true := by
  obtain ⟨used, member, inside⟩ := List.mem_flatMap.1 listed
  obtain ⟨other, filtered, same⟩ := List.mem_map.1 inside
  cases same
  exact ⟨member, (List.mem_filter.1 filtered).2⟩

/-- Of the variables there those that receive a class, a function or another variable stand for the same
    as what they receive, and the others do not. -/
theorem declarationOfIdentifier_receivers :
    let w := World.ofProgram receivers .wrappers
    let pairs := receivers.files.flatMap fun file => (FileView.ofFile file).index.standIns
    pairs.map (fun (x, y) => (x.name, y.name)) =
        [("U", "K"), ("V", "f"), ("W", "V"), ("V", "f"), ("X", "b"), ("Y", "exports"), ("Z", "c")] ∧
      ∀ x y, (x, y) ∈ pairs →
        (y.name ∈ ["K", "f", "V"] → w.declarationOfIdentifier x = w.declarationOfIdentifier y) ∧
        (y.name ∈ ["b", "exports", "c"] → ∀ memory,
          ((w.declarationOfIdentifier x).run memory).1 ≠ ((w.declarationOfIdentifier y).run memory).1) := by
  intro w pairs
  have facts : pairs.map (fun (x, y) => (x.name, y.name)) =
        [("U", "K"), ("V", "f"), ("W", "V"), ("V", "f"), ("X", "b"), ("Y", "exports"), ("Z", "c")] ∧
      ∀ file ∈ receivers.files, let view := FileView.ofFile file
        ∀ pair ∈ view.index.standIns, view.readsAsExports .wrappers pair.1 = false ∧
          (pair.2.name ∈ ["K", "f", "V"] → view.readsAsExports .wrappers pair.2 = false ∧
            (view.dependencyOf? .wrappers pair.2).isNone = true) ∧
          (pair.2.name ∈ ["b", "exports", "c"] → view.namesModule .wrappers pair.2 = true) := by
    unfold pairs
    rw [receivers, Program.ofTexts_eq_ofBytes]
    decide +kernel
  refine ⟨facts.1, ?_⟩
  intro x y listed
  obtain ⟨file, member, inside⟩ := List.mem_flatMap.1 listed
  obtain ⟨apart, plain, special⟩ := facts.2 file member (x, y) inside
  obtain ⟨used, stands⟩ := FileIndex.mem_standIns inside
  obtain ⟨same, differ⟩ :=
    declarationOfIdentifier_of_standsIn (.ofTexts _) member .wrappers used stands apart
  constructor
  · intro named
    obtain ⟨unread, independent⟩ := plain named
    exact same (.of_independent unread (Option.isNone_iff_eq_none.1 independent))
  · intro named
    obtain ⟨unscoped, binding, own, bound, origin⟩ :=
      FileView.not_readByScopes_of_namesModule (special named)
    exact differ unscoped binding own bound origin

/-- A variable that receives the name of another module or of the exports of the file does not stand for
    the module that the name stands for. -/
theorem declarationOfIdentifier_lostModules :
    let w := World.ofProgram receivers .wrappers
    let module? := fun id => ((w.declarationOfIdentifier id).run .empty).1.bind (·.node.module?)
    ∀ name ∈ ["b", "exports", "c"], ∃ file ∈ receivers.files,
      ((FileView.ofFile file).wrapperFor? .wrappers).isSome = true ∧
      ∃ pair ∈ (FileView.ofFile file).index.standIns, pair.2.name = name ∧
        (module? pair.1).isNone = true ∧ (module? pair.2).isSome = true := by
  rw [receivers, Program.ofTexts_eq_ofBytes]
  decide +kernel

end BundleLens
