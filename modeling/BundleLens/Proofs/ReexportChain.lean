/-
Module: BundleLens.Proofs.ReexportChain
Layer: Proofs
Purpose: Chains of files that pass a name on. Whatever is passed on is the declaration that the last
  file gives the name, node, kind and meaning included; only the module name that it was reached by is
  noted on the way, and the one of the hop nearest to the declaration is kept. A module notes bare
  names, a wrapped file notes a bare name or the path of the file it copies. When the table of the first
  file is made, the tables of the files in front of a hop are in the making; so what a hop passes on is
  read off then.
Imports: BundleLens.Proofs.TableParts, BundleLens.Proofs.Wildcard
Main exports: Hop, Item.passed?, World.hop?, World.Owns, World.Chain, World.gives?_of_hop,
  World.Chain.get?_tableAmid, get?_of_chain
-/
import BundleLens.Proofs.TableParts
import BundleLens.Proofs.Wildcard

namespace BundleLens

/-! ### Hops -/

/-- A hop of a chain: a file passes a name on that the target exports under an inner name. -/
structure Hop where
  file : SourceFile
  name : String
  target : SourceFile
  inner : String
  /-- Whether the file is wrapped and copies all exports. -/
  wildcard : Bool
  /-- The bare module name that the target is reached by, if there is one. -/
  bare : Option String

/-- The module name that a hop notes: a module notes bare names only, a wrapped file also the path of
    the target, without its ending. -/
def Hop.via (hop : Hop) : Option String :=
  if hop.wildcard then some (hop.bare.getD hop.target.stem) else hop.bare

namespace ExportSpecifier

/-- The name that an entry of an export list with a source exports. -/
def outerName? : ExportSpecifier → Option String
  | .named name exported => (exported.getD name).text?
  | .whole exported => exported.text?

/-- The name of the other module that it exports; a whole module has none. -/
def innerName? : ExportSpecifier → Option String
  | .named name _ => name.text?
  | .whole _ => none

end ExportSpecifier

/-- The source of an item that passes a name on, and the name that it takes there. A copy of all exports
    passes every name on but that of the default export; of several entries of a list the last
    counts. -/
def Item.passed? (name : String) : Item → Option (Option String × String)
  | .exportAll source => if name = "default" then none else some (source, name)
  | .exportFrom specifiers source => do
    let specifier ← specifiers.reverse.find? (·.outerName? == some name)
    return (source, ← specifier.innerName?)
  | _ => none

namespace World

/-- The hop by which a part passes a name on, while the table of its file is being made and those of the
    open files too. -/
def hop? (w : World) (opened : List Nat) (file : SourceFile) (name : String) : TablePart → Option Hop
  | .item i => do
    let (source, inner) ← i.passed? name
    let (specifier, target) ← w.sourceModule? file source
    return ⟨file, name, target, inner, false, bareName? specifier⟩
  | .statement s => do
    let source ← s.wildcard?
    let (target, bare) ← (wildcardTarget w (.ofFile file) source).answer (w.tableAmid (file.id :: opened))
    return ⟨file, name, target, name, true, bare⟩

/-- Parts that give a name nothing amid open files. Where only declarations are read it is enough that
    they give it nothing when their own file alone is open. -/
def Silent (w : World) (opened : List Nat) (file : SourceFile) (name : String) (parts : List TablePart) :
    Prop :=
  ∀ part ∈ parts, w.gives? opened file name part = none ∨
    w.host = .modules ∧ w.gives? [] file name part = none

/-- A file has a declaration of its own for a name: the last part that gives the name anything gives the
    declaration, be the open files open or not. -/
def Owns (w : World) (opened : List Nat) (file : SourceFile) (name : String) (d : Declaration) : Prop :=
  ∃ before part behind, (FileView.ofFile file).tableParts w.host = before ++ part :: behind ∧
    w.gives? [] file name part = some d ∧ (∀ later ∈ behind, w.gives? [] file name later = none) ∧
    w.gives? opened file name part = some d ∧ w.Silent opened file name behind

/-- A chain of files amid open ones, all different: each passes a name on by one part, behind which no
    part gives the name anything, and the last file has a declaration of its own. -/
inductive Chain (w : World) (last : SourceFile) (inner : String) (d : Declaration) :
    List Nat → SourceFile → String → List Hop → Prop where
  | own {opened : List Nat} (owns : w.Owns opened last inner d) : Chain w last inner d opened last inner []
  | hop {opened : List Nat} {before behind : List TablePart} {part : TablePart} {hop : Hop}
      {hops : List Hop}
      (split : (FileView.ofFile hop.file).tableParts w.host = before ++ part :: behind)
      (passes : w.hop? opened hop.file hop.name part = some hop)
      (silent : w.Silent opened hop.file hop.name behind)
      (inside : hop.target ∈ w.program.files)
      (apart : hop.target.id ∉ hop.file.id :: opened)
      (rest : Chain w last inner d (hop.file.id :: opened) hop.target hop.inner hops) :
      Chain w last inner d opened hop.file hop.name (hop :: hops)

end World

/-! ### What a hop passes on -/

theorem Declaration.inheritVia_eq (d : Declaration) (via : Option String) :
    d.inheritVia via = { d with via := d.via.or via } := by
  obtain ⟨kind, node, known, own⟩ := d
  cases own <;> rfl

theorem lookup_entryOf (outer : Option String) (d : Option Declaration) (name : String) :
    (entryOf outer d).reverse.lookup name = if outer = some name then d else none := by
  cases outer with
  | none => rfl
  | some key =>
      cases d with
      | none => simp [entryOf]
      | some d =>
          by_cases same : name = key
          · simp [entryOf, same]
          · simp [entryOf, List.lookup_cons, beq_eq_false_iff_ne.2 same, Ne.symm same]

theorem findSome?_of_find? {α β : Type} {p : α → Bool} {f : α → Option β} {xs : List α} {x : α} {y : β}
    (only : ∀ z, p z = false → f z = none) (found : xs.find? p = some x) (value : f x = some y) :
    xs.findSome? f = some y := by
  obtain ⟨_, before, behind, split, others⟩ := List.find?_eq_some_iff_append.1 found
  refine List.findSome?_eq_some_iff.2 ⟨before, x, behind, split, value, ?_⟩
  intro z inside
  exact only z (by simpa using others z inside)

theorem stmtExports_of_wildcard? {w : World} {view : FileView} {s : Stmt} {source : Expr}
    (copies : s.wildcard? = some source) : stmtExports w view s = wildcardExports w view source := by
  have assigned : s.exportsAssignment? = none := by
    cases found : s.exportsAssignment? with
    | none => rfl
    | some assignment =>
        rw [(Stmt.others_of_exportsAssignment? found).2.1] at copies
        cases copies
  have defined : s.reexport? = none := by
    cases found : s.reexport? with
    | none => rfl
    | some reexport =>
        rw [(Stmt.others_of_reexport? found).1] at copies
        cases copies
  simp only [stmtExports, assigned, defined, copies]

section Hops

variable {w : World} {opened : List Nat} {file : SourceFile} {name : String} {part : TablePart} {hop : Hop}
  {table : ExportTable} {d : Declaration}

theorem lookup_foreignSpecifier {specifier : ExportSpecifier} {inner : String} (target : SourceFile)
    (via : Option String) (takes : specifier.innerName? = some inner)
    (outer : specifier.outerName? = some name) (entry : table.get? inner = some d) :
    (foreignSpecifier target via (some table) specifier).reverse.lookup name = some (d.inheritVia via) := by
  cases specifier with
  | whole exported => cases takes
  | named own exported =>
      simp only [ExportSpecifier.innerName?] at takes
      simp only [ExportSpecifier.outerName?] at outer
      simp only [foreignSpecifier, lookup_entryOf, outer, if_true, takes, Option.bind_eq_bind,
        Option.bind_some, entry, Option.map_some]

theorem lookup_foreignSpecifier_of_other {specifier : ExportSpecifier} (target : SourceFile)
    (via : Option String) (found : Option ExportTable) (other : specifier.outerName? ≠ some name) :
    (foreignSpecifier target via found specifier).reverse.lookup name = none := by
  cases specifier <;> exact (lookup_entryOf _ _ name).trans (if_neg other)

theorem World.hop?_item {i : Item} (passes : w.hop? opened file name (.item i) = some hop) :
    ∃ source specifier, i.passed? name = some (source, hop.inner) ∧
      w.sourceModule? file source = some (specifier, hop.target) ∧
      hop = ⟨file, name, hop.target, hop.inner, false, bareName? specifier⟩ := by
  obtain ⟨⟨source, inner⟩, passed, rest⟩ := Option.bind_eq_some_iff.1 passes
  obtain ⟨⟨specifier, target⟩, module, same⟩ := Option.bind_eq_some_iff.1 rest
  cases same
  exact ⟨source, specifier, passed, module, rfl⟩

theorem World.hop?_statement {s : Stmt} (passes : w.hop? opened file name (.statement s) = some hop) :
    ∃ source, s.wildcard? = some source ∧
      (wildcardTarget w (.ofFile file) source).answer (w.tableAmid (file.id :: opened)) =
        some (hop.target, hop.bare) ∧
      hop = ⟨file, name, hop.target, name, true, hop.bare⟩ := by
  obtain ⟨source, copies, rest⟩ := Option.bind_eq_some_iff.1 passes
  obtain ⟨⟨target, bare⟩, aimed, same⟩ := Option.bind_eq_some_iff.1 rest
  cases same
  exact ⟨source, copies, aimed, rfl⟩

/-- An item that passes a name on copies all exports of its source, or it lists the name last by an
    entry that takes the inner name. -/
theorem Item.passed?_cases {i : Item} {source : Option String} {inner : String}
    (passed : i.passed? name = some (source, inner)) :
    (i = .exportAll source ∧ inner = name ∧ name ≠ "default") ∨
      ∃ specifiers chosen, i = .exportFrom specifiers source ∧
        specifiers.reverse.find? (·.outerName? == some name) = some chosen ∧
        chosen.outerName? = some name ∧ chosen.innerName? = some inner := by
  cases i with
  | exportAll starred =>
      simp only [passed?] at passed
      split at passed
      · cases passed
      · rename_i named
        cases passed
        exact .inl ⟨rfl, rfl, named⟩
  | exportFrom specifiers listed =>
      obtain ⟨chosen, found, takes⟩ := Option.bind_eq_some_iff.1 passed
      obtain ⟨own, innerName, same⟩ := Option.bind_eq_some_iff.1 takes
      cases same
      have outer := List.find?_some found
      exact .inr ⟨specifiers, chosen, rfl, found, beq_iff_eq.1 outer, innerName⟩
  | _ => cases passed

/-- A hop passes on what its target has for the inner name, and notes its module name. -/
theorem World.gives?_of_hop (passes : w.hop? opened file name part = some hop)
    (apart : hop.target.id ≠ file.id)
    (made : w.tableAmid (file.id :: opened) hop.target.id = some table)
    (entry : table.get? hop.inner = some d) :
    w.gives? opened file name part = some (d.inheritVia hop.via) := by
  have view : (FileView.ofFile file).file = file := rfl
  cases part with
  | item i =>
      obtain ⟨source, specifier, passed, module, shape⟩ := hop?_item passes
      have via : hop.via = bareName? specifier := by
        rw [shape]
        rfl
      unfold gives?
      rcases Item.passed?_cases passed with
        ⟨rfl, inner, named⟩ | ⟨specifiers, chosen, rfl, found, outer, takes⟩
      · simp only [TablePart.exports, itemExports, view, module, Inquiry.answer_bind,
          Inquiry.answer_tableOf, made]
        refine (lookup_copies (tableAmid_nodup made) (bareName? specifier) name).trans ?_
        rw [if_neg named, ← inner, entry, via]
        rfl
      · simp only [TablePart.exports, itemExports, view, module, Inquiry.answer_bind,
          Inquiry.answer_tableOf, made, Inquiry.pure_eq_done, Inquiry.answer_done]
        rw [List.flatMap_def, lookup_reverse_flatten, ← List.map_reverse, List.findSome?_map, via]
        refine findSome?_of_find? (fun other apart => ?_) found
          (lookup_foreignSpecifier hop.target (bareName? specifier) takes outer entry)
        exact lookup_foreignSpecifier_of_other hop.target _ _ (by simpa using apart)
  | statement s =>
      obtain ⟨source, copies, aimed, shape⟩ := hop?_statement passes
      have inner : hop.inner = name := by rw [shape]
      have via : hop.via = some (hop.bare.getD hop.target.stem) := by
        rw [shape]
        rfl
      have other : (hop.target.id == file.id) = false := beq_eq_false_iff_ne.2 apart
      unfold gives?
      simp only [TablePart.exports, stmtExports_of_wildcard? copies, wildcardExports, Inquiry.answer_bind,
        aimed, view, other, Bool.false_eq_true, if_false, Inquiry.answer_tableOf, made]
      refine (lookup_reverse_map (tableAmid_nodup made)
        (fun d : Declaration => d.inheritVia (some (hop.bare.getD hop.target.stem))) name).trans ?_
      show (table.get? name).map _ = _
      rw [← inner, entry, via]
      rfl

/-- A part that passes a name on asks for the table of the target. -/
theorem World.asks_of_hop (passes : w.hop? opened file name part = some hop)
    (apart : hop.target.id ≠ file.id) :
    hop.target.id ∈ (part.exports w (.ofFile file)).asked (w.tableAmid (file.id :: opened)) := by
  have view : (FileView.ofFile file).file = file := rfl
  cases part with
  | item i =>
      obtain ⟨source, specifier, passed, module, _⟩ := hop?_item passes
      rcases Item.passed?_cases passed with ⟨rfl, _⟩ | ⟨specifiers, _, rfl, _⟩
      · simp only [TablePart.exports, itemExports, view, module]
        exact List.mem_cons_self
      · simp only [TablePart.exports, itemExports, view, module]
        exact List.mem_cons_self
  | statement s =>
      obtain ⟨source, copies, aimed, _⟩ := hop?_statement passes
      have other : (hop.target.id == file.id) = false := beq_eq_false_iff_ne.2 apart
      simp only [TablePart.exports, stmtExports_of_wildcard? copies, wildcardExports, Inquiry.asked_bind,
        aimed, view, other, Bool.false_eq_true, if_false]
      exact List.mem_append_right _ List.mem_cons_self

end Hops

/-! ### Chains -/

section Chains

variable {program : Program} {host : HostKind} {first last : SourceFile} {name inner : String}
  {d : Declaration} {opened : List Nat} {hops : List Hop}

/-- Parts that are silent amid open files give nothing there. -/
theorem World.Silent.gives?_eq_none {file : SourceFile} {parts : List TablePart}
    (silent : (World.ofProgram program host).Silent opened file name parts)
    (within : parts ⊆ (FileView.ofFile file).tableParts host) :
    ∀ part ∈ parts, (World.ofProgram program host).gives? opened file name part = none := by
  intro part inside
  rcases silent part inside with amid | ⟨reads, alone⟩
  · exact amid
  · cases (show host = .modules from reads)
    exact World.gives?_eq_none_of_alone (within inside) alone

/-- If a part of a file gives a name a declaration and the parts behind it are silent, then that is what
    the name stands for in the table. -/
theorem World.Silent.get?_tableAmid (built : program.Built) {file : SourceFile}
    (member : file ∈ program.files) (closed : file.id ∉ opened) {before behind : List TablePart}
    {part : TablePart} (split : (FileView.ofFile file).tableParts host = before ++ part :: behind)
    (given : (World.ofProgram program host).gives? opened file name part = some d)
    (silent : (World.ofProgram program host).Silent opened file name behind) :
    ∃ table, (World.ofProgram program host).tableAmid opened file.id = some table ∧
      table.get? name = some d := by
  have inside : part ∈ (FileView.ofFile file).tableParts host := by
    rw [split]
    exact List.mem_append_right before List.mem_cons_self
  have within : behind ⊆ (FileView.ofFile file).tableParts host := by
    intro later here
    rw [split]
    exact List.mem_append_right before (List.mem_cons_of_mem part here)
  obtain ⟨table, made, entries⟩ := World.exists_tableAmid built member closed inside given
  refine ⟨table, made, ?_⟩
  rw [entries]
  exact World.findSome?_gives?_of_last split given (silent.gives?_eq_none within)

/-- While the open files are open, the first file of a chain has the declaration of the last one, with
    the module name that is noted nearest to it. -/
theorem World.Chain.get?_tableAmid (built : program.Built)
    (chain : (World.ofProgram program host).Chain last inner d opened first name hops)
    (member : first ∈ program.files) (closed : first.id ∉ opened) :
    ∃ table, (World.ofProgram program host).tableAmid opened first.id = some table ∧
      table.get? name = some { d with via := d.via.or (hops.reverse.findSome? Hop.via) } := by
  induction chain with
  | own owns =>
      obtain ⟨before, part, behind, split, _, _, given, silent⟩ := owns
      rw [List.reverse_nil, List.findSome?_nil, Option.or_none]
      exact silent.get?_tableAmid built member closed split given
  | @hop opened before behind part hop hops split passes silent inside apart rest ih =>
      obtain ⟨below, madeBelow, entry⟩ := ih inside apart
      have other : hop.target.id ≠ hop.file.id := fun same => apart (same ▸ List.mem_cons_self)
      have given := World.gives?_of_hop passes other madeBelow entry
      rw [Declaration.inheritVia_eq] at given
      have noted : (d.via.or (hops.reverse.findSome? Hop.via)).or hop.via =
          d.via.or ((hop :: hops).reverse.findSome? Hop.via) := by
        rw [Option.or_assoc, List.reverse_cons, List.findSome?_append, List.findSome?_singleton]
      rw [← noted]
      exact silent.get?_tableAmid built member closed split given

/-- The first file of a chain leads to the last one. -/
theorem World.Chain.leads (built : program.Built)
    (chain : (World.ofProgram program host).Chain last inner d opened first name hops)
    (member : first ∈ program.files) (closed : first.id ∉ opened) :
    (World.ofProgram program host).Leads first.id last.id ∧ last ∈ program.files := by
  induction chain with
  | own => exact ⟨.refl _, member⟩
  | @hop opened before behind part hop hops split passes silent inside apart rest ih =>
      obtain ⟨leads, lastInside⟩ := ih inside apart
      obtain ⟨below, madeBelow, entry⟩ := rest.get?_tableAmid built inside apart
      have other : hop.target.id ≠ hop.file.id := fun same => apart (same ▸ List.mem_cons_self)
      have here : part ∈ (FileView.ofFile hop.file).tableParts host := by
        rw [show (FileView.ofFile hop.file).tableParts host = _ from split]
        exact List.mem_append_right before List.mem_cons_self
      obtain ⟨recipe, found⟩ := World.exists_recipe?_of_gives built member here
        (World.gives?_of_hop passes other madeBelow entry)
      have steps := FileView.steps_of_recipe? ((World.recipe?_of_mem built host member).symm.trans found)
      have asks : hop.target.id ∈
          recipe.steps.asked ((World.ofProgram program host).tableAmid (hop.file.id :: opened)) := by
        rw [steps, Inquiry.asked_bind]
        exact List.mem_append_left _ (Inquiry.mem_asked_mapM here (World.asks_of_hop passes other))
      exact ⟨(World.reads_of_asked found asks).leads.trans leads, lastInside⟩

theorem World.Chain.exists_owns {w : World} (chain : w.Chain last inner d opened first name hops) :
    ∃ among, w.Owns among last inner d := by
  induction chain with
  | own owns => exact ⟨_, owns⟩
  | hop _ _ _ _ _ _ ih => exact ih

/-- A declaration of its own is what the name stands for in the file's own table. -/
theorem World.Owns.get?_tableAmid (built : program.Built) (member : last ∈ program.files)
    (owns : (World.ofProgram program host).Owns opened last inner d) :
    ∃ table, (World.ofProgram program host).tableAmid [] last.id = some table ∧
      table.get? inner = some d := by
  obtain ⟨before, part, behind, split, given, silent, _⟩ := owns
  have alone : (World.ofProgram program host).Silent [] last inner behind :=
    fun later inside => .inl (silent later inside)
  exact alone.get?_tableAmid built member List.not_mem_nil split given

/-- The last hop of a chain leads to its last file. -/
theorem World.Chain.last_eq {w : World} (chain : w.Chain last inner d opened first name hops) :
    last = (hops.getLast?.map (·.target)).getD first := by
  induction chain with
  | own => rfl
  | @hop opened before behind part hop hops split passes silent inside apart rest ih =>
      rw [ih, List.getLast?_cons]
      cases hops.getLast? <;> rfl

/-- Modules note the bare names of their hops only. -/
theorem findSome?_via_of_modules (plain : ∀ hop ∈ hops, hop.wildcard = false) :
    hops.findSome? Hop.via = hops.findSome? (·.bare) := by
  induction hops with
  | nil => rfl
  | cons hop rest ih =>
      have here : hop.via = hop.bare := by
        simp [Hop.via, plain hop List.mem_cons_self]
      rw [List.findSome?_cons, List.findSome?_cons, here, ih fun next later =>
        plain next (List.mem_cons_of_mem hop later)]

end Chains

/-! ### Finding chains -/

/-- Whether an answer is found without a question. -/
def Inquiry.isDone {α : Type} : Inquiry α → Bool
  | .done _ => true
  | _ => false

/-- Whether a part names the module that it copies, so that no table is asked for to find it. -/
def TablePart.namesModule (host : HostKind) (file : SourceFile) : TablePart → Bool
  | .item _ => true
  | .statement s => host == .wrappers && s.wildcard?.any fun source =>
    (file.wildcardSpecifier? source).isSome && !source.isNamed "exports"

namespace World

/-- Whether parts are seen to give a name nothing amid open files. -/
def silent? (w : World) (opened : List Nat) (file : SourceFile) (name : String) (parts : List TablePart) :
    Bool :=
  parts.all fun part => (w.gives? opened file name part).isNone

/-- Whether the part at a place gives a name a declaration without a question, and the parts behind it
    nothing. -/
def owns? (w : World) (opened : List Nat) (file : SourceFile) (name : String) (place : Nat) : Bool :=
  let parts := (FileView.ofFile file).tableParts w.host
  (parts[place]?.any fun part =>
      (part.exports w (.ofFile file)).isDone && (w.gives? [] file name part).isSome) &&
    w.silent? [] file name (parts.drop (place + 1)) && w.silent? opened file name (parts.drop (place + 1))

/-- The hop by which the part at a place passes a name on to a file that is not open, if the parts
    behind it give the name nothing. -/
def hopAt? (w : World) (opened : List Nat) (file : SourceFile) (name : String) (place : Nat) :
    Option Hop := do
  let parts := (FileView.ofFile file).tableParts w.host
  let part ← parts[place]?
  let hop ← w.hop? opened file name part
  if part.namesModule w.host file && hop.target.id ∉ file.id :: opened &&
      w.silent? opened file name (parts.drop (place + 1)) then
    return hop
  else none

/-- The hops of a chain, its last file and the name there, by the places of the parts that pass the name
    on and of the one that declares it. -/
def chain? (w : World) :
    List Nat → List Nat → SourceFile → String → Option (List Hop × SourceFile × String)
  | [], _, _, _ => none
  | [place], opened, file, name => if w.owns? opened file name place then some ([], file, name) else none
  | place :: places, opened, file, name => do
    let hop ← w.hopAt? opened file name place
    let (hops, last, inner) ← w.chain? places (file.id :: opened) hop.target hop.inner
    return (hop :: hops, last, inner)

end World

section Finding

variable {w : World} {program : Program} {host : HostKind} {file : SourceFile} {name : String}
  {opened others : List Nat} {part : TablePart} {place : Nat} {hop : Hop}

/-- What is given without a question is the same whichever files are open. -/
theorem World.gives?_of_isDone (done : (part.exports w (.ofFile file)).isDone = true) :
    w.gives? opened file name part = w.gives? others file name part := by
  unfold gives?
  cases found : part.exports w (.ofFile file) with
  | done entries => rfl
  | table _ _ | unfinished _ _ =>
      rw [found] at done
      cases done

theorem World.silent_of_silent? {parts : List TablePart} (shown : w.silent? opened file name parts = true) :
    ∀ part ∈ parts, w.gives? opened file name part = none := by
  intro part inside
  exact Option.isNone_iff_eq_none.1 (List.all_eq_true.1 shown part inside)

theorem split_at_place {α : Type} {xs : List α} {x : α} (found : xs[place]? = some x) :
    xs = xs.take place ++ x :: xs.drop (place + 1) := by
  obtain ⟨inside, here⟩ := List.getElem?_eq_some_iff.1 found
  rw [← here, ← List.drop_eq_getElem_cons inside, List.take_append_drop]

theorem World.owns_of_owns? (shown : w.owns? opened file name place = true) :
    ∃ d, w.Owns opened file name d := by
  simp only [owns?, Bool.and_eq_true, Option.any_eq_true] at shown
  obtain ⟨⟨⟨part, found, done, known⟩, alone⟩, amid⟩ := shown
  obtain ⟨d, given⟩ := Option.isSome_iff_exists.1 known
  refine ⟨d, _, part, _, split_at_place found, given, silent_of_silent? alone, ?_, ?_⟩
  · rw [gives?_of_isDone done, given]
  · exact fun later inside => .inl (silent_of_silent? amid later inside)

/-- A statement that names the module it copies is a hop to that module, by its bare name if it has
    one. -/
theorem World.hop?_of_named {wrapper : Wrapper} {s : Stmt} {source : Expr} {specifier : String}
    (wrapped : file.wrapper? = some wrapper) (reads : w.host = .wrappers)
    (copies : s.wildcard? = some source) (apart : source.isNamed "exports" = false)
    (meant : file.wildcardSpecifier? source = some specifier) :
    w.hop? opened file name (.statement s) = (w.program.resolve? specifier file).map fun target =>
      ⟨file, name, target, name, true, bareName? specifier⟩ := by
  simp only [hop?, copies, Option.bind_eq_bind, Option.bind_some,
    wildcardTarget_eq wrapped reads apart meant, Inquiry.answer_done]
  cases w.program.resolve? specifier file <;> rfl

/-- The target of a hop by a part that names its module is a file of the program. -/
theorem World.target_mem_of_hop (inside : part ∈ (FileView.ofFile file).tableParts host)
    (named : part.namesModule host file = true)
    (passes : (World.ofProgram program host).hop? opened file name part = some hop) :
    hop.target ∈ program.files := by
  cases part with
  | item i =>
      obtain ⟨source, specifier, _, module, _⟩ := hop?_item passes
      obtain ⟨text, _, resolved⟩ := Option.bind_eq_some_iff.1 module
      obtain ⟨found, resolved, same⟩ := Option.bind_eq_some_iff.1 resolved
      cases same
      exact Program.mem_of_resolve? resolved
  | statement s =>
      obtain ⟨source, copies, _⟩ := hop?_statement passes
      simp only [TablePart.namesModule, copies, Option.any_some, Bool.and_eq_true, beq_iff_eq,
        Bool.not_eq_true'] at named
      obtain ⟨rfl, meant, apart⟩ := named
      obtain ⟨specifier, meant⟩ := Option.isSome_iff_exists.1 meant
      cases wrapped : file.wrapper? with
      | none =>
          unfold FileView.tableParts at inside
          rw [show (FileView.ofFile file).wrapperFor? .wrappers = none from wrapped] at inside
          obtain ⟨_, _, same⟩ := List.mem_map.1 inside
          cases same
      | some wrapper =>
          rw [World.hop?_of_named wrapped rfl copies apart meant] at passes
          obtain ⟨found, resolved, same⟩ := Option.map_eq_some_iff.1 passes
          cases same
          exact Program.mem_of_resolve? resolved

theorem World.source_of_hop (passes : w.hop? opened file name part = some hop) :
    hop.file = file ∧ hop.name = name := by
  cases part with
  | item i =>
      obtain ⟨_, _, _, _, shape⟩ := hop?_item passes
      rw [shape]
      exact ⟨rfl, rfl⟩
  | statement s =>
      obtain ⟨_, _, _, shape⟩ := hop?_statement passes
      rw [shape]
      exact ⟨rfl, rfl⟩

/-- What is found is a chain. -/
theorem World.chain_of_chain? {places : List Nat} {hops : List Hop} {last : SourceFile} {inner : String}
    (found : (World.ofProgram program host).chain? places opened file name = some (hops, last, inner)) :
    ∃ d, (World.ofProgram program host).Chain last inner d opened file name hops := by
  fun_induction World.chain? _ places opened file name generalizing hops last inner with
  | case1 => cases found
  | case2 place opened file name owned =>
      cases found
      obtain ⟨d, owns⟩ := World.owns_of_owns? owned
      exact ⟨d, .own owns⟩
  | case3 => cases found
  | case4 place places opened file name more ih =>
      obtain ⟨hop, here, rest⟩ := Option.bind_eq_some_iff.1 found
      obtain ⟨⟨others, _, _⟩, below, same⟩ := Option.bind_eq_some_iff.1 rest
      cases same
      obtain ⟨d, chain⟩ := ih hop below
      obtain ⟨part, inside, rest⟩ := Option.bind_eq_some_iff.1 here
      obtain ⟨next, passes, checked⟩ := Option.bind_eq_some_iff.1 rest
      split at checked
      · rename_i conditions
        cases checked
        simp only [Bool.and_eq_true, decide_eq_true_eq] at conditions
        obtain ⟨⟨named, apart⟩, silent⟩ := conditions
        obtain ⟨rfl, rfl⟩ := World.source_of_hop passes
        have split := split_at_place inside
        have member := World.target_mem_of_hop (List.mem_of_getElem? inside) named passes
        exact ⟨d, .hop split passes (fun later after => .inl (World.silent_of_silent? silent later after))
          member apart chain⟩
      · cases checked

end Finding

/-- A name that is passed on by a chain of different files, of whatever formats and with whatever
    renaming, stands for the declaration that the last file has of its own: after any questions the
    entry in the table of the first file has the same kind with the same members, the same node and the
    same meaning, and its module name is the one noted by the hop nearest to the declaration, unless the
    declaration has one already. If all files are modules then that is the bare name nearest to the last
    file, if there is one; if all are wrapped then it is that of the last hop, or the path of the last
    file without its ending. -/
theorem get?_of_chain {program : Program} (built : program.Built) {host : HostKind}
    {first last : SourceFile} (member : first ∈ program.files)
    (unmixed : host ≠ .modules → (World.ofProgram program host).Unmixed first.id) {name inner : String}
    {d : Declaration} {hops : List Hop}
    (chain : (World.ofProgram program host).Chain last inner d [] first name hops)
    (questions : List Question) :
    let w := World.ofProgram program host
    let noted := hops.reverse.findSome? Hop.via
    (∃ table, ((w.exportsOf last).run (w.memoryAfter questions)).1 = some table ∧
      table.get? inner = some d) ∧
    (∃ table, ((w.exportsOf first).run (w.memoryAfter questions)).1 = some table ∧
      table.get? name = some { d with via := d.via.or noted }) ∧
    ((∀ hop ∈ hops, hop.wildcard = false) → noted = hops.reverse.findSome? (·.bare)) ∧
    ((∀ hop ∈ hops, hop.wildcard = true) → ∀ into ∈ hops.getLast?,
      noted = some (into.bare.getD last.stem)) := by
  intro w noted
  have proper : w.Proper := World.ofProgram_proper built host
  have rested := World.rested_memoryAfter proper questions
  have sound : w.Unmixed first.id := by
    by_cases declared : host = .modules
    · exact Program.OneFormat.unmixed (.inl declared) first.id
    · exact unmixed declared
  obtain ⟨leads, lastInside⟩ := chain.leads built member List.not_mem_nil
  refine ⟨?_, ?_, ?_, ?_⟩
  · obtain ⟨among, owns⟩ := chain.exists_owns
    obtain ⟨table, made, entry⟩ := owns.get?_tableAmid built lastInside
    have fresh := World.exportsOf_eq_fresh proper rested (sound.leads leads)
    exact ⟨table, fresh.trans made, entry⟩
  · obtain ⟨table, made, entry⟩ := chain.get?_tableAmid built member List.not_mem_nil
    have fresh := World.exportsOf_eq_fresh proper rested sound
    exact ⟨table, fresh.trans made, entry⟩
  · intro plain
    exact findSome?_via_of_modules fun hop inside => plain hop (List.mem_reverse.1 inside)
  · intro wild into ends
    have same : last = into.target := by
      rw [chain.last_eq, ends]
      rfl
    obtain ⟨front, split⟩ := List.getLast?_eq_some_iff.1 ends
    have here : into.via = some (into.bare.getD last.stem) := by
      rw [Hop.via, if_pos (wild into (by rw [split]; simp)), same]
    show hops.reverse.findSome? Hop.via = _
    rw [split, List.reverse_append, List.reverse_singleton, List.singleton_append, List.findSome?_cons, here]

/-- Five modules that pass a class on: by a bare name, by a copy of all exports, by a bare name and a
    new name, and by a relative name. Two of them copy the exports of an earlier one of the chain. -/
def passingModules : Program :=
  ((Program.ofTexts [("/f0.js", "export class x \x7b\x7d export \x7b b as a \x7d from 'b'; " ++
      "export * from './f4';"),
      ("/f1.js", "export * from './f2'; export * from './f0';"),
      ("/f2.js", "export \x7b default as b \x7d from 'd'; export class other \x7b\x7d"),
      ("/f3.js", "import './f0'; export \x7b N as default \x7d from './f4';"),
      ("/f4.js", "export class N \x7b\x7d export * from './f1';")]).mapPath "b" (.ofString "/f1.js")).mapPath
    "d" (.ofString "/f3.js")

/-- Three wrapped files that pass a value on, first by a bare name and then by a relative one. The
    second one also copies the exports of the first. -/
def passingWrappers : Program :=
  (Program.ofTexts [("/f0.js", wrappedText "exports.M = 1; var m = require('lib'); __export(m);"),
    ("/f1.js", wrappedText "__export(require('./f2')); __export(require('./f0'));"),
    ("/f2.js", wrappedText "exports.N = 1; exports.O = 2;")]).mapPath "lib" (.ofString "/f1.js")

/-- In the modules the class keeps the second bare name, in the wrapped files the value keeps the path
    of its file. -/
theorem get?_of_chain_passing :
    (let w := World.ofProgram passingModules .modules
      ∃ first ∈ passingModules.files, ∃ last d, first.id = 0 ∧ last.id = 4 ∧
        ((w.exportsOf last).run .empty).1.bind (·.get? "N") = some d ∧
        ∀ questions, ((w.exportsOf first).run (w.memoryAfter questions)).1.bind (·.get? "a") =
          some { d with via := d.via.or (some "d") }) ∧
    let w := World.ofProgram passingWrappers .wrappers
    ∃ first ∈ passingWrappers.files, ∃ last d, first.id = 0 ∧ last.id = 2 ∧
      ((w.exportsOf last).run .empty).1.bind (·.get? "N") = some d ∧
      ∀ questions, ((w.exportsOf first).run (w.memoryAfter questions)).1.bind (·.get? "N") =
        some { d with via := d.via.or (some "/f2") } := by
  constructor
  · have built : passingModules.Built := .mapPath _ _ (.mapPath _ _ (.ofTexts _))
    have facts : ∃ first ∈ passingModules.files, first.id = 0 ∧
        ((World.ofProgram passingModules .modules).chain? [1, 0, 0, 1, 0] [] first "a").map
          (fun (hops, last, inner) => (last.id, inner, hops.reverse.findSome? (·.bare),
            hops.any (·.wildcard))) = some (4, "N", some "d", false) := by
      rw [passingModules, Program.ofTexts_eq_ofBytes]
      decide +kernel
    obtain ⟨first, member, number, chained⟩ := facts
    obtain ⟨⟨hops, last, inner⟩, found, shown⟩ := Option.map_eq_some_iff.1 chained
    simp only [Prod.mk.injEq] at shown
    obtain ⟨numberLast, rfl, bare, declared⟩ := shown
    obtain ⟨d, chain⟩ := World.chain_of_chain? found
    refine ⟨first, member, last, d, number, numberLast, ?_, fun questions => ?_⟩
    · obtain ⟨⟨own, answered, entry⟩, _⟩ := get?_of_chain built member (absurd rfl) chain []
      exact Option.bind_eq_some_iff.2 ⟨own, answered, entry⟩
    · obtain ⟨_, ⟨table, answered, entry⟩, modules, _⟩ :=
        get?_of_chain built member (absurd rfl) chain questions
      rw [modules (by simpa using declared), bare] at entry
      exact Option.bind_eq_some_iff.2 ⟨table, answered, entry⟩
  · have built : passingWrappers.Built := .mapPath _ _ (.ofTexts _)
    have facts : (∀ file ∈ passingWrappers.files, file.wrapper?.isSome = true) ∧
        ∃ first ∈ passingWrappers.files, first.id = 0 ∧
          ((World.ofProgram passingWrappers .wrappers).chain? [2, 0, 0] [] first "N").map
            (fun (hops, last, inner) => (last.id, inner, last.stem,
              hops.all (·.wildcard) && hops.getLast?.any (·.bare.isNone))) = some (2, "N", "/f2", true) := by
      rw [passingWrappers, Program.ofTexts_eq_ofBytes]
      decide +kernel
    obtain ⟨everyWrapped, first, member, number, chained⟩ := facts
    have wrapped : passingWrappers.OneFormat .wrappers := .inr ⟨rfl, everyWrapped⟩
    obtain ⟨⟨hops, last, inner⟩, found, shown⟩ := Option.map_eq_some_iff.1 chained
    simp only [Prod.mk.injEq, Bool.and_eq_true, Option.any_eq_true, Option.isNone_iff_eq_none] at shown
    obtain ⟨numberLast, rfl, stem, copies, into, ends, bare⟩ := shown
    obtain ⟨d, chain⟩ := World.chain_of_chain? found
    have unmixed : HostKind.wrappers ≠ .modules →
        (World.ofProgram passingWrappers .wrappers).Unmixed first.id :=
      fun _ => wrapped.unmixed first.id
    refine ⟨first, member, last, d, number, numberLast, ?_, fun questions => ?_⟩
    · obtain ⟨⟨own, answered, entry⟩, _⟩ := get?_of_chain built member unmixed chain []
      exact Option.bind_eq_some_iff.2 ⟨own, answered, entry⟩
    · obtain ⟨_, ⟨table, answered, entry⟩, _, wrappers⟩ :=
        get?_of_chain built member unmixed chain questions
      rw [wrappers (by simpa using copies) into ends, bare, Option.getD_none, stem] at entry
      exact Option.bind_eq_some_iff.2 ⟨table, answered, entry⟩

/-- A module copies the exports of another one, whose variable stands for a class of the first. -/
def importedBack : Program :=
  .ofTexts [("/f0.js", "export * from './f1'; export class y \x7b\x7d"),
    ("/f1.js", "import \x7b y \x7d from './f0'; export var N; N = y;")]

/-- A wrapped file copies the exports of a second one, which copies those of a third one that it finds
    as a member of the first. -/
def copiedMember : Program :=
  .ofTexts [("/f0.js", wrappedText "var m = require('./f2'); __export(require('./f1')); exports.b = m;"),
    ("/f1.js", wrappedText "var a = require('./f0'); __export(a.b);"),
    ("/f2.js", wrappedText "exports.N = 1;")]

/-- Three wrapped files pass a value on. The second one also copies a module that it finds as a member
    of a fourth file, and which one that is depends on the first. -/
def shiftingMember : Program :=
  .ofTexts [("/f0.js", wrappedText "var y = require('./y'); __export(require('./f1')); exports.b = y;"),
    ("/f1.js", wrappedText "var g = require('./g'); __export(require('./f2')); __export(g.b);"),
    ("/f2.js", wrappedText "exports.N = 1;"),
    ("/g.js", wrappedText "var x = require('./x'); exports.b = x; __export(require('./f0'));"),
    ("/x.js", wrappedText "exports.N = 2;"), ("/y.js", wrappedText "exports.M = 3;")]

/-- What the parts of a file give a name in the file's own table, part by part. -/
def World.shares (w : World) (file : SourceFile) (name : String) : List (Option Declaration) :=
  ((FileView.ofFile file).tableParts w.host).map (w.gives? [] file name)

/-- The files that the parts of a file take a name from in the file's own table, part by part. -/
def World.donors (w : World) (file : SourceFile) (name : String) : List (Option Nat) :=
  ((FileView.ofFile file).tableParts w.host).map fun part =>
    (w.hop? [] file name part).map (·.target.id)

/-- It is not enough to look at the files of a chain one by one, each with its own table. In each
    program the own tables show a chain for the name: no other part gives the name anything. But while
    the table of the first file is made, what the last file declares is missing in the first program,
    the second hop leads nowhere in the second one, and in the third one another part gives the name, so
    that the first file has the value of a file outside of the chain. -/
theorem get?_of_chain_cut :
    (importedBack.Built ∧ ∃ first ∈ importedBack.files, ∃ last ∈ importedBack.files,
      let w := World.ofProgram importedBack .modules
      w.donors first "N" = [some last.id, none] ∧
      (w.shares first "N").map Option.isSome = [true, false] ∧
      (w.shares last "N").map (Option.map (·.isMissing)) = [none, some false, none] ∧
      (((w.exportsOf last).run .empty).1.bind (·.get? "N")).map (·.isMissing) = some false ∧
      (((w.exportsOf first).run .empty).1.bind (·.get? "N")).map (·.isMissing) = some true) ∧
    (copiedMember.Built ∧ ∃ first ∈ copiedMember.files, ∃ second ∈ copiedMember.files,
      ∃ last ∈ copiedMember.files,
      let w := World.ofProgram copiedMember .wrappers
      w.donors first "N" = [none, some second.id, none] ∧ w.donors second "N" = [none, some last.id] ∧
      (w.shares second "N").map Option.isSome = [false, true] ∧
      (w.shares last "N").map Option.isSome = [true] ∧
      ((w.exportsOf first).run .empty).1.map (·.names) = some ["b"]) ∧
    shiftingMember.Built ∧ ∃ first ∈ shiftingMember.files, ∃ second ∈ shiftingMember.files,
      ∃ last ∈ shiftingMember.files,
      let w := World.ofProgram shiftingMember .wrappers
      let home := fun d : Declaration => (shiftingMember.fileAt? d.node.span.lo).map (·.id)
      w.donors first "N" = [none, some second.id, none] ∧
      (w.donors second "N").take 2 = [none, some last.id] ∧
      (w.shares first "N").map Option.isSome = [false, true, false] ∧
      (w.shares second "N").map (Option.map home) = [none, some (some last.id), none] ∧
      (w.shares last "N").map (Option.map home) = [some (some last.id)] ∧
      ∃ other ∈ shiftingMember.files, other.id ≠ last.id ∧
        (((w.exportsOf first).run .empty).1.bind (·.get? "N")).map home = some (some other.id) := by
  refine ⟨⟨.ofTexts _, ?_⟩, ⟨.ofTexts _, ?_⟩, ⟨.ofTexts _, ?_⟩⟩
  · rw [importedBack, Program.ofTexts_eq_ofBytes]
    decide +kernel
  · rw [copiedMember, Program.ofTexts_eq_ofBytes]
    decide +kernel
  · rw [shiftingMember, Program.ofTexts_eq_ofBytes]
    decide +kernel

end BundleLens
