/-
Module: BundleLens.Proofs.ResolutionOrder
Layer: Proofs
Purpose: Which file a module name means, and how that changes when a program grows. The candidates for a
  name are paths in normal form that do not depend on the files of the program. The search for a name
  tries them in their order, so the first of them that a file is registered under counts. A new file
  takes a name over only if its path is a candidate in front of the one that counted, and no name is
  lost.
Imports: BundleLens.Proofs.Registry
Main exports: Path.Encloses, Path.normalize_of_isNormal, probes, isNormal_of_mem_probes, directories,
  mem_directories, pairwise_directories, candidates, candidates_congr, Program.resolveId?_eq,
  Program.resolve?_eq, Program.Built.resolve?_addSource, resolve?_candidates
-/
import BundleLens.Proofs.Registry
import Mathlib.Data.List.Induction
import Mathlib.Data.List.Infix

namespace BundleLens

/-! ### Normal forms -/

namespace Path

theorem foldl_foldStep_names (names : List String) (folded : List String) :
    (names.map PathStep.name).foldl foldStep folded = names.reverse ++ folded := by
  induction names generalizing folded with
  | nil => rfl
  | cons name rest ih => simp [foldStep, ih]

theorem normalize_ofNames (absolute : Bool) (names : List String) :
    (ofNames absolute names).normalize = ofNames absolute names := by
  simp [normalize, ofNames, foldl_foldStep_names]

theorem isNormal_ofNames (absolute : Bool) (names : List String) :
    (ofNames absolute names).isNormal = true := by
  simp [isNormal, ofNames, List.all_map, Function.comp_def]

theorem isNormal_normalize (path : Path) : path.normalize.isNormal = true := isNormal_ofNames _ _

/-- A path of names only is made of its names. -/
theorem exists_names {path : Path} (normal : path.isNormal = true) :
    ∃ names, path = ofNames path.absolute names := by
  obtain ⟨absolute, steps⟩ := path
  induction steps with
  | nil => exact ⟨[], rfl⟩
  | cons step rest ih =>
      rw [isNormal, List.all_cons, Bool.and_eq_true] at normal
      obtain ⟨names, same⟩ := ih normal.2
      cases step with
      | name text =>
          rw [ofNames, Path.mk.injEq] at same
          exact ⟨text :: names, by simp [ofNames, ← same.2]⟩
      | current | parent => exact absurd normal.1 Bool.false_ne_true

/-- A path of names only is its own normal form. -/
theorem normalize_of_isNormal {path : Path} (normal : path.isNormal = true) : path.normalize = path := by
  obtain ⟨names, same⟩ := exists_names normal
  rw [same, normalize_ofNames]

theorem isNormal_withName {path : Path} (normal : path.isNormal = true) (text : String) :
    (path.withName text).isNormal = true := by
  rw [isNormal, List.all_eq_true] at normal
  rw [isNormal, withName, List.all_append, Bool.and_eq_true, List.all_eq_true]
  exact ⟨fun step inside => normal step (List.mem_of_mem_dropLast inside), rfl⟩

theorem isNormal_join {base path : Path} (normal : base.isNormal = true)
    (normalPath : path.isNormal = true) :
    (base.join path).isNormal = true := by
  unfold join
  split
  · exact normalPath
  · rw [isNormal, List.all_append, Bool.and_eq_true]
    exact ⟨normal, normalPath⟩

end Path

/-! ### Base paths -/

/-- What a base path means first: in a declaration file, `a.js` means `a.d.ts`. -/
def declaredBase? (base : Path) : FileKind → Option Path
  | .javaScript => none
  | .typings => base.replaceEnding? ".js" ".d.ts"

/-- The paths to try for a base path: what it means first, then as written, with an ending, and as a
    directory with an index file. -/
def probes (kind : FileKind) (base : Path) : List Path :=
  let base := base.normalize
  (declaredBase? base kind).toList ++ [base] ++ kind.endings.map base.appendToName ++
    kind.endings.map fun ending => base.join (.ofNames false ["index" ++ ending])

/-- Everything that is tried for a base path is a path in normal form. -/
theorem isNormal_of_mem_probes {kind : FileKind} {base path : Path} (tried : path ∈ probes kind base) :
    path.isNormal = true := by
  have normal := base.isNormal_normalize
  simp only [probes, List.mem_append, List.mem_singleton, List.mem_map] at tried
  rcases tried with ((declared | rfl) | ⟨ending, _, rfl⟩) | ⟨ending, _, rfl⟩
  · rw [Option.mem_toList] at declared
    cases kind with
    | javaScript => cases declared
    | typings =>
        obtain ⟨name, _, replaced⟩ := Option.bind_eq_some_iff.1 declared
        obtain ⟨stem, _, same⟩ := Option.bind_eq_some_iff.1 replaced
        cases same
        exact Path.isNormal_withName normal _
  · exact normal
  · exact Path.isNormal_withName normal _
  · exact Path.isNormal_join normal (Path.isNormal_ofNames _ _)

/-! ### Directories -/

/-- A directory stands above a path: its steps are the first ones of the path, and not all of them. -/
structure Path.Encloses (directory path : Path) : Prop where
  absolute : directory.absolute = path.absolute
  before : directory.steps <+: path.steps
  apart : directory.steps ≠ path.steps

/-- A directory and the directories above it, nearest first. -/
def ancestors : Nat → Path → List Path
  | 0, dir => [dir]
  | depth + 1, dir =>
    dir :: match dir.parent? with
      | some above => ancestors depth above
      | none => []

/-- The directory of a file and those above it. -/
def directories (path : Path) : List Path :=
  match path.parent? with
  | some dir => ancestors dir.steps.length dir
  | none => []

theorem ancestors_of_parent? {directory above : Path} (up : directory.parent? = some above) :
    ancestors directory.steps.length directory = directory :: ancestors above.steps.length above := by
  obtain ⟨absolute, steps⟩ := directory
  cases steps using List.reverseRecOn with
  | nil => cases up
  | append_singleton steps last =>
      have front : (⟨absolute, steps ++ [last]⟩ : Path).parent? = some ⟨absolute, steps⟩ := by
        simp [Path.parent?]
      cases up.symm.trans front
      rw [List.length_append, List.length_singleton, ancestors, front]

theorem ancestors_of_parent?_eq_none {directory : Path} (top : directory.parent? = none) :
    ancestors directory.steps.length directory = [directory] := by
  obtain ⟨absolute, steps⟩ := directory
  cases steps with
  | nil => rfl
  | cons => simp [Path.parent?] at top

theorem ancestors_concat (absolute : Bool) (steps : List PathStep) (last : PathStep) :
    ancestors (steps.length + 1) ⟨absolute, steps ++ [last]⟩ =
      ⟨absolute, steps ++ [last]⟩ :: ancestors steps.length ⟨absolute, steps⟩ := by
  simp [ancestors, Path.parent?]

/-- A directory and those above it, by their steps. -/
theorem mem_ancestors {absolute : Bool} {steps : List PathStep} {directory : Path} :
    directory ∈ ancestors steps.length ⟨absolute, steps⟩ ↔
      directory.absolute = absolute ∧ directory.steps <+: steps := by
  obtain ⟨rooted, walked⟩ := directory
  induction steps using List.reverseRecOn with
  | nil => simp [ancestors]
  | append_singleton steps last ih =>
      rw [List.length_append, List.length_singleton, ancestors_concat, List.mem_cons, ih,
        List.prefix_concat_iff, Path.mk.injEq, ← and_or_left]

/-- What stands above a path is the directory of its last step, or stands above that. -/
theorem encloses_concat_iff {absolute : Bool} {steps : List PathStep} {last : PathStep} {directory : Path} :
    directory.Encloses ⟨absolute, steps ++ [last]⟩ ↔
      directory.absolute = absolute ∧ directory.steps <+: steps := by
  constructor
  · intro above
    exact ⟨above.absolute, (List.prefix_concat_iff.1 above.before).resolve_left above.apart⟩
  · rintro ⟨rooted, before⟩
    have shorter := before.length_le
    refine ⟨rooted, before.trans (List.prefix_append steps [last]), fun same => ?_⟩
    rw [same, List.length_append] at shorter
    exact absurd shorter (Nat.not_succ_le_self _)

theorem pairwise_ancestors (absolute : Bool) (steps : List PathStep) :
    (ancestors steps.length ⟨absolute, steps⟩).Pairwise fun near far => far.Encloses near := by
  induction steps using List.reverseRecOn with
  | nil => exact List.pairwise_singleton _ _
  | append_singleton steps last ih =>
      rw [List.length_append, List.length_singleton, ancestors_concat, List.pairwise_cons]
      exact ⟨fun far above => encloses_concat_iff.2 (mem_ancestors.1 above), ih⟩

theorem directories_concat (absolute : Bool) (steps : List PathStep) (last : PathStep) :
    directories ⟨absolute, steps ++ [last]⟩ = ancestors steps.length ⟨absolute, steps⟩ := by
  simp [directories, Path.parent?]

/-- The directories around a path are all that stand above it. -/
theorem mem_directories {path directory : Path} :
    directory ∈ directories path ↔ directory.Encloses path := by
  obtain ⟨absolute, steps⟩ := path
  cases steps using List.reverseRecOn with
  | nil =>
      constructor
      · intro nowhere
        cases nowhere
      · intro above
        exact absurd (List.prefix_nil.1 above.before) above.apart
  | append_singleton steps last =>
      rw [directories_concat, mem_ancestors, encloses_concat_iff]

/-- The nearest directory comes first. -/
theorem pairwise_directories (path : Path) :
    (directories path).Pairwise fun near far => far.Encloses near := by
  obtain ⟨absolute, steps⟩ := path
  cases steps using List.reverseRecOn with
  | nil => exact List.Pairwise.nil
  | append_singleton steps last =>
      rw [directories_concat]
      exact pairwise_ancestors absolute steps

/-! ### Candidates -/

/-- The base paths that mappings give for a bare name: the mapping of the name itself, then the mapping
    of its package with the path inside it. -/
def mappedBases (program : Program) (specifier : String) : List Path :=
  let direct := (program.mapping? specifier).toList
  let inside :=
    match splitPackage specifier with
    | (name, some rest) => ((program.mapping? name).map (·.joinText rest)).toList
    | (_, none) => []
  direct ++ inside

/-- The base path that the source root gives for a bare name. -/
def rootBases (program : Program) (specifier : String) : List Path :=
  (program.sourceRoot.map (·.joinText specifier)).toList

/-- The base paths to try for a module name, in order. A relative name is relative to the directory of
    the file; for a bare name mappings come first, then the source root, then package directories. -/
def bases (program : Program) (specifier : String) (path : Path) : List Path :=
  if isRelative specifier then
    [((path.parent?).getD (Path.ofNames true [])).joinText specifier]
  else
    mappedBases program specifier ++ rootBases program specifier ++
      (directories path).map (packageBase specifier)

/-- All paths that a module name may mean, in the order in which they are tried. -/
def candidates (program : Program) (specifier : String) (file : SourceFile) : List Path :=
  (bases program specifier file.path).flatMap (probes file.kind)

section Candidates

variable {program other : Program} {specifier : String} {file importer : SourceFile}

theorem normalize_of_mem_candidates {path : Path}
    (candidate : path ∈ candidates program specifier file) : path.normalize = path := by
  obtain ⟨base, _, tried⟩ := List.mem_flatMap.1 candidate
  exact Path.normalize_of_isNormal (isNormal_of_mem_probes tried)

/-- The candidates depend on the mappings and the source root, and on the path and the kind of the
    file. -/
theorem candidates_congr (mappings : other.mapping? = program.mapping?)
    (root : other.sourceRoot = program.sourceRoot) (path : importer.path = file.path)
    (kind : importer.kind = file.kind) :
    candidates other specifier importer = candidates program specifier file := by
  simp only [candidates, bases, mappedBases, rootBases, mappings, root, path, kind]

/-- The candidates for a bare name: those from mappings, those below the source root, and those in the
    packages of the directories around the file. -/
theorem candidates_of_bare (bare : isRelative specifier = false) :
    candidates program specifier file =
      (mappedBases program specifier).flatMap (probes file.kind) ++
        (rootBases program specifier).flatMap (probes file.kind) ++
        (directories file.path).flatMap
          fun directory => probes file.kind (packageBase specifier directory) := by
  rw [candidates, bases, bare]
  simp only [Bool.false_eq_true, if_false, List.flatMap_append, List.flatMap_map]

end Candidates

/-! ### The search -/

namespace Program

variable {program : Program} {specifier : String} {file found : SourceFile} {kind : FileKind}
  {path base directory : Path} {source : String}

theorem lookupDeclared?_eq :
    program.lookupDeclared? base kind = (declaredBase? base kind).toList.findSome? program.lookupId? := by
  cases kind with
  | javaScript => rfl
  | typings =>
      rw [lookupDeclared?, declaredBase?]
      cases base.replaceEnding? ".js" ".d.ts" with
      | none => rfl
      | some declared => exact List.findSome?_singleton.symm

theorem lookupEndings?_eq (place : String → Path) (endings : List String) :
    program.lookupEndings? place endings = (endings.map place).findSome? program.lookupId? := by
  induction endings with
  | nil => rfl
  | cons ending rest ih =>
      rw [lookupEndings?, List.map_cons, List.findSome?_cons, ih]
      cases program.lookupId? (place ending) <;> rfl

/-- What is found for a base path is registered under the first of its probes that has a file. -/
theorem resolveBase?_eq :
    program.resolveBase? base kind = (probes kind base).findSome? program.lookupId? := by
  rw [probes, List.findSome?_append, List.findSome?_append, List.findSome?_append, ← lookupDeclared?_eq,
    ← lookupEndings?_eq, ← lookupEndings?_eq, List.findSome?_singleton, resolveBase?]
  cases program.lookupDeclared? base.normalize kind with
  | some id => rfl
  | none =>
      cases program.lookupId? base.normalize with
      | some id => rfl
      | none => cases program.lookupEndings? base.normalize.appendToName kind.endings <;> rfl

/-- The walk up the directories looks into the packages of each of them, the nearest first. -/
theorem resolveUpward?_eq :
    program.resolveUpward? specifier kind directory =
      ((ancestors directory.steps.length directory).flatMap
        fun above => probes kind (packageBase specifier above)).findSome? program.lookupId? := by
  fun_induction program.resolveUpward? specifier kind directory with
  | case1 directory id here =>
      rw [resolveBase?_eq] at here
      cases up : directory.parent? with
      | some above =>
          rw [ancestors_of_parent? up, List.flatMap_cons, List.findSome?_append, here]
          rfl
      | none => rw [ancestors_of_parent?_eq_none up, List.flatMap_singleton, here]
  | case2 directory here above up ih =>
      rw [resolveBase?_eq] at here
      rw [ancestors_of_parent? up, List.flatMap_cons, List.findSome?_append, here, ih]
      rfl
  | case3 directory here up =>
      rw [resolveBase?_eq] at here
      rw [ancestors_of_parent?_eq_none up, List.flatMap_singleton, here]

/-- The search for a bare name tries the candidates that mappings give, those below the source root, and
    those in the packages around the file, one after the other. -/
theorem resolveBare?_eq (bare : isRelative specifier = false) :
    program.resolveBare? specifier file =
      (candidates program specifier file).findSome? program.lookupId? := by
  have mapped : ((mappedBases program specifier).flatMap (probes file.kind)).findSome? program.lookupId? =
      (program.resolveMapped? specifier file.kind).or (program.resolveInside? specifier file.kind) := by
    rw [mappedBases, List.flatMap_append, List.findSome?_append, resolveMapped?, resolveInside?]
    congr 1
    · cases program.mapping? specifier <;> simp [resolveBase?_eq]
    · obtain ⟨name, _ | rest⟩ := splitPackage specifier
      · rfl
      · simp only
        cases program.mapping? name <;> simp [resolveBase?_eq]
  have rooted : ((rootBases program specifier).flatMap (probes file.kind)).findSome? program.lookupId? =
      program.resolveRooted? specifier file.kind := by
    rw [rootBases, resolveRooted?]
    cases program.sourceRoot <;> simp [resolveBase?_eq]
  have upward : ((directories file.path).flatMap
      fun directory => probes file.kind (packageBase specifier directory)).findSome? program.lookupId? =
        file.path.parent?.bind (program.resolveUpward? specifier file.kind) := by
    rw [directories]
    cases file.path.parent? with
    | none => rfl
    | some directory => exact resolveUpward?_eq.symm
  rw [candidates_of_bare bare, List.findSome?_append, List.findSome?_append, mapped, rooted, upward,
    resolveBare?]
  cases program.resolveMapped? specifier file.kind with
  | some id => rfl
  | none =>
      cases program.resolveInside? specifier file.kind with
      | some id => rfl
      | none =>
          cases program.resolveRooted? specifier file.kind with
          | some id => rfl
          | none => cases file.path.parent? <;> rfl

/-- The search for a module name ends at the first of its candidates that has a file. -/
theorem resolveId?_eq (program : Program) (specifier : String) (file : SourceFile) :
    program.resolveId? specifier file =
      (candidates program specifier file).findSome? program.lookupId? := by
  rw [resolveId?]
  split
  · rename_i relative
    rw [resolveBase?_eq, candidates, bases, if_pos relative, List.flatMap_singleton]
  · rename_i bare
    exact resolveBare?_eq (Bool.not_eq_true _ ▸ bare)

/-- The file of the first number that is found is the first file that is found. -/
theorem findSome?_lookupId?_bind (program : Program) (paths : List Path) :
    (paths.findSome? program.lookupId?).bind program.file? = paths.findSome? program.lookup? := by
  induction paths with
  | nil => rfl
  | cons path rest ih =>
      rw [List.findSome?_cons, List.findSome?_cons]
      cases listed : program.lookupId? path with
      | none => rw [lookup?, listed, Option.bind_none, ih]
      | some id =>
          obtain ⟨file, numbered, here⟩ := exists_lookup?_of_lookupId? listed
          rw [here, Option.bind_some, numbered]

/-- A module name means the file of the first candidate that has one. -/
theorem resolve?_eq (program : Program) (specifier : String) (file : SourceFile) :
    program.resolve? specifier file = (candidates program specifier file).findSome? program.lookup? := by
  rw [resolve?, resolveId?_eq, findSome?_lookupId?_bind]

theorem resolve?_eq_some_iff :
    program.resolve? specifier file = some found ↔
      ∃ before path after, candidates program specifier file = before ++ path :: after ∧
        program.lookup? path = some found ∧ ∀ earlier ∈ before, program.lookup? earlier = none := by
  rw [resolve?_eq, List.findSome?_eq_some_iff]

theorem resolve?_eq_none_iff :
    program.resolve? specifier file = none ↔
      ∀ path ∈ candidates program specifier file, program.lookup? path = none := by
  rw [resolve?_eq, List.findSome?_eq_none_iff]

/-! ### Growth -/

theorem Built.path_of_lookup? (built : program.Built) (here : program.lookup? path = some found) :
    found.path = path := by
  obtain ⟨_, _, _, same, _⟩ := built.lookup?_eq_some_iff.1 here
  exact same

/-- Where one more file is registered, the same file as before is found first at some paths, or the new
    one is: then its path is among them, with no registered one in front of it. -/
theorem findSome?_lookup?_of_added {grown : Program} {added : SourceFile}
    (lookup : ∀ other, grown.lookup? other =
      if added.path = other then some added else program.lookup? other) (paths : List Path) :
    paths.findSome? grown.lookup? = paths.findSome? program.lookup? ∨
      ∃ before after, paths = before ++ added.path :: after ∧
        paths.findSome? grown.lookup? = some added ∧
        ∀ earlier ∈ before, program.lookup? earlier = none := by
  induction paths with
  | nil => exact .inl rfl
  | cons path rest ih =>
      by_cases same : added.path = path
      · refine .inr ⟨[], rest, by rw [same]; rfl, ?_, fun _ inside => absurd inside List.not_mem_nil⟩
        rw [List.findSome?_cons, lookup, if_pos same]
      · rw [List.findSome?_cons, List.findSome?_cons, lookup, if_neg same]
        cases here : program.lookup? path with
        | some found => exact .inl rfl
        | none =>
            rcases ih with unchanged | ⟨before, after, split, now, free⟩
            · exact .inl unchanged
            · refine .inr ⟨path :: before, after, by rw [split]; rfl, now, fun earlier inside => ?_⟩
              rcases List.mem_cons.1 inside with rfl | later
              · exact here
              · exact free earlier later

theorem candidates_addSource (program : Program) (path : Path) (source : String) (specifier : String)
    (file : SourceFile) :
    candidates (program.addSource path source).1 specifier file = candidates program specifier file := by
  obtain ⟨pos, _, read⟩ | ⟨parsed, _, read⟩ := program.addSource_cases path source
  · rw [read]
    exact candidates_congr rfl rfl rfl rfl
  · rw [read]
    exact candidates_congr rfl rfl rfl rfl

/-- A name means what it meant before, or it means the new file: then the path of the new file is a
    candidate with no registered one in front of it, and if the name meant a file before, that one has
    the same path or a candidate behind it. -/
theorem Built.resolve?_addSource (built : program.Built) (path : Path) (source : String) (specifier : String)
    (file : SourceFile) :
    let grown := (program.addSource path source).1
    grown.resolve? specifier file = program.resolve? specifier file ∨
      ∃ added before after, (program.addSource path source).2 = .ok added ∧
        grown.resolve? specifier file = some added ∧
        candidates program specifier file = before ++ added.path :: after ∧
        (∀ earlier ∈ before, program.lookup? earlier = none) ∧
        ∀ found, program.resolve? specifier file = some found →
          found.path = added.path ∨ found.path ∈ after := by
  intro grown
  have lookup := program.lookup?_addSource path source
  have resolved : grown.resolve? specifier file =
      (candidates program specifier file).findSome? grown.lookup? := by
    rw [resolve?_eq, candidates_addSource]
  cases read : (program.addSource path source).2 with
  | error fault =>
      left
      rw [resolved, resolve?_eq]
      congr 1
      funext other
      rw [lookup, read]
  | ok added =>
      rw [read] at lookup
      rcases findSome?_lookup?_of_added lookup (candidates program specifier file) with
        same | ⟨before, after, split, now, free⟩
      · rw [resolved, resolve?_eq]
        exact .inl same
      · right
        refine ⟨added, before, after, rfl, resolved.trans now, split, free, fun found isFound => ?_⟩
        rw [resolve?_eq, split, List.findSome?_append, List.findSome?_eq_none_iff.2 free, Option.none_or,
          List.findSome?_cons] at isFound
        cases own : program.lookup? added.path with
        | some registered =>
            rw [own] at isFound
            cases isFound
            exact .inl (built.path_of_lookup? own)
        | none =>
            rw [own] at isFound
            obtain ⟨place, inside, here⟩ := List.exists_of_findSome?_eq_some isFound
            rw [built.path_of_lookup? here]
            exact .inr inside

end Program

/-- A module name means the file that is registered under the first of its candidates that has one. The
    candidates are in normal form and depend on nothing but the name, the path and the kind of the file
    that it stands in, the mappings and the source root. For a bare name those from mappings come first,
    then those below the source root, then those in the packages of all directories around the file, the
    nearest directory first. If a text is added, then a name that means a file still means one; and it
    means a file with another path only if this is the path of the text, and a candidate with no
    registered one in front of it, and if the path that the name had led to stands behind it. -/
theorem resolve?_candidates {program : Program} (built : program.Built) (specifier : String)
    (file : SourceFile) :
    ((∀ path ∈ candidates program specifier file, path.normalize = path) ∧
      ∀ (other : Program) (importer : SourceFile), other.mapping? = program.mapping? →
        other.sourceRoot = program.sourceRoot → importer.path = file.path → importer.kind = file.kind →
        candidates other specifier importer = candidates program specifier file) ∧
    ((∀ found, program.resolve? specifier file = some found ↔
        ∃ before path after, candidates program specifier file = before ++ path :: after ∧
          program.fileByPath? path = some found ∧
          ∀ earlier ∈ before, ∀ other ∈ program.files, other.path ≠ earlier) ∧
      (program.resolve? specifier file = none ↔
        ∀ path ∈ candidates program specifier file, ∀ other ∈ program.files, other.path ≠ path)) ∧
    (∀ (path : Path) (source : String),
      let grown := (program.addSource path source).1
      ((program.resolve? specifier file).isSome → (grown.resolve? specifier file).isSome) ∧
      ((grown.resolve? specifier file).map (·.path) ≠ (program.resolve? specifier file).map (·.path) →
        (grown.resolve? specifier file).map (·.path) = some path.normalize ∧
        ∃ before after, candidates program specifier file = before ++ path.normalize :: after ∧
          (∀ earlier ∈ before, ∀ other ∈ program.files, other.path ≠ earlier) ∧
          ∀ found, program.resolve? specifier file = some found → found.path ∈ after)) ∧
    (isRelative specifier = false →
      candidates program specifier file =
        (mappedBases program specifier).flatMap (probes file.kind) ++
          (rootBases program specifier).flatMap (probes file.kind) ++
          (directories file.path).flatMap
            fun directory => probes file.kind (packageBase specifier directory)) ∧
    (∀ directory, directory ∈ directories file.path ↔ directory.Encloses file.path) ∧
    (directories file.path).Pairwise fun near far => far.Encloses near := by
  have normal : ∀ path ∈ candidates program specifier file, path.normalize = path :=
    fun path candidate => normalize_of_mem_candidates candidate
  refine ⟨⟨normal, fun other importer => candidates_congr⟩, ⟨fun found => ?_, ?_⟩, fun path source => ?_,
    candidates_of_bare, fun directory => mem_directories, pairwise_directories file.path⟩
  · rw [Program.resolve?_eq_some_iff]
    constructor
    · rintro ⟨before, path, after, split, here, free⟩
      have own : path ∈ candidates program specifier file := by simp [split]
      refine ⟨before, path, after, split, ?_,
        fun earlier inside => built.lookup?_eq_none_iff.1 (free earlier inside)⟩
      rw [Program.fileByPath?, normal path own, here]
    · rintro ⟨before, path, after, split, here, free⟩
      have own : path ∈ candidates program specifier file := by simp [split]
      rw [Program.fileByPath?, normal path own] at here
      exact ⟨before, path, after, split, here,
        fun earlier inside => built.lookup?_eq_none_iff.2 (free earlier inside)⟩
  · simp only [Program.resolve?_eq_none_iff, built.lookup?_eq_none_iff]
  · intro grown
    rcases built.resolve?_addSource path source specifier file with same | taken
    · exact ⟨fun meant => same ▸ meant, fun changed => absurd (congrArg _ same) changed⟩
    · obtain ⟨added, before, after, read, now, split, free, behind⟩ := taken
      have named : added.path = path.normalize := Program.path_of_ok read
      refine ⟨fun _ => now ▸ rfl, fun changed => ⟨?_, before, after, named ▸ split, ?_, ?_⟩⟩
      · rw [now, Option.map_some, named]
      · exact fun earlier inside => built.lookup?_eq_none_iff.1 (free earlier inside)
      · intro found isFound
        refine (behind found isFound).resolve_left fun samePath => changed ?_
        rw [now, isFound, Option.map_some, Option.map_some, samePath]

/-- A file, and a package in a directory further up. -/
def distantPackage : Program :=
  .ofTexts [("/p/src/a.js", "b;"), ("/p/node_modules/b/c.js", "b;")]

/-- A declaration file for the same package nearer to the file takes the name over. -/
theorem resolve?_candidates_nearerPackage :
    ∃ file ∈ distantPackage.files, isRelative "b/c" = false ∧
      (distantPackage.resolve? "b/c" file).map (·.path) = some (.ofString "/p/node_modules/b/c.js") ∧
      let grown := (distantPackage.addSource (.ofString "/p/src/../src/node_modules/b/c.d.ts") "").1
      (grown.resolve? "b/c" file).map (·.path) = some (.ofString "/p/src/node_modules/b/c.d.ts") ∧
      ∃ before after, candidates distantPackage "b/c" file =
        before ++ .ofString "/p/src/node_modules/b/c.d.ts" :: after ∧
        .ofString "/p/node_modules/b/c.js" ∈ after := by
  have facts : ∃ file ∈ distantPackage.files, isRelative "b/c" = false ∧
      (distantPackage.resolve? "b/c" file).map (·.path) = some (.ofString "/p/node_modules/b/c.js") ∧
      ((distantPackage.addSource (.ofString "/p/src/../src/node_modules/b/c.d.ts") "").1.resolve?
        "b/c" file).map (·.path) = some (.ofString "/p/src/node_modules/b/c.d.ts") := by
    rw [Program.addSource_eq_addChars, distantPackage, Program.ofTexts_eq_ofBytes]
    decide +kernel
  obtain ⟨file, member, bare, meant, taken⟩ := facts
  have changed : ((distantPackage.addSource (.ofString "/p/src/../src/node_modules/b/c.d.ts") "").1.resolve?
      "b/c" file).map (·.path) ≠ (distantPackage.resolve? "b/c" file).map (·.path) := by
    rw [meant, taken]
    decide +kernel
  have built : distantPackage.Built := .ofTexts _
  obtain ⟨_, _, growth, _⟩ := resolve?_candidates built "b/c" file
  obtain ⟨named, before, after, split, _, behind⟩ := (growth _ _).2 changed
  obtain ⟨found, isFound, place⟩ := Option.map_eq_some_iff.1 meant
  refine ⟨file, member, bare, meant, taken, before, after, ?_, place ▸ behind found isFound⟩
  rw [split, ← Option.some.inj (named.symm.trans taken)]

end BundleLens
