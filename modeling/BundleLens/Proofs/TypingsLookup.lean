/-
Module: BundleLens.Proofs.TypingsLookup
Layer: Proofs
Purpose: Where the typings of a name are found. A file's own typings are at its place below the typings
  root, under the name that it has without its ending; if they lack the name, the entry point counts,
  and then the first declaration file that exports the name. So a name is found if any declaration file
  below the typings root exports it. The place of a file is worked out on its text, and is missed if
  nothing but an ending is there to name the file.
Imports: BundleLens.Proofs.PathTexts, BundleLens.Proofs.TypingsExports
Main exports: SourceFile.stemName, Program.mirror?, Program.KeepsPlace, siblingPath?_eq_mirror?,
  findIn?_build, lookup?_stages
-/
import BundleLens.Proofs.PathTexts
import BundleLens.Proofs.TypingsExports

namespace BundleLens

/-! ### The place of a file -/

/-- The last name of the path of a file, without the first of the endings that it has. -/
def SourceFile.stemName (file : SourceFile) : String :=
  let name := file.path.fileName?.getD ""
  (SourceFile.endings.findSome? (Path.dropEnding? name ·)).getD name

/-- The path below the typings root that has the place of a file below the source root: the same
    directories, and the name of the file with the ending of declaration files. -/
def Program.mirror? (program : Program) (root : Path) (file : SourceFile) : Option Path := do
  let sourceRoot ← program.sourceRoot
  let directory ← (← file.path.parent?).relativeTo? sourceRoot
  return (root.join directory).join (.ofNames false [file.stemName ++ ".d.ts"])

/-- Without its ending a file has a name that stays in a path, and does not have the path of the source
    root. -/
structure Program.KeepsPlace (program : Program) (file : SourceFile) : Prop where
  named : file.stemName ≠ ""
  apart : file.stemName ≠ "."
  below : ∀ root, program.sourceRoot = some root → Path.ofString file.stem ≠ root

namespace Path

theorem tidy_of_noCurrent {path : Path} (noCurrent : ∀ step ∈ path.steps, step ≠ .current) :
    path.tidy = path := by
  have kept : path.steps.filter (· != .current) = path.steps :=
    List.filter_eq_self.2 fun step inside => bne_iff_ne.2 (noCurrent step inside)
  unfold tidy
  split
  · rename_i rest _ leading
    exact absurd rfl (noCurrent .current (leading ▸ List.mem_cons_self))
  · rw [kept]

/-- A path of one more step is below a directory if the path in front of the step is, or if it is that
    directory. -/
theorem relativeTo?_concat {absolute : Bool} {steps : List PathStep} {step : PathStep} {root : Path}
    (apart : (⟨absolute, steps ++ [step]⟩ : Path) ≠ root) :
    relativeTo? ⟨absolute, steps ++ [step]⟩ root =
      (relativeTo? ⟨absolute, steps⟩ root).map fun below => ⟨below.absolute, below.steps ++ [step]⟩ := by
  have front : startsWith ⟨absolute, steps ++ [step]⟩ root = startsWith ⟨absolute, steps⟩ root := by
    rw [Bool.eq_iff_iff]
    simp only [startsWith, Bool.and_eq_true, List.isPrefixOf_iff_prefix, List.prefix_concat_iff]
    refine and_congr_right fun alike => or_iff_right ?_
    intro whole
    rcases Bool.or_eq_true_iff.1 alike with blank | same
    · simp [isBlank, whole] at blank
    · apply apart
      rw [Path.mk.injEq]
      exact ⟨beq_iff_eq.1 same, whole.symm⟩
  unfold relativeTo?
  rw [front]
  split
  · rename_i isFront
    have within : root.steps.length ≤ steps.length := by
      rw [startsWith, Bool.and_eq_true] at isFront
      exact (List.isPrefixOf_iff_prefix.1 isFront.2).length_le
    rw [Option.map_some, List.drop_append_of_le_length within]
  · rfl

theorem join_concat (base : Path) (absolute : Bool) (steps : List PathStep) (step : PathStep) :
    base.join ⟨absolute, steps ++ [step]⟩ =
      ⟨(base.join ⟨absolute, steps⟩).absolute, (base.join ⟨absolute, steps⟩).steps ++ [step]⟩ := by
  cases absolute <;> simp [join]

theorem exists_stepOf {text : String} (given : text ≠ "") (apart : text ≠ ".") :
    ∃ step, stepOf text.toList = some step ∧ step ≠ .current ∧ stepText step = text := by
  have isStep : ∃ step, stepOf text.toList = some step := by
    unfold stepOf
    split
    · rename_i none
      exact absurd (String.toList_eq_nil_iff.1 none) given
    all_goals exact ⟨_, rfl⟩
  obtain ⟨step, read⟩ := isStep
  have same : stepText step = text := String.toList_injective (stepText_of_stepOf read)
  refine ⟨step, read, ?_, same⟩
  rintro rfl
  exact apart same.symm

theorem isClean_of_mem_join {base path : Path} (clean : ∀ step ∈ base.steps, IsClean step)
    (cleanPath : ∀ step ∈ path.steps, IsClean step) : ∀ step ∈ (base.join path).steps, IsClean step := by
  unfold join
  split
  · exact cleanPath
  · intro step inside
    exact (List.mem_append.1 inside).elim (clean step) (cleanPath step)

theorem mem_of_relativeTo? {path root below : Path} (found : path.relativeTo? root = some below) :
    ∀ step ∈ below.steps, step ∈ path.steps := by
  obtain ⟨_, rfl⟩ := Option.ite_some_none_eq_some.1 found
  exact fun step inside => List.mem_of_mem_drop inside

/-- What ends in `.d.ts` is a name. -/
theorem stepOf_typingsName (name : String) :
    stepOf (name ++ ".d.ts").toList = some (.name (name ++ ".d.ts")) := by
  have long : 2 < (name ++ ".d.ts").toList.length := by simp
  unfold stepOf
  split
  case h_4 => rw [String.ofList_toList]
  all_goals
    rename_i short
    rw [short] at long
    exact absurd long (by decide)

/-- The ending of declaration files, written behind a path, is read as part of its last name. -/
theorem ofString_typingsPath {base : Path} {step : PathStep} (clean : ∀ step ∈ base.steps, IsClean step)
    (noSlash : '/' ∉ (stepText step).toList) :
    ofString (toString ⟨base.absolute, base.steps ++ [step]⟩ ++ ".d.ts") =
      base.join (.ofNames false [stepText step ++ ".d.ts"]) := by
  have apart : '/' ∉ (stepText step ++ ".d.ts").toList := by simp [noSlash]
  rw [toString_concat, textOf_append, ofString_textOf clean apart, stepOf_typingsName]
  rfl

end Path

section Place

variable {program : Program} {file : SourceFile}

/-- The text of a file without its ending is that of its directory and of its name without the
    ending. -/
theorem SourceFile.stem_eq {absolute : Bool} {steps : List PathStep} {last : String}
    (path : file.path = ⟨absolute, steps ++ [.name last]⟩)
    (clean : ∀ step ∈ steps ++ [.name last], Path.IsClean step) :
    file.stem = Path.textOf absolute steps file.stemName := by
  have text : file.path.toString = Path.textOf absolute steps last := by rw [path, Path.toString_concat]; rfl
  have name : file.path.fileName?.getD "" = last := by simp [path, Path.fileName?]
  have plain : ∀ ending ∈ endings, '/' ∉ ending.toList := by decide
  have dropped : endings.findSome? (Path.dropEnding? (Path.textOf absolute steps last) ·) =
      (endings.findSome? (Path.dropEnding? last ·)).map (Path.textOf absolute steps) := by
    rw [List.map_findSome?, ← List.head?_filterMap, ← List.head?_filterMap]
    refine congrArg List.head? (List.filterMap_congr fun ending isEnding => ?_)
    exact Path.dropEnding?_textOf (fun step inside => clean step (List.mem_append_left _ inside))
      (clean _ (List.mem_append_right _ List.mem_cons_self)).1 (plain ending isEnding)
  rw [stem, text, stemName, name, dropped, Option.getD_map]

/-- No slash comes up when an ending is left out. -/
theorem SourceFile.slash_not_mem_stemName (noSlash : '/' ∉ (file.path.fileName?.getD "").toList) :
    '/' ∉ file.stemName.toList := by
  rw [stemName]
  cases found : endings.findSome? (Path.dropEnding? (file.path.fileName?.getD "") ·) with
  | none => exact noSlash
  | some stem =>
      simp only [Option.getD_some]
      obtain ⟨ending, _, dropped⟩ := List.exists_of_findSome?_eq_some found
      rw [Path.dropEnding?_eq_some_iff] at dropped
      rw [dropped, List.mem_append, not_or] at noSlash
      exact noSlash.1

/-- A file that has a name without its ending has a name. -/
theorem SourceFile.exists_last (normal : file.path.isNormal = true) (named : file.stemName ≠ "") :
    ∃ absolute steps last, file.path = ⟨absolute, steps ++ [.name last]⟩ := by
  obtain ⟨names, path⟩ := Path.exists_names normal
  rcases List.eq_nil_or_concat' names with rfl | ⟨front, last, rfl⟩
  · have nameless : file.path.fileName?.getD "" = "" := by rw [path]; rfl
    refine absurd ?_ named
    rw [stemName, nameless]
    decide
  · exact ⟨file.path.absolute, front.map .name, last, by rw [path]; simp [Path.ofNames]⟩

/-- Without its ending a file is in the directory that it is in, under a name that is no `.`. -/
theorem SourceFile.exists_ofString_stem (written : file.path.IsWritten) (named : file.stemName ≠ "")
    (apart : file.stemName ≠ ".") :
    ∃ absolute steps step, file.path.parent? = some ⟨absolute, steps⟩ ∧
      Path.ofString file.stem = ⟨absolute, steps ++ [step]⟩ ∧
      (Path.ofString file.stem).tidy = ⟨absolute, steps ++ [step]⟩ ∧
      (∀ step ∈ steps, Path.IsClean step) ∧ Path.stepText step = file.stemName ∧
      '/' ∉ file.stemName.toList := by
  obtain ⟨absolute, steps, last, path⟩ := file.exists_last written.isNormal named
  have clean : ∀ step ∈ steps ++ [.name last], Path.IsClean step := by simpa [path] using written.isClean
  have cleanFront : ∀ step ∈ steps, Path.IsClean step :=
    fun step inside => clean step (List.mem_append_left _ inside)
  have noSlash : '/' ∉ file.stemName.toList := by
    apply slash_not_mem_stemName
    have own := clean (.name last) (List.mem_append_right _ List.mem_cons_self)
    simpa [path, Path.fileName?, Path.stepText] using own.1
  obtain ⟨step, read, kept, text⟩ := Path.exists_stepOf named apart
  have stemPath : Path.ofString file.stem = ⟨absolute, steps ++ [step]⟩ := by
    rw [stem_eq path clean, Path.ofString_textOf cleanFront noSlash, read]
    rfl
  have tidied : (Path.ofString file.stem).tidy = ⟨absolute, steps ++ [step]⟩ := by
    rw [stemPath]
    apply Path.tidy_of_noCurrent
    intro other inside
    rcases List.mem_append.1 inside with front | own
    · have normal := written.isNormal
      rw [path, Path.isNormal, List.all_eq_true] at normal
      rintro rfl
      exact absurd (normal _ (List.mem_append_left _ front)) Bool.false_ne_true
    · cases List.mem_singleton.1 own
      exact kept
  have parent : file.path.parent? = some ⟨absolute, steps⟩ := by simp [path, Path.parent?]
  exact ⟨absolute, steps, step, parent, stemPath, tidied, cleanFront, text, noSlash⟩

/-- The typings of a file are looked for at its place below the typings root. -/
theorem siblingPath?_eq_mirror? {root : Path} (isRoot : program.typingsRoot = some root)
    (rootWritten : root.IsWritten) (written : file.path.IsWritten) (keeps : program.KeepsPlace file) :
    TypingsIndex.siblingPath? program file = program.mirror? root file := by
  cases isSource : program.sourceRoot with
  | none => simp [TypingsIndex.siblingPath?, Program.mirror?, isSource]
  | some sourceRoot =>
      obtain ⟨absolute, steps, step, parent, stemPath, tidied, clean, text, noSlash⟩ :=
        file.exists_ofString_stem written keeps.named keeps.apart
      have outside : (⟨absolute, steps ++ [step]⟩ : Path) ≠ sourceRoot :=
        stemPath ▸ keeps.below sourceRoot isSource
      simp only [TypingsIndex.siblingPath?, Program.mirror?, isSource, isRoot, tidied, parent, bind,
        Option.bind_some, Path.relativeTo?_concat outside]
      cases found : Path.relativeTo? ⟨absolute, steps⟩ sourceRoot with
      | none => rfl
      | some below =>
          have cleanPlace : ∀ step ∈ (root.join below).steps, Path.IsClean step :=
            Path.isClean_of_mem_join rootWritten.isClean fun step inside =>
              clean step (Path.mem_of_relativeTo? found step inside)
          simp only [Option.map_some, Option.bind_some, Path.join_concat,
            Path.ofString_typingsPath cleanPlace (text ▸ noSlash), text]
          simp

end Place

/-! ### Looking up -/

/-- The declaration that a file exports under a name, if it is a declaration file below the typings
    root. -/
def Program.typingsIn? (program : Program) (root : Path) (name : String) (file : SourceFile) :
    Option TypingsDecl :=
  if file.isTypings && file.path.startsWith root then (program.typingsAmid [] file.id).get? name else none

section Lookup

variable {program : Program} {root : Path} {file : SourceFile}

theorem mem_typingsFiles (isRoot : program.typingsRoot = some root) :
    file ∈ program.typingsFiles ↔
      file ∈ program.files ∧ (file.isTypings && file.path.startsWith root) = true := by
  simp [Program.typingsFiles, isRoot]

theorem isSome_typingsIn? (built : program.Built) (isRoot : program.typingsRoot = some root)
    (member : file ∈ program.files) (name : String) :
    (program.typingsIn? root name file).isSome = true ↔
      file ∈ program.typingsFiles ∧ program.Exports [] file name := by
  rw [mem_typingsFiles isRoot, and_iff_right member, ← isSome_get?_typingsAmid built member]
  unfold Program.typingsIn?
  split
  · rename_i isBelow
    rw [and_iff_right isBelow]
  · rename_i isOther
    exact iff_of_false nofun fun both => isOther both.1

theorem mem_of_fileByPath? {path : Path} (found : program.fileByPath? path = some file) :
    file ∈ program.files := by
  obtain ⟨id, _, here⟩ := Option.bind_eq_some_iff.1 found
  exact List.mem_of_getElem? here

/-- Looked for at a path, a name is found in the file that was registered there last. -/
theorem findIn?_build (built : program.Built) (isRoot : program.typingsRoot = some root) (path : Path)
    (name : String) :
    (TypingsIndex.build program).findIn? program path name =
      (program.fileByPath? path).bind (program.typingsIn? root name) := by
  unfold TypingsIndex.findIn?
  cases here : program.fileByPath? path with
  | none => rfl
  | some file =>
      have member := mem_of_fileByPath? here
      simp only [bind, Option.bind_some, Program.typingsIn?]
      split
      · rename_i isBelow
        rw [lookup_tables built ((mem_typingsFiles isRoot).2 ⟨member, isBelow⟩), Option.bind_some]
      · rename_i isOther
        -- the number of the file is that of no declaration file
        have absent : (TypingsIndex.build program).tables.lookup file.id = none := by
          rw [tables_build built, List.lookup_eq_none_iff]
          intro entry listed
          obtain ⟨other, isListed, rfl⟩ := List.mem_map.1 listed
          obtain ⟨inside, isBelow⟩ := (mem_typingsFiles isRoot).1 isListed
          rw [bne_iff_ne]
          intro same
          cases built.eq_of_id member inside same.symm
          exact isOther isBelow
        rw [absent, Option.bind_none]

/-- The tables of the index name what the declaration files export, in the order of registration. -/
theorem findSome?_tables (built : program.Built) (isRoot : program.typingsRoot = some root) (name : String) :
    ((TypingsIndex.build program).tables.findSome? fun (_, table) => table.get? name) =
      program.files.findSome? (program.typingsIn? root name) := by
  rw [tables_build built, ← List.head?_filterMap, ← List.head?_filterMap, List.filterMap_map,
    Program.typingsFiles, isRoot, List.filterMap_filter]
  rfl

/-- The three places where a name is looked for, one after the other. -/
theorem lookup?_build (built : program.Built) (isRoot : program.typingsRoot = some root)
    (source : Option SourceFile) (name : String) :
    (TypingsIndex.build program).lookup? program source name =
      ((((source.bind (TypingsIndex.siblingPath? program)).bind program.fileByPath?).bind
          (program.typingsIn? root name)).or
        ((program.fileByPath? (root.joinText "index.d.ts")).bind (program.typingsIn? root name))).or
          (program.files.findSome? (program.typingsIn? root name)) := by
  have sibling : (TypingsIndex.build program).inSibling? program source name =
      ((source.bind (TypingsIndex.siblingPath? program)).bind program.fileByPath?).bind
        (program.typingsIn? root name) := by
    unfold TypingsIndex.inSibling?
    cases source with
    | none => rfl
    | some file =>
        simp only [bind, Option.bind_some]
        cases TypingsIndex.siblingPath? program file with
        | none => rfl
        | some path => exact findIn?_build built isRoot path name
  rw [← sibling, ← findIn?_build built isRoot, ← findSome?_tables built isRoot, Option.or_assoc]
  simp only [TypingsIndex.lookup?, isRoot, bind, Option.bind_some]
  cases (TypingsIndex.build program).inSibling? program source name <;>
    cases (TypingsIndex.build program).findIn? program (root.joinText "index.d.ts") name <;> rfl

/-- What no file exports is not found at any path. -/
theorem bind_typingsIn?_eq_none {name : String}
    (nowhere : ∀ file ∈ program.files, program.typingsIn? root name file = none) (path : Option Path) :
    (path.bind program.fileByPath?).bind (program.typingsIn? root name) = none := by
  rw [Option.bind_eq_none_iff]
  intro file here
  obtain ⟨_, _, found⟩ := Option.bind_eq_some_iff.1 here
  exact nowhere file (mem_of_fileByPath? found)

end Lookup

/-- Where the typings of a name are found. Nothing is found if and only if no declaration file below the
    typings root exports the name. Otherwise, for a file that keeps its place, the declaration is that
    of the file at the same place below the typings root, if it exports the name, else that of the entry
    point, if it does, else that of the first file in the order of registration that does. At a path the
    file counts that was registered there last. -/
theorem lookup?_stages {program : Program} {root : Path} (built : program.Built)
    (isRoot : program.typingsRoot = some root) (source : Option SourceFile) (name : String) :
    ((TypingsIndex.build program).lookup? program source name = none ↔
      ∀ file ∈ program.typingsFiles, ¬ program.Exports [] file name) ∧
    (∀ file ∈ program.files, (program.typingsIn? root name file).isSome = true ↔
      file ∈ program.typingsFiles ∧ program.Exports [] file name) ∧
    (root.IsWritten → (∀ file ∈ source, file.path.IsWritten ∧ program.KeepsPlace file) →
      (TypingsIndex.build program).lookup? program source name =
        ((((source.bind (program.mirror? root)).bind program.fileByPath?).bind
            (program.typingsIn? root name)).or
          ((program.fileByPath? (root.joinText "index.d.ts")).bind (program.typingsIn? root name))).or
            (program.files.findSome? (program.typingsIn? root name))) := by
  have exporting : ∀ file ∈ program.files, (program.typingsIn? root name file).isSome = true ↔
      file ∈ program.typingsFiles ∧ program.Exports [] file name :=
    fun file member => isSome_typingsIn? built isRoot member name
  rw [lookup?_build built isRoot]
  refine ⟨?_, exporting, ?_⟩
  · constructor
    · intro nowhere file listed exported
      rw [Option.or_eq_none_iff, List.findSome?_eq_none_iff] at nowhere
      have member := ((mem_typingsFiles isRoot).1 listed).1
      have found := (exporting file member).2 ⟨listed, exported⟩
      rw [nowhere.2 file member] at found
      cases found
    · intro nowhere
      have silent : ∀ file ∈ program.files, program.typingsIn? root name file = none := by
        intro file member
        rw [← Option.not_isSome_iff_eq_none, exporting file member]
        exact fun both => nowhere file both.1 both.2
      rw [Option.or_eq_none_iff, Option.or_eq_none_iff, List.findSome?_eq_none_iff]
      exact ⟨⟨bind_typingsIn?_eq_none silent _, bind_typingsIn?_eq_none silent (some _)⟩, silent⟩
  · intro rootWritten places
    cases source with
    | none => rfl
    | some file =>
        obtain ⟨written, keeps⟩ := places file rfl
        rw [Option.bind_some, Option.bind_some, siblingPath?_eq_mirror? isRoot rootWritten written keeps]

/-- A file, its declaration file, an entry point and one more declaration file. -/
def mirroredTypings : Program :=
  ((Program.ofTexts [("/e/x/m.js", "export class K \x7b\x7d"),
    ("/t/z.d.ts", "export declare class L \x7b\x7d export declare class F \x7b\x7d"),
    ("/t/index.d.ts", "export declare class K \x7b\x7d export \x7b R as L \x7d from './x/m';"),
    ("/t/x/m.d.ts", "export declare class K \x7b\x7d export declare class R \x7b\x7d")]).setSourceRoot
      (.ofString "/e")).setTypingsRoot (.ofString "/t")

/-- One name is found in the file's own typings, one in the entry point and one in the other file, and a
    name that no file exports is not found. -/
theorem lookup?_mirroredTypings :
    mirroredTypings.Built ∧ mirroredTypings.typingsRoot = some (.ofString "/t") ∧
      (Path.ofString "/t").IsWritten ∧ ∃ file ∈ mirroredTypings.files,
        file.path.IsWritten ∧ mirroredTypings.KeepsPlace file ∧
        mirroredTypings.mirror? (.ofString "/t") file = some (.ofString "/t/x/m.d.ts") ∧
        ["K", "L", "F", "N"].map (fun name => ((TypingsIndex.build mirroredTypings).lookup? mirroredTypings
            (some file) name).map fun d => (d.path.toString, d.name)) =
          [some ("/t/x/m.d.ts", "K"), some ("/t/x/m.d.ts", "R"), some ("/t/z.d.ts", "F"), none] ∧
        (∀ other ∈ mirroredTypings.typingsFiles, ¬ mirroredTypings.Exports [] other "N") ∧
        ∀ name ∈ ["K", "L", "F", "N"],
          ((((mirroredTypings.mirror? (.ofString "/t") file).bind mirroredTypings.fileByPath?).bind
              (mirroredTypings.typingsIn? (.ofString "/t") name)).or
            ((mirroredTypings.fileByPath? (.ofString "/t/index.d.ts")).bind
              (mirroredTypings.typingsIn? (.ofString "/t") name))).or
                (mirroredTypings.files.findSome? (mirroredTypings.typingsIn? (.ofString "/t") name)) =
            (TypingsIndex.build mirroredTypings).lookup? mirroredTypings (some file) name := by
  have built : mirroredTypings.Built := .setTypingsRoot _ (.setSourceRoot _ (.ofTexts _))
  have isRoot : mirroredTypings.typingsRoot = some (.ofString "/t") := by decide +kernel
  have rootWritten : (Path.ofString "/t").IsWritten := ⟨"/t", by decide⟩
  have facts : ∃ file ∈ mirroredTypings.files, file.path = (Path.ofString "/e/x/m.js").normalize ∧
      file.stemName = "m" ∧ Path.ofString file.stem ≠ .ofString "/e" ∧
      mirroredTypings.mirror? (.ofString "/t") file = some (.ofString "/t/x/m.d.ts") ∧
      ["K", "L", "F", "N"].map (fun name => ((TypingsIndex.build mirroredTypings).lookup? mirroredTypings
          (some file) name).map fun d => (d.path.toString, d.name)) =
        [some ("/t/x/m.d.ts", "K"), some ("/t/x/m.d.ts", "R"), some ("/t/z.d.ts", "F"), none] := by
    rw [mirroredTypings, Program.ofTexts_eq_ofBytes]
    decide +kernel
  obtain ⟨file, member, path, stem, below, place, answers⟩ := facts
  have isSource : mirroredTypings.sourceRoot = some (.ofString "/e") := by decide +kernel
  have keeps : mirroredTypings.KeepsPlace file := by
    refine ⟨by rw [stem]; decide, by rw [stem]; decide, fun root isThat => ?_⟩
    rw [isSource] at isThat
    cases isThat
    exact below
  refine ⟨built, isRoot, rootWritten, file, member, ⟨_, path⟩, keeps, place, answers, ?_, ?_⟩
  · have absent : (TypingsIndex.build mirroredTypings).lookup? mirroredTypings (some file) "N" = none := by
      simp only [List.map_cons, List.cons.injEq, Option.map_eq_none_iff] at answers
      exact answers.2.2.2.1
    exact (lookup?_stages built isRoot (some file) "N").1.1 absent
  · intro name _
    refine ((lookup?_stages built isRoot (some file) name).2.2 rootWritten ?_).symm
    intro other same
    cases same
    exact ⟨⟨_, path⟩, keeps⟩

/-- A file that is named by nothing but an ending, a declaration file for its directory, and an entry
    point. -/
def namelessFile : Program :=
  ((Program.ofTexts [("/e/x/.js", "export class K \x7b\x7d"),
    ("/t/x.d.ts", "export declare class K \x7b\x7d"),
    ("/t/index.d.ts", "export declare class K \x7b\x7d")]).setSourceRoot
      (.ofString "/e")).setTypingsRoot (.ofString "/t")

/-- No declaration file is at the place of the file, and yet the name is not found in the entry point,
    but in the file for its directory. -/
theorem lookup?_namelessFile :
    namelessFile.Built ∧ namelessFile.typingsRoot = some (.ofString "/t") ∧
      ∃ file ∈ namelessFile.files, file.path = .ofString "/e/x/.js" ∧ file.stemName = "" ∧
        namelessFile.mirror? (.ofString "/t") file = some (.ofString "/t/x/.d.ts") ∧
        (namelessFile.fileByPath? (.ofString "/t/x/.d.ts")).isNone = true ∧
        ((TypingsIndex.build namelessFile).findIn? namelessFile (.ofString "/t/index.d.ts") "K").map
          (·.path) = some (.ofString "/t/index.d.ts") ∧
        ((TypingsIndex.build namelessFile).lookup? namelessFile (some file) "K").map (·.path) =
          some (.ofString "/t/x.d.ts") := by
  refine ⟨.setTypingsRoot _ (.setSourceRoot _ (.ofTexts _)), ?_⟩
  rw [namelessFile, Program.ofTexts_eq_ofBytes]
  decide +kernel

end BundleLens
