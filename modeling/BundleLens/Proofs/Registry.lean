/-
Module: BundleLens.Proofs.Registry
Layer: Proofs
Purpose: What holds of a program after any history. A history is a list of steps: texts that are read,
  with or without a fault, module names that are mapped, and roots that are set. Its registrations are
  the files that the texts without a fault gave, in order. The files of the program are just these,
  numbered by their places; the index by path agrees with them, so a path finds the last one that was
  registered under it; and no two files share a position, so every position of a file leads back to that
  file.
Imports: BundleLens.Proofs.Built
Main exports: ProgramStep, Program.after, registrations, Program.after_holds, Program.addSource_cases,
  Program.Built.exists_nextFile, Program.Spaced, Program.Spaced.apply, Program.spaced_after,
  Program.files_after, Program.Indexed, Program.Built.indexed, Program.lookup?_addSource, registry_after
-/
import BundleLens.Proofs.Built

namespace BundleLens

/-- What can be done to a program. -/
inductive ProgramStep where
  | addSource (path : Path) (source : String)
  | mapPath (specifier : String) (path : Path)
  | setSourceRoot (root : Path)
  | setTypingsRoot (root : Path)

namespace Program

/-- The program that a step leads to. -/
def apply (program : Program) : ProgramStep → Program
  | .addSource path source => (program.addSource path source).1
  | .mapPath specifier path => program.mapPath specifier path
  | .setSourceRoot root => program.setSourceRoot root
  | .setTypingsRoot root => program.setTypingsRoot root

/-- The program after some steps, starting without files. -/
def after (steps : List ProgramStep) : Program := steps.foldl apply .empty

/-- The file that a step registers. Only a text without a fault gives one. -/
def registered? (program : Program) : ProgramStep → Option SourceFile
  | .addSource path source => (program.addSource path source).2.toOption
  | .mapPath _ _ => none
  | .setSourceRoot _ => none
  | .setTypingsRoot _ => none

/-- The files that steps register one after the other, starting from a program. -/
def registrationsFrom (program : Program) : List ProgramStep → List SourceFile
  | [] => []
  | step :: rest =>
    (program.registered? step).toList ++ (program.apply step).registrationsFrom rest

end Program

/-- The files that a history registers, in order. -/
def registrations (steps : List ProgramStep) : List SourceFile := Program.empty.registrationsFrom steps

namespace Program

/-- What holds at the start and is kept by every step holds after any history. -/
theorem after_holds {Holds : Program → Prop} (start : Holds .empty)
    (keeps : ∀ program step, Holds program → Holds (program.apply step)) (steps : List ProgramStep) :
    Holds (after steps) := by
  have grow : ∀ program, Holds program → Holds (steps.foldl apply program) := by
    induction steps with
    | nil => exact fun _ holds => holds
    | cons step rest ih =>
        intro program holds
        exact ih _ (keeps program step holds)
  exact grow .empty start

theorem built_after (steps : List ProgramStep) : (after steps).Built := by
  apply after_holds .empty
  intro program step built
  cases step with
  | addSource path source => exact .addSource path source built
  | mapPath specifier path => exact .mapPath specifier path built
  | setSourceRoot root => exact .setSourceRoot root built
  | setTypingsRoot root => exact .setTypingsRoot root built

/-! ### One text -/

/-- The room that the next text gets. -/
def nextRoom (program : Program) (source : String) : Room :=
  ⟨program.next, Text.stripMark source.toList⟩

/-- The program with one more room, without a new file. -/
def withRoom (program : Program) (room : Room) : Program :=
  { program with rooms := program.rooms ++ [room], next := room.finish + 1 }

/-- The program with one more file behind the others, and with an entry for it in the index. -/
def withFile (program : Program) (file : SourceFile) : Program :=
  { program with
    files := program.files ++ [file]
    byPath := (file.path, program.files.length) :: program.byPath
    within := program.within.register file.path file }

@[simp] theorem files_withRoom (program : Program) (room : Room) :
    (program.withRoom room).files = program.files := rfl

@[simp] theorem files_withFile (program : Program) (file : SourceFile) :
    (program.withFile file).files = program.files ++ [file] := rfl

/-- The file that a text becomes when it is read without a fault: it fills its room. -/
def nextFile (program : Program) (path : Path) (room : Room) (parsed : Grammar.Parsed) : SourceFile :=
  ⟨program.files.length, path.normalize, .ofPath path.normalize, parsed.isModule, parsed.items,
    ⟨room.start, room.finish⟩⟩

/-- What reading a text does. The text gets the next room in any case; with a fault nothing else
    changes, and without one its file is registered behind the others. -/
theorem addSource_cases (program : Program) (path : Path) (source : String) :
    let room := program.nextRoom source
    let parse := Grammar.parseText (FileKind.ofPath path.normalize == .typings) room.start room.text
    (∃ pos, parse = .error pos ∧ program.addSource path source =
      (program.withRoom room, .error ⟨path.normalize, Text.lineColumn room.text (pos - room.start)⟩)) ∨
    ∃ parsed, parse = .ok parsed ∧ program.addSource path source =
      ((program.withRoom room).withFile (program.nextFile path room parsed),
        .ok (program.nextFile path room parsed)) := by
  intro room parse
  unfold addSource
  simp only
  split
  · rename_i pos read
    exact Or.inl ⟨pos, read, rfl⟩
  · rename_i parsed read
    exact Or.inr ⟨parsed, read, rfl⟩

/-- Every file of a program that can be built was read from a text. -/
theorem Built.exists_nextFile {program : Program} (built : program.Built) {file : SourceFile}
    (member : file ∈ program.files) :
    ∃ (before : Program) (path : Path) (source : String) (parsed : Grammar.Parsed),
      let room := before.nextRoom source
      Grammar.parseText (FileKind.ofPath path.normalize == .typings) room.start room.text = .ok parsed ∧
        file = before.nextFile path room parsed := by
  induction built with
  | empty => cases member
  | @addSource before path source _ ih =>
      obtain ⟨pos, _, read⟩ | ⟨parsed, ok, read⟩ := before.addSource_cases path source
      · rw [read] at member
        exact ih member
      · rw [read] at member
        rcases List.mem_append.1 member with earlier | added
        · exact ih earlier
        · exact ⟨before, path, source, parsed, ok, List.mem_singleton.1 added⟩
  | mapPath specifier path _ ih => exact ih member
  | setSourceRoot root _ ih => exact ih member
  | setTypingsRoot root _ ih => exact ih member

/-- A step adds the file that it registers behind the others. -/
theorem files_apply (program : Program) (step : ProgramStep) :
    (program.apply step).files = program.files ++ (program.registered? step).toList := by
  cases step with
  | addSource path source =>
      obtain ⟨pos, _, read⟩ | ⟨parsed, _, read⟩ := program.addSource_cases path source
      · simp [apply, registered?, read, Except.toOption]
      · simp [apply, registered?, read, Except.toOption]
  | mapPath specifier path => simp [apply, registered?, mapPath]
  | setSourceRoot root => simp [apply, registered?, setSourceRoot]
  | setTypingsRoot root => simp [apply, registered?, setTypingsRoot]

/-- The files of a program are those that its history registers. -/
theorem files_after (steps : List ProgramStep) : (after steps).files = registrations steps := by
  have grow : ∀ program : Program,
      (steps.foldl apply program).files = program.files ++ program.registrationsFrom steps := by
    induction steps with
    | nil => exact fun program => (List.append_nil _).symm
    | cons step rest ih =>
        intro program
        rw [List.foldl_cons, ih, files_apply, registrationsFrom, List.append_assoc]
  exact grow .empty

/-! ### Positions -/

/-- The files of a program stand apart in the position space, and all before the next free position.
    Also an empty file has a position of its own. -/
structure Spaced (program : Program) : Prop where
  apart : program.files.Pairwise fun first second => first.span.hi < second.span.lo
  ordered : ∀ file ∈ program.files, file.span.lo ≤ file.span.hi
  below : ∀ file ∈ program.files, file.span.hi < program.next

theorem Spaced.empty : Program.empty.Spaced := by
  constructor
  · exact List.Pairwise.nil
  · intro file member
    cases member
  · intro file member
    cases member

/-- A room that stays empty keeps the files apart. -/
theorem Spaced.withRoom {program : Program} (spaced : program.Spaced) {room : Room}
    (start : room.start = program.next) : (program.withRoom room).Spaced := by
  constructor
  · exact spaced.apart
  · exact spaced.ordered
  · intro file member
    have below := spaced.below file member
    have wide : room.start ≤ room.finish := Nat.le_add_right _ _
    show file.span.hi < room.finish + 1
    omega

/-- A text keeps the files apart, also if it has a fault and its room stays empty. -/
theorem Spaced.addSource {program : Program} (spaced : program.Spaced) (path : Path)
    (source : String) : (program.addSource path source).1.Spaced := by
  have grown : (program.withRoom (program.nextRoom source)).Spaced := spaced.withRoom rfl
  obtain ⟨pos, _, read⟩ | ⟨parsed, _, read⟩ := program.addSource_cases path source
  · rw [read]
    exact grown
  · rw [read]
    constructor
    · refine List.pairwise_append.2 ⟨grown.apart, List.pairwise_singleton _ _, ?_⟩
      intro other member added here
      rw [List.mem_singleton.1 here]
      exact spaced.below other member
    · intro other member
      rcases List.mem_append.1 member with earlier | added
      · exact grown.ordered other earlier
      · rw [List.mem_singleton.1 added]
        exact Nat.le_add_right _ _
    · intro other member
      rcases List.mem_append.1 member with earlier | added
      · exact grown.below other earlier
      · rw [List.mem_singleton.1 added]
        exact Nat.lt_succ_self _

theorem Spaced.apply {program : Program} (spaced : program.Spaced) (step : ProgramStep) :
    (program.apply step).Spaced := by
  cases step with
  | addSource path source => exact spaced.addSource path source
  | mapPath specifier path => exact ⟨spaced.apart, spaced.ordered, spaced.below⟩
  | setSourceRoot root => exact ⟨spaced.apart, spaced.ordered, spaced.below⟩
  | setTypingsRoot root => exact ⟨spaced.apart, spaced.ordered, spaced.below⟩

/-- After any history the files stand apart. -/
theorem spaced_after (steps : List ProgramStep) : (after steps).Spaced := by
  apply after_holds .empty
  intro program step spaced
  exact spaced.apply step

/-- Where files stand apart, every position of a file leads back to it. -/
theorem Spaced.fileAt? {program : Program} (spaced : program.Spaced) {file : SourceFile}
    (member : file ∈ program.files) {pos : Nat} (lower : file.span.lo ≤ pos)
    (upper : pos ≤ file.span.hi) : program.fileAt? pos = some file := by
  obtain ⟨before, behind, split⟩ := List.append_of_mem member
  refine List.find?_eq_some_iff_append.2 ⟨?_, before, behind, split, fun other earlier => ?_⟩
  · simp [Span.contains, lower, upper]
  · have apart := spaced.apart
    rw [split] at apart
    have ends : other.span.hi < file.span.lo :=
      (List.pairwise_append.1 apart).2.2 other earlier file List.mem_cons_self
    have beyond : ¬ pos ≤ other.span.hi := by omega
    simp [Span.contains, beyond]

/-! ### Paths -/

section Index

variable {program : Program} {path : Path} {file : SourceFile} {id : Nat}

theorem lookupId?_lt (listed : program.lookupId? path = some id) : id < program.files.length := by
  obtain ⟨before, after, split, _⟩ := List.lookup_eq_some_iff.1 listed
  exact program.within (path, id) (split ▸ List.mem_append_right before List.mem_cons_self)

/-- What the index leads to is a file of the program. -/
theorem exists_lookup?_of_lookupId? (listed : program.lookupId? path = some id) :
    ∃ file, program.file? id = some file ∧ program.lookup? path = some file := by
  have inside := lookupId?_lt listed
  refine ⟨program.files[id], List.getElem?_eq_getElem inside, ?_⟩
  rw [lookup?, listed, Option.bind_some, file?, List.getElem?_eq_getElem inside]

theorem lookupId?_withFile (program : Program) (file : SourceFile) (path : Path) :
    (program.withFile file).lookupId? path =
      if file.path = path then some program.files.length else program.lookupId? path := by
  by_cases same : file.path = path
  · rw [if_pos same, lookupId?, withFile, List.lookup_cons, same, beq_self_eq_true]
  · rw [if_neg same, lookupId?, withFile, List.lookup_cons, beq_eq_false_iff_ne.2 (Ne.symm same)]
    rfl

/-- A new file is found under its path, and every other path finds what it found before. -/
theorem lookup?_withFile (program : Program) (file : SourceFile) (path : Path) :
    (program.withFile file).lookup? path = if file.path = path then some file else program.lookup? path := by
  rw [lookup?, lookupId?_withFile]
  by_cases same : file.path = path
  · rw [if_pos same, if_pos same, Option.bind_some, file?, withFile, List.getElem?_concat_length]
  · rw [if_neg same, if_neg same, lookup?]
    cases listed : program.lookupId? path with
    | none => rfl
    | some id => exact List.getElem?_append_left (lookupId?_lt listed)

/-- Reading a text changes what a path finds only for the path of the file that it becomes. -/
theorem lookup?_addSource (program : Program) (path : Path) (source : String) (other : Path) :
    (program.addSource path source).1.lookup? other =
      match (program.addSource path source).2 with
      | .ok added => if added.path = other then some added else program.lookup? other
      | .error _ => program.lookup? other := by
  obtain ⟨pos, _, read⟩ | ⟨parsed, _, read⟩ := program.addSource_cases path source
  · rw [read]
    rfl
  · rw [read]
    exact lookup?_withFile (program.withRoom (program.nextRoom source)) _ other

/-- The index agrees with the files: a path has the number of the last file with that path. -/
def Indexed (program : Program) : Prop :=
  ∀ path, program.lookupId? path = (program.files.reverse.find? (·.path == path)).map (·.id)

/-- A file that is numbered by its place keeps the index in step. -/
theorem Indexed.withFile (indexed : program.Indexed) (number : file.id = program.files.length) :
    (program.withFile file).Indexed := by
  intro path
  have behind : (program.withFile file).files.reverse = file :: program.files.reverse :=
    List.reverse_append
  rw [lookupId?_withFile, behind, List.find?_cons]
  by_cases same : file.path = path
  · rw [if_pos same, beq_iff_eq.2 same, Option.map_some, number]
  · rw [if_neg same, beq_eq_false_iff_ne.2 same, indexed path]

theorem Indexed.addSource (indexed : program.Indexed) (path : Path) (source : String) :
    (program.addSource path source).1.Indexed := by
  have grown : (program.withRoom (program.nextRoom source)).Indexed := indexed
  obtain ⟨pos, _, read⟩ | ⟨parsed, _, read⟩ := program.addSource_cases path source
  · rw [read]
    exact grown
  · rw [read]
    exact grown.withFile rfl

/-- In every program that can be built the index agrees with the files. -/
theorem Built.indexed (built : program.Built) : program.Indexed := by
  induction built with
  | empty => exact fun _ => rfl
  | addSource path source _ ih => exact ih.addSource path source
  | mapPath _ _ _ ih => exact ih
  | setSourceRoot _ _ ih => exact ih
  | setTypingsRoot _ _ ih => exact ih

/-- So what a path finds in the index is what a search of the files from the end finds. -/
theorem Built.lookup?_eq (built : program.Built) (path : Path) :
    program.lookup? path = program.files.reverse.find? (·.path == path) := by
  rw [lookup?, built.indexed path]
  cases found : program.files.reverse.find? (·.path == path) with
  | none => rfl
  | some file => exact built.getElem? (List.mem_reverse.1 (List.mem_of_find?_eq_some found))

/-- A path finds the last file that is registered under it. -/
theorem Built.lookup?_eq_some_iff (built : program.Built) :
    program.lookup? path = some file ↔
      ∃ earlier later, program.files = earlier ++ file :: later ∧ file.path = path ∧
        ∀ other ∈ later, other.path ≠ path := by
  rw [built.lookup?_eq, List.find?_eq_some_iff_append]
  constructor
  · rintro ⟨named, later, earlier, split, others⟩
    refine ⟨earlier.reverse, later.reverse, ?_, eq_of_beq named, fun other member => ?_⟩
    · rw [← List.reverse_reverse program.files, split]
      simp
    · simpa using others other (List.mem_reverse.1 member)
  · rintro ⟨earlier, later, split, named, others⟩
    refine ⟨beq_iff_eq.2 named, later.reverse, earlier.reverse, ?_, fun other member => ?_⟩
    · rw [split]
      simp
    · simpa using others other (List.mem_reverse.1 member)

theorem Built.lookup?_eq_none_iff (built : program.Built) :
    program.lookup? path = none ↔ ∀ other ∈ program.files, other.path ≠ path := by
  simp [built.lookup?_eq, List.find?_eq_none]

end Index

/-- A file is registered under the normal form of its path. -/
theorem path_of_ok {program : Program} {path : Path} {source : String} {file : SourceFile}
    (read : (program.addSource path source).2 = .ok file) : file.path = path.normalize := by
  obtain ⟨pos, _, failed⟩ | ⟨parsed, _, done⟩ := program.addSource_cases path source
  · rw [failed] at read
    cases read
  · rw [done] at read
    cases read
    rfl

/-- A text with a fault changes neither the files nor the index, nor any setting. -/
theorem addSource_of_error {program : Program} {path : Path} {source : String} {fault : SyntaxFault}
    (failed : (program.addSource path source).2 = .error fault) :
    let next := (program.addSource path source).1
    next.files = program.files ∧ next.byPath = program.byPath ∧
      next.fileByPath? = program.fileByPath? ∧ next.mappings = program.mappings ∧
      next.sourceRoot = program.sourceRoot ∧ next.typingsRoot = program.typingsRoot := by
  obtain ⟨pos, _, read⟩ | ⟨parsed, _, read⟩ := program.addSource_cases path source
  · rw [read]
    exact ⟨rfl, rfl, rfl, rfl, rfl, rfl⟩
  · rw [read] at failed
    cases failed

end Program

/-- After any history the files of the program are the registered ones, each numbered by its place. The
    index leads a path to the last file that was registered under its normal form, and to none if there is
    no such file. The range of a file ends before the range of every later file starts, so both ends of a
    range and all between them lead back to the file. A text with a fault leaves the files, the index, the
    mappings and the roots as they are. -/
theorem registry_after (steps : List ProgramStep) :
    let program := Program.after steps
    (program.files = registrations steps ∧
      ∀ (place : Nat) (file : SourceFile), program.files[place]? = some file → file.id = place) ∧
    ((∀ path source file, (program.addSource path source).2 = .ok file →
        file.path = path.normalize) ∧
      (∀ path file, program.fileByPath? path = some file ↔
        ∃ earlier later, registrations steps = earlier ++ file :: later ∧
          file.path = path.normalize ∧ ∀ other ∈ later, other.path ≠ path.normalize) ∧
      ∀ path, program.fileByPath? path = none ↔
        ∀ other ∈ registrations steps, other.path ≠ path.normalize) ∧
    (∀ (place later : Nat) (first second : SourceFile), place < later →
      program.files[place]? = some first → program.files[later]? = some second →
      first.span.hi < second.span.lo) ∧
    (∀ file ∈ program.files, ∀ pos, file.span.lo ≤ pos → pos ≤ file.span.hi →
      program.fileAt? pos = some file) ∧
    ∀ path source fault, (program.addSource path source).2 = .error fault →
      let next := (program.addSource path source).1
      next.files = program.files ∧ next.byPath = program.byPath ∧
        next.fileByPath? = program.fileByPath? ∧ next.mappings = program.mappings ∧
        next.sourceRoot = program.sourceRoot ∧ next.typingsRoot = program.typingsRoot := by
  intro program
  have files : program.files = registrations steps := Program.files_after steps
  have built : program.Built := Program.built_after steps
  have spaced : program.Spaced := Program.spaced_after steps
  refine ⟨⟨files, ?_⟩, ⟨?_, ?_, ?_⟩, ?_, ?_, ?_⟩
  · intro place file found
    exact built.numbered found
  · intro path source file read
    exact Program.path_of_ok read
  · intro path file
    rw [← files]
    exact built.lookup?_eq_some_iff
  · intro path
    rw [← files]
    exact built.lookup?_eq_none_iff
  · intro place later first second before foundFirst foundSecond
    obtain ⟨inside, rfl⟩ := List.getElem?_eq_some_iff.1 foundFirst
    obtain ⟨insideLater, rfl⟩ := List.getElem?_eq_some_iff.1 foundSecond
    exact List.pairwise_iff_getElem.1 spaced.apart place later inside insideLater before
  · intro file member pos lower upper
    exact spaced.fileAt? member lower upper
  · intro path source fault failed
    exact Program.addSource_of_error failed

-- An empty text, a text with a fault, which takes its room but becomes no file, and a path that is
-- registered once more under another spelling.
example :
    let program := Program.after [.addSource (.ofString "/a.js") "", .addSource (.ofString "/b.js") "(",
      .addSource (.ofString "/b/../a.js") ";"]
    program.files.map (·.span) = [⟨1, 1⟩, ⟨4, 5⟩] ∧
      (program.fileByPath? (.ofString "/a.js")).map (·.id) = some 1 ∧
      (program.fileAt? 1).map (·.id) = some 0 := by
  decide +kernel

end BundleLens
