/-
Module: BundleLens.Proofs.Built
Layer: Proofs
Purpose: The programs that there are: a program is empty, or it comes from another one by reading a
  text, by mapping a module name or by setting a root. In all of them the number of a file is its place,
  so a way from file to file that comes back to its start can be shortened to what follows the last
  visit there.
Imports: BundleLens.Reflection.World
Main exports: Program.Built, Program.ofTexts, Program.ofTexts_eq_ofBytes, Program.Built.numbered,
  Program.Built.eq_of_id, Program.Built.last_visit, countP_not_lt, World.Proper, World.ofProgram_proper
-/
import BundleLens.Reflection.World
import Mathlib.Logic.Relation

namespace BundleLens

/-- The programs that can be built. A text with a fault may be read too; it registers no file. -/
inductive Program.Built : Program → Prop where
  | empty : Built .empty
  | addSource {program : Program} (path : Path) (source : String) :
      Built program → Built (program.addSource path source).1
  | mapPath {program : Program} (specifier : String) (path : Path) :
      Built program → Built (program.mapPath specifier path)
  | setSourceRoot {program : Program} (root : Path) :
      Built program → Built (program.setSourceRoot root)
  | setTypingsRoot {program : Program} (root : Path) :
      Built program → Built (program.setTypingsRoot root)

/-- The program of some texts, each with its path, without any settings. -/
def Program.ofTexts (texts : List (String × String)) : Program :=
  texts.foldl (fun program (path, text) => (program.addSource (.ofString path) text).1) .empty

theorem Program.Built.ofTexts (texts : List (String × String)) : (Program.ofTexts texts).Built := by
  have grow : ∀ program : Program, program.Built →
      (texts.foldl (fun program (path, text) =>
        (program.addSource (.ofString path) text).1) program).Built := by
    induction texts with
    | nil => exact fun _ built => built
    | cons head rest ih =>
        intro program built
        exact ih _ (.addSource (.ofString head.1) head.2 built)
  exact grow .empty .empty

/-! ### Texts of single bytes -/

/-- The characters of a text. Where each byte is a character the text need not be decoded, so that the
    characters of a text that is written out are found in a few steps. -/
def bytewise (text : String) : List Char :=
  let bytes := text.toByteArray.data.toList
  let chars := bytes.map fun byte => Char.ofNat byte.toNat
  if chars.flatMap String.utf8EncodeChar = bytes then chars else text.toList

theorem bytewise_eq_toList (text : String) : bytewise text = text.toList := by
  unfold bytewise
  simp only
  split
  · rename_i same
    rw [← String.ofList_inj, String.ofList_toList, ← String.toByteArray_inj, String.toByteArray_ofList,
      List.utf8Encode, same]
    apply ByteArray.ext
    simp
  · rfl

/-- Reads some characters and registers them under a path. -/
def Program.addChars (program : Program) (path : Path) (chars : List Char) : Program :=
  let path := path.normalize
  let kind := FileKind.ofPath path
  let text := Text.stripMark chars
  let room : Room := ⟨program.next, text⟩
  let grown := { program with rooms := program.rooms ++ [room], next := room.finish + 1 }
  match Grammar.parseText (kind == .typings) room.start text with
  | .error _ => grown
  | .ok parsed =>
    let file : SourceFile :=
      ⟨program.files.length, path, kind, parsed.isModule, parsed.items, ⟨room.start, room.finish⟩⟩
    { grown with
      files := program.files ++ [file]
      byPath := (path, program.files.length) :: program.byPath
      within := program.within.register path file }

theorem Program.addSource_eq_addChars (program : Program) (path : Path) (source : String) :
    (program.addSource path source).1 = program.addChars path source.toList := by
  unfold addSource addChars
  simp only
  cases Grammar.parseText (FileKind.ofPath path.normalize == .typings) program.next
    (Text.stripMark source.toList) <;> rfl

/-- The program of some texts, found byte by byte. -/
def Program.ofBytes (texts : List (String × String)) : Program :=
  texts.foldl (fun program (path, text) => program.addChars (.ofString path) (bytewise text)) .empty

/-- A program of texts that are written out is evaluated faster by their bytes. -/
theorem Program.ofTexts_eq_ofBytes (texts : List (String × String)) : ofTexts texts = ofBytes texts := by
  simp only [ofTexts, ofBytes, addSource_eq_addChars, bytewise_eq_toList]

/-! ### Numbers of files -/

/-- Reading a text registers either nothing or one file, behind the others and numbered by its place. -/
theorem Program.addSource_files (program : Program) (path : Path) (source : String) :
    (program.addSource path source).1.files = program.files ∨
      ∃ file : SourceFile, file.id = program.files.length ∧
        (program.addSource path source).1.files = program.files ++ [file] := by
  unfold Program.addSource
  simp only
  split
  · exact Or.inl rfl
  · exact Or.inr ⟨_, rfl, rfl⟩

/-- In a program that can be built the number of a file is its place. -/
theorem Program.Built.numbered {program : Program} (built : program.Built) {place : Nat}
    {file : SourceFile} (found : program.files[place]? = some file) : file.id = place := by
  induction built generalizing place file with
  | empty => simp [Program.empty] at found
  | @addSource program path source _ ih =>
      rcases program.addSource_files path source with same | ⟨added, number, grown⟩
      · rw [same] at found
        exact ih found
      · rw [grown, List.getElem?_append] at found
        split at found
        · exact ih found
        · rename_i behind
          rw [List.getElem?_singleton] at found
          split at found
          · cases found
            omega
          · cases found
  | mapPath _ _ _ ih => exact ih found
  | setSourceRoot _ _ ih => exact ih found
  | setTypingsRoot _ _ ih => exact ih found

theorem Program.Built.getElem? {program : Program} {file : SourceFile} (built : program.Built)
    (member : file ∈ program.files) : program.files[file.id]? = some file := by
  obtain ⟨place, found⟩ := List.mem_iff_getElem?.1 member
  rw [built.numbered found, found]

/-- Files with the same number are the same. -/
theorem Program.Built.eq_of_id {program : Program} {file other : SourceFile} (built : program.Built)
    (member : file ∈ program.files) (memberOther : other ∈ program.files)
    (same : other.id = file.id) : other = file := by
  have place := built.getElem? memberOther
  rw [same, built.getElem? member] at place
  exact (Option.some.inj place).symm

/-- A module name means a file of the program. -/
theorem Program.mem_of_resolve? {program : Program} {specifier : String} {file target : SourceFile}
    (found : program.resolve? specifier file = some target) : target ∈ program.files := by
  obtain ⟨id, _, here⟩ := Option.bind_eq_some_iff.1 found
  exact List.mem_of_getElem? here

/-- A way around open files ends where it starts, or it leaves its start for the last time and goes on
    around it. -/
theorem Program.Built.last_visit {program : Program} (built : program.Built)
    {step : SourceFile → SourceFile → Prop} (inside : ∀ file next, step file next → next ∈ program.files)
    {opened : List Nat} {file other : SourceFile} (member : file ∈ program.files)
    (leads : Relation.ReflTransGen (fun file next => step file next ∧ next.id ∉ opened) file other) :
    other = file ∨ ∃ target, step file target ∧ target.id ∉ file.id :: opened ∧
      Relation.ReflTransGen (fun before next => step before next ∧ next.id ∉ file.id :: opened)
        target other := by
  induction leads with
  | refl => exact .inl rfl
  | @tail before last _ next ih =>
      by_cases back : last.id = file.id
      · exact .inl (built.eq_of_id member (inside before last next.1) back)
      · have outside : last.id ∉ file.id :: opened := by
          simpa [back] using next.2
        rcases ih with rfl | ⟨target, first, closed, onward⟩
        · exact .inr ⟨last, next.1, outside, .refl⟩
        · exact .inr ⟨target, first, closed, onward.tail ⟨next.1, outside⟩⟩

/-- If one more number is open then fewer of some numbers are not. -/
theorem countP_not_lt {isOpen opened : Nat → Bool} {id : Nat} (closed : isOpen id = false)
    (opens : opened id = true) (keeps : ∀ other, isOpen other = true → opened other = true) :
    ∀ ids : List Nat, id ∈ ids → ids.countP (!opened ·) < ids.countP (!isOpen ·) := by
  intro ids
  induction ids with
  | nil => intro member; cases member
  | cons head tail ih =>
      intro member
      have rest : tail.countP (!opened ·) ≤ tail.countP (!isOpen ·) := by
        refine List.countP_mono_left fun other _ shut => ?_
        cases shown : isOpen other with
        | false => rfl
        | true => simp [keeps other shown] at shut
      rcases List.mem_cons.1 member with rfl | later
      · simp only [List.countP_cons, closed, opens]
        simpa using Nat.lt_succ_of_le rest
      · have fewer := ih later
        have here : (if !opened head then 1 else 0) ≤ if !isOpen head then 1 else 0 := by
          cases shown : isOpen head with
          | false => cases opened head <;> simp
          | true => simp [keeps head shown]
        simp only [List.countP_cons]
        omega

/-- A world that shows every file of its program, each at the place that is its number. -/
structure World.Proper (w : World) : Prop where
  complete : w.views.length = w.program.files.length
  numbered : ∀ (id : Nat) (view : FileView), w.views[id]? = some view → view.file.id = id

/-- The world of a program that can be built is proper. -/
theorem World.ofProgram_proper {program : Program} (built : program.Built) (host : HostKind) :
    (World.ofProgram program host).Proper := by
  constructor
  · simp [World.ofProgram]
  · intro id view found
    simp only [World.ofProgram, List.getElem?_map, Option.map_eq_some_iff] at found
    obtain ⟨file, place, rfl⟩ := found
    exact built.numbered place

end BundleLens
