/-
Module: BundleLens.Config.Settings
Layer: Configuration
Purpose: The settings of a package: where its files and typings are, and which files bare module names
  mean. A settings file has a table `package` and a table `paths`; each may be given by a header, by an
  inline table or by dotted keys, but only in one of these ways, and unknown names are refused.
Imports: BundleLens.Config.Toml
Main exports: Settings, Settings.parse, Settings.anchoredAt, joinRaw, Mapping, Mapping.parse
-/
import BundleLens.Config.Toml

namespace BundleLens

/-- The settings of a package. Paths are kept as they are written, because messages show them so. -/
structure Settings where
  root : String
  typings : Option String
  /-- Files for bare module names, in the order of the names. -/
  paths : List (String × String)
deriving DecidableEq, Repr, Inhabited

namespace Settings

/-- Without settings the files of the current directory make up the package. -/
def default : Settings := ⟨".", none, []⟩

open Toml

/-! ### Sections -/

/-- The entries in front of the first header, and the headers with the entries behind each. Headers of
    lists and headers with several keys name no section. -/
def sections? : List Line → Option (List (List String × Value) × List (String × List (List String × Value)))
  | [] => some ([], [])
  | .entry keys value :: rest => do
    let (top, named) ← sections? rest
    return ((keys, value) :: top, named)
  | .header [name] :: rest => do
    let (own, named) ← sections? rest
    return ([], (name, own) :: named)
  | _ => none

/-- The tables of a settings file. -/
def tableNames : List String := ["package", "paths"]

/-- The entries of a table that dotted keys in front of the first header give it. -/
def dottedEntries (top : List (List String × Value)) (name : String) : List (List String × Value) :=
  top.filterMap fun (keys, value) =>
    match keys with
    | first :: second :: more => if first == name then some (second :: more, value) else none
    | _ => none

/-- What stands for a table: values that are given to its name as a whole, one for each way in which the
    table is given. -/
def waysOf (top : List (List String × Value)) (named : List (String × List (List String × Value)))
    (name : String) : List Value :=
  let whole := top.filterMap fun (keys, value) => if keys == [name] then some value else none
  let headed := named.filterMap fun (key, entries) =>
    if key == name then some (Value.table entries) else none
  let dotted := match dottedEntries top name with
    | [] => []
    | entries => [Value.table entries]
  whole ++ headed ++ dotted

/-- The value of a table; none if the table is not given, and a failure if it is given in several
    ways. -/
def tableOf? (top : List (List String × Value)) (named : List (String × List (List String × Value)))
    (name : String) : Option (Option Value) :=
  match waysOf top named name with
  | [] => some none
  | [value] => some (some value)
  | _ => none

/-- The entries of a table that holds only texts under plain keys, none of them twice. -/
def textEntries? : List (List String × Value) → Option (List (String × String))
  | [] => some []
  | ([name], .text value) :: rest => do
    let more ← textEntries? rest
    if more.any (·.1 == name) then none else return (name, value) :: more
  | _ => none

/-! ### Settings -/

/-- The root and the typings of a package. A list gives the two in this order, and more items do not
    matter. -/
def package? : Option Value → Option (String × Option String)
  | none => some (default.root, none)
  | some (.table entries) => do
    let found ← textEntries? entries
    if found.all fun entry => entry.1 == "root" || entry.1 == "typings" then
      return ((found.lookup "root").getD default.root, found.lookup "typings")
    else none
  | some (.list (.text root :: .text typings :: _)) => some (root, some typings)
  | some _ => none

/-- The paths of bare module names, in the order of the names. -/
def paths? : Option Value → Option (List (String × String))
  | none => some []
  | some (.table entries) => do
    return (← textEntries? entries).mergeSort fun a b => !(b.1 < a.1)
  | some _ => none

/-- The settings that the lines of a file give. -/
def ofLines? (lines : List Line) : Option Settings := do
  let (top, named) ← sections? lines
  let known := fun name => tableNames.contains name
  if top.all (fun entry => (entry.1.head?.map known).getD false) && named.all (fun s => known s.1) then
    let (root, typings) ← package? (← tableOf? top named "package")
    return ⟨root, typings, ← paths? (← tableOf? top named "paths")⟩
  else none

/-- Reads a settings file. -/
def parse (source : String) : Option Settings := do ofLines? (← readLines source)

end Settings

/-! ### Paths as they are written -/

/-- Appends a path as it is written; an absolute one replaces what is in front of it. -/
def joinRaw (base path : String) : String :=
  if path.toList.head? == some '/' then path
  else if base.isEmpty || base.toList.getLast? == some '/' then base ++ path
  else base ++ "/" ++ path

/-- The settings with relative paths taken from the given directory. -/
def Settings.anchoredAt (s : Settings) (base : String) : Settings :=
  { root := joinRaw base s.root
    typings := s.typings.map (joinRaw base)
    paths := s.paths.map fun (name, path) => (name, joinRaw base path) }

/-! ### Mappings -/

/-- A bare module name with the file it means, as it is written. -/
abbrev Mapping := String × String

/-- Why a text is no mapping. -/
structure MappingError where
  text : String
deriving DecidableEq, Repr, Inhabited

/-- The wording of an error. -/
def MappingError.message (e : MappingError) : String :=
  "expected SPECIFIER=PATH, got '" ++ e.text ++ "'"

/-- Splits a text at its first equals sign. -/
def splitEquals : List Char → Option (List Char × List Char)
  | [] => none
  | '=' :: rest => some ([], rest)
  | c :: rest => (splitEquals rest).map fun (before, behind) => (c :: before, behind)

/-- Reads `SPECIFIER=PATH`. Neither side may be empty. -/
def Mapping.parse (text : String) : Except MappingError Mapping :=
  match splitEquals text.toList with
  | some (before, behind) =>
    if before.isEmpty || behind.isEmpty then .error ⟨text⟩
    else .ok (String.ofList before, String.ofList behind)
  | none => .error ⟨text⟩

end BundleLens
