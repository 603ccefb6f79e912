/-
Module: BundleLens.Model.Table
Layer: Model
Purpose: Tables of named things that keep the order in which their names were first met. Putting a name
  that is already there replaces what it names and keeps its place.
Main exports: Table, Table.get?, Table.names, Table.insert, Table.insertNew
-/

namespace BundleLens

/-- Named things in the order in which their names were first met. -/
structure Table (α : Type) where
  entries : List (String × α)
deriving Inhabited

namespace Table

variable {α : Type}

/-- The table without names. -/
def empty : Table α := ⟨[]⟩

/-- What a name names. -/
def get? (table : Table α) (name : String) : Option α := table.entries.lookup name

/-- The names, in order. -/
def names (table : Table α) : List String := table.entries.map (·.1)

/-- Replaces what a name names, or appends the name. -/
def put (name : String) (value : α) : List (String × α) → List (String × α)
  | [] => [(name, value)]
  | (key, old) :: rest =>
    if key == name then (key, value) :: rest else (key, old) :: put name value rest

/-- Gives a name a meaning; a name that is there already keeps its place. -/
def insert (table : Table α) (name : String) (value : α) : Table α :=
  ⟨put name value table.entries⟩

/-- Gives a name a meaning unless it has one. -/
def insertNew (table : Table α) (name : String) (value : α) : Table α :=
  match table.get? name with
  | some _ => table
  | none => ⟨table.entries ++ [(name, value)]⟩

/-- Gives several names a meaning, one after the other. -/
def insertAll (table : Table α) (entries : List (String × α)) : Table α :=
  entries.foldl (fun acc entry => acc.insert entry.1 entry.2) table

end Table
end BundleLens
