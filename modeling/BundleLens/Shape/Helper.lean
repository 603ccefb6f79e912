/-
Module: BundleLens.Shape.Helper
Layer: Shapes
Purpose: Names of compiler helpers. A bundler that joins several files renames helpers by a dollar sign
  and a number; the name without that suffix tells which helper it is.
Main exports: stripSuffix, KnownDeclaration, knownHelper?
-/

namespace BundleLens

/-- Declarations with a meaning of their own: the global object and the helpers that compilers emit. -/
inductive KnownDeclaration where
  | globalObject
  | assign
  | spread
  | spreadArray
  | spreadArrays
  | read
deriving DecidableEq, Repr, Inhabited

/-- Whether a character is an ASCII digit. -/
def isAsciiDigit (c : Char) : Bool := '0' ≤ c && c ≤ '9'

/-- The characters in front of the last dollar sign and those behind it. -/
def splitDollar : List Char → Option (List Char × List Char)
  | [] => none
  | c :: rest =>
    match splitDollar rest with
    | some (before, behind) => some (c :: before, behind)
    | none => if c == '$' then some ([], rest) else none

/-- A name without its last suffix of a dollar sign and digits. Something must stand in front of the
    suffix. -/
def stripSuffix (name : String) : String :=
  match splitDollar name.toList with
  | some (before, behind) =>
    if !before.isEmpty && !behind.isEmpty && behind.all isAsciiDigit then String.ofList before
    else name
  | none => name

/-- The helper with exactly the given name. -/
def helperNamed? : String → Option KnownDeclaration
  | "__assign" => some .assign
  | "__spread" => some .spread
  | "__spreadArray" => some .spreadArray
  | "__spreadArrays" => some .spreadArrays
  | "__read" => some .read
  | _ => none

/-- The helper that a name stands for, suffix or not. -/
def knownHelper? (name : String) : Option KnownDeclaration := helperNamed? (stripSuffix name)

end BundleLens
