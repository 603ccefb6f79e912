/-
Module: BundleLens.Syntax.Module
Layer: Syntax
Purpose: The top level of a file: statements, imports and exports. Module declarations stand only
  here, so they are no part of the statements.
Imports: BundleLens.Syntax.Ranges
Main exports: ModuleName, ImportSpecifier, ImportDecl, ExportSpecifier, Item
-/
import BundleLens.Syntax.Ranges

namespace BundleLens

/-- A name on the module side of an import or export: an identifier or a text. -/
inductive ModuleName where
  | ident (id : Ident)
  | string (value : Option String)
deriving Repr, Inhabited

/-- The text of a module name; a text with an unpaired surrogate is none. -/
def ModuleName.text? : ModuleName → Option String
  | .ident id => some id.name
  | .string value => value

/-- What an import specifier takes from the module. -/
inductive ImportKind where
  | named (imported : Option ModuleName)
  | default
  | whole
deriving Repr, Inhabited

/-- One name that an import declaration brings into the file; `name` is the name it has there. -/
structure ImportSpecifier where
  name : Ident
  kind : ImportKind
deriving Repr, Inhabited

/-- The name under which the other module exports what is imported; a whole module has none. -/
def ImportSpecifier.imported? (s : ImportSpecifier) : Option String :=
  match s.kind with
  | .named (some name) => name.text?
  | .named none => some s.name.name
  | .default => some "default"
  | .whole => none

/-- An import declaration. -/
structure ImportDecl where
  span : Span
  specifiers : List ImportSpecifier
  source : Option String
deriving Repr, Inhabited

/-- One entry of an export list. -/
inductive ExportSpecifier where
  | named (name : ModuleName) (exported : Option ModuleName)
  | whole (exported : ModuleName)
deriving Repr, Inhabited

/-- An item of the top level of a file. -/
inductive Item where
  | stmt (s : Stmt)
  | importDecl (decl : ImportDecl)
  /-- `export` in front of a declaration. -/
  | exportDecl (decl : Stmt)
  /-- An export list of this file's own names. -/
  | exportList (specifiers : List ExportSpecifier)
  /-- An export list of another module's names. -/
  | exportFrom (specifiers : List ExportSpecifier) (source : Option String)
  | exportAll (source : Option String)
  | exportClass (name : Option Ident) (cls : Class)
  | exportFunction (name : Option Ident) (func : Func)
  | exportValue (value : Expr)
  /-- A module declaration that names no value: a default interface, an import or export assignment,
      a namespace export. -/
  | other

/-- The statement that an item is, if it is one. -/
def Item.stmt? : Item → Option Stmt
  | .stmt s => some s
  | _ => none

/-- Whether an item is an import or export declaration. -/
def Item.isModuleDecl : Item → Bool
  | .stmt _ => false
  | _ => true

end BundleLens
