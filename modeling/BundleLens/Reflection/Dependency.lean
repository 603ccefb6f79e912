/-
Module: BundleLens.Reflection.Dependency
Layer: Reflection
Purpose: The names of other modules inside a wrapped file: parameters of the factory, and variables that
  hold a required module. Also where names and expressions are imported from, which no export table has
  to be known for: by import declarations, by the rules for wrapped files, or by those that fit the
  format of the file.
Imports: BundleLens.Reflection.Origin, BundleLens.Reflection.World
Main exports: Dependency, dependency?, FileView.namespaceOf?, World.importOfIdentifier?,
  World.importOfExpression?
-/
import BundleLens.Reflection.Origin
import BundleLens.Reflection.World

namespace BundleLens

/-- A name for another module, with the module name it stands for. -/
inductive Dependency where
  /-- A parameter of the factory. -/
  | parameter (param : Param) (specifier : String)
  /-- `var x = require('x')` -/
  | required (declarator : Declarator) (specifier : String)

namespace Dependency

/-- The module name. -/
def specifier : Dependency → String
  | .parameter _ specifier => specifier
  | .required _ specifier => specifier

/-- The node that declares the name. -/
def node : Dependency → DeclNode
  | .parameter p _ => .param p
  | .required d _ => .variable d

end Dependency

/-- Whether a binding is a parameter of the factory. -/
def isFactoryParam (wrapper : Wrapper) : Binding → Bool
  | .param func _ _ _ _ => func.span == wrapper.factory.span
  | _ => false

/-- The module that a binding of a wrapped file names. -/
def dependency? (wrapper : Wrapper) (binding : Binding) : Option Dependency :=
  match binding with
  | .param _ _ p id _ =>
    if isFactoryParam wrapper binding then
      (wrapper.importOf? id).map fun found => .parameter p found.specifier
    else none
  | .variable d _ => do return .required d (← (← d.init).requires?)
  | _ => none

/-- The declaration of a module name: the module, or the given node if there is no such module. -/
def Program.moduleDeclaration (program : Program) (specifier : String) (file : SourceFile)
    (node : DeclNode) : Declaration :=
  match program.resolve? specifier file with
  | some target => .wholeModule target (bareName? specifier)
  | none => .missing node

/-- The module that an identifier of a wrapped file names. -/
def FileView.namespaceOf? (view : FileView) (id : Ident) : Option Dependency := do
  let wrapper ← view.wrapper
  dependency? wrapper (← view.index.primary? id)

/-! ### Imports -/

/-- The property that an identifier takes out of an object by destructuring. -/
def destructuredKey? (properties : List PatProperty) (id : Ident) : Option String :=
  properties.findSome? fun
    | .keyValue key (.ident _ inner) => if inner.span == id.span then key.name? else none
    | .shorthand inner _ => if inner.span == id.span then some inner.name else none
    | _ => none

/-- What a binding takes out of a module by an import declaration. -/
def declaredImport? : Binding → Option Import
  | .imported decl specifier => do return ⟨← specifier.imported?, ← decl.source⟩
  | _ => none

/-- What a binding takes out of a required module by destructuring. -/
def destructuredImport? (d : Declarator) (id : Ident) : Option Import := do
  let source ← (← d.init).requires?
  match d.pat with
  | .object _ properties => return ⟨← destructuredKey? properties id, source⟩
  | _ => none

/-- Where an identifier is imported from by an import declaration. -/
def FileView.declaredImportOf? (view : FileView) (id : Ident) : Option Import := do
  declaredImport? (← view.index.primary? id)

/-- Where an identifier is imported from by the rules for wrapped files. -/
def FileView.wrappedImportOf? (view : FileView) (id : Ident) : Option Import :=
  match view.wrapper with
  | none => view.declaredImportOf? id
  | some _ => do
    match ← view.index.primary? id with
    | .destructured d inner => destructuredImport? d inner
    | _ => view.declaredImportOf? id

/-- Where an identifier is imported from by the rules that fit the format of the file. -/
def FileView.delegatedImportOf? (view : FileView) (id : Ident) : Option Import :=
  match view.format with
  | .wrappers => view.wrappedImportOf? id
  | .modules => view.declaredImportOf? id

/-- Where the thing that an identifier names is imported from. -/
def World.importOfIdentifier? (w : World) (id : Ident) : Option Import := do
  let view ← w.viewAt? id.span.lo
  match w.host with
  | .modules => view.declaredImportOf? id
  | .wrappers => view.wrappedImportOf? id
  | .mixed => view.delegatedImportOf? id

/-- The module that a binding names as a whole by an import declaration. -/
def wholeImport? : Binding → Option String
  | .imported decl specifier =>
    match specifier.kind with
    | .whole => decl.source
    | _ => none
  | _ => none

namespace World

/-- The module that an identifier names as a whole by an import declaration. -/
def wholeImportOf? (w : World) (id : Ident) : Option String := do
  wholeImport? (← (← w.viewAt? id.span.lo).index.primary? id)

/-- The module that an identifier of a wrapped file names. -/
def namespaceOf? (w : World) (id : Ident) : Option Dependency := do
  (← w.viewAt? id.span.lo).namespaceOf? id

/-- Where the thing that an expression names is imported from by import declarations: an imported name,
    or a member of an imported module. -/
def declaredImportOf? (w : World) (e : Expr) : Option Import :=
  match e.ident? with
  | some id => w.importOfIdentifier? id
  | none => do
    let m ← e.member?
    let source ← w.wholeImportOf? (← m.object.ident?)
    return ⟨← m.name?, source⟩

/-- Where the thing that an expression names is imported from by the rules for wrapped files, which know
    more names of modules. -/
def wrappedImportOf? (w : World) (e : Expr) : Option Import :=
  match e.ident? with
  | some id => w.importOfIdentifier? id
  | none => do
    let m ← e.member?
    match m.object.ident?.bind w.namespaceOf? with
    | some found => return ⟨← m.name?, found.specifier⟩
    | none => w.declaredImportOf? e

/-- Where the thing that an expression names is imported from by the rules that fit the format of the
    file that holds the expression inside its parentheses. -/
def delegatedImportOf? (w : World) (e : Expr) : Option Import :=
  match (w.viewAt? e.bare.span.lo).map FileView.format with
  | some .wrappers => w.wrappedImportOf? e
  | _ => w.declaredImportOf? e

/-- Where the thing that an expression names is imported from. -/
def importOfExpression? (w : World) (e : Expr) : Option Import :=
  match w.host with
  | .modules => w.declaredImportOf? e
  | .wrappers => w.wrappedImportOf? e
  | .mixed => w.delegatedImportOf? e

end World
end BundleLens
