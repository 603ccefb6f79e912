/-
Module: BundleLens.Reflection.Resolve
Layer: Reflection
Purpose: What identifiers and expressions of a file stand for. Names are followed through imports, and
  members through the export tables of modules. There are rules for files with declarations and rules
  for wrapped files, which fall back on the first ones; every host sends a question to its rules, and
  the rules put the questions that follow to the host again. Tables are only asked for here, so that
  following names is plain recursion on expressions.
Imports: BundleLens.Reflection.Dependency, BundleLens.Reflection.Inquiry
Main exports: importedDeclaration, lexicalDeclaration, wrappedIdentifier, delegatedIdentifier,
  identifierDeclaration, plainExpression, wrappedExpression, delegatedExpression, expressionDeclaration
-/
import BundleLens.Reflection.Dependency
import BundleLens.Reflection.Inquiry

namespace BundleLens

/-- The entry of a name in the export table of a file. -/
def exportedBy (file : SourceFile) (name : String) : Inquiry (Option Declaration) := do
  return (← Inquiry.tableOf file).bind (·.get? name)

/-- What an import stands for: the whole module, or the entry of its export table. -/
def importedDeclaration (w : World) (file : SourceFile) (decl : ImportDecl)
    (specifier : ImportSpecifier) : Inquiry (Option Declaration) := do
  let some source := decl.source | return none
  let some target := w.program.resolve? source file | return some (.missing (.importDecl decl))
  match specifier.kind with
  | .whole => return some (.wholeModule target (bareName? source))
  | _ =>
    let some name := specifier.imported? | return none
    match ← exportedBy target name with
    | some found => return some (found.inheritVia (bareName? source))
    | none => return some (.missing (.importDecl decl))

/-- What a binding stands for. -/
def bindingDeclaration (w : World) (view : FileView) (binding : Binding) :
    Inquiry (Option Declaration) :=
  match originOf view.index binding with
  | .declared declaration => return some declaration
  | .imported decl specifier => importedDeclaration w view.file decl specifier

/-- What an identifier stands for by the scopes of its file. -/
def lexicalDeclaration (w : World) (view : FileView) (id : Ident) : Inquiry (Option Declaration) :=
  match view.index.primary? id with
  | some binding => bindingDeclaration w view binding
  | none => return freeDeclaration? id

/-- What an identifier of a wrapped file stands for by its wrapper: `exports` is the module itself
    unless it is declared inside the factory, and names of other modules stand for these. -/
def factoryDeclaration? (w : World) (view : FileView) (wrapper : Wrapper) (id : Ident) :
    Option Declaration :=
  let binding := view.index.primary? id
  if id.name == "exports" then
    match binding with
    | some b =>
      if isFactoryParam wrapper b then some (.wholeModule view.file none) else some (.concrete b.node)
    | none => some (.wholeModule view.file none)
  else do
    let found ← dependency? wrapper (← binding)
    return w.program.moduleDeclaration found.specifier view.file found.node

/-- What an identifier stands for by the rules for wrapped files. What these do not know, and all names
    of a file without a wrapper, is left to the scopes. -/
def wrappedIdentifier (w : World) (view : FileView) (id : Ident) : Inquiry (Option Declaration) :=
  match view.wrapper with
  | none => lexicalDeclaration w view id
  | some wrapper =>
    match factoryDeclaration? w view wrapper id with
    | some declaration => return some declaration
    | none => lexicalDeclaration w view id

/-- What an identifier stands for by the rules that fit the format of the file. -/
def delegatedIdentifier (w : World) (view : FileView) (id : Ident) : Inquiry (Option Declaration) :=
  match view.format with
  | .wrappers => wrappedIdentifier w view id
  | .modules => lexicalDeclaration w view id

/-- What an identifier of a file stands for. -/
def identifierDeclaration (w : World) (view : FileView) (id : Ident) :
    Inquiry (Option Declaration) :=
  match w.host with
  | .modules => lexicalDeclaration w view id
  | .wrappers => wrappedIdentifier w view id
  | .mixed => delegatedIdentifier w view id

/-- A helper that is reached as a member of a module that does not have it. -/
def memberHelper? (m : Member) (e : Expr) : Option Declaration := do
  let known ← knownHelper? (← m.name?)
  return (Declaration.inline (.expr e) none).withKnown (some known)

/-- What a member of the given thing stands for. -/
def memberDeclaration (m : Member) (e : Expr) (owner : Declaration) :
    Inquiry (Option Declaration) := do
  let some name := m.name? | return none
  if owner.isMissing then return some ((memberHelper? m e).getD (.missing (.expr e)))
  else
    let some file := owner.node.module? | return none
    match ← exportedBy file name with
    | some found => return some (found.inheritVia owner.via)
    | none => return memberHelper? m e

/-- What an expression stands for by the rules for files with declarations: a name, a member of a
    module, or a required module. What the object of a member stands for has been asked by `object`. -/
def plainExpression (w : World) (view : FileView) (object : Inquiry (Option Declaration)) :
    Expr → Inquiry (Option Declaration)
  | .ident id => identifierDeclaration w view id
  | .member span false owner key => do
    let m : Member := ⟨span, owner, key⟩
    if m.name?.isNone then return none
    match ← object with
    | some found => memberDeclaration m (.member span false owner key) found
    | none => return none
  | .call span .plain callee args => return do
    let specifier ← Call.requires? ⟨span, callee, args⟩
    return w.program.moduleDeclaration specifier view.file (.expr (.call span .plain callee args))
  | _ => return none

/-- The module that an object is, if its table is being made. -/
def unfinishedModule (owner : Declaration) : Inquiry (Option SourceFile) := do
  let some file := owner.node.module? | return none
  return if ← Inquiry.isUnfinished file then some file else none

/-- What an expression stands for by the rules for wrapped files: a member that is read from `exports`
    while the table of the module is being made stands for the whole object. All else is left to the
    rules for files with declarations, which ask for the object once more. -/
def wrappedExpression (w : World) (view : FileView) (object : Inquiry (Option Declaration))
    (e : Expr) : Inquiry (Option Declaration) :=
  if e.exported?.isSome then do
    match ← object with
    | none => return none
    | some owner =>
      match ← unfinishedModule owner with
      | some file => return some (.wholeModule file none)
      | none => plainExpression w view object e
  else plainExpression w view object e

/-- What an expression stands for by the rules that fit the format of the file. -/
def delegatedExpression (w : World) (view : FileView) (object : Inquiry (Option Declaration))
    (e : Expr) : Inquiry (Option Declaration) :=
  match view.format with
  | .wrappers => wrappedExpression w view object e
  | .modules => plainExpression w view object e

/-- What an expression stands for by the rules of the host. -/
def hostExpression (w : World) (view : FileView) (object : Inquiry (Option Declaration))
    (e : Expr) : Inquiry (Option Declaration) :=
  match w.host with
  | .modules => plainExpression w view object e
  | .wrappers => wrappedExpression w view object e
  | .mixed => delegatedExpression w view object e

/-- What an expression of a file stands for. The object of a member is put to the host like the
    member. -/
def expressionDeclaration (w : World) (view : FileView) : Expr → Inquiry (Option Declaration)
  | .paren _ inner => expressionDeclaration w view inner
  | .member span optional owner key =>
    hostExpression w view (expressionDeclaration w view owner) (.member span optional owner key)
  | e => hostExpression w view (return none) e

end BundleLens
