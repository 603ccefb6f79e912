/-
Module: BundleLens.Reflection.FunctionBody
Layer: Reflection
Purpose: What a function takes and does. Compilers write default values of parameters as tests at the
  head of the body; such a test belongs to its parameter and not to the body.
Imports: BundleLens.Reflection.World
Main exports: World.variableValue?, Stmt.defaultCheck?, stripDefaults, World.functionInfo?
-/
import BundleLens.Reflection.World

namespace BundleLens

/-- The value of a variable: its initial value, or the first value that is assigned to it. -/
def World.variableValue? (w : World) (d : Declarator) : Option Expr :=
  match d.init with
  | some value => some value
  | none => do
    let view ← w.viewAt? d.span.lo
    return (← (view.index.assignmentsTo d).head?).value

/-- The name and the default value of `if (a === void 0) { a = value; }`. -/
def Stmt.defaultCheck? : Stmt → Option (String × Expr)
  | .ifElse _ test consequent none =>
    match test.bare with
    | .binary _ .identical left right => do
      let id ← left.ident?
      if !right.isUndefined then none
      else
        let a ← (← (← consequent.single?).expr?).assignment?
        let target ← a.target.ident?
        if target.name == id.name then some (id.name, a.value) else none
    | _ => none
  | _ => none

/-- Gives the first parameter with a name a default value. None if there is no such parameter. -/
def setDefault? (name : String) (value : Expr) : List FunctionParam → Option (List FunctionParam)
  | [] => none
  | p :: rest =>
    if p.name == some name then some ({ p with initializer := some value } :: rest)
    else (setDefault? name value rest).map (p :: ·)

/-- The statements of a body without the tests that give parameters their default values, and the
    parameters with these values. -/
def stripDefaults : List Stmt → List FunctionParam → List Stmt × List FunctionParam
  | [], params => ([], params)
  | s :: rest, params =>
    match s.defaultCheck?.bind fun (name, value) => setDefault? name value params with
    | some params' => stripDefaults rest params'
    | none =>
      let (kept, params') := stripDefaults rest params
      (s :: kept, params')

/-- A parameter as it is written. -/
def FunctionParam.ofPat (pat : Pat) : FunctionParam :=
  match pat with
  | .default _ left value => ⟨left.ident?.map (·.name), pat, some value⟩
  | other => ⟨other.ident?.map (·.name), pat, none⟩

/-- The parameters of a function. -/
def FunctionLike.params : FunctionLike → List Pat
  | .function func => func.params.map (·.pat)
  | .arrow _ params _ _ => params

/-- The statements of a function; an arrow function that is only an expression has none. -/
def FunctionLike.body? : FunctionLike → Option (List Stmt)
  | .function func => func.body
  | .arrow _ _ concise body => if concise then none else some body

/-- What a function takes and does. -/
def FunctionLike.info (f : FunctionLike) (node : DeclNode) (known : Option KnownDeclaration) :
    FunctionInfo :=
  let params := f.params.map FunctionParam.ofPat
  match f.body? with
  | some body =>
    let (kept, params') := stripDefaults body params
    ⟨node, known, some kept, params'⟩
  | none => ⟨node, known, none, params⟩

/-- What the function at a node takes and does. Helpers that are not declared are known by their names
    alone. -/
def World.functionInfo? (w : World) (node : DeclNode) : Option FunctionInfo :=
  match node with
  | .function decl => some ((FunctionLike.function decl.func).info node (knownHelper? decl.name.name))
  | .functionExpr expr => some ((FunctionLike.function expr.func).info node none)
  | .variable d => do
    let f ← (← w.variableValue? d).functionLike?
    return f.info node (d.pat.ident?.bind (knownHelper? ·.name))
  | .ident id => do
    let known ← knownHelper? id.name
    return ⟨node, some known, none, []⟩
  | _ => none

end BundleLens
