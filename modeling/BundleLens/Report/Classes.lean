/-
Module: BundleLens.Report.Classes
Layer: Reports
Purpose: The report on the classes of a file: names, base class, decorators, constructor and members.
Imports: BundleLens.Report.Exports
Main exports: DecoratorReport, MemberReport, ParamReport, ClassReport, World.classReports
-/
import BundleLens.Report.Exports

namespace BundleLens

/-- A decorator, with what it is imported as and the number of its arguments. -/
structure DecoratorReport where
  name : String
  imported : Option String
  args : Nat
deriving DecidableEq, Repr, Inhabited

/-- A member of a class. -/
structure MemberReport where
  name : String
  kind : String
  isStatic : Bool
  decorators : List DecoratorReport
deriving DecidableEq, Repr, Inhabited

/-- A constructor parameter. -/
structure ParamReport where
  name : Option String
  type : String
  decorators : List DecoratorReport
deriving DecidableEq, Repr, Inhabited

/-- A class. One that nothing decorates has no decorators, and one whose constructor was written by a
    compiler has no constructor. -/
structure ClassReport where
  name : String
  location : Option Location
  internalName : String
  adjacentName : String
  base : Option String
  decorators : Option (List DecoratorReport)
  members : List MemberReport
  ctor : Option (List ParamReport)
deriving DecidableEq, Repr, Inhabited

/-! ### Making -/

/-- An import as text. -/
def Import.toText (i : Import) : String := i.name ++ " from '" ++ i.source ++ "'"

/-- The report on a decorator. -/
def Decorator.report (d : Decorator) : DecoratorReport :=
  ⟨d.name, d.imported.map Import.toText, d.args.length⟩

/-- The reports on decorators; none if there is nothing to report. -/
def decoratorReports (ds : Option (List Decorator)) : List DecoratorReport :=
  (ds.getD []).map Decorator.report

/-- How a kind of member is called. -/
def MemberKind.label : MemberKind → String
  | .ctor => "constructor"
  | .getter => "getter"
  | .setter => "setter"
  | .property => "property"
  | .method => "method"
  | .accessor => "accessor"

/-- The report on a member. -/
def MemberInfo.report (m : MemberInfo) : MemberReport :=
  ⟨m.name, m.kind.label, m.isStatic, decoratorReports m.decorators⟩

/-- How a missing type reference is called. -/
def TypeFault.label : TypeFault → String
  | .missingType => "MissingType"
  | .unsupported => "Unsupported"

/-- A type reference as text. -/
def World.typeText (w : World) : TypeReference → String
  | .ownModule e => w.text e.span
  | .imported source _ => source.toText
  | .unavailable fault => "unavailable (" ++ fault.label ++ ")"

/-- The report on a constructor parameter. -/
def World.paramReport (w : World) (p : CtorParam) : ParamReport :=
  ⟨p.name, w.typeText p.reference, decoratorReports p.decorators⟩

/-- The report on the class that a node leads to. -/
def World.classReport (w : World) (node : DeclNode) (symbol : ClassSymbol) :
    ExceptT ReflectError Reflect ClassReport := do
  let base ← w.baseExpression node
  let decorators ← w.decorators node
  let members ← w.members node
  let ctor ← ExceptT.mk (w.constructorParameters node)
  return {
    name := symbol.shape.name
    location := w.program.location? symbol.shape.declaration.span
    internalName := ← w.internalName node
    adjacentName := ← w.adjacentName node
    base := base.bind fun e => w.program.sourceText? e.span
    decorators := decorators.map (·.map Decorator.report)
    members := members.map MemberInfo.report
    ctor := ctor.map (·.map w.paramReport) }

/-- The classes of a file that a report is asked for: all of them, or those with the given name. -/
def FileView.classesNamed (view : FileView) (only : Option String) : List ClassShape :=
  match only with
  | some name => view.index.classes.filter (·.name == name)
  | none => view.index.classes

/-- The report on the class of a shape, if its node leads to a class. -/
def World.shapeReport (w : World) (shape : ClassShape) :
    ExceptT ReflectError Reflect (List ClassReport) := do
  match w.classSymbol? shape.declaration with
  | some symbol => return [← w.classReport shape.declaration symbol]
  | none => return []

/-- The reports on the classes of a file. -/
def World.classReports (w : World) (view : FileView) (only : Option String) :
    ExceptT ReflectError Reflect (List ClassReport) := do
  return (← (view.classesNamed only).mapM w.shapeReport).flatten

/-! ### Writing -/

/-- A decorator as text. -/
def DecoratorReport.toText (d : DecoratorReport) : String :=
  "@" ++ d.name ++ (if d.args > 0 then "(" ++ Nat.repr d.args ++ " args)" else "")
    ++ remark (fun source => " <" ++ source ++ ">") d.imported

/-- Decorators behind what they decorate. -/
def decoratorsText (ds : List DecoratorReport) : String :=
  String.join (ds.map fun d => " " ++ d.toText)

/-- The line of a constructor parameter. -/
def ParamReport.toText (p : ParamReport) : String :=
  "    " ++ p.name.getD "<pattern>" ++ ": " ++ p.type ++ decoratorsText p.decorators ++ "\n"

/-- The lines of a constructor. -/
def ctorText : Option (List ParamReport) → String
  | none => "  constructor: synthesized\n"
  | some params =>
    "  constructor(" ++ Nat.repr params.length ++ " params)\n"
      ++ String.join (params.map (·.toText))

/-- The line of a member. -/
def MemberReport.toText (m : MemberReport) : String :=
  "  " ++ (if m.isStatic then "static " else "") ++ m.kind ++ " " ++ m.name
    ++ decoratorsText m.decorators ++ "\n"

/-- The report on a class as text. -/
def ClassReport.toText (r : ClassReport) : String :=
  "class " ++ r.name ++ remark (fun base => " extends " ++ base) r.base
    ++ remark (fun place => " at " ++ place.toText) r.location ++ "\n"
    ++ (if r.internalName == r.name then "" else "  internal name: " ++ r.internalName ++ "\n")
    ++ String.join ((r.decorators.getD []).map fun d => "  " ++ d.toText ++ "\n")
    ++ ctorText r.ctor ++ String.join (r.members.map (·.toText))

/-- A decorator as a document. -/
def DecoratorReport.toJson (d : DecoratorReport) : JsonDoc :=
  .fields [("name", some (.text d.name)), ("import", d.imported.map .text),
    ("args", some (.number d.args))]

/-- Decorators as a document. -/
def decoratorsDoc (ds : List DecoratorReport) : JsonDoc := .list (ds.map (·.toJson))

/-- A member as a document. -/
def MemberReport.toJson (m : MemberReport) : JsonDoc :=
  .record [("name", .text m.name), ("kind", .text m.kind), ("is_static", .bool m.isStatic),
    ("decorators", decoratorsDoc m.decorators)]

/-- A constructor parameter as a document. -/
def ParamReport.toJson (p : ParamReport) : JsonDoc :=
  .record [("name", .nullable .text p.name), ("type", .text p.type),
    ("decorators", decoratorsDoc p.decorators)]

/-- The report on a class as a document. -/
def ClassReport.toJson (r : ClassReport) : JsonDoc :=
  .fields
    [("name", some (.text r.name)), ("location", r.location.map (·.toJson)),
     ("internal_name", some (.text r.internalName)), ("adjacent_name", some (.text r.adjacentName)),
     ("base_class", r.base.map .text),
     ("decorators", some (.nullable decoratorsDoc r.decorators)),
     ("members", some (.list (r.members.map (·.toJson)))),
     ("constructor", some (.nullable (fun ps => .list (ps.map (·.toJson))) r.ctor))]

end BundleLens
