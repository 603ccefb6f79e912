/-
Module: BundleLens.Reflection.Inquiry
Layer: Reflection
Purpose: What has to be known before an answer is. Following names asks for the export tables of other
  files, and for whether the wrapped table of a file is being made; what is asked next depends on the
  answers so far. An inquiry says only what is asked, not where the answers come from, so the same
  inquiry can be answered from what is remembered or from tables that are made for it.
Imports: BundleLens.Reflection.World
Main exports: Inquiry, Inquiry.tableOf, Inquiry.isUnfinished, Exports, Inquiry.run
-/
import BundleLens.Reflection.World

namespace BundleLens

/-- A search for an answer by questions about tables. -/
inductive Inquiry (α : Type) where
  /-- The answer is found. -/
  | done (answer : α)
  /-- Asks for the export table of a file. -/
  | table (file : SourceFile) (next : Option ExportTable → Inquiry α)
  /-- Asks whether the wrapped table of a file is being made. -/
  | unfinished (file : SourceFile) (next : Bool → Inquiry α)

/-- A way to the export table of a file; a file whose format is not understood has none. -/
abbrev Exports := SourceFile → Reflect (Option ExportTable)

namespace Inquiry

variable {α β : Type}

/-- Goes on with a second inquiry when the first one has its answer. -/
def bind : Inquiry α → (α → Inquiry β) → Inquiry β
  | .done answer, rest => rest answer
  | .table file next, rest => .table file fun found => (next found).bind rest
  | .unfinished file next, rest => .unfinished file fun found => (next found).bind rest

instance : Monad Inquiry where
  pure := .done
  bind := .bind

/-- The export table of a file. -/
def tableOf (file : SourceFile) : Inquiry (Option ExportTable) := .table file .done

/-- Whether the wrapped table of a file is being made. -/
def isUnfinished (file : SourceFile) : Inquiry Bool := .unfinished file .done

/-- The answer of an inquiry, with a way to the tables it asks for. -/
def run (exports : Exports) : Inquiry α → Reflect α
  | .done answer => return answer
  | .table file next => do (next (← exports file)).run exports
  | .unfinished file next => do (next (← isInProgress .wrappers file.id)).run exports

end Inquiry
end BundleLens
