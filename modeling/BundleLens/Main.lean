/-
Module: BundleLens.Main
Layer: Command line
Purpose: The program on a real disk.
Imports: BundleLens.CommandLine.Run
Main exports: main
-/
import BundleLens.CommandLine.Run

namespace BundleLens

/-- The disk of the machine. Whatever cannot be read counts as missing. -/
def machineDisk : Disk IO where
  canonical? text := do
    try return some (.ofString (← IO.FS.realPath text).toString)
    catch _ => return none
  isFile path := do
    try
      let found ← IO.FS.realPath path.toString
      return !(← found.isDir)
    catch _ => return false
  readText? text := do
    try return some (← IO.FS.readFile text)
    catch _ => return none
  filesBelow path := do
    try
      let found ← IO.FS.realPath path.toString
      let below ← if ← found.isDir then found.walkDir else pure #[found]
      let files ← below.toList.filterM fun entry => do return !(← entry.isDir)
      return files.map fun file => .ofString file.toString
    catch _ => return []

end BundleLens

/-- Prints what a run prints, and its failure if it fails. -/
def main (args : List String) : IO UInt32 := do
  let outcome ← BundleLens.runProgram BundleLens.machineDisk args
  IO.print outcome.output
  if let some message := outcome.failure then IO.eprintln ("Error: " ++ message)
  return outcome.code.toUInt32
