/-
# The program

Prints an annotated listing: the file named on the command line, or the sample.
What is worth reporting goes to the error output.
-/

import AsmListing.CommandLine
import AsmListing.Viewer.Painting
import AsmListing.Viewer.State

namespace AsmListing
namespace Main

open Viewer (State OpenFault)

/-- The bytes of a file, if it can be read. -/
def readBytes (path : Text) : IO (Option ByteArray) := do
  try
    let bytes ← IO.FS.readBinFile (String.ofList path)
    return some bytes
  catch _ => return none

/-- Reports some entries. -/
def report (entries : List Entry) : IO Unit :=
  entries.forM fun e => do
    if e.level = .warn || e.level = .error then
      IO.eprintln (String.ofList (e.level.name ++ [' '] ++ e.message))

/-- Prints the listing of a state. -/
def printListing (s : State) : IO Unit := do
  for caption in s.document.caption do
    IO.println (String.ofList caption)
  (Painting.rows (Palette.ofTheme s.theme) s.document).forM fun row =>
    IO.println (String.ofList (Painting.joined row))

/-- What is said about a file that is not opened. -/
def openMessage (path : Text) : OpenFault → Text
  | .notFound => "Could not read ".toList ++ path ++ ": no such file".toList
  | .invalidData => "Could not read ".toList ++ path ++ ": not valid UTF-8".toList

/-- Shows what the arguments ask for. -/
def run (a : CommandLine.Arguments) : IO UInt32 := do
  for arg in a.arch do
    report (Architecture.builtin.choiceJournal arg)
  let key := (a.arch.bind Architecture.builtin.choose).map Architecture.Profile.key
  match a.file with
  | none =>
    printListing (State.ofSource sampleListing (some (key.getD sampleKey)))
    return 0
  | some path =>
    let bytes ← readBytes path
    match (State.ofSource [] key).opened path bytes with
    | .ok state =>
      printListing state
      return 0
    | .error fault =>
      IO.eprintln (String.ofList (openMessage path fault))
      return 1

end Main
end AsmListing

/-- Reads the command line and shows what it asks for. -/
def main (args : List String) : IO UInt32 := do
  match AsmListing.CommandLine.arguments (args.map String.toList) with
  | .ok a => AsmListing.Main.run a
  | .error .displayHelp =>
    IO.println "usage: [-a ARCH | --arch ARCH] [-h | --help] [-V | --version] [--] [FILE]"
    return 0
  | .error .displayVersion =>
    IO.println "0.1.0"
    return 0
  | .error _ =>
    IO.eprintln "the command line is not understood; see --help"
    return 2
