/-
# The program

Reads the files that the arguments and the environment speak of, runs the command line on them, and
writes what has been added.
-/
import LineSearch.CommandLine
import LineSearch.Data.Format
import LineSearch.Regex.Matching

namespace LineSearch

/-- What a file on the disk holds, if it can be read. -/
def diskContent? (name : String) : IO (Option (List UInt8)) := do
  try return some (← IO.FS.readBinFile name).toList
  catch _ => return none

/-- The name of a file on the disk; it counts from the root or from the current directory. -/
def diskName (absolute : Bool) (p : Path) : String :=
  String.ofList ((if absolute then ['/'] else []) ++ Text.join ['/'] p)

/-- Writes a file, and makes the directories that it is in. -/
def writeToDisk (absolute : Bool) (f : Path × List UInt8) : IO Unit := do
  if f.1.length > 1 then IO.FS.createDirAll (diskName absolute f.1.dropLast)
  IO.FS.writeBinFile (diskName absolute f.1) ⟨f.2.toArray⟩

/-- Runs the program, with the engine and the reader of the library, and prints the outcome. -/
def program (args : List String) : IO UInt32 := do
  let settingsHome := (← IO.getEnv "XDG_CONFIG_HOME").map String.toList
  let home := (← IO.getEnv "HOME").map String.toList
  let place := Settings.pathIn settingsHome home
  let absolute := ((settingsHome.or home).bind List.head?) == some '/'
  let settings := (← diskContent? (diskName absolute place)).map fun content =>
    (place.target, content)
  let documents ← args.filterMapM fun name => do
    return (← diskContent? name).map fun content => (Path.ofText name.toList, content)
  let files : Files :=
    ⟨settings.toList ++ documents, if settings.isSome then place.passes [] else []⟩
  let _ : Regex.Engine := .tables
  let _ : Data.Reader := .notations
  let outcome := CommandLine.run ⟨files, settingsHome, home⟩ (args.map String.toList)
  for d in outcome.files.directories.drop files.directories.length do
    IO.FS.createDirAll (diskName absolute d)
  for f in outcome.files.contents.drop files.contents.length do writeToDisk absolute f
  IO.print (String.ofList outcome.output)
  if outcome.message != [] then IO.eprintln (String.ofList outcome.message)
  return outcome.code.toUInt32

end LineSearch

def main (args : List String) : IO UInt32 := LineSearch.program args
