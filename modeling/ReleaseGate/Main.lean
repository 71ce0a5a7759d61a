import ReleaseGate.CommandLine
import ReleaseGate.Files.Changes
import ReleaseGate.Shell
import Std.Time.DateTime.Timestamp

/-!
# The program

The outermost layer: it reads the variables, the time, and the files at and below the working directory and at the paths that
the arguments name, lets the command line work on these, and then writes down what has changed. Scripts run on the small
machine, and there is no network.
-/

namespace ReleaseGate.Program

/-- The deepest directory that is read. -/
def maxDepth : Nat := 256

/-- The path from the root to a place. -/
def pathOf (place : Place) : String := "/" ++ "/".intercalate place

/-- Reads a file; one that cannot be read is kept as such. -/
def nodeOfFile (place : Place) : IO Node := do
  try
    let bytes ← IO.FS.readBinFile (pathOf place)
    return .file bytes.toList true
  catch _ => return .file [] false

/-- Reads what stands at a place and, down to some depth, below it. A link to a file is taken for the file, and no other link is
followed. -/
def readNodes (place : Place) : Nat → IO (List (Place × Node))
  | 0 => return []
  | depth + 1 => do
    let path := (← IO.currentDir) / pathOf place
    if !(← path.pathExists) then return []
    match (← path.symlinkMetadata).type with
    | .dir =>
      let entries ← path.readDir
      let below ← entries.toList.mapM fun entry => readNodes (place ++ [entry.fileName]) depth
      return (place, .directory) :: below.flatten
    | .file => return [(place, ← nodeOfFile place)]
    | _ => if ← path.isDir then return [] else return [(place, ← nodeOfFile place)]

/-- Reads the files of a working directory, and what stands at some paths outside it. -/
def readFiles (cwd : Place) (paths : List Path) : IO FileSystem := do
  let outside := (paths.map (Path.namesFrom cwd)).filter fun place => !FileSystem.isWithin place cwd
  let ways := (outside.map fun place => (FileSystem.ofRoot place.dropLast).nodes).flatten
  let found ← outside.mapM fun place => readNodes place maxDepth
  let here ← readNodes cwd maxDepth
  return ⟨(FileSystem.ofRoot cwd.dropLast).nodes ++ here ++ ways ++ found.flatten⟩

/-- Makes a change to the files of the machine. A link is not made, and a complaint says so. -/
def apply : Change → IO Unit
  | .remove place .directory => IO.FS.removeDir (pathOf place)
  | .remove place _ => IO.FS.removeFile (pathOf place)
  | .put place .directory => IO.FS.createDirAll (pathOf place)
  | .put place (.file bytes _) => IO.FS.writeBinFile (pathOf place) ⟨bytes.toArray⟩
  | .put place (.link target) => IO.eprintln s!"The link from {pathOf place} to {target} was not made"

/-- The time of the machine. -/
def readClock : IO Timestamp := do
  let now ← Std.Time.Timestamp.now
  return (Timestamp.ofNanoseconds? now.toNanosecondsSinceUnixEpoch.val).getD .epoch

end ReleaseGate.Program

section

open ReleaseGate ReleaseGate.Program

/-- Runs the command line on the machine. -/
def main (arguments : List String) : IO UInt32 := do
  let environment := Environment.ofBlock (← IO.FS.readBinFile "/proc/self/environ").toList
  let cwd := Path.steps ⟨(← IO.currentDir).toString⟩
  let files ← readFiles cwd (CommandLine.paths environment arguments)
  let id := RunId.ofRandom (← IO.getRandomBytes 16).toList
  let surroundings : Surroundings CommandLine.Machine :=
    { cwd, environment, commands := Shell.run, client := Http.offline, files := CommandLine.Machine.fileSystem
      clock := CommandLine.Machine.now }
  let (result, machine) := CommandLine.execute surroundings id arguments { files, now := ← readClock }
  (files.changes machine.files).forM apply
  IO.print result.output
  IO.eprint result.errorOutput
  return result.status

end
