import Flotilla.Command.Outcome

/-! # The program

Shows a run the files that its words name, and carries out what it comes out with. -/
namespace Flotilla

/-- What stands at a path, and the names of what stands right below it. -/
def observe (path : String) : BaseIO (Option (Entry × List String)) := do
  let listing : IO (List String) := do
    let place ← IO.FS.realPath path
    return ((← place.readDir).map (·.fileName)).toList
  match ← listing.toBaseIO with
  | .ok names => return some (.directory, names)
  | .error _ =>
    match ← (IO.FS.readBinFile path).toBaseIO with
    | .ok bytes => return some (.file (.ofBytes bytes), [])
    | .error _ => return none

/-- Puts what stands at a path and right below it into a tree. -/
def gather (files : Files) (path : String) : BaseIO Files := do
  let mut files := files
  for path in pathsUpTo path do
    if let some (entry, _) ← observe path then
      files := files.furnish path entry
  if let some (_, names) ← observe path then
    for name in names do
      let path := path ++ "/" ++ name
      if let some (entry, _) ← observe path then
        files := files.furnish path entry
  return files

/-- The variables that a run looks at. -/
def environment : BaseIO Environment :=
  Settings.watchedVariables.filterMapM fun name => do
    return (← IO.getEnv name).map fun value => (name, value)

def carryOut : Place × Content → IO Unit
  | (at_, .text s) => IO.FS.writeFile (pathOf at_) s
  | (at_, .binary bytes) => IO.FS.writeBinFile (pathOf at_) ⟨bytes.toArray⟩

end Flotilla

open Flotilla in
/-- Runs the command that the words of the command line name. -/
def main (words : List String) : IO UInt32 := do
  let env ← environment
  let mut files : Files := {}
  for path in Settings.pathIn env :: words.drop 1 do
    files ← gather files path
  let outcome := Outcome.of words files env
  for change in outcome.files.changesSince files do
    carryOut change
  IO.print outcome.output
  IO.eprint outcome.complaint
  return outcome.code.toUInt32
