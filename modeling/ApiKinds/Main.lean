/-
  The program: it runs a command on the files of the machine.
-/
import ApiKinds.Command.Basic

namespace ApiKinds

/-- What an action gives, or nothing if it fails. -/
def attempt? {α : Type} (action : IO α) : IO (Option α) := do
  match ← action.toBaseIO with
  | .ok a => return some a
  | .error _ => return none

/-- Access to the files of the machine. -/
def machineFiles : Files IO where
  read? path := do return (← attempt? (IO.FS.readBinFile path)).map (·.toList)
  isFile path := do
    match ← attempt? (do (← IO.FS.realPath path).metadata) with
    | some data => return data.type == .file
    | none => return false
  isThere path := do return (← attempt? (do (← IO.FS.realPath path).metadata)).isSome
  makeFolders path := do return (← attempt? (IO.FS.createDirAll path)).isSome
  write path text := do return (← attempt? (IO.FS.writeFile path text)).isSome

end ApiKinds

/-- Prints the outcome of the command line and ends with its code. -/
def main (arguments : List String) : IO UInt32 := do
  let outcome ← ApiKinds.Command.runArguments ApiKinds.machineFiles arguments
  IO.print outcome.output
  IO.eprint outcome.complaint
  return outcome.exitCode.toUInt32
