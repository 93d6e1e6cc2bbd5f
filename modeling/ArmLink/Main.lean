import ArmLink.Console.Command

/-!
The program.  Requests to the surroundings are carried out on the files of this machine; it has no
way onto the network, so that every address is unreachable from here.
-/

namespace ArmLink.Console

open Link (TransportFault)

/-- The number under which the system says that something is a directory. -/
def isDirectoryNumber : UInt32 := 21

/-- What is found at a path.  Nothing is there if the path leads on from a file, or if a name in it
is too long. -/
def lookAt (path : String) : IO Entry := do
  try
    return .text (← IO.FS.readFile path)
  catch
    | .noFileOrDirectory .. | .invalidArgument .. => return .absent
    | .inappropriateType _ number _ =>
      return if number = isDirectoryNumber then .unreadable else .absent
    | _ => return .unreadable

/-- The path without its last step, where steps that lead nowhere else do not count. -/
def directoryOf (path : String) : String :=
  let steps := (path.splitOn "/").reverse.dropWhile Site.staysHere
  "/".intercalate (steps.drop 1).reverse

/-- Writes a file, and the directories that it is in. -/
def writeAt (path content : String) : IO Bool := do
  try
    let directory := directoryOf path
    if !directory.isEmpty then IO.FS.createDirAll directory
    IO.FS.writeFile path content
    return true
  catch _ => return false

/-- Carries a program out.  One that waits for ever is broken off. -/
def Program.perform : Program Ending → IO UInt32
  | .done ending => return UInt32.ofNat ending.code
  | .fail code complaint => do
    IO.eprintln complaint
    return UInt32.ofNat code
  | .idle => return 1
  | .print text next => do
    IO.print text
    next.perform
  | .look path next => do (next (← lookAt path)).perform
  | .write path content next => do (next (← writeAt path content)).perform
  | .dial _ _ next => (next (.error .networkUnreachable)).perform
  | .listen _ _ next => (next (.error .networkUnreachable)).perform

/-- The directory for settings: the one that the environment names, if its path is absolute, or else
one in the home directory. -/
def settingsDirectory : IO (Option String) := do
  match ← IO.getEnv "XDG_CONFIG_HOME" with
  | some directory => if directory.startsWith "/" then return some directory
  | none => pure ()
  return (← IO.getEnv "HOME").map (· ++ "/.config")

end ArmLink.Console

/-- Runs a command line. -/
def main (words : List String) : IO UInt32 := do
  (ArmLink.Console.program (← ArmLink.Console.settingsDirectory) words).perform
