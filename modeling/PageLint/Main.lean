import PageLint.Command.Run

/-! The command on real files and streams. -/
namespace PageLint.Command

/-- Why an action failed, with the number that the system has for it if it has one. -/
def reasonOf (e : IO.Error) : String :=
  let numbered (details : String) (code : UInt32) := s!"{details} (os error {code})"
  match e with
  | .noFileOrDirectory .. => PathFault.missing.message
  | .permissionDenied _ code details
  | .inappropriateType _ code details | .invalidArgument _ code details
  | .resourceExhausted _ code details | .noSuchThing _ code details
  | .otherError code details => numbered details code
  | e => toString e

/-- What an action gives, or why it failed. -/
def attempt (action : IO α) : IO (Except String α) := do
  match ← action.toBaseIO with
  | .ok a => return .ok a
  | .error e => return .error (reasonOf e)

def decodeText (bytes : ByteArray) : IO Text :=
  match String.fromUTF8? bytes with
  | some s => return s.toList
  | none => throw (IO.userError "stream did not contain valid UTF-8")

/-- The kind of what a path leads to, through links. -/
def kind? (path : Text) : IO (Option IO.FS.FileType) := do
  if path.isEmpty then return none
  match ← ((← IO.currentDir) / String.ofList path).metadata.toBaseIO with
  | .ok found => return some found.type
  | .error _ => return none

def namesIn (path : Text) : IO (List Text) := do
  match ← ((← IO.currentDir) / String.ofList path).readDir.toBaseIO with
  | .ok entries => return entries.toList.map fun entry => entry.fileName.toList
  | .error _ => return []

def resolve? (path : Text) : IO (Option Text) := do
  match ← (IO.FS.realPath (String.ofList path)).toBaseIO with
  | .ok resolved => return some resolved.toString.toList
  | .error _ => return none

/-- The surroundings of a program. -/
def system (isColored : Bool) : Terminal IO where
  read path := attempt (do decodeText (← IO.FS.readBinFile (String.ofList path)))
  write path content := attempt (IO.FS.writeFile (String.ofList path) (String.ofList content))
  exists? path := return (← kind? path).isSome
  isDirectory path := return (← kind? path) == some .dir
  isFile path := return (← kind? path) == some .file
  names := namesIn
  absolute? := resolve?
  home? := return (← IO.getEnv "HOME").map String.toList
  input := attempt (do decodeText (← (← IO.getStdin).readBinToEnd))
  print s := do
    let out ← IO.getStdout
    out.putStr s
    out.flush
  printError s := do (← IO.getStderr).putStr s
  isColored
  clock := return ← IO.monoMsNow

end PageLint.Command

open PageLint.Command in
/-- Checks the files that the arguments name. -/
def main (args : List String) : IO UInt32 := do
  let isColored := (← (← IO.getStdout).isTty) && (← IO.getEnv "NO_COLOR").isNone
  match ← run (system isColored) (args.map String.toList) with
  | .exit code => return code.toUInt32
  | .misuse =>
    (← IO.getStderr).putStr usage
    return 2
  | .fault _ => return 101
