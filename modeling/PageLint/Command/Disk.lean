import PageLint.Command.Run

/-! A disk in memory, on which the command can run. -/
namespace PageLint.Command

/-- Files and directories by the names on the way to them, and the streams of a command. -/
structure Disk where
  /-- What the way to the first name is called. -/
  root : Text := []
  files : List (List Text × Text) := []
  directories : List (List Text) := []
  /-- The current directory. -/
  current : List Text := []
  /-- The path of the home directory. -/
  home : Option Text := none
  input : Text := []
  printed : String := ""
  printedErrors : String := ""
  deriving DecidableEq, Repr

namespace Disk

def content? (d : Disk) (at_ : List Text) : Option Text := d.files.lookup at_

/-- A directory is one that is listed, or one with a file in it. -/
def hasDirectory (d : Disk) (at_ : List Text) : Bool :=
  at_.isEmpty || d.directories.contains at_ ||
    d.files.any fun (names, _) => at_.isPrefixOf names && at_.length < names.length

/-- Where the names of a path lead to, from a place on. -/
def walk (d : Disk) (at_ : List Text) : List Text → Except PathFault (List Text)
  | [] => .ok at_
  | name :: rest =>
    if !d.hasDirectory at_ then .error .notDirectory
    else if name.isEmpty || name = ['.'] then d.walk at_ rest
    else if name = ['.', '.'] then
      if at_.isEmpty then .error .missing else d.walk at_.dropLast rest
    else
      let inner := at_ ++ [name]
      if d.hasDirectory inner || (d.content? inner).isSome then d.walk inner rest
      else .error .missing

/-- The place of a path. No absolute path leads to this disk. -/
def place (d : Disk) (path : Text) : Except PathFault (List Text) :=
  if path.isEmpty || path.head? = some '/' then .error .missing
  else d.walk d.current (path.splitOn '/')

def read (d : Disk) (path : Text) : Except PathFault Text := do
  let place ← d.place path
  match d.content? place with
  | some content => return content
  | none => throw .isDirectory

/-- Puts another text into a file that is there. -/
def write (d : Disk) (path content : Text) : Except PathFault Disk := do
  let place ← d.place path
  if (d.content? place).isNone then throw .isDirectory
  return { d with files := d.files.map fun f => if f.1 = place then (place, content) else f }

def isFile (d : Disk) (path : Text) : Bool :=
  match d.read path with
  | .ok _ => true
  | .error _ => false

def isDirectory (d : Disk) (path : Text) : Bool :=
  match d.place path with
  | .ok place => d.hasDirectory place
  | .error _ => false

def exists? (d : Disk) (path : Text) : Bool :=
  match d.place path with
  | .ok _ => true
  | .error _ => false

/-- The names in a directory, each once. -/
def names (d : Disk) (path : Text) : List Text :=
  match d.place path with
  | .error _ => []
  | .ok place =>
    let ways := d.files.map (·.1) ++ d.directories
    (ways.filterMap fun way =>
      if place.isPrefixOf way then (way.drop place.length).head? else none).eraseDups

/-- The path from the root. -/
def absolute? (d : Disk) (path : Text) : Option Text :=
  match d.place path with
  | .ok place => some (Text.join ['/'] (d.root :: place))
  | .error _ => none

def reason (a : Except PathFault α) : Except String α :=
  match a with
  | .ok a => .ok a
  | .error f => .error f.message

/-- The command runs on a disk without colors and in no time. -/
def terminal : Terminal (StateM Disk) where
  read path := do return reason ((← get).read path)
  write path content := do
    match (← get).write path content with
    | .ok d =>
      set d
      return .ok ()
    | .error f => return .error f.message
  exists? path := do return (← get).exists? path
  isDirectory path := do return (← get).isDirectory path
  isFile path := do return (← get).isFile path
  names path := do return (← get).names path
  absolute? path := do return (← get).absolute? path
  home? := do return (← get).home
  input := do return .ok (← get).input
  print s := modify fun d => { d with printed := d.printed ++ s }
  printError s := modify fun d => { d with printedErrors := d.printedErrors ++ s }
  isColored := false
  clock := return 0

end Disk

end PageLint.Command
