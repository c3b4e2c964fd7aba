import PageLint.Command.Pattern
import PageLint.Path

/-! Files as a command sees them, and the search for those whose paths fit a pattern. -/
namespace PageLint.Command

/-- Why a path leads to nothing that can be read. -/
inductive PathFault where
  | missing
  | notDirectory
  | isDirectory
  deriving DecidableEq, Repr

def PathFault.message : PathFault → String
  | missing => "No such file or directory (os error 2)"
  | notDirectory => "Not a directory (os error 20)"
  | isDirectory => "Is a directory (os error 21)"

/-- The operations on files that a command needs. What fails gives a reason. -/
structure FileSystem (m : Type → Type) where
  read : Text → m (Except String Text)
  write : Text → Text → m (Except String Unit)
  exists? : Text → m Bool
  isDirectory : Text → m Bool
  isFile : Text → m Bool
  /-- The names in a directory, in any order. -/
  names : Text → m (List Text)
  /-- The absolute path, if there is a file. -/
  absolute? : Text → m (Option Text)

/-- A path with a name behind it. -/
def joinPath (path name : Text) : Text :=
  if path.getLast? = some '/' then path ++ name else path ++ '/' :: name

def currentDirectory : Text := ['.']

/-- The path of something in a directory. What is in the current one goes by its mere name. -/
def childPath (directory name : Text) : Text :=
  if directory = currentDirectory then name else joinPath directory name

/-- A part of a pattern between two slashes. -/
inductive Step where
  | directories
  | name (pieces : List Piece)
  deriving DecidableEq, Repr

/-- What a pattern looks for: where it starts, its steps, and whether only directories count. -/
structure Search where
  start : Text
  steps : List Step
  wantsDirectory : Bool
  deriving DecidableEq, Repr

/-- A pattern has to be one as a whole and in each of its parts. -/
def Search.of (pattern : Text) : Except PatternError Search := do
  let _ ← pieces pattern
  let rest := pattern.dropWhile (· = '/')
  let parts := rest.splitOn '/'
  let parts := if parts.getLast? = some [] then parts.dropLast else parts
  let steps ← parts.mapM fun part => do
    let ps ← pieces part
    return if ps = [.anyDirectories] then Step.directories else .name ps
  return {
    start := if pattern.head? = some '/' then ['/'] else currentDirectory
    steps := if rest.isEmpty then [.name []] else steps
    wantsDirectory := pattern.getLast? = some '/' }

/-- The steps behind those that stand for any number of directories. -/
def dropDirectories : List Step → List Step
  | .directories :: rest => dropDirectories rest
  | steps => steps

section

variable {m : Type → Type} [Monad m] (fs : FileSystem m) (wantsDirectory : Bool)

def counts (path : Text) : m Bool := do
  if wantsDirectory then fs.isDirectory path else return true

/-- All results of `f`, one list behind the other. -/
def gather (f : α → m (List β)) : List α → m (List β)
  | [] => return []
  | a :: rest => do
    let found ← f a
    let more ← gather f rest
    return found ++ more

/-- The directories `..` and `.`, for a pattern that asks for them with a dot in front. -/
def dotNames (ps : List Piece) : List Text :=
  if ps.head? = some (.char '.') then [['.', '.'], ['.']].filter (fits ps) else []

mutual

/-- The paths in `directory` that fit some steps. `fuel` bounds the depth of the search. -/
def searchIn (fuel : Nat) (steps : List Step) (directory : Text) : m (List Text) :=
  match fuel, steps with
  | 0, _ | _, [] => return []
  | fuel + 1, step :: rest => do
    let found (path : Text) : m (List Text) := do
      if rest.isEmpty then return if ← counts fs wantsDirectory path then [path] else []
      else searchIn fuel rest path
    let isDirectory ← fs.isDirectory directory
    let known := match step with
      | .name ps => literal? ps
      | .directories => none
    match known with
    | some name =>
      let path := childPath directory name
      let isThere ←
        if name = ['.'] || name = ['.', '.'] then pure isDirectory else fs.exists? path
      if isThere then found path else return []
    | none =>
      if !isDirectory then return []
      let dots := match step with
        | .name ps => dotNames ps
        | .directories => []
      let above ← gather (fun name => found (joinPath directory name)) dots
      let names := (← fs.names directory).mergeSort (fun a b => a ≤ b)
      let below ← gather (fun name => searchAt fuel (step :: rest) (childPath directory name) name)
        names
      return above ++ below

/-- The paths that fit some steps where the first one is for `path`, which ends in `name`, or for
what is in it. -/
def searchAt (fuel : Nat) (steps : List Step) (path name : Text) : m (List Text) :=
  match fuel, steps with
  | 0, _ | _, [] => return []
  | fuel + 1, .directories :: rest => do
    let rest := dropDirectories rest
    let below ←
      if ← fs.isDirectory path then searchIn fuel (.directories :: rest) path else pure []
    let here ←
      if rest.isEmpty then
        pure (if ← fs.isDirectory path then [path] else [])
      else searchAt fuel rest path name
    return here ++ below
  | fuel + 1, .name ps :: rest => do
    if !fits ps name then return []
    if rest.isEmpty then return if ← counts fs wantsDirectory path then [path] else []
    searchIn fuel rest path

end

end

/-- Directories that are nested deeper are not searched. -/
def maxDepth : Nat := 200

/-- The paths that a search finds. -/
def Search.run [Monad m] (fs : FileSystem m) (s : Search) : m (List Text) :=
  searchIn fs s.wantsDirectory (2 * (maxDepth + s.steps.length)) s.steps s.start

end PageLint.Command
