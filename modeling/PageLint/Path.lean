import PageLint.Text.Basic

/-! Slash-separated file paths, as far as names and extensions are concerned. -/
namespace PageLint.Path

/-- The components of a path. Empty and `.` components name nothing, except a `.` in front. -/
def components (path : Text) : List Text :=
  match path.splitOn '/' with
  | [] => []
  | first :: rest =>
    (if first.isEmpty then [] else [first]) ++ rest.filter fun part => !part.isEmpty && part != ['.']

/-- The last component, unless it is a reference to a directory. -/
def fileName? (path : Text) : Option Text :=
  (components path).getLast?.filter fun name => name != ['.'] && name != ['.', '.']

/-- What follows the last dot of the file name; a dot in front of the name starts no extension. -/
def extension? (path : Text) : Option Text :=
  match fileName? path with
  | none => none
  | some name =>
    let ext := (name.reverse.takeWhile (· != '.')).reverse
    if ext.length + 1 < name.length then some ext else none

end PageLint.Path
