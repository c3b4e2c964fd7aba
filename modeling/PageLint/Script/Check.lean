import PageLint.Script.Blocks
import PageLint.Script.Parser
import PageLint.Script.Resolution

/-!
The checks of a script. Names are resolved on its tree, if it has one without errors; the bare text
is looked at in any case, and what both find is reported once.
-/
namespace PageLint.Script

/-! ## Errors in the tree -/

/-- The text up to its first line break, of which a carriage return may be part. -/
def firstLine (t : Text) : Text :=
  let line := t.takeWhile (· != '\n')
  if line.length < t.length && line.getLast? = some '\r' then line.dropLast else line

/-- What is wrong at a node that is an error or missing. An error is described by its first
token. -/
def Node.errorIssue (source : Text) (n : Node) : Issue :=
  if n.isMissing then .missingToken n.kind.name
  else
    let token := n.firstToken
    let text := source.slice token.start token.stop
    if text.isBlankText then .unexpectedEnd
    else .unexpectedToken ((firstLine text).take 20)

def syntaxIssues (source : Text) (root : Node) : List Diagnostic :=
  root.firstError?.toList.map fun n => (n.errorIssue source).report n.start n.stop

/-- What the tree of a script shows. Names are resolved only if it has no errors. -/
def treeIssues (source : Text) (root : Node) : List Diagnostic :=
  if root.hasError then syntaxIssues source root else nameIssues source root

/-- The same as far as there is time. -/
def treeIssuesInTime (d : Deadline) (source : Text) (root : Node) : Timed (List Diagnostic) :=
  if root.hasError then ⟨syntaxIssues source root, some d⟩ else nameIssuesInTime d source root

/-- What a script shows once it is read. -/
def readIssues (source : Text) : List Diagnostic :=
  match (Reading.tree? source).bind Node.ofTree? with
  | some root => treeIssues source root
  | none => []

/-- The same as far as there is time. -/
def readIssuesInTime (d : Deadline) (source : Text) : Timed (List Diagnostic) :=
  match (Reading.tree? source).bind Node.ofTree? with
  | some root => treeIssuesInTime d source root
  | none => ⟨[], some d⟩

/-! ## Both passes -/

/-- What tells diagnostics apart: the rule and the place. -/
def key (d : Diagnostic) : Option String × Nat × Nat := (d.rule, d.start, d.stop)

/-- Those of `ds` whose keys are not among `seen` and not in front of them. -/
def withoutRepeats (seen : List (Option String × Nat × Nat)) : List Diagnostic → List Diagnostic
  | [] => []
  | d :: rest =>
    if seen.contains (key d) then withoutRepeats seen rest
    else d :: withoutRepeats (key d :: seen) rest

/-- Adds what the bare text shows, if there is time for it, to what was found in the tree. -/
def withText (d : Deadline) (source : Text) (found : List Diagnostic) : Except Fault Findings :=
  match d.poll? with
  | none => .ok { diagnostics := found, interrupted := true }
  | some d => do
    let more ← textIssuesInTime d source
    return {
      diagnostics := found ++ withoutRepeats (found.map key) more.found
      interrupted := more.left?.isNone }

/-- Checks a script. The time is asked for first of all, and again in front of each pass over the
bare text. -/
def check (source : Text) (c : Context) : Except Fault Findings :=
  match c.deadline.poll? with
  | none => .ok { interrupted := true }
  | some d =>
    let read := readIssuesInTime d source
    match read.left? with
    | none => .ok { diagnostics := read.found, interrupted := true }
    | some d =>
      if c.script.heuristics then withText d source read.found
      else .ok { diagnostics := read.found }

def checker : Checker where
  id := "script"
  description := "Syntax, scope and usage checks for JavaScript"
  language := .script
  check := check

end PageLint.Script
