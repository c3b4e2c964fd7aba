import PageLint.Text.Classes

/-! What a check reports: diagnostics with suggested fixes, and their counts. -/
namespace PageLint

inductive Severity where
  | suggestion
  | warning
  | error
  deriving DecidableEq, Repr

namespace Severity

def rank : Severity → Nat
  | suggestion => 0
  | warning => 1
  | error => 2

def name : Severity → String
  | suggestion => "suggestion"
  | warning => "warning"
  | error => "error"

def ofName? (s : String) : Option Severity :=
  [suggestion, warning, error].find? (·.name == s)

/-- Reads a severity as people write it: any case, with the usual short forms. -/
def read? (s : String) : Option Severity :=
  match String.ofList (Text.lower s.toList) with
  | "suggestion" | "hint" | "info" => some suggestion
  | "warning" | "warn" => some warning
  | "error" | "err" => some error
  | _ => none

end Severity

/-- What kind of rule a diagnostic comes from. -/
inductive Category where
  /-- Malformed structure: tags, braces, tokens. -/
  | form
  /-- Well formed but meaningless: undefined names, bad nesting. -/
  | meaning
  /-- Valid but questionable. -/
  | style
  /-- A value of the wrong kind. -/
  | value
  deriving DecidableEq, Repr

namespace Category

def name : Category → String
  | form => "syntax"
  | meaning => "semantic"
  | style => "style"
  | value => "type"

def ofName? (s : String) : Option Category :=
  [form, meaning, style, value].find? (·.name == s)

end Category

/-- A replacement of the bytes from `start` up to `stop`. -/
structure Edit where
  start : Nat
  stop : Nat
  text : Text
  deriving DecidableEq, Repr

namespace Edit

def insert (offset : Nat) (text : Text) : Edit := ⟨offset, offset, text⟩

def delete (start stop : Nat) : Edit := ⟨start, stop, []⟩

end Edit

structure Fix where
  description : String
  edit : Edit
  deriving DecidableEq, Repr

/-- One issue, anchored to the bytes from `start` up to `stop`. -/
structure Diagnostic where
  message : String
  severity : Severity
  category : Option Category := none
  start : Nat
  stop : Nat
  line : Nat := 1
  column : Option Nat := none
  rule : Option String := none
  fixes : List Fix := []
  context : Option Text := none
  deriving DecidableEq, Repr

namespace Diagnostic

/-- What a rule reports of a place: an inverted range becomes empty, and each of the edits is a fix
with the same remedy. -/
def ofRule (rule message : String) (severity : Severity) (category : Category) (remedy : String)
    (start stop : Nat) (edits : List Edit) : Diagnostic where
  message
  severity
  category := some category
  start
  stop := max start stop
  rule := some rule
  fixes := edits.map fun edit => ⟨remedy, edit⟩

/-- The edit of the first suggested fix. -/
def firstEdit? (d : Diagnostic) : Option Edit := d.fixes.head?.map (·.edit)

end Diagnostic

/-- Diagnostics counted by severity. -/
structure Tally where
  errors : Nat := 0
  warnings : Nat := 0
  suggestions : Nat := 0
  deriving DecidableEq, Repr

namespace Tally

def of (ds : List Diagnostic) : Tally where
  errors := ds.countP (·.severity == .error)
  warnings := ds.countP (·.severity == .warning)
  suggestions := ds.countP (·.severity == .suggestion)

def total (t : Tally) : Nat := t.errors + t.warnings + t.suggestions

def add (a b : Tally) : Tally :=
  ⟨a.errors + b.errors, a.warnings + b.warnings, a.suggestions + b.suggestions⟩

end Tally

/-- The outcome of checking one document. -/
structure Report where
  diagnostics : List Diagnostic := []
  tally : Tally := {}
  /-- The time budget cut the analysis short. -/
  interrupted : Bool := false
  deriving DecidableEq, Repr

namespace Report

def of (ds : List Diagnostic) : Report where
  diagnostics := ds
  tally := Tally.of ds

/-- Neither errors nor warnings. -/
def isClean (r : Report) : Bool := r.tally.errors == 0 && r.tally.warnings == 0

def exitCode (r : Report) : Nat :=
  if r.tally.errors > 0 then 2 else if r.tally.warnings > 0 then 1 else 0

end Report

end PageLint
