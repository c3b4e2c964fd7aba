import PageLint.Deadline
import PageLint.Diagnostic

/-! Settings of one check, how they combine, and what a settings file must respect. -/
namespace PageLint

/-- The lowest severity that a report keeps. -/
inductive Level where
  | error
  | warning
  | suggestion
  | all
  deriving DecidableEq, Repr

namespace Level

def name : Level → String
  | error => "error"
  | warning => "warning"
  | suggestion => "suggestion"
  | all => "all"

def ofName? (s : String) : Option Level :=
  [error, warning, suggestion, all].find? (·.name == s)

def admits : Level → Severity → Bool
  | error, s => Severity.error.rank ≤ s.rank
  | warning, s => Severity.warning.rank ≤ s.rank
  | suggestion, _ | all, _ => true

/-- Reads a level as people write it: any case, with the usual short forms. -/
def read? (s : String) : Except String Level :=
  match String.ofList (Text.lower s.toList) with
  | "error" => .ok error
  | "warning" | "warn" => .ok warning
  | "suggestion" | "hint" => .ok suggestion
  | "all" => .ok all
  | _ => .error s!"Unknown severity level: {s}"

end Level

/-- Severities chosen per rule; a rule stands in the list once. -/
abbrev Overrides := List (String × Severity)

namespace Overrides

def find? (o : Overrides) (rule : String) : Option Severity := List.lookup rule o

/-- Sets the severity of a rule, in place of any that it has. -/
def insert (o : Overrides) (rule : String) (severity : Severity) : Overrides :=
  o.filter (·.1 != rule) ++ [(rule, severity)]

/-- All of `o` with the choices of `other` put over it. -/
def update (o other : Overrides) : Overrides :=
  other.foldl (fun o (rule, severity) => o.insert rule severity) o

end Overrides

structure RuleSettings where
  disabled : List String := []
  severity : Overrides := []
  deriving DecidableEq, Repr

structure ScriptSettings where
  /-- Run the text pass beside the tree pass. -/
  heuristics : Bool := true
  deriving DecidableEq, Repr

structure Options where
  /-- A diagnostic whose message contains one of these is dropped. -/
  ignorePatterns : List String := []
  severityLevel : Level := .all
  maxErrors : Option Nat := none
  /-- Time budget in milliseconds. -/
  timeout : Option Nat := none
  /-- The input is a fragment: whole-document warnings are left out. -/
  allowPartial : Bool := false
  rules : RuleSettings := {}
  script : ScriptSettings := {}
  deriving DecidableEq, Repr

/-- Why settings are refused. -/
inductive SettingsError where
  | noErrorsAllowed
  | emptyIgnorePattern
  deriving DecidableEq, Repr

def SettingsError.message : SettingsError → String
  | noErrorsAllowed => "maxErrors must be at least 1"
  | emptyIgnorePattern => "Empty ignore pattern \"\" would hide every diagnostic"

namespace Options

/-- The budget of a call. One of zero is used up from the start; what becomes of any other is told by
`clock`. -/
def deadline (o : Options) (clock : Deadline) : Deadline :=
  match o.timeout with
  | none => .never
  | some 0 => .after 0
  | some _ => clock

def isEnabled (o : Options) (rule : String) : Bool := !o.rules.disabled.contains rule

def severityOf? (o : Options) (rule : String) : Option Severity := o.rules.severity.find? rule

def validate (o : Options) : Except SettingsError Unit :=
  if o.maxErrors = some 0 then .error .noErrorsAllowed
  else if o.ignorePatterns.contains "" then .error .emptyIgnorePattern
  else .ok ()

/-- Both settings together; where they disagree `other` wins, unless it has the default. -/
def merge (o other : Options) : Options where
  ignorePatterns := o.ignorePatterns ++ other.ignorePatterns
  severityLevel := if other.severityLevel = .all then o.severityLevel else other.severityLevel
  maxErrors := other.maxErrors <|> o.maxErrors
  timeout := other.timeout <|> o.timeout
  allowPartial := o.allowPartial || other.allowPartial
  rules :=
    { disabled := o.rules.disabled ++ other.rules.disabled
      severity := o.rules.severity.update other.rules.severity }
  script := { heuristics := o.script.heuristics && other.script.heuristics }

end Options

end PageLint
