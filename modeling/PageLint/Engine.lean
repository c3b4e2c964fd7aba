import PageLint.Checker
import PageLint.Text.Position

/-!
The engine runs the checker of a language and shapes its findings: ranges are clamped to the text,
rules are switched off or get another severity, messages are filtered, levels are filtered, and the
list is cut to the number of diagnostics asked for.
-/
namespace PageLint

/-! ## The stages -/

/-- The nearest range that respects the characters of the source; an inverted range becomes
empty. -/
def Edit.clamp (source : Text) (e : Edit) : Edit :=
  let start := source.clamp e.start
  { e with start, stop := max start (source.clamp e.stop) }

def Fix.clamp (source : Text) (f : Fix) : Fix := { f with edit := f.edit.clamp source }

namespace Diagnostic

/-- Anchors a diagnostic to the source: its ranges are clamped, and line, column and context follow
from where it starts. -/
def anchor (source : Text) (d : Diagnostic) : Diagnostic :=
  let start := source.clamp d.start
  let line := source.lineOf start
  { d with
    start
    stop := max start (source.clamp d.stop)
    fixes := d.fixes.map (·.clamp source)
    line
    column := some (source.columnOf start)
    context := source.lineText? line <|> d.context }

/-- No setting switches the rule off. -/
def isEnabled (o : Options) (d : Diagnostic) : Bool := d.rule.all o.isEnabled

/-- The severity that the settings give to the rule, or else its own. -/
def override (o : Options) (d : Diagnostic) : Diagnostic :=
  { d with severity := (d.rule.bind o.severityOf?).getD d.severity }

/-- The message contains one of the patterns. -/
def isIgnored (patterns : List String) (d : Diagnostic) : Bool :=
  patterns.any fun p => Text.contains d.message.toList p.toList

end Diagnostic

def applyRules (o : Options) (ds : List Diagnostic) : List Diagnostic :=
  (ds.filter (·.isEnabled o)).map (·.override o)

def dropIgnored (patterns : List String) (ds : List Diagnostic) : List Diagnostic :=
  ds.filter fun d => !d.isIgnored patterns

def truncate (limit : Option Nat) (ds : List Diagnostic) : List Diagnostic :=
  match limit with
  | none => ds
  | some n => ds.take n

/-- What the options leave of a list of diagnostics. -/
def select (o : Options) (ds : List Diagnostic) : List Diagnostic :=
  let kept := dropIgnored o.ignorePatterns (applyRules o ds)
  truncate o.maxErrors (kept.filter fun d => o.severityLevel.admits d.severity)

/-- The report on what a checker found. -/
def Findings.report (source : Text) (o : Options) (f : Findings) : Report :=
  { Report.of (select o (f.diagnostics.map (·.anchor source))) with interrupted := f.interrupted }

/-! ## The engine -/

/-- The checkers in use, one for a language. -/
structure Engine where
  checkers : List Checker := []

namespace Engine

/-- Adds a checker, in place of any other for its language. -/
def register (e : Engine) (c : Checker) : Engine :=
  ⟨e.checkers.filter (·.language != c.language) ++ [c]⟩

def checker? (e : Engine) (l : Language) : Option Checker := e.checkers.find? (·.language == l)

def languages (e : Engine) : List Language := Language.all.filter fun l => (e.checker? l).isSome

/-- Checks a text. A language without a checker has nothing to report. The answers of `clock` are
those to a budget that is not zero. -/
def check (e : Engine) (source : Text) (l : Language) (o : Options) (clock : Deadline := .never) :
    Except Fault Report :=
  match e.checker? l with
  | none => .ok {}
  | some c => (c.check source (o.context clock)).map (·.report source o)

/-- Checks a text in the language of a tag; a tag that names none has nothing to report. -/
def checkTag (e : Engine) (source : Text) (tag : String) (o : Options)
    (clock : Deadline := .never) : Except Fault Report :=
  match Language.ofTag? tag with
  | none => .ok {}
  | some l => e.check source l o clock

end Engine

end PageLint
