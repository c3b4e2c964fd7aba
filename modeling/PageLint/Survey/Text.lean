import PageLint.Number.Binary
import PageLint.Survey

/-! A survey as text for people. -/
namespace PageLint

/-- What of a survey its text shows. -/
structure TextForm where
  isColored : Bool := true
  /-- The line of each diagnostic, with its place marked. -/
  showSource : Bool := true
  showFixes : Bool := true
  showTotals : Bool := true
  deriving DecidableEq, Repr

/-- How a terminal shows a piece of text: the numbers of its escape sequence. -/
structure Ink where
  codes : String
  deriving DecidableEq, Repr

namespace Ink

def red : Ink := ⟨"31"⟩

def green : Ink := ⟨"32"⟩

def yellow : Ink := ⟨"33"⟩

def blue : Ink := ⟨"34"⟩

def cyan : Ink := ⟨"36"⟩

def underline : Ink := ⟨"4"⟩

def bold (i : Ink) : Ink := ⟨"1;" ++ i.codes⟩

/-- The escape sequence that turns an ink on. -/
def start (i : Ink) : Text := '\x1b' :: '[' :: i.codes.toList ++ ['m']

/-- The escape sequence that turns every ink off. -/
def reset : Text := ['\x1b', '[', '0', 'm']

/-- `t` with `start` behind every sequence that turns the inks off. -/
def resume (start : Text) : Text → Text
  | '\x1b' :: '[' :: '0' :: 'm' :: t => reset ++ start ++ resume start t
  | c :: t => c :: resume start t
  | [] => []

/-- A text in this ink. Where the text itself turns the ink off, it is turned on again. -/
def draw (i : Ink) (s : String) : String :=
  String.ofList (i.start ++ resume i.start s.toList ++ reset)

end Ink

namespace TextForm

def paint (form : TextForm) (ink : Ink) (s : String) : String :=
  if form.isColored then ink.draw s else s

def severityInk : Severity → Ink
  | .error => Ink.red.bold
  | .warning => Ink.yellow.bold
  | .suggestion => Ink.blue

def plural (n : Nat) : String := if n = 1 then "" else "s"

/-- A count in words, if there is anything to count. -/
def count (form : TextForm) (n : Nat) (word : String) (ink : Ink) : List String :=
  if n = 0 then [] else [form.paint ink s!"{n} {word}{plural n}"]

def padNumber (n : Nat) : String :=
  let digits := toString n
  "".pushn ' ' (4 - digits.length) ++ digits

/-- The greatest number of blanks in one piece. -/
def maxBlanks : Nat := Nat.pow 2 63 - 1

/-- The line of a diagnostic with its place marked below. A mark stays within the line. -/
def sourceLines (form : TextForm) (d : Diagnostic) (context : Text) : Except Fault String := do
  let column := d.column.getD 1
  if column = 0 || maxBlanks < column - 1 then throw .noColumn
  if d.stop < d.start then throw .invertedRange
  let bar := form.paint .blue "|"
  let room := max 1 (context.length - (column - 1))
  let mark := form.paint .red ("".pushn '^' (min room (max 1 (d.stop - d.start))))
  let blanks := "".pushn ' ' (column - 1)
  return s!"{form.paint .blue (padNumber d.line)} {bar} {String.ofList context}\n" ++
    s!"     {bar} {blanks}{mark}\n"

/-- The place, the severity, the rule and the message. -/
def headLine (form : TextForm) (file : String) (d : Diagnostic) : String :=
  let severity := form.paint (severityInk d.severity) d.severity.name
  let rule := (d.rule.map fun r => s!"[{form.paint .cyan r}]").getD ""
  s!"{file}:{d.line}:{d.column.getD 1}: {severity}{rule}: {d.message}\n"

def fixLine (form : TextForm) (d : Diagnostic) : String :=
  match d.fixes with
  | [] => ""
  | fix :: _ => "   " ++ form.paint .green "=" ++ " fix: " ++ fix.description ++ "\n"

/-- The text of one diagnostic. -/
def diagnostic (form : TextForm) (file : String) (d : Diagnostic) : Except Fault String := do
  let source ← match d.context with
    | some context => if form.showSource then form.sourceLines d context else pure ""
    | none => pure ""
  return form.headLine file d ++ source ++ if form.showFixes then form.fixLine d else ""

/-- The text of one file; nothing if there is nothing to say. -/
def file (form : TextForm) (f : CheckedFile) : Except Fault String := do
  if f.report.diagnostics.isEmpty && !f.report.interrupted then return ""
  let parts ← f.report.diagnostics.mapM (form.diagnostic f.name)
  let note :=
    if f.report.interrupted then
      "   " ++ form.paint .yellow "note:" ++
        " analysis stopped at the timeout; results are partial\n"
    else ""
  return s!"{form.paint .underline f.name}\n" ++ String.join parts ++ note ++ "\n"

/-- A duration in seconds. -/
def seconds (milliseconds : Nat) : String :=
  let whole := Binary.ofNat (milliseconds / 1000)
  let rest := (Binary.ofNat (milliseconds % 1000 * 1000000)).div (Binary.ofNat 1000000000)
  (whole.add rest).twoPlaces

def totals (form : TextForm) (s : Survey) : String :=
  let n := s.files.length
  let t := s.totals
  let counts := form.count t.errors "error" .red ++ form.count t.warnings "warning" .yellow ++
    form.count t.suggestions "suggestion" .blue
  s!"{n} file{plural n} checked" ++
    (if counts.isEmpty then "" else ": " ++ String.intercalate ", " counts) ++
    s!"\nFinished in {seconds s.milliseconds}s\n"

/-- The text of a survey. -/
def survey (form : TextForm) (s : Survey) : Except Fault String := do
  let parts ← s.files.mapM form.file
  return String.join parts ++ if form.showTotals then form.totals s else ""

end TextForm

end PageLint
