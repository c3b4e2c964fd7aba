import PageLint.Checker

/-! The reports on several documents, checked in one go. -/
namespace PageLint

structure CheckedFile where
  name : String
  language : Language
  report : Report
  deriving DecidableEq, Repr

structure Survey where
  files : List CheckedFile := []
  milliseconds : Nat := 0
  deriving DecidableEq, Repr

namespace Survey

def totals (s : Survey) : Tally :=
  s.files.foldl (fun t f => t.add f.report.tally) {}

/-- The worst of the exit codes of the files. -/
def exitCode (s : Survey) : Nat :=
  s.files.foldl (fun code f => max code f.report.exitCode) 0

end Survey

end PageLint
