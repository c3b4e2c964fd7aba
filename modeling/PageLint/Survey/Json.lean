import PageLint.Json.Codec
import PageLint.Survey

/-! A survey as JSON. -/
namespace PageLint.Json

def ofCheckedFile (f : CheckedFile) : Json :=
  .obj ([("file", .str f.name), ("language", .str f.language.name),
    ("errors", .arr (f.report.diagnostics.map ofDiagnostic)), ("stats", ofTally f.report.tally)] ++
    if f.report.interrupted then [("partial", .bool true)] else [])

def ofSurvey (s : Survey) : Json :=
  let totals := s.totals
  .obj [("files", .arr (s.files.map ofCheckedFile)),
    ("summary", .obj [("filesChecked", nat s.files.length), ("errorCount", nat totals.errors),
      ("warningCount", nat totals.warnings), ("suggestionCount", nat totals.suggestions),
      ("durationMs", nat s.milliseconds)])]

/-- One diagnostic with the name of its file. -/
def ofDiagnosticIn (file : String) (d : Diagnostic) : Json :=
  .obj (("file", .str file) :: diagnosticMembers d)

end PageLint.Json
