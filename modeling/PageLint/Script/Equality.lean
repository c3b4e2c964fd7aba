import PageLint.Script.Issue
import PageLint.Text.Scan

/-! Comparisons that convert their operands, found in the bare text. -/
namespace PageLint.Script

/-- `==` and `!=`. Where a third character makes another operator of them, or one in front belongs
to them, all three are taken together and nothing is found. -/
def equality : Text.Pattern (Option Issue) := fun previous t =>
  match t with
  | '!' :: '=' :: rest =>
    if rest.head? = some '=' then some (none, 3) else some (some .looseInequality, 2)
  | '=' :: '=' :: rest =>
    if rest.head? = some '=' || previous.any ['=', '!', '<', '>'].contains then some (none, 3)
    else some (some .looseEquality, 2)
  | _ => none

/-- The operator that compares without conversion. -/
def strictForm : Issue → Text
  | .looseInequality => ['!', '=', '=']
  | _ => ['=', '=', '=']

def equalityIssues (source : Text) : List Diagnostic :=
  (source.matchesOf equality).filterMap fun (n, found) =>
    found.map fun issue => issue.report n (n + 2) [⟨n, n + 2, strictForm issue⟩]

end PageLint.Script
