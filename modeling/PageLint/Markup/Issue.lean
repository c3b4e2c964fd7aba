import PageLint.Diagnostic

/-! What can be wrong in a document. -/
namespace PageLint.Markup

inductive Issue where
  | unclosedComment
  | invalidParent (name : String) (parents : List String)
  | invalidNesting (outer inner : String)
  | mismatchedClosing (expected found : String)
  | strayClosing (name : String)
  | duplicateAttribute (name : String)
  | emptyAttribute (name : String)
  | unclosedTag (name : String) (parent : Option String)
  | missingRoot
  | missingSection (name : String)
  deriving DecidableEq, Repr

/-- A list of tags in words: commas, and "or" in front of the last one. -/
def describeTags (names : List String) : String :=
  match (names.map fun name => "<" ++ name ++ ">").reverse with
  | [] => ""
  | [only] => only
  | last :: rest => String.intercalate ", " rest.reverse ++ " or " ++ last

namespace Issue

def severity : Issue → Severity
  | unclosedComment | emptyAttribute _ | missingRoot | missingSection _ => .warning
  | _ => .error

def category : Issue → Category
  | invalidParent .. | invalidNesting .. | emptyAttribute _ | missingRoot | missingSection _ =>
    .meaning
  | _ => .form

def rule : Issue → String
  | unclosedComment => "unclosed-comment"
  | invalidParent .. => "invalid-parent"
  | invalidNesting .. => "invalid-nesting"
  | mismatchedClosing .. | strayClosing _ => "mismatched-closing-tag"
  | duplicateAttribute _ => "duplicate-attribute"
  | emptyAttribute _ => "empty-attribute"
  | unclosedTag .. => "unclosed-tag"
  | missingRoot => "missing-root"
  | missingSection _ => "missing-section"

def message : Issue → String
  | unclosedComment => "Unclosed comment"
  | invalidParent name parents => s!"Tag <{name}> must be inside {describeTags parents}"
  | invalidNesting outer inner => s!"Invalid nesting: <{outer}> cannot contain <{inner}>"
  | mismatchedClosing expected found =>
    s!"Mismatched closing tag: expected </{expected}> but found </{found}>"
  | strayClosing name => s!"Mismatched closing tag: found </{name}> with no open tag"
  | duplicateAttribute name => s!"Duplicate attribute: {name}"
  | emptyAttribute name => s!"Empty value for attribute: {name}"
  | unclosedTag name none => s!"Unclosed tag: <{name}>"
  | unclosedTag name (some parent) => s!"Unclosed tag: <{name}> (inside <{parent}>)"
  | missingRoot => "Missing <html> tag"
  | missingSection name => s!"Missing <{name}> section"

/-- What its fix does, in words. -/
def remedy : Issue → String
  | unclosedComment => "Close the comment"
  | mismatchedClosing expected _ => s!"Change to </{expected}>"
  | strayClosing name => s!"Remove </{name}>"
  | duplicateAttribute name => s!"Remove duplicate {name}"
  | emptyAttribute name => s!"Remove empty {name}"
  | unclosedTag name _ => s!"Add </{name}>"
  | _ => ""

/-- The issue at a place, with the edits that would mend it. -/
def report (i : Issue) (start stop : Nat) (edits : List Edit := []) : Diagnostic :=
  .ofRule i.rule i.message i.severity i.category i.remedy start stop edits

end Issue

end PageLint.Markup
