import PageLint.Diagnostic
import PageLint.Style.Value

/-! What can be wrong in a style sheet. -/
namespace PageLint.Style

inductive Issue where
  | unclosedComment (depth : Nat)
  | strayBrace
  | unclosedBlock (depth : Nat)
  | duplicateProperty (property : String)
  | multipleImportant (property : String)
  | invalidCharacter (c : Char) (property : String)
  | invalidValue (kind : ValueKind) (property : String) (value : Text) (replacement : Option Text)
  | undefinedSassVariable (name : Text)
  | undefinedMixin (name : Text)
  | undefinedPlaceholder (name : Text)
  | undefinedLessVariable (name : Text)
  deriving DecidableEq, Repr

namespace Issue

def severity : Issue → Severity
  | unclosedComment _ | duplicateProperty _ | multipleImportant _ => .warning
  | _ => .error

def category : Issue → Category
  | unclosedComment _ | strayBrace | unclosedBlock _ | invalidCharacter .. => .form
  | duplicateProperty _ | multipleImportant _ => .style
  | invalidValue .. => .value
  | _ => .meaning

def rule : Issue → String
  | unclosedComment _ => "unclosed-comment"
  | strayBrace => "unexpected-closing-brace"
  | unclosedBlock _ => "unclosed-block"
  | duplicateProperty _ => "duplicate-property"
  | multipleImportant _ => "multiple-important"
  | invalidCharacter .. => "invalid-character"
  | invalidValue .. => "invalid-value"
  | undefinedSassVariable _ | undefinedLessVariable _ => "undefined-variable"
  | undefinedMixin _ => "undefined-mixin"
  | undefinedPlaceholder _ => "undefined-placeholder"

def message : Issue → String
  | unclosedComment depth =>
    if depth > 1 then s!"Unclosed nested comment ({depth} levels)" else "Unclosed comment"
  | strayBrace => "Unexpected closing brace"
  | unclosedBlock depth =>
    if depth > 1 then s!"Unclosed block ({depth} unmatched '\x7b')" else "Unclosed block"
  | duplicateProperty property => s!"Duplicate property: {property}"
  | multipleImportant property => s!"Multiple !important in property: {property}"
  | invalidCharacter c property => s!"Invalid character '{c}' in value of property: {property}"
  | invalidValue kind property value _ =>
    s!"Invalid {kind.name} value for {property}: {String.ofList value}"
  | undefinedSassVariable name => s!"Undefined Sass variable: ${String.ofList name}"
  | undefinedMixin name => s!"Undefined mixin: {String.ofList name}"
  | undefinedPlaceholder name => s!"Undefined placeholder: %{String.ofList name}"
  | undefinedLessVariable name => s!"Undefined Less variable: @{String.ofList name}"

/-- What its fix does, in words. -/
def remedy : Issue → String
  | unclosedComment _ => "Close the comment"
  | strayBrace => "Remove the brace"
  | unclosedBlock _ => "Close the block"
  | multipleImportant _ => "Keep a single !important"
  | invalidCharacter c _ => s!"Remove '{c}'"
  | invalidValue _ _ _ (some replacement) => s!"Replace with {String.ofList replacement}"
  | _ => ""

/-- The issue at a place, with the edits that would mend it. -/
def report (i : Issue) (start stop : Nat) (edits : List Edit := []) : Diagnostic :=
  .ofRule i.rule i.message i.severity i.category i.remedy start stop edits

end Issue

end PageLint.Style
