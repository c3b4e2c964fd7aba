import PageLint.Diagnostic

/-! What can be wrong in a script. -/
namespace PageLint.Script

inductive Issue where
  | missingToken (kind : String)
  | unexpectedToken (token : Text)
  | unexpectedEnd
  | debuggerStatement
  /-- Two bindings of a name in one frame, one of which tolerates no other. -/
  | redeclared (name : Text)
  | duplicateDeclaration (name : Text)
  | undefinedFunction (name : Text)
  | undefinedVariable (name : Text)
  | unusedImport (name : Text)
  | unusedVariable (name : Text)
  | looseEquality
  | looseInequality
  | strayAwait
  /-- A pattern takes its values from a name that nothing declares. -/
  | undeclaredSource (name : Text)
  deriving DecidableEq, Repr

namespace Issue

def severity : Issue → Severity
  | duplicateDeclaration _ => .warning
  | unusedImport _ | unusedVariable _ | looseEquality | looseInequality => .suggestion
  | _ => .error

def category : Issue → Category
  | missingToken _ | unexpectedToken _ | unexpectedEnd => .form
  | unusedImport _ | unusedVariable _ | looseEquality | looseInequality => .style
  | _ => .meaning

def rule : Issue → String
  | missingToken _ | unexpectedToken _ | unexpectedEnd => "syntax-error"
  | debuggerStatement => "no-debugger"
  | redeclared _ | duplicateDeclaration _ => "no-redeclare"
  | undefinedFunction _ => "no-undef-call"
  | undefinedVariable _ | undeclaredSource _ => "no-undef"
  | unusedImport _ | unusedVariable _ => "no-unused-vars"
  | looseEquality | looseInequality => "eqeqeq"
  | strayAwait => "await-outside-async"

def message : Issue → String
  | missingToken kind => "Syntax error: missing '" ++ kind ++ "'"
  | unexpectedToken token => "Syntax error: unexpected '" ++ String.ofList token ++ "'"
  | unexpectedEnd => "Syntax error: unexpected end of input"
  | debuggerStatement => "Unexpected debugger statement"
  | redeclared name => "Cannot redeclare block-scoped variable: " ++ String.ofList name
  | duplicateDeclaration name => "Duplicate declaration: " ++ String.ofList name
  | undefinedFunction name => "Undefined function: " ++ String.ofList name
  | undefinedVariable name => "Undefined variable: " ++ String.ofList name
  | unusedImport name => "Unused import: " ++ String.ofList name
  | unusedVariable name => "Unused variable: " ++ String.ofList name
  | looseEquality => "Use strict equality (===) instead of loose equality (==)"
  | looseInequality => "Use strict inequality (!==) instead of loose inequality (!=)"
  | strayAwait => "'await' is only valid inside async functions"
  | undeclaredSource name =>
    "Cannot destructure from undeclared variable: " ++ String.ofList name

/-- What its fix does, in words. -/
def remedy : Issue → String
  | debuggerStatement => "Remove debugger statement"
  | unusedImport name | unusedVariable name => "Remove unused '" ++ String.ofList name ++ "'"
  | looseEquality => "Replace with ==="
  | looseInequality => "Replace with !=="
  | _ => ""

/-- The issue at a place, with the edits that would mend it. -/
def report (i : Issue) (start stop : Nat) (edits : List Edit := []) : Diagnostic :=
  .ofRule i.rule i.message i.severity i.category i.remedy start stop edits

end Issue

end PageLint.Script
