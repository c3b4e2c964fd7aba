import PageLint.Language
import PageLint.Options

/-! A checker turns the text of one language into diagnostics. -/
namespace PageLint

/-- Why a computation on text and offsets has no answer. -/
inductive Fault where
  /-- A cut would fall inside a character. -/
  | splitCharacter
  /-- A range ends before it starts. -/
  | invertedRange
  /-- A column in front of the first one. -/
  | noColumn
  deriving DecidableEq, Repr

/-- What a checker found, in the order in which it found it. -/
structure Findings where
  diagnostics : List Diagnostic := []
  /-- The time budget was found used up. -/
  interrupted : Bool := false
  deriving DecidableEq, Repr

/-- What a checker is given for one call. -/
structure Context extends Options where
  deadline : Deadline := .never

/-- The options with the budget that they give to a call. -/
def Options.context (o : Options) (clock : Deadline := .never) : Context where
  toOptions := o
  deadline := o.deadline clock

structure Checker where
  id : String
  description : String
  language : Language
  check : Text → Context → Except Fault Findings

end PageLint
