import PageLint.Text.Position

/-! Why the JSON text of settings is refused, and where. -/
namespace PageLint.Settings

/-- What stands in the text instead of what was expected. -/
inductive Found where
  | null
  | bool (b : Bool)
  | integer (n : Int)
  | real (text : Text)
  | string (t : Text)
  | list
  | object
  deriving DecidableEq, Repr

def Found.describe : Found → String
  | null => "null"
  | bool b => if b then "boolean `true`" else "boolean `false`"
  | integer n => "integer `" ++ toString n ++ "`"
  | real text => "floating point `" ++ String.ofList text ++ "`"
  | string t => "string " ++ String.ofList t
  | list => "sequence"
  | object => "map"

inductive Cause where
  | endInList
  | endInObject
  | endInString
  | endInValue
  | expectedColon
  | expectedCommaOrBracket
  | expectedCommaOrBrace
  | expectedWord
  | expectedValue
  | invalidEscape
  | invalidNumber
  | numberOutOfRange
  | controlCharacter
  | keyNotString
  | loneSurrogate
  | trailingComma
  | trailingCharacters
  | unfinishedPair
  | wrongType (found : Found) (expected : String)
  | wrongValue (found : Found) (expected : String)
  | unknownChoice (name : Text) (known : List String)
  | duplicateField (name : String)
  deriving DecidableEq, Repr

/-- Names between backticks, as alternatives. -/
def alternatives (names : List String) : String :=
  let ticked := names.map fun name => "`" ++ name ++ "`"
  match ticked with
  | [a, b] => a ++ " or " ++ b
  | [a] => a
  | _ => "one of " ++ String.intercalate ", " ticked

def Cause.message : Cause → String
  | endInList => "EOF while parsing a list"
  | endInObject => "EOF while parsing an object"
  | endInString => "EOF while parsing a string"
  | endInValue => "EOF while parsing a value"
  | expectedColon => "expected `:`"
  | expectedCommaOrBracket => "expected `,` or `]`"
  | expectedCommaOrBrace => "expected `,` or `\x7d`"
  | expectedWord => "expected ident"
  | expectedValue => "expected value"
  | invalidEscape => "invalid escape"
  | invalidNumber => "invalid number"
  | numberOutOfRange => "number out of range"
  | controlCharacter =>
    "control character (\\u0000-\\u001F) found while parsing a string"
  | keyNotString => "key must be a string"
  | loneSurrogate => "lone leading surrogate in hex escape"
  | trailingComma => "trailing comma"
  | trailingCharacters => "trailing characters"
  | unfinishedPair => "unexpected end of hex escape"
  | wrongType found expected => "invalid type: " ++ found.describe ++ ", expected " ++ expected
  | wrongValue found expected => "invalid value: " ++ found.describe ++ ", expected " ++ expected
  | unknownChoice name known =>
    "unknown variant `" ++ String.ofList name ++ "`, expected " ++ alternatives known
  | duplicateField name => "duplicate field `" ++ name ++ "`"

/-- A cause with its place, which is known by the number of bytes from there on. -/
structure Failure where
  cause : Cause
  left : Nat
  deriving DecidableEq, Repr

namespace Failure

/-- Something is wrong right in front of `rest`. -/
def here (cause : Cause) (rest : Text) : Failure := ⟨cause, rest.size⟩

/-- Something is wrong with what `rest` starts with. -/
def next (cause : Cause) (rest : Text) : Failure := ⟨cause, rest.size - 1⟩

/-- Line and column of the place; the column counts the bytes in front of it. -/
def place (source : Text) (f : Failure) : Nat × Nat :=
  let n := source.size - f.left
  (source.lineOf n, n - ((source.before n).size - (source.lineHead n).size))

def message (source : Text) (f : Failure) : String :=
  let (line, column) := f.place source
  s!"{f.cause.message} at line {line} column {column}"

end Failure

end PageLint.Settings
