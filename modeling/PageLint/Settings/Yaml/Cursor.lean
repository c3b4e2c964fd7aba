import PageLint.Text.Classes

/-! A place in a YAML text. -/
namespace PageLint.Yaml

/-- What is left of a text, and where in its lines that starts. -/
structure Cursor where
  rest : Text
  line : Nat := 0
  column : Nat := 0
  deriving DecidableEq, Repr

def isBreak (c : Char) : Bool :=
  c = '\n' || c = '\r' || c = '\u0085' || c = '\u2028' || c = '\u2029'

def isBlank (c : Char) : Bool := c = ' ' || c = '\t'

/-- A character of a name: an ASCII letter or digit, an underscore or a hyphen. -/
def isNameChar (c : Char) : Bool :=
  Text.isAsciiLetter c || Text.isAsciiDigit c || c = '_' || c = '-'

/-- A character that may stand in a YAML text. -/
def isAllowed (c : Char) : Bool :=
  c = '\t' || c = '\n' || c = '\r' || (' ' ≤ c && c ≤ '~') || c = '\u0085' ||
    ('\u00A0' ≤ c && c ≤ '\uFFFD') || '\uFFFF' < c

/-- Blanks, line breaks or the end of the text come next. -/
def endsWord (t : Text) : Bool :=
  match t with
  | [] => true
  | c :: _ => isBlank c || isBreak c

namespace Cursor

def head? (p : Cursor) : Option Char := p.rest.head?

def isAt (p : Cursor) (c : Char) : Bool := p.rest.head? = some c

def isAtBlank (p : Cursor) : Bool := p.rest.head?.any isBlank

def isAtBreak (p : Cursor) : Bool := p.rest.head?.any isBreak

/-- The place behind `n` characters of the same line. -/
def skip (p : Cursor) (n : Nat) : Cursor :=
  { p with rest := p.rest.drop n, column := p.column + n }

/-- The place behind the characters of the same line that satisfy `f`. -/
def skipWhile (p : Cursor) (f : Char → Bool) : Cursor :=
  let rest := p.rest.dropWhile f
  { p with rest, column := p.column + (p.rest.length - rest.length) }

/-- The place behind a line break. A carriage return and a newline are one break. -/
def skipBreak (p : Cursor) : Cursor :=
  let rest := match p.rest with
    | '\r' :: '\n' :: rest => rest
    | rest => rest.drop 1
  { rest, line := p.line + 1, column := 0 }

/-- What a line break is in the text of a scalar. -/
def breakText (p : Cursor) : Text :=
  match p.rest with
  | '\u2028' :: _ => ['\u2028']
  | '\u2029' :: _ => ['\u2029']
  | _ => ['\n']

/-- The place in front of the next line break. -/
def skipToBreak (p : Cursor) : Cursor := p.skipWhile fun c => !isBreak c

/-- The mark between two documents, or the one behind a document, comes next. -/
def isAtDocument (p : Cursor) (mark : Text) : Bool :=
  p.column = 0 && match Text.dropWord? mark p.rest with
    | some rest => endsWord rest
    | none => false

def isAtAnyDocument (p : Cursor) : Bool :=
  p.isAtDocument "---".toList || p.isAtDocument "...".toList

end Cursor

end PageLint.Yaml
