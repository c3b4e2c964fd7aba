import PageLint.Text.Classes

/-!
The masked copy of a style sheet: comments and the contents of strings are blanked out, and the
braces of interpolations become parentheses, so that every brace that is left belongs to a block.
Bytes keep their offsets, and newlines stay where they are.

Block comments nest. Line comments run to the end of the line; they start neither inside
parentheses nor behind a colon, so that addresses stay whole.
-/
namespace PageLint.Style

/-- What the text at hand belongs to. -/
inductive Mode where
  | code
  | lineComment
  /-- `depth` comments are open; the outermost starts at `start`. -/
  | comment (start depth : Nat)
  | quoted (quote : Char)
  deriving DecidableEq, Repr

structure MaskState where
  mode : Mode := .code
  /-- Interpolations that are open. -/
  interpolations : Nat := 0
  /-- Parentheses that are open. -/
  parens : Nat := 0
  afterColon : Bool := false
  deriving DecidableEq, Repr

/-- A blank for each byte; a newline stays. -/
def blanked (c : Char) : Text := if c = '\n' then ['\n'] else List.replicate c.utf8Size ' '

/-- The mode behind the end of an inner comment. -/
def Mode.leaveComment (start : Nat) : Nat → Mode
  | 0 | 1 => .code
  | depth + 1 => .comment start depth

/-- A result with `out` in front of its text. -/
def write (out : Text) (r : Text × Mode) : Text × Mode := (out ++ r.1, r.2)

/-- The masked text, and the mode in which it ends, of a text at offset `n`. -/
def maskFrom (n : Nat) (s : MaskState) : Text → Text × Mode
  | [] => ([], s.mode)
  | c :: t =>
    match s.mode with
    | .comment start depth =>
      match c, t with
      | '/', '*' :: t =>
        write [' ', ' '] (maskFrom (n + 2) { s with mode := .comment start (depth + 1) } t)
      | '*', '/' :: t =>
        write [' ', ' '] (maskFrom (n + 2) { s with mode := .leaveComment start depth } t)
      | c, t => write (blanked c) (maskFrom (n + c.utf8Size) s t)
    | .quoted quote =>
      if c = '\\' then
        match t with
        | [] => write [' '] (maskFrom (n + 1) s [])
        | e :: t => write (' ' :: blanked e) (maskFrom (n + 1 + e.utf8Size) s t)
      else if c = quote ∨ c = '\n' then
        write [c] (maskFrom (n + 1) { s with mode := .code, afterColon := false } t)
      else write (blanked c) (maskFrom (n + c.utf8Size) s t)
    | .lineComment =>
      if c = '\n' then write [c] (maskFrom (n + 1) { s with mode := .code, afterColon := false } t)
      else write (blanked c) (maskFrom (n + c.utf8Size) s t)
    | .code =>
      let s' := { s with afterColon := decide (c = ':') }
      match c, t with
      | '/', '*' :: t => write [' ', ' '] (maskFrom (n + 2) { s' with mode := .comment n 1 } t)
      | '#', '{' :: t =>
        write ['#', '('] (maskFrom (n + 2) { s' with interpolations := s.interpolations + 1 } t)
      | c, t =>
        if c = '/' ∧ t.head? = some '/' ∧ s.parens = 0 ∧ !s.afterColon then
          write [' '] (maskFrom (n + 1) { s' with mode := .lineComment } t)
        else if c = '"' ∨ c = '\'' then write [c] (maskFrom (n + 1) { s' with mode := .quoted c } t)
        else if c = '}' ∧ s.interpolations > 0 then
          write [')'] (maskFrom (n + 1) { s' with interpolations := s.interpolations - 1 } t)
        else if c = '(' then write [c] (maskFrom (n + 1) { s' with parens := s.parens + 1 } t)
        else if c = ')' then write [c] (maskFrom (n + 1) { s' with parens := s.parens - 1 } t)
        else write [c] (maskFrom (n + c.utf8Size) s' t)

/-- The masked copy of a text. -/
def mask (t : Text) : Text := (maskFrom 0 {} t).1

/-- Where the outermost comment starts that is open at the end, and how many are open. -/
def openComment? (t : Text) : Option (Nat × Nat) :=
  match (maskFrom 0 {} t).2 with
  | .comment start depth => some (start, depth)
  | _ => none

end PageLint.Style
