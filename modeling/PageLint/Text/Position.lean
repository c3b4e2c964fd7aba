import PageLint.Text.Classes

/-!
Lines and columns of byte offsets. Lines count from one and columns count characters from one;
editors count lines from zero and columns in UTF-16 units from zero.
An offset inside a character counts as the boundary in front of it.
-/
namespace PageLint.Text

/-- The line that contains offset `n`. -/
def lineOf (t : Text) (n : Nat) : Nat := (t.before n).count '\n' + 1

/-- The characters of the line of offset `n` that stand in front of it. -/
def lineHead (t : Text) (n : Nat) : Text :=
  ((t.before n).reverse.takeWhile (· != '\n')).reverse

def columnOf (t : Text) (n : Nat) : Nat := (t.lineHead n).length + 1

def lineColumn (t : Text) (n : Nat) : Nat × Nat := (t.lineOf n, t.columnOf n)

/-- Characters outside the basic plane take two units. -/
def units16 (c : Char) : Nat := if c.toNat < 0x10000 then 1 else 2

def editorPosition (t : Text) (n : Nat) : Nat × Nat :=
  (t.lineOf n - 1, (t.lineHead n).foldr (units16 · + ·) 0)

/-- The lines between newlines; a final newline is followed by one more, empty line. -/
def lines (t : Text) : List Text := t.splitOn '\n'

def lineCount (t : Text) : Nat := t.lines.length

/-- A line without the carriage returns that end it. -/
def lineText? (t : Text) : Nat → Option Text
  | 0 => none
  | n + 1 => t.lines[n]?.map (dropEndWhile (· == '\r'))

end PageLint.Text
