import PageLint.Text.Classes

/-! Searching a text for patterns from left to right. -/
namespace PageLint.Text

/-- A pattern is given the character in front and the text from a place on. Where it matches, it
answers with what it found and the number of characters that it took. -/
abbrev Pattern (α : Type) := Option Char → Text → Option (α × Nat)

/-- The matches of a pattern in a text that starts at offset `n`, each with its offset. A match
starts behind the end of the one before; `skip` characters still belong to that one. -/
def matchesFrom (p : Pattern α) (n : Nat) (previous : Option Char) (skip : Nat) :
    Text → List (Nat × α)
  | [] => []
  | c :: t =>
    match skip with
    | k + 1 => matchesFrom p (n + c.utf8Size) (some c) k t
    | 0 =>
      match p previous (c :: t) with
      | some (a, len) => (n, a) :: matchesFrom p (n + c.utf8Size) (some c) (len - 1) t
      | none => matchesFrom p (n + c.utf8Size) (some c) 0 t

/-- The matches of a pattern, each with its offset. -/
def matchesOf (p : Pattern α) (t : Text) : List (Nat × α) := matchesFrom p 0 none 0 t

/-- `t` without the matches of a pattern; `skip` characters still belong to a match. -/
def removeFrom (p : Pattern α) (previous : Option Char) (skip : Nat) : Text → Text
  | [] => []
  | c :: t =>
    match skip with
    | k + 1 => removeFrom p (some c) k t
    | 0 =>
      match p previous (c :: t) with
      | some (_, len) => removeFrom p (some c) (len - 1) t
      | none => c :: removeFrom p (some c) 0 t

def remove (p : Pattern α) (t : Text) : Text := removeFrom p none 0 t

/-- A pattern that takes all of a text but `rest`. -/
def took (t rest : Text) (a : α) : α × Nat := (a, t.length - rest.length)

/-- The text behind at least one white space. -/
def dropBlanks? (t : Text) : Option Text :=
  match t with
  | [] => none
  | c :: _ => if isBlank c then some t.trimStart else none

end PageLint.Text
