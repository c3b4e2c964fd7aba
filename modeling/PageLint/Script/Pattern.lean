import PageLint.Text.Basic

/-!
Regular expressions over characters, read one character at a time: what is left to match of an
expression is a list of alternatives, each again an expression.
-/
namespace PageLint.Script

/-- Ranges of characters, or all characters outside of them. -/
structure CharSet where
  ranges : List (Char × Char)
  negated : Bool := false
  deriving DecidableEq, Repr

namespace CharSet

def contains (s : CharSet) (c : Char) : Bool :=
  (s.ranges.any fun (low, high) => low ≤ c && c ≤ high) != s.negated

/-- The characters of a string. -/
def of (chars : String) : CharSet := ⟨chars.toList.map fun c => (c, c), false⟩

def except (chars : String) : CharSet := { CharSet.of chars with negated := true }

def union (a b : CharSet) : CharSet := { a with ranges := a.ranges ++ b.ranges }

end CharSet

inductive Pattern where
  | empty
  | oneOf (chars : CharSet)
  | text (chars : Text)
  | seq (first second : Pattern)
  | alt (first second : Pattern)
  | many (body : Pattern)
  deriving DecidableEq, Repr

namespace Pattern

/-! ## Matching -/

def matchesEmpty : Pattern → Bool
  | empty => true
  | oneOf _ => false
  | text chars => chars.isEmpty
  | seq a b => a.matchesEmpty && b.matchesEmpty
  | alt a b => a.matchesEmpty || b.matchesEmpty
  | many _ => true

/-- `a` and then `b`, for an `a` that is a rest. -/
def followedBy (b a : Pattern) : Pattern :=
  match a with
  | empty => b
  | text [] => b
  | a => seq a b

/-- The alternatives that are left of an expression once it has taken `c`. -/
def step (c : Char) : Pattern → List Pattern
  | empty => []
  | oneOf chars => if chars.contains c then [empty] else []
  | text [] => []
  | text (d :: rest) => if c = d then [text rest] else []
  | seq a b => (step c a).map (followedBy b) ++ if a.matchesEmpty then step c b else []
  | alt a b => step c a ++ step c b
  | many a => (step c a).map (followedBy (many a))

/-- The alternatives that are left of a list of them, each once. -/
def stepAll (c : Char) (ps : List Pattern) : List Pattern := (ps.flatMap (step c)).eraseDups

/-! ## Building -/

def word (s : String) : Pattern := text s.toList

def atLeastOnce (a : Pattern) : Pattern := seq a (many a)

def optional (a : Pattern) : Pattern := alt a empty

def choice : List Pattern → Pattern
  | [] => oneOf ⟨[], false⟩
  | [a] => a
  | a :: rest => alt a (choice rest)

def chain : List Pattern → Pattern
  | [] => empty
  | [a] => a
  | a :: rest => seq a (chain rest)

/-- `n` times `a`. -/
def times (n : Nat) (a : Pattern) : Pattern := chain (List.replicate n a)

/-- `low` to `low + more` times `a`. -/
def between (low more : Nat) (a : Pattern) : Pattern :=
  choice ((List.range (more + 1)).map fun k => times (low + k) a)

end Pattern

end PageLint.Script
