/-!
Text as a list of characters, addressed by UTF-8 byte offsets.
An offset is a boundary when it lies between two characters or at an end.
-/
namespace PageLint

abbrev Text := List Char

namespace Text

/-- Length in UTF-8 bytes, the unit of every offset. -/
def size : Text → Nat
  | [] => 0
  | c :: t => c.utf8Size + size t

/-- The greatest boundary that does not exceed `n`. -/
def clamp : Text → Nat → Nat
  | [], _ => 0
  | c :: t, n => if c.utf8Size ≤ n then c.utf8Size + clamp t (n - c.utf8Size) else 0

/-- The characters that end at or before offset `n`. -/
def before : Text → Nat → Text
  | [], _ => []
  | c :: t, n => if c.utf8Size ≤ n then c :: before t (n - c.utf8Size) else []

/-- The characters left once `before t n` is removed from the front of `t`. -/
def after : Text → Nat → Text
  | [], _ => []
  | c :: t, n => if c.utf8Size ≤ n then after t (n - c.utf8Size) else c :: t

/-- The characters of `t` between two boundaries. -/
def slice (t : Text) (start stop : Nat) : Text :=
  (t.after start).before (stop - start)

/-- `n` splits no character and is within the text. -/
def IsBoundary (t : Text) (n : Nat) : Prop := t.clamp n = n

instance (t : Text) (n : Nat) : Decidable (t.IsBoundary n) :=
  inferInstanceAs (Decidable (_ = _))

/-- Every character with the offset at which it starts, for a text that itself starts at `at`. -/
def offsetsFrom : Nat → Text → List (Nat × Char)
  | _, [] => []
  | n, c :: t => (n, c) :: offsetsFrom (n + c.utf8Size) t

/-- Every character with the offset at which it starts. -/
def offsets (t : Text) : List (Nat × Char) := t.offsetsFrom 0

/-- `needle` occurs in `t` as a block of consecutive characters. -/
def contains (t needle : Text) : Bool :=
  match t with
  | [] => needle.isEmpty
  | c :: rest => needle.isPrefixOf (c :: rest) || contains rest needle

/-- The text in front of the first occurrence of `needle` and the text from it on. -/
def splitAtFirst? (t needle : Text) : Option (Text × Text) :=
  if needle.isPrefixOf t then some ([], t)
  else match t with
    | [] => none
    | c :: rest => (splitAtFirst? rest needle).map fun (front, back) => (c :: front, back)

/-- Pieces between the characters that satisfy `p`, one more than there are such characters. -/
def splitWhere (p : Char → Bool) : Text → List Text
  | [] => [[]]
  | c :: t =>
    if p c then [] :: splitWhere p t
    else match splitWhere p t with
      | [] => [[c]]
      | piece :: rest => (c :: piece) :: rest

/-- Pieces between occurrences of `sep`. -/
def splitOn (sep : Char) (t : Text) : List Text := t.splitWhere (· == sep)

/-- `pieces` joined by `sep`. -/
def join (sep : Text) : List Text → Text
  | [] => []
  | [piece] => piece
  | piece :: rest => piece ++ sep ++ join sep rest

/-- `t` without its longest run of final characters that satisfy `p`. -/
def dropEndWhile (p : Char → Bool) (t : Text) : Text :=
  (t.reverse.dropWhile p).reverse

end Text

end PageLint
