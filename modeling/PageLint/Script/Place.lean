import PageLint.Text.Basic

/-! Places in a text, and the stretches between them. -/
namespace PageLint.Script

/-- The length of a stretch of text. -/
structure Extent where
  bytes : Nat := 0
  /-- Line breaks in it. -/
  rows : Nat := 0
  deriving DecidableEq, Repr

namespace Extent

instance : Add Extent := ⟨fun a b => ⟨a.bytes + b.bytes, a.rows + b.rows⟩⟩

end Extent

/-- A place, with the text behind it. -/
structure Place where
  offset : Nat := 0
  row : Nat := 0
  rest : Text
  deriving DecidableEq, Repr

namespace Place

def isAtEnd (p : Place) : Bool := p.rest.isEmpty

/-- The next character. The end of the text reads as the null character. -/
def next (p : Place) : Char := p.rest.headD '\x00'

def advance (p : Place) : Place :=
  match p.rest with
  | [] => p
  | c :: t => ⟨p.offset + c.utf8Size, if c = '\n' then p.row + 1 else p.row, t⟩

/-- The place behind `n` more characters. -/
def forward (p : Place) : Nat → Place
  | 0 => p
  | n + 1 => p.advance.forward n

/-- The place behind all characters up to one that does not satisfy `f`. -/
def skipWhile (p : Place) (f : Char → Bool) : Place := p.forward (p.rest.takeWhile f).length

def extentTo (p q : Place) : Extent := ⟨q.offset - p.offset, q.row - p.row⟩

/-- The text between two places. -/
def textTo (p q : Place) : Text := p.rest.before (q.offset - p.offset)

end Place

end PageLint.Script
