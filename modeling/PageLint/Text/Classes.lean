import PageLint.Text.Basic
import PageLint.Text.Property

/-! Character classes and the case maps built on them. -/
namespace PageLint.Text

def inRanges (ranges : List (Nat × Nat)) (c : Char) : Bool :=
  ranges.any fun (low, high) => low ≤ c.toNat && c.toNat ≤ high

def isAscii (c : Char) : Bool := c.toNat < 0x80

def isAsciiLetter (c : Char) : Bool := ('a' ≤ c && c ≤ 'z') || ('A' ≤ c && c ≤ 'Z')

def isAsciiDigit (c : Char) : Bool := '0' ≤ c && c ≤ '9'

def isHexDigit (c : Char) : Bool :=
  isAsciiDigit c || ('a' ≤ c && c ≤ 'f') || ('A' ≤ c && c ≤ 'F')

/-- Blank and the five control characters from tab to carriage return. -/
def isAsciiBlank (c : Char) : Bool := c = ' ' || ('\t' ≤ c && c ≤ '\r')

/-- White space of every script. -/
def isBlank (c : Char) : Bool :=
  isAsciiBlank c || (!isAscii c && inRanges Property.blanks c)

/-- Decimal digits of every script. -/
def isDigit (c : Char) : Bool :=
  isAsciiDigit c || (!isAscii c && inRanges Property.decimalDigits c)

/-- Letters and numerals of every script. -/
def isAlphanumeric (c : Char) : Bool :=
  isAsciiLetter c || isAsciiDigit c ||
    (!isAscii c && (inRanges Property.alphabetic c || inRanges Property.decimalDigits c ||
      inRanges Property.otherNumbers c))

/-- Letters, marks, digits and the characters that join words. -/
def isWord (c : Char) : Bool :=
  isAsciiLetter c || isAsciiDigit c || c = '_' ||
    (!isAscii c && (inRanges Property.alphabetic c || inRanges Property.marks c ||
      inRanges Property.decimalDigits c || inRanges Property.connectors c))

def lowerAscii (t : Text) : Text := t.map Char.toLower

/-- Lower case as far as words of ASCII letters can tell: beyond A–Z only the Kelvin sign
lowers to one of them. -/
def lowerChar (c : Char) : Char := if c = '\u212A' then 'k' else c.toLower

def lower (t : Text) : Text := t.map lowerChar

/-- Equal to the lower-case letter `l` when case is ignored: the long s and the Kelvin sign are
further cases of two letters. -/
def matchesLetter (l c : Char) : Bool := lowerChar c = l || (l = 's' && c = '\u017F')

/-- The rest of `t` behind `word`, compared without case. -/
def dropWordFold? : Text → Text → Option Text
  | [], t => some t
  | _ :: _, [] => none
  | l :: word, c :: t => if matchesLetter l c then dropWordFold? word t else none

/-- The rest of `t` behind `word`. -/
def dropWord? : Text → Text → Option Text
  | [], t => some t
  | _ :: _, [] => none
  | l :: word, c :: t => if l = c then dropWord? word t else none

def trimStart (t : Text) : Text := t.dropWhile isBlank

def trimEnd (t : Text) : Text := t.dropEndWhile isBlank

def trim (t : Text) : Text := t.trimStart.trimEnd

/-- Only white space. -/
def isBlankText (t : Text) : Bool := t.all isBlank

/-- Maximal runs without white space. -/
def words (t : Text) : List Text := (t.splitWhere isBlank).filter (!·.isEmpty)

end PageLint.Text
