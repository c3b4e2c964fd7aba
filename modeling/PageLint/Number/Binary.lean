/-!
Binary numbers of double precision. They are exact values here: a mantissa of at most 53 bits times
a power of two. Every operation rounds its exact result to the nearest such number, and a tie to the
even one.
-/
namespace PageLint

/-- A nonnegative number, `mantissa` times two to the power of `exponent`. -/
structure Binary where
  mantissa : Nat
  exponent : Int
  deriving DecidableEq, Repr

namespace Binary

/-- The quotient rounded to the nearest integer, a tie to the even one. -/
def divideEven (n d : Nat) : Nat :=
  let q := n / d
  let r := n % d
  if 2 * r < d || (2 * r = d && q % 2 = 0) then q else q + 1

/-- A fraction divided by two to the power of `e`. -/
def shift (n d : Nat) (e : Int) : Nat × Nat :=
  if e < 0 then (n * Nat.pow 2 (-e).toNat, d) else (n, d * Nat.pow 2 e.toNat)

/-- The exponent at which a fraction has a mantissa of 53 bits, or the least one. -/
def exponentOf (n d : Nat) : Int :=
  let e := max (-1074) ((n.log2 : Int) - d.log2 - 53)
  let (a, b) := shift n d e
  if a / b < Nat.pow 2 53 then e else e + 1

/-- The number nearest to a fraction. -/
def ofRatio (n d : Nat) : Binary :=
  let e := exponentOf n d
  let (a, b) := shift n d e
  let mantissa := divideEven a b
  if mantissa < Nat.pow 2 53 then ⟨mantissa, e⟩ else ⟨mantissa / 2, e + 1⟩

def ofNat (n : Nat) : Binary := ofRatio n 1

/-- The number as a fraction. -/
def ratio (x : Binary) : Nat × Nat :=
  if x.exponent < 0 then (x.mantissa, Nat.pow 2 (-x.exponent).toNat)
  else (x.mantissa * Nat.pow 2 x.exponent.toNat, 1)

def add (x y : Binary) : Binary :=
  let (a, b) := x.ratio
  let (c, d) := y.ratio
  ofRatio (a * d + c * b) (b * d)

def mul (x y : Binary) : Binary :=
  let (a, b) := x.ratio
  let (c, d) := y.ratio
  ofRatio (a * c) (b * d)

def div (x y : Binary) : Binary :=
  let (a, b) := x.ratio
  let (c, d) := y.ratio
  ofRatio (a * d) (b * c)

/-- Too great for double precision. -/
def isInfinite (x : Binary) : Bool :=
  let (a, b) := x.ratio
  b * Nat.pow 2 1024 ≤ a

/-! ## In decimal -/

/-- The nearest multiple of a hundredth, a tie to the even one, with two places. -/
def twoPlaces (x : Binary) : String :=
  let (a, b) := x.ratio
  let hundredths := divideEven (a * 100) b
  let places := hundredths % 100
  toString (hundredths / 100) ++ "." ++ (if places < 10 then "0" else "") ++ toString places

end Binary

end PageLint
