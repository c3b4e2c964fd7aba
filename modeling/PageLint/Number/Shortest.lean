import PageLint.Number.Binary

/-!
The shortest decimal that reads back as a binary number. The decimals that do lie in an interval
around it; of the grids of one, two and more digits the first one with a point in the interval is
taken, and on it the point that is nearer.
-/
namespace PageLint

/-- A number of `digits` times ten to the power of `exponent`. -/
structure Decimal where
  digits : Nat
  exponent : Int
  deriving DecidableEq, Repr

namespace Decimal

/-- The decimal as a fraction. -/
def ratio (x : Decimal) : Nat × Nat :=
  if x.exponent < 0 then (x.digits, Nat.pow 10 (-x.exponent).toNat)
  else (x.digits * Nat.pow 10 x.exponent.toNat, 1)

def countDigits (n : Nat) : Nat := (Nat.toDigits 10 n).length

/-- The power of ten of the first digit of a fraction that is not zero. -/
def magnitude (n d : Nat) : Int :=
  if d ≤ n then (countDigits (n / d) : Int) - 1
  else -(countDigits ((d - 1) / n) : Int)

/-- The same number without final zeros; `fuel` bounds their number. -/
def trim (fuel : Nat) (x : Decimal) : Decimal :=
  match fuel with
  | 0 => x
  | fuel + 1 =>
    if x.digits % 10 = 0 then trim fuel ⟨x.digits / 10, x.exponent + 1⟩ else x

end Decimal

namespace Binary

/-- The ends of the interval of numbers nearest to this one, in quarters of its last place. A power
of two has its lower neighbour at half the distance. -/
def quarters (x : Binary) : Nat × Nat :=
  (4 * x.mantissa - (if x.mantissa = Nat.pow 2 52 && -1074 < x.exponent then 1 else 2),
    4 * x.mantissa + 2)

/-- A decimal reads back as this number. The ends of the interval do if the mantissa is even. -/
def isReadFrom (x : Binary) (d : Decimal) : Bool :=
  let (low, high) := x.quarters
  let (a, b) := d.ratio
  let (low, unit) := ratio ⟨low, x.exponent - 2⟩
  let (high, unit') := ratio ⟨high, x.exponent - 2⟩
  if x.mantissa % 2 = 0 then low * b ≤ a * unit && a * unit' ≤ high * b
  else low * b < a * unit && a * unit' < high * b

/-- The point of the grid of multiples of ten to the power of `p` that is nearest to the number,
among its two neighbours there that read back as it. -/
def onGrid? (x : Binary) (p : Int) : Option Decimal :=
  let (n, d) := x.ratio
  let (up, down) := ratioOfPower p
  let below := n * down / (d * up)
  let lower : Decimal := ⟨below, p⟩
  let upper : Decimal := ⟨below + 1, p⟩
  let isLowerNearer := 2 * (n * down) ≤ (2 * below + 1) * (d * up)
  match x.isReadFrom lower, x.isReadFrom upper with
  | true, true => some (if isLowerNearer then lower else upper)
  | true, false => some lower
  | false, true => some upper
  | false, false => none
where
  /-- A power of ten as a fraction. -/
  ratioOfPower (p : Int) : Nat × Nat :=
    if p < 0 then (1, Nat.pow 10 (-p).toNat) else (Nat.pow 10 p.toNat, 1)

/-- The shortest decimal that reads back as the number. Seventeen digits always do. -/
def shortest (x : Binary) : Decimal :=
  let (n, d) := x.ratio
  let top := Decimal.magnitude n d
  match (List.range 17).findSome? fun (k : Nat) => x.onGrid? (top - k) with
  | some found => found.trim 20
  | none => ⟨0, 0⟩

end Binary

/-! ## As text -/

namespace Decimal

/-- The first digit, the others behind a point, and the exponent with its sign and at least two
digits. -/
def scientific (ds : List Char) (e : Int) : List Char :=
  let size := Nat.toDigits 10 e.natAbs
  ds.take 1 ++ (if ds.length = 1 then [] else '.' :: ds.drop 1) ++
    ['e', if e < 0 then '-' else '+'] ++ (if size.length < 2 then '0' :: size else size)

/-- Digits with a point behind the first `n` of them. -/
def positional (ds : List Char) (n : Int) : List Char :=
  if n ≤ 0 then ['0', '.'] ++ List.replicate (-n).toNat '0' ++ ds
  else
    let whole := ds.take n.toNat
    let rest := ds.drop n.toNat
    whole ++ List.replicate (n.toNat - whole.length) '0' ++ ['.'] ++
      if rest.isEmpty then ['0'] else rest

/-- The text of a decimal. It has a point unless it is too great or too small for one. -/
def text (x : Decimal) : List Char :=
  let ds := Nat.toDigits 10 x.digits
  let e := x.exponent + ds.length - 1
  if x.digits = 0 then "0.0".toList
  else if -5 ≤ e && e ≤ 15 then positional ds (e + 1)
  else scientific ds e

end Decimal

end PageLint
