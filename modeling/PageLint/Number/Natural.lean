import PageLint.Json.Read

/-! Natural numbers of 64 bits, as people write them. -/
namespace PageLint

/-- The number that digits of a base of at most sixteen give. A plus sign may stand in front. -/
def natural? (base : Nat) (t : Text) : Option Nat := do
  let digits := if t.head? = some '+' then t.drop 1 else t
  if digits.isEmpty then none
  let n ← digits.foldlM (fun n c => do
    let d ← Json.hexValue? c
    if d < base then some (n * base + d) else none) 0
  if n < Nat.pow 2 64 then some n else none

end PageLint
