/-! The upper end of the range of double-precision numbers, in exact arithmetic on natural numbers. -/

namespace VirtualDisplay.Double

/-- The least number that rounds past the largest double: half a step above it, a tie that goes to
the even neighbour. -/
def limit : Nat := Nat.pow 2 1024 - Nat.pow 2 970

/-- Rounds to 53 significant bits, ties to even. -/
def round (n : Nat) : Nat :=
  let unit := Nat.pow 2 (n.log2 + 1 - 53)
  let q := n / unit
  let r := n % unit
  (if unit < 2 * r ∨ (unit = 2 * r ∧ q % 2 = 1) then q + 1 else q) * unit

/-- Whether `significand * 10 ^ exponent` rounds past the largest double. Powers of ten far outside
the range are told by their size alone. -/
def overflows (significand : Nat) (exponent : Int) : Bool :=
  let top : Int := exponent + (Nat.toDigits 10 significand).length
  if significand = 0 ∨ top < 300 then false
  else if 310 < top then true
  else if 0 ≤ exponent then limit ≤ significand * Nat.pow 10 exponent.toNat
  else limit * Nat.pow 10 (-exponent).toNat ≤ significand

end VirtualDisplay.Double
