import AssetBroker.Binary64

/-! Rounding of exact magnitudes to binary64, to nearest with ties to even.
A magnitude is a quotient of naturals; decimal literals and binary32 words are
brought to that form first, so every rounding goes through `roundQuotient?`. -/
namespace AssetBroker.Binary64

/-- `numerator / denominator` rounded to a natural, ties to even. -/
def nearestEven (numerator denominator : Nat) : Nat :=
  let floor := numerator / denominator
  let twice := 2 * (numerator % denominator)
  if denominator < twice then floor + 1
  else if twice = denominator then floor + floor % 2
  else floor

/-- The quotient in units of `2 ^ (scale - 1074)`, as numerator and denominator. -/
def inUnits (numerator denominator scale : Nat) : Nat × Nat :=
  (numerator * Nat.pow 2 1074, denominator * Nat.pow 2 scale)

/-- The least scale at which the quotient has at most 53 significant bits. The
logarithms place it within one of the answer. -/
def scaleOf (numerator denominator : Nat) : Nat :=
  let estimate := Nat.log2 numerator + 1074 - (Nat.log2 denominator + 53)
  let (n, d) := inUnits numerator denominator estimate
  if n / d < 2 * fractionCount then estimate else estimate + 1

/-- The nearest binary64 of a positive denominator's quotient, `none` if that
is beyond the finite range. Adding the rounded significand to the scale's share
of the exponent field also carries a significand that rounds up to the next
binade. -/
def roundQuotient? (negative : Bool) (numerator denominator : Nat) : Option Binary64 :=
  if numerator = 0 then some (ofMagnitude negative 0)
  else
    let scale := scaleOf numerator denominator
    let (n, d) := inUnits numerator denominator scale
    let magnitude := scale * fractionCount + nearestEven n d
    if magnitude < overflow then some (ofMagnitude negative magnitude) else none

/-- The number of decimal digits of a positive natural. -/
def decimalLength (n : Nat) : Nat := (Nat.toDigits 10 n).length

/-- The nearest binary64 of `digits * 10 ^ exponent`, `none` on overflow. Orders
of magnitude beyond four hundred decide the answer by themselves, so no power
beyond that is formed from a literal's exponent. -/
def ofDecimal? (negative : Bool) (digits : Nat) (exponent : Int) : Option Binary64 :=
  let order := decimalLength digits + exponent
  if digits = 0 ∨ order < -400 then some (ofMagnitude negative 0)
  else if 400 < order then none
  else if 0 ≤ exponent then roundQuotient? negative (digits * Nat.pow 10 exponent.toNat) 1
  else roundQuotient? negative digits (Nat.pow 10 (-exponent).toNat)

def ofInt? (n : Int) : Option Binary64 := roundQuotient? (decide (n < 0)) n.natAbs 1

/-- Number of fraction patterns of a binary32 word. -/
def narrowFractionCount : Nat := 0x800000

/-- Number of binary32 words of one sign. -/
def narrowMagnitudeCount : Nat := 0x80000000

/-- The binary64 of the same value as a binary32 word; no rounding is needed. -/
def ofBinary32 (word : UInt32) : Binary64 :=
  let negative := decide (narrowMagnitudeCount ≤ word.toNat)
  let exponent := word.toNat % narrowMagnitudeCount / narrowFractionCount
  let fraction := word.toNat % narrowFractionCount
  if exponent = 255 then if fraction = 0 then infinity negative else nan
  else
    let significand := if exponent = 0 then fraction else fraction + narrowFractionCount
    let power := if exponent = 0 then 1 else exponent
    (roundQuotient? negative (significand * Nat.pow 2 power) (Nat.pow 2 150)).getD
      (infinity negative)

end AssetBroker.Binary64
