import AssetBroker.Binary64

/-! The shortest decimal that reads back as a given binary64, and its positional
text. A decimal reads back when it lies in the interval of magnitudes that round
to the number, ends included iff the significand is even. Grids of 1, 2, … 17
digits are tried in turn at the number's two neighbours, in exact arithmetic. -/
namespace AssetBroker

/-- The magnitude `digits * 10 ^ exponent`. -/
structure Decimal where
  digits : Nat
  exponent : Int
deriving DecidableEq

namespace Decimal

/-- Moves factors of ten from the digits to the exponent, at most `fuel` of them. -/
def trim : Nat → Decimal → Decimal
  | 0, d => d
  | fuel + 1, d =>
    if d.digits ≠ 0 ∧ d.digits % 10 = 0 then trim fuel ⟨d.digits / 10, d.exponent + 1⟩ else d

/-- Positional text: no exponent, no point in a whole number, and a zero before
a leading point. -/
def positional (d : Decimal) : String :=
  let digits := Nat.toDigits 10 d.digits
  if 0 ≤ d.exponent then
    String.ofList (digits ++ List.replicate d.exponent.toNat '0')
  else
    let places := (-d.exponent).toNat
    if places < digits.length then
      String.ofList (digits.take (digits.length - places) ++
        '.' :: digits.drop (digits.length - places))
    else
      String.ofList ('0' :: '.' :: (List.replicate (places - digits.length) '0' ++ digits))

end Decimal

namespace Binary64

/-- The magnitudes that round to a number, in quarters of its last place: the
interval from `lower` to `upper` around `centre`, closed if `closed`. One such
quarter is `numerator / denominator`. -/
structure Neighbourhood where
  lower : Nat
  centre : Nat
  upper : Nat
  closed : Bool
  numerator : Nat
  denominator : Nat

/-- Below a power of two the numbers lie twice as dense, except at the bottom of
the range. -/
def neighbourhood (x : Binary64) : Neighbourhood where
  lower := 4 * x.significand - if x.fraction = 0 ∧ 1 < x.exponent then 1 else 2
  centre := 4 * x.significand
  upper := 4 * x.significand + 2
  closed := x.significand % 2 == 0
  numerator := Nat.pow 2 (x.binaryExponent - 1077)
  denominator := Nat.pow 2 (1077 - x.binaryExponent)

/-- Decimal exponent of the leading digit of `numerator / denominator`. -/
def leadingExponent (numerator denominator : Nat) : Int :=
  (Nat.toDigits 10 (numerator * Nat.pow 10 350 / denominator)).length - 351

/-- A point of the grid of multiples of `10 ^ exponent` that reads back: the
neighbour below or above, the nearer of two, the one above on a tie. -/
def Neighbourhood.onGrid? (n : Neighbourhood) (exponent : Int) : Option Decimal :=
  let unit := Nat.pow 10 exponent.toNat * n.denominator
  let quarter := n.numerator * Nat.pow 10 (-exponent).toNat
  let centre := n.centre * quarter
  let readsBack (digits : Nat) : Bool :=
    let point := digits * unit
    if n.closed then decide (n.lower * quarter ≤ point ∧ point ≤ n.upper * quarter)
    else decide (n.lower * quarter < point ∧ point < n.upper * quarter)
  let below := centre / unit
  let down := readsBack below
  let up := readsBack (below + 1)
  if up && (!down || decide ((below + 1) * unit - centre ≤ centre - below * unit)) then
    some ⟨below + 1, exponent⟩
  else if down then some ⟨below, exponent⟩
  else none

/-- The shortest decimal that reads back as a finite number's magnitude. -/
def shortest (x : Binary64) : Decimal :=
  if x.significand = 0 then ⟨0, 0⟩
  else
    let n := x.neighbourhood
    let leading := leadingExponent (n.centre * n.numerator) n.denominator
    let grids := (List.range 17).map fun (step : Nat) => leading - step
    ((grids.findSome? n.onGrid?).getD ⟨0, 0⟩).trim 17

/-- The number as text: a sign, then the shortest positional decimal. -/
def text (x : Binary64) : String :=
  if x.isNaN then "NaN"
  else
    let magnitude := if x.isFinite then x.shortest.positional else "inf"
    if x.negative then "-" ++ magnitude else magnitude

end Binary64
end AssetBroker
