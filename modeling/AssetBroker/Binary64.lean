/-! IEEE binary64 numbers as 64-bit words, with their fields read as naturals.
Equality of words keeps signed zeros and payloads apart; `same` is the numeric
comparison, under which NaN equals nothing and the two zeros are equal. -/
namespace AssetBroker

structure Binary64 where
  bits : UInt64
deriving DecidableEq

namespace Binary64

/-- Number of fraction patterns that share one exponent field. -/
def fractionCount : Nat := 0x10000000000000

/-- Number of words of one sign. -/
def magnitudeCount : Nat := 0x8000000000000000

/-- The exponent field of infinities and NaNs. -/
def topExponent : Nat := 2047

def negative (x : Binary64) : Bool := decide (magnitudeCount ≤ x.bits.toNat)

def exponent (x : Binary64) : Nat := x.bits.toNat % magnitudeCount / fractionCount

def fraction (x : Binary64) : Nat := x.bits.toNat % fractionCount

def isFinite (x : Binary64) : Bool := x.exponent != topExponent

def isNaN (x : Binary64) : Bool := x.exponent == topExponent && x.fraction != 0

def isZero (x : Binary64) : Bool := x.bits.toNat % magnitudeCount == 0

/-- The word with the given sign whose remaining 63 bits are `magnitude`. -/
def ofMagnitude (negative : Bool) (magnitude : Nat) : Binary64 :=
  ⟨UInt64.ofNat (magnitude % magnitudeCount + if negative then magnitudeCount else 0)⟩

/-- First magnitude that is not finite. -/
def overflow : Nat := topExponent * fractionCount

def infinity (negative : Bool) : Binary64 := ofMagnitude negative overflow

/-- The quiet NaN that stands for every NaN where payloads are not kept. -/
def nan : Binary64 := ofMagnitude false (overflow + fractionCount / 2)

/-- Numeric comparison: NaN equals nothing, and the two zeros are equal. -/
def same (x y : Binary64) : Bool :=
  !x.isNaN && !y.isNaN && (x.bits == y.bits || (x.isZero && y.isZero))

/-- A finite word denotes `significand * 2 ^ (binaryExponent - 1075)`, up to its sign. -/
def significand (x : Binary64) : Nat :=
  if x.exponent = 0 then x.fraction else x.fraction + fractionCount

def binaryExponent (x : Binary64) : Nat := if x.exponent = 0 then 1 else x.exponent

end Binary64
end AssetBroker
