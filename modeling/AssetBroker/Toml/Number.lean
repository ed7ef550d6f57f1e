import AssetBroker.Binary64.Rounding
import AssetBroker.Text.Digits
import AssetBroker.Toml.Node

/-! Numbers of TOML. Single underscores may stand between digits. Integers must fit 64
bits; a float must not round to positive infinity, while one beyond the other end of
the range is negative infinity. -/
namespace AssetBroker.Toml

open Text (hexValue? readWord? valueIn)

/-- Digits, each of which may have an underscore before it. -/
def readDigitRun? (isDigit : Char → Bool) : List Char → Option (List Char × List Char)
  | '_' :: c :: rest =>
    if isDigit c then (readDigitRun? isDigit rest).map fun (digits, rest) => (c :: digits, rest)
    else none
  | c :: rest =>
    if isDigit c then (readDigitRun? isDigit rest).map fun (digits, rest) => (c :: digits, rest)
    else if c = '_' then none
    else some ([], c :: rest)
  | [] => some ([], [])

/-- At least one digit; zeros in front are fine. -/
def readDigits? (isDigit : Char → Bool) : List Char → Option (List Char × List Char)
  | c :: rest =>
    if isDigit c then (readDigitRun? isDigit rest).map fun (digits, rest) => (c :: digits, rest)
    else none
  | [] => none

/-- A sign, if there is one, and whether it is negative. -/
def readSign : List Char → Bool × List Char
  | '+' :: rest => (false, rest)
  | '-' :: rest => (true, rest)
  | s => (false, s)

/-- Decimal digits without zeros in front: a zero stands alone. -/
def readWhole? : List Char → Option (List Char × List Char)
  | '0' :: rest => some (['0'], rest)
  | s => readDigits? Char.isDigit s

def ofInt? (n : Int) : Option Node :=
  if Int64.minValue.toInt ≤ n ∧ n ≤ Int64.maxValue.toInt then some (.integer (Int64.ofInt n))
  else none

/-- An integer in the base of its marker, decimal without one. Only decimal integers
have signs. -/
def readInteger? (s : List Char) : Option (Node × List Char) := do
  let inBase (base : Nat) (isDigit : Char → Bool) (rest : List Char) := do
    let (digits, rest) ← readDigits? isDigit rest
    return (← ofInt? (valueIn base 0 digits), rest)
  match s with
  | '0' :: 'x' :: rest => inBase 16 (fun c => (hexValue? c).isSome) rest
  | '0' :: 'o' :: rest => inBase 8 (fun c => '0' ≤ c && c ≤ '7') rest
  | '0' :: 'b' :: rest => inBase 2 (fun c => c == '0' || c == '1') rest
  | s =>
    let (negative, s) := readSign s
    let (digits, rest) ← readWhole? s
    let n := valueIn 10 0 digits
    return (← ofInt? (if negative then -n else n), rest)

/-- A signed power of ten behind its letter. -/
def readExponent? : List Char → Option (Int × List Char)
  | c :: rest => do
    if c ≠ 'e' ∧ c ≠ 'E' then none
    let (negative, rest) := readSign rest
    let (digits, rest) ← readDigits? Char.isDigit rest
    let n := valueIn 10 0 digits
    return (if negative then -n else n, rest)
  | [] => none

/-- Digits behind a point and an exponent if one follows them, or else an exponent. -/
def readScale? : List Char → Option (List Char × Int × List Char)
  | '.' :: rest => do
    let (fraction, rest) ← readDigits? Char.isDigit rest
    match rest with
    | 'e' :: _ | 'E' :: _ =>
      let (exponent, rest) ← readExponent? rest
      return (fraction, exponent, rest)
    | _ => return (fraction, 0, rest)
  | s => (readExponent? s).map fun (exponent, rest) => ([], exponent, rest)

def ofDecimal? (negative : Bool) (digits : Nat) (exponent : Int) : Option Node :=
  match Binary64.ofDecimal? negative digits exponent with
  | some x => some (.float x)
  | none => if negative then some (.float (Binary64.infinity true)) else none

def readFloat? (s : List Char) : Option (Node × List Char) := do
  let (negative, s) := readSign s
  let (whole, s) ← readWhole? s
  let (fraction, exponent, rest) ← readScale? s
  let digits := valueIn 10 (valueIn 10 0 whole) fraction
  return (← ofDecimal? negative digits (exponent - fraction.length), rest)

/-- The floats that are words. -/
def readSpecial? (s : List Char) : Option (Node × List Char) :=
  let (negative, s) := readSign s
  match readWord? ['i', 'n', 'f'] s with
  | some rest => some (.float (Binary64.infinity negative), rest)
  | none => (readWord? ['n', 'a', 'n'] s).map fun rest => (.float .nan, rest)

end AssetBroker.Toml
