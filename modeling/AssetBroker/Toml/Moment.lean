import AssetBroker.Text.Digits
import AssetBroker.Toml.Node

/-! Dates and times of TOML: a date, a time of day, or both with an optional offset.
Each reader gives the normalised text of what it reads: a capital T between date and
time, at most nine decimals of a second without zeros at the end, and a capital Z or a
signed offset. -/
namespace AssetBroker.Toml

open Text (padded valueIn)

/-- Exactly so many decimal digits, as a number of the given range. -/
def readFixed? (width least most : Nat) (s : List Char) : Option (Nat × List Char) :=
  let digits := s.take width
  let n := valueIn 10 0 digits
  if digits.length = width ∧ digits.all Char.isDigit ∧ least ≤ n ∧ n ≤ most then
    some (n, s.drop width)
  else none

def readMark? (mark : Char) : List Char → Option (List Char)
  | c :: rest => if c = mark then some rest else none
  | [] => none

def isLeap (year : Nat) : Bool := year % 4 == 0 && (year % 100 != 0 || year % 400 == 0)

def daysIn (year month : Nat) : Nat :=
  if month = 2 then if isLeap year then 29 else 28
  else if month = 4 ∨ month = 6 ∨ month = 9 ∨ month = 11 then 30
  else 31

def readDate? (s : List Char) : Option (String × List Char) := do
  let (year, s) ← readFixed? 4 0 9999 s
  let (month, s) ← readFixed? 2 1 12 (← readMark? '-' s)
  let (day, s) ← readFixed? 2 1 (daysIn year month) (← readMark? '-' s)
  return (padded 4 year ++ "-" ++ padded 2 month ++ "-" ++ padded 2 day, s)

/-- Decimals of a second as text, with their point. -/
def decimals (digits : List Char) : String :=
  let kept := ((digits.take 9).reverse.dropWhile (· == '0')).reverse
  if kept = [] then "" else String.ofList ('.' :: kept)

def readTime? (s : List Char) : Option (String × List Char) := do
  let (hour, s) ← readFixed? 2 0 23 s
  let (minute, s) ← readFixed? 2 0 59 (← readMark? ':' s)
  let (second, s) ← readFixed? 2 0 60 (← readMark? ':' s)
  let text := padded 2 hour ++ ":" ++ padded 2 minute ++ ":" ++ padded 2 second
  match s with
  | '.' :: rest =>
    let digits := rest.takeWhile Char.isDigit
    if digits = [] then return (text, s)
    else return (text ++ decimals digits, rest.dropWhile Char.isDigit)
  | s => return (text, s)

/-- An offset of no minutes has a plus sign. -/
def readOffset? : List Char → Option (String × List Char)
  | 'Z' :: rest => some ("Z", rest)
  | 'z' :: rest => some ("Z", rest)
  | sign :: rest => do
    if sign ≠ '+' ∧ sign ≠ '-' then none
    let (hour, rest) ← readFixed? 2 0 23 rest
    let (minute, rest) ← readFixed? 2 0 59 (← readMark? ':' rest)
    let shown := if sign = '-' ∧ 0 < hour + minute then "-" else "+"
    return (shown ++ padded 2 hour ++ ":" ++ padded 2 minute, rest)
  | [] => none

/-- The time behind a date, if there is one. -/
def readTimeOfDate? : List Char → Option (String × List Char)
  | mark :: rest => do
    if mark ≠ 'T' ∧ mark ≠ 't' ∧ mark ≠ ' ' then none
    let (time, rest) ← readTime? rest
    match readOffset? rest with
    | some (offset, rest) => return ("T" ++ time ++ offset, rest)
    | none => return ("T" ++ time, rest)
  | [] => none

def readMoment? (s : List Char) : Option (Node × List Char) :=
  match readDate? s with
  | some (date, rest) =>
    match readTimeOfDate? rest with
    | some (time, rest) => some (.moment (date ++ time), rest)
    | none => some (.moment date, rest)
  | none => (readTime? s).map fun (time, rest) => (.moment time, rest)

end AssetBroker.Toml
