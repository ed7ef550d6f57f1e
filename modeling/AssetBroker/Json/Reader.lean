import AssetBroker.Json.Document
import AssetBroker.Text.Digits

/-! Strict JSON text. Each reader takes the characters ahead of it and, where they
start with what it reads, gives that and the characters behind it. -/
namespace AssetBroker.Json

open Text (hexValue? valueIn readWord?)

def isBlank (c : Char) : Bool := c == ' ' || c == '\n' || c == '\t' || c == '\r'

def skipBlank (s : List Char) : List Char := s.dropWhile isBlank

/-- At least one digit, then the rest. -/
def readDigits? (s : List Char) : Option (List Char × List Char) :=
  match s.takeWhile Char.isDigit with
  | [] => none
  | digits => some (digits, s.dropWhile Char.isDigit)

/-- The digits before a point: a zero alone, or digits that do not start with one. -/
def readWhole? : List Char → Option (List Char × List Char)
  | '0' :: rest => some (['0'], rest)
  | s => readDigits? s

/-- The digits behind a point, none if there is no point. -/
def readFraction? : List Char → Option (List Char × List Char)
  | '.' :: rest => readDigits? rest
  | s => some ([], s)

/-- A signed exponent, absent if no exponent is written. -/
def readExponent? : List Char → Option (Option Int × List Char)
  | c :: rest =>
    if c = 'e' ∨ c = 'E' then
      match rest with
      | '-' :: rest => (readDigits? rest).map fun (digits, rest) =>
          (some (-(valueIn 10 0 digits : Nat)), rest)
      | '+' :: rest => (readDigits? rest).map fun (digits, rest) =>
          (some (valueIn 10 0 digits : Nat), rest)
      | rest => (readDigits? rest).map fun (digits, rest) =>
          (some (valueIn 10 0 digits : Nat), rest)
    else some (none, c :: rest)
  | [] => some (none, [])

/-- The number written by these digits. -/
def Number.ofLiteral (negative : Bool) (whole fraction : List Char) (exponent : Option Int) :
    Number :=
  let digits := valueIn 10 (valueIn 10 0 whole) fraction
  if fraction = [] ∧ exponent = none ∧ ¬(negative ∧ digits = 0) then
    .integer (if negative then -digits else digits)
  else
    match Binary64.ofDecimal? negative digits (exponent.getD 0 - fraction.length) with
    | some x => .real x
    | none => .tooLarge

def readUnsigned? (negative : Bool) (s : List Char) : Option (Number × List Char) := do
  let (whole, s) ← readWhole? s
  let (fraction, s) ← readFraction? s
  let (exponent, s) ← readExponent? s
  return (.ofLiteral negative whole fraction exponent, s)

def readNumber? : List Char → Option (Number × List Char)
  | '-' :: rest => readUnsigned? true rest
  | s => readUnsigned? false s

def escaped? : Char → Option Char
  | '"' => some '"'
  | '\\' => some '\\'
  | '/' => some '/'
  | 'b' => some '\x08'
  | 'f' => some '\x0c'
  | 'n' => some '\n'
  | 'r' => some '\r'
  | 't' => some '\t'
  | _ => none

/-- The code points and surrogate halves of a string literal, behind its opening
quote. -/
def readUnits? : List Char → Option (List Nat × List Char)
  | '"' :: rest => some ([], rest)
  | '\\' :: 'u' :: a :: b :: c :: d :: rest => do
    let unit := ((← hexValue? a) * 16 + (← hexValue? b)) * 256 +
      (← hexValue? c) * 16 + (← hexValue? d)
    let (units, rest) ← readUnits? rest
    return (unit :: units, rest)
  | '\\' :: c :: rest => do
    let c ← escaped? c
    let (units, rest) ← readUnits? rest
    return (c.toNat :: units, rest)
  | c :: rest => do
    if c.toNat < 0x20 ∨ c = '\\' then none
    let (units, rest) ← readUnits? rest
    return (c.toNat :: units, rest)
  | [] => none

/-- Joins surrogate pairs; a half on its own has no character. -/
def joinPairs? : List Nat → Option (List Char)
  | [] => some []
  | [unit] => if 0xD800 ≤ unit ∧ unit < 0xE000 then none else some [Char.ofNat unit]
  | high :: low :: rest =>
    if 0xD800 ≤ high ∧ high < 0xDC00 ∧ 0xDC00 ≤ low ∧ low < 0xE000 then
      (joinPairs? rest).map
        (Char.ofNat (0x10000 + (high - 0xD800) * 0x400 + (low - 0xDC00)) :: ·)
    else if 0xD800 ≤ high ∧ high < 0xE000 then none
    else (joinPairs? (low :: rest)).map (Char.ofNat high :: ·)

def readText? (s : List Char) : Option (Option String × List Char) :=
  (readUnits? s).map fun (units, rest) => ((joinPairs? units).map String.ofList, rest)

mutual

/-- One value, with blanks before it, nested no deeper than `depth`. -/
def readValue? : Nat → List Char → Option (Document × List Char)
  | 0, _ => none
  | depth + 1, s =>
    match skipBlank s with
    | '"' :: rest => (readText? rest).map fun (content, rest) => (.text content, rest)
    | '[' :: rest =>
      match skipBlank rest with
      | ']' :: rest => some (.array [], rest)
      | rest => (readItems? depth rest).map fun (items, rest) => (.array items, rest)
    | '\x7b' :: rest =>
      match skipBlank rest with
      | '\x7d' :: rest => some (.object [], rest)
      | rest => (readMembers? depth rest).map fun (members, rest) => (.object members, rest)
    | 't' :: rest => (readWord? ['r', 'u', 'e'] rest).map fun rest => (.boolean true, rest)
    | 'f' :: rest =>
      (readWord? ['a', 'l', 's', 'e'] rest).map fun rest => (.boolean false, rest)
    | 'n' :: rest => (readWord? ['u', 'l', 'l'] rest).map fun rest => (.null, rest)
    | s => (readNumber? s).map fun (n, rest) => (.number n, rest)

/-- The items of an array behind its opening bracket, at least one. -/
def readItems? : Nat → List Char → Option (List Document × List Char)
  | 0, _ => none
  | fuel + 1, s => do
    let (item, s) ← readValue? fuel s
    match skipBlank s with
    | ',' :: rest =>
      let (items, rest) ← readItems? fuel rest
      return (item :: items, rest)
    | ']' :: rest => return ([item], rest)
    | _ => none

/-- The members of an object behind its opening brace, at least one. -/
def readMembers? : Nat → List Char → Option (List (Option String × Document) × List Char)
  | 0, _ => none
  | fuel + 1, s => do
    let '"' :: s := skipBlank s | none
    let (key, s) ← readText? s
    let ':' :: s := skipBlank s | none
    let (value, s) ← readValue? fuel s
    match skipBlank s with
    | ',' :: rest =>
      let (members, rest) ← readMembers? fuel rest
      return ((key, value) :: members, rest)
    | '\x7d' :: rest => return ([(key, value)], rest)
    | _ => none

end

/-- The value that a text starts with, and what follows it. Every step of the
recursion takes a character off the text, so its length bounds the nesting. -/
def read? (text : String) : Option (Document × List Char) :=
  readValue? (2 * text.length + 2) text.toList

end AssetBroker.Json
