import AssetBroker.Binary64.Rounding
import AssetBroker.Binary64.Shortest
import AssetBroker.Dictionary

/-! Property values: a closed choice of four types that are never coerced into
one another. Agreement of values is numeric on floats, so a NaN does not agree
even with itself; plain equality keeps every word apart. -/
namespace AssetBroker

inductive Value where
  | boolean (b : Bool)
  | integer (n : Int64)
  | float (x : Binary64)
  | text (s : String)
deriving DecidableEq

/-- Values by name, as managers describe themselves and their settings. -/
abbrev InfoDictionary := Dictionary Value

/-- Replacement terms by host term. -/
abbrev Terminology := Dictionary String

namespace Value

/-- Values of different types never agree. -/
def agrees : Value → Value → Bool
  | boolean a, boolean b => a == b
  | integer a, integer b => a == b
  | float a, float b => a.same b
  | text a, text b => a == b
  | _, _ => false

instance : BEq Value := ⟨agrees⟩

def typeName : Value → String
  | boolean _ => "Bool"
  | integer _ => "Int"
  | float _ => "Float"
  | text _ => "String"

def boolean? : Value → Option Bool
  | boolean b => some b
  | _ => none

def integer? : Value → Option Int64
  | integer n => some n
  | _ => none

def float? : Value → Option Binary64
  | float x => some x
  | _ => none

def text? : Value → Option String
  | text s => some s
  | _ => none

/-- The value as it is displayed: text stands for itself, without quotes. -/
def display : Value → String
  | boolean b => if b then "true" else "false"
  | integer n => toString n.toInt
  | float x => x.text
  | text s => s

/-- Every 32-bit integer is a value of the one integer type. -/
def ofInt32 (n : Int32) : Value := integer n.toInt64

/-- A binary32 word as a value of the one float type, exactly. -/
def ofBinary32 (word : UInt32) : Value := float (Binary64.ofBinary32 word)

end Value
end AssetBroker
