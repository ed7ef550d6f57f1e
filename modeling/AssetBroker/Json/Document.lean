import AssetBroker.Binary64.Rounding

/-! JSON documents as trees. Objects keep their members in order with repeats, and
integer literals are kept apart from all other numbers: whether a repeat or a
fraction matters is for the payload that is read from the tree. -/
namespace AssetBroker.Json

/-- A number literal: an integer if it is written with digits alone (and is not a
negative zero), otherwise the nearest binary64, if there is one. -/
inductive Number where
  | integer (n : Int)
  | real (x : Binary64)
  | tooLarge
deriving DecidableEq

/-- Text is absent where an escape names half of a surrogate pair: such a literal
is well formed, but no string is its content. -/
inductive Document where
  | null
  | boolean (b : Bool)
  | number (n : Number)
  | text (content : Option String)
  | array (items : List Document)
  | object (members : List (Option String × Document))

/-- The binary64 that a number denotes. -/
def Number.binary64? : Number → Option Binary64
  | .integer n => Binary64.ofInt? n
  | .real x => some x
  | .tooLarge => none

end AssetBroker.Json
