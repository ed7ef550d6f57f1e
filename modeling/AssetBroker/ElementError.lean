import AssetBroker.Event
import AssetBroker.Named

/-! What went wrong with one element of a batch: a code from a closed set and a
message. A number from outside the set is taken in as the unknown code, with the
number kept in the message, so taking in an error never fails. -/
namespace AssetBroker

inductive ErrorCode where
  | unknown
  | invalidEntityReference
  | malformedEntityReference
  | entityAccessError
  | entityResolutionError
  | invalidPreflightHint
  | invalidTraitSet
  | invalidTraitsData
deriving DecidableEq

namespace ErrorCode

instance : Named ErrorCode where
  all := [.unknown, .invalidEntityReference, .malformedEntityReference, .entityAccessError,
    .entityResolutionError, .invalidPreflightHint, .invalidTraitSet, .invalidTraitsData]
  name
    | .unknown => "unknown"
    | .invalidEntityReference => "invalidEntityReference"
    | .malformedEntityReference => "malformedEntityReference"
    | .entityAccessError => "entityAccessError"
    | .entityResolutionError => "entityResolutionError"
    | .invalidPreflightHint => "invalidPreflightHint"
    | .invalidTraitSet => "invalidTraitSet"
    | .invalidTraitsData => "invalidTraitsData"

def name (code : ErrorCode) : String := Named.name code

def number : ErrorCode → UInt32
  | unknown => 0
  | invalidEntityReference => 1
  | malformedEntityReference => 2
  | entityAccessError => 3
  | entityResolutionError => 4
  | invalidPreflightHint => 5
  | invalidTraitSet => 6
  | invalidTraitsData => 7

def ofNumber? (number : UInt32) : Option ErrorCode :=
  (Named.all : List ErrorCode).find? fun code => code.number == number

end ErrorCode

structure ElementError where
  code : ErrorCode
  message : String
deriving DecidableEq

namespace ElementError

/-- The message of an error whose number is outside the closed set. -/
def unrecognisedMessage (number : UInt32) (message : String) : String :=
  if message.isEmpty then "Unrecognised error code " ++ toString number
  else "Unrecognised error code " ++ toString number ++ ": " ++ message

/-- Takes in an error by number. -/
def ofNumber (number : UInt32) (message : String) : Logged ElementError :=
  match ErrorCode.ofNumber? number with
  | some code => ⟨⟨code, message⟩, []⟩
  | none => ⟨⟨.unknown, unrecognisedMessage number message⟩, [.unrecognisedCode number]⟩

def display (error : ElementError) : String :=
  if error.message.isEmpty then error.code.name
  else error.code.name ++ ": " ++ error.message

end ElementError
end AssetBroker
