import AssetBroker.Error

/-! Handles: numbers that stand for objects towards a party that cannot hold the
objects themselves, and the ways in which a conversion between the two fails. -/
namespace AssetBroker.Bridge

structure Handle where
  raw : UInt64
deriving DecidableEq

namespace Handle

/-- Zero is the null handle, which stands for no object. -/
def ofRaw? (raw : UInt64) : Option Handle := if raw = 0 then none else some ⟨raw⟩

def display (handle : Handle) : String := "handle#" ++ toString handle.raw

end Handle

inductive BridgeError where
  | nullObject
  | nullHandle
  | unknownHandle (handle : Handle)
  /-- The handle stands for an object of another type than the named one. -/
  | typeMismatch (expected : String)
deriving DecidableEq

namespace BridgeError

def message : BridgeError → String
  | nullObject => "Attempting to convert a null object to a foreign handle"
  | nullHandle => "Attempting to convert a null foreign handle to an object"
  | unknownHandle handle => "Unknown foreign handle: " ++ handle.display
  | typeMismatch expected =>
    "Foreign handle does not refer to an object of type '" ++ expected ++ "'"

/-- Every failed conversion counts as refused input. -/
def toError (fault : BridgeError) : Error := .inputValidation fault.message

end BridgeError
end AssetBroker.Bridge
