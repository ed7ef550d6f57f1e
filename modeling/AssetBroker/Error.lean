import AssetBroker.Exception

/-! Errors of whole calls: refused input, faulty configuration, operations that a
manager leaves out, failures inside a manager, and the exception for a failed
batch element where a caller asks for exceptions. -/
namespace AssetBroker

inductive Error where
  | inputValidation (message : String)
  | configuration (message : String)
  | notImplemented (message : String)
  | unhandled (message : String)
  | unknownTrait (traitId : String)
  | batchElement (raised : ElementException)
deriving DecidableEq

namespace Error

/-- Errors agree when they are of one kind and say the same. -/
def agrees : Error → Error → Bool
  | inputValidation a, inputValidation b => a == b
  | configuration a, configuration b => a == b
  | notImplemented a, notImplemented b => a == b
  | unhandled a, unhandled b => a == b
  | unknownTrait a, unknownTrait b => a == b
  | batchElement a, batchElement b => a == b
  | _, _ => false

instance : BEq Error := ⟨agrees⟩

def message : Error → String
  | inputValidation message | configuration message | notImplemented message
  | unhandled message => message
  | unknownTrait traitId => "Unknown trait: '" ++ traitId ++ "'"
  | batchElement raised => raised.message

/-- Faulty configuration counts as refused input that came from outside. -/
def isInputValidation : Error → Bool
  | inputValidation _ | configuration _ => true
  | _ => false

def exception? : Error → Option ElementException
  | batchElement raised => some raised
  | _ => none

end Error

def UnknownTrait.toError (refusal : UnknownTrait) : Error := .unknownTrait refusal.traitId

end AssetBroker
