import AssetBroker.Access
import AssetBroker.ElementError
import AssetBroker.EntityReference
import AssetBroker.TraitsData

/-! Exceptions for failed batch elements. An exception has the kind of its error
code, keeps that part of the element's context which its kind has a place for, and
carries a message of fixed layout. -/
namespace AssetBroker

/-- What the call knew about a batch element. -/
structure ErrorContext where
  entityReference : Option EntityReference := none
  access : Option Access := none
  traitSet : Option TraitSet := none
  traitsData : Option TraitsData := none
deriving DecidableEq

instance : BEq ErrorContext :=
  ⟨fun a b => a.entityReference == b.entityReference && a.access == b.access &&
    a.traitSet == b.traitSet && a.traitsData == b.traitsData⟩

/-- The kinds of exception, one per error code, each with the context it keeps. -/
inductive Evidence where
  | unknown
  | invalidEntityReference (entityReference : Option EntityReference)
  | malformedEntityReference (entityReference : Option EntityReference)
  | entityAccess (entityReference : Option EntityReference) (access : Option Access)
  | entityResolution (entityReference : Option EntityReference)
  | invalidPreflightHint (entityReference : Option EntityReference)
      (traitsData : Option TraitsData)
  | invalidTraitSet (entityReference : Option EntityReference) (traitSet : Option TraitSet)
  | invalidTraitsData (entityReference : Option EntityReference)
      (traitsData : Option TraitsData)
deriving DecidableEq

namespace Evidence

/-- Evidence agrees when it is of one kind and the kept parts agree. -/
def agrees : Evidence → Evidence → Bool
  | unknown, unknown => true
  | invalidEntityReference a, invalidEntityReference b => a == b
  | malformedEntityReference a, malformedEntityReference b => a == b
  | entityAccess a access, entityAccess b access' => a == b && access == access'
  | entityResolution a, entityResolution b => a == b
  | invalidPreflightHint a data, invalidPreflightHint b data' => a == b && data == data'
  | invalidTraitSet a traits, invalidTraitSet b traits' => a == b && traits == traits'
  | invalidTraitsData a data, invalidTraitsData b data' => a == b && data == data'
  | _, _ => false

instance : BEq Evidence := ⟨agrees⟩

def kind : Evidence → String
  | unknown => "Unknown"
  | invalidEntityReference _ => "InvalidEntityReference"
  | malformedEntityReference _ => "MalformedEntityReference"
  | entityAccess .. => "EntityAccess"
  | entityResolution _ => "EntityResolution"
  | invalidPreflightHint .. => "InvalidPreflightHint"
  | invalidTraitSet .. => "InvalidTraitSet"
  | invalidTraitsData .. => "InvalidTraitsData"

def entityReference? : Evidence → Option EntityReference
  | unknown => none
  | invalidEntityReference reference | malformedEntityReference reference
  | entityAccess reference _ | entityResolution reference
  | invalidPreflightHint reference _ | invalidTraitSet reference _
  | invalidTraitsData reference _ => reference

def access? : Evidence → Option Access
  | entityAccess _ access => access
  | _ => none

def traitSet? : Evidence → Option TraitSet
  | invalidTraitSet _ traits => traits
  | _ => none

def traitsData? : Evidence → Option TraitsData
  | invalidPreflightHint _ data | invalidTraitsData _ data => data
  | _ => none

/-- The evidence that an error of the given code keeps of a context. -/
def of (code : ErrorCode) (context : ErrorContext) : Evidence :=
  match code with
  | .unknown => unknown
  | .invalidEntityReference => invalidEntityReference context.entityReference
  | .malformedEntityReference => malformedEntityReference context.entityReference
  | .entityAccessError => entityAccess context.entityReference context.access
  | .entityResolutionError => entityResolution context.entityReference
  | .invalidPreflightHint => invalidPreflightHint context.entityReference context.traitsData
  | .invalidTraitSet => invalidTraitSet context.entityReference context.traitSet
  | .invalidTraitsData => invalidTraitsData context.entityReference context.traitsData

end Evidence

structure ElementException where
  index : Nat
  error : ElementError
  message : String
  evidence : Evidence
deriving DecidableEq

namespace ElementException

instance : BEq ElementException :=
  ⟨fun a b => a.index == b.index && a.error == b.error && a.message == b.message &&
    a.evidence == b.evidence⟩

/-- An optional part of a message, in brackets after a space. -/
def bracketed (label : String) : Option String → String
  | some content => " [" ++ label ++ "=" ++ content ++ "]"
  | none => ""

/-- The code, the error's message unless empty, and in brackets the index and
whatever access mode and entity reference are known. -/
def compose (index : Nat) (error : ElementError) (access : Option Access)
    (entityReference : Option EntityReference) : String :=
  error.code.name ++ ":" ++ (if error.message.isEmpty then "" else " " ++ error.message) ++
    bracketed "index" (some (toString index)) ++
    bracketed "access" (access.map Access.name) ++
    bracketed "entity" (entityReference.map EntityReference.text)

/-- The exception for a failed element in its context. -/
def of (index : Nat) (error : ElementError) (context : ErrorContext) : ElementException where
  index := index
  error := error
  message := compose index error context.access context.entityReference
  evidence := .of error.code context

end ElementException
end AssetBroker
