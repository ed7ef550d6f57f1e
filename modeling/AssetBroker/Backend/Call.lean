import AssetBroker.Context
import AssetBroker.Operation

/-! What is asked of a manager's implementation, the backend, and the form of its
answers. A backend reports on the elements of a batch one by one, in any order it
likes and as often as it likes, before it ends well or with an error of the whole
batch; nothing holds it to one report per element. -/
namespace AssetBroker

/-- The types that belong to those who implement managers. -/
structure Vendor where
  /-- What a backend is made by. -/
  Constructor : Type
  Backend : Type
  /-- What a backend keeps for related calls. -/
  State : Type
  /-- A cursor over the pages of an answer. -/
  Pager : Type

structure Identity where
  identifier : String
  displayName : String
deriving DecidableEq

/-- What came of one element of a batch. -/
abbrev Outcome (α : Type) := Except ElementError α

structure Report (α : Type) where
  index : Nat
  outcome : Outcome α

/-- Everything a backend reported on a batch and how it ended, each with the events of
making it. -/
structure Run (α : Type) where
  reports : List (Logged (Report α))
  ending : Logged (Except Error Unit)

/-- The questions to a backend. -/
inductive Call (State : Type) where
  | info
  | settings
  | setUp (settings : InfoDictionary)
  | hasCapability (capability : Capability)
  | updateTerminology (terms : Terminology)
  | flushCaches
  | managementPolicy (traitSets : List TraitSet) (access : PolicyAccess)
      (context : Context State)
  | createState
  | createChildState (parent : State)
  | persistenceToken (state : State)
  | stateFromToken (token : String)
  | isEntityReference (text : String)
  | entities {op : Operation} (request : Request op) (context : Context State)

namespace Call

variable {V : Vendor}

/-- The answers to a question. Only some of the questions can fail. -/
def Answer (V : Vendor) : Call V.State → Type
  | info => InfoDictionary
  | settings => Except Error InfoDictionary
  | setUp _ => Except Error Unit
  | hasCapability _ => Bool
  | updateTerminology _ => Except Error Terminology
  | flushCaches => Except Error Unit
  | managementPolicy .. => Except Error (List TraitsData)
  | createState => Except Error V.State
  | createChildState _ => Except Error V.State
  | persistenceToken _ => Except Error String
  | stateFromToken _ => Except Error V.State
  | isEntityReference _ => Bool
  | @entities _ op _ _ => Run (op.Payload V.Pager)

/-- The name of the method that a question is put by. -/
def name {State : Type} : Call State → String
  | info => "info"
  | settings => "settings"
  | setUp _ => "initialize"
  | hasCapability _ => "has_capability"
  | updateTerminology _ => "update_terminology"
  | flushCaches => "flush_caches"
  | managementPolicy .. => "management_policy"
  | createState => "create_state"
  | createChildState _ => "create_child_state"
  | persistenceToken _ => "persistence_token_for_state"
  | stateFromToken _ => "state_from_persistence_token"
  | isEntityReference _ => "is_entity_reference_string"
  | @entities _ op _ _ => op.name

/-- The error of a method that the backend leaves out. -/
def notImplemented (method : String) (capability : Capability) : Error :=
  .notImplemented ("The '" ++ method ++ "' method has not been implemented by the manager. " ++
    "Check manager capability for " ++ capability.name ++ " by calling \x60has_capability\x60.")

/-- The answer of a backend that leaves the method out. Methods that every backend must
have give none. -/
def default? (question : Call V.State) : Option (question.Answer V) :=
  match question with
  | info => some Dictionary.empty
  | settings => some (Except.ok Dictionary.empty)
  | flushCaches => some (Except.ok ())
  | updateTerminology _ =>
    some (Except.error (notImplemented question.name .customTerminology))
  | createState | createChildState _ | stateFromToken _ =>
    some (Except.error (notImplemented question.name .statefulContexts))
  | persistenceToken _ => some (Except.error (notImplemented question.name .statefulContexts))
  | @entities _ op _ _ =>
    if op.capability.isRequired then none
    else some ⟨[], pure (.error (notImplemented op.name op.capability))⟩
  | setUp _ | hasCapability _ | managementPolicy .. | isEntityReference _ => none

end Call

/-- The questions to a pager. -/
inductive PagerCall where
  /-- Whether another page follows the current one. -/
  | hasNext
  /-- The current page, empty once there are no more. -/
  | get
  | advance
deriving DecidableEq

def PagerCall.Answer : PagerCall → Type
  | hasNext => Except Error Bool
  | get => Except Error (List EntityReference)
  | advance => Except Error Unit

end AssetBroker
