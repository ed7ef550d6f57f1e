/-! The events that the library reports while it works. Events are values in the
order they happen; writing them anywhere is the caller's business. -/
namespace AssetBroker

inductive Level where
  | trace
  | debug
  | warn
deriving DecidableEq

def Level.name : Level → String
  | .trace => "TRACE"
  | .debug => "DEBUG"
  | .warn => "WARN"

inductive Event where
  /-- An element error arrived with a code outside the closed set. -/
  | unrecognisedCode (code : UInt32)
  /-- A manager reported on an index that its batch does not have. -/
  | strayReport (index batchLength : Nat)
  /-- A manager reported again on an element that has its outcome. -/
  | repeatedReport (index : Nat)
  /-- A manager advertised the text that its references start with. -/
  | prefixAdopted (advertised : String)
  /-- A manager advertised something other than text. -/
  | prefixNotText (typeName : String)
  | configurationLoading (path : String)
  | managerCreating (identifier : String) (settings : Nat)
  | handleIssued (handle typeName : String)
  | handleReleased (handle : String)
  | pagerReleased
deriving DecidableEq

namespace Event

def level : Event → Level
  | unrecognisedCode _ | strayReport .. | repeatedReport _ | prefixNotText _ => .warn
  | prefixAdopted _ | configurationLoading _ | managerCreating .. => .debug
  | handleIssued .. | handleReleased _ | pagerReleased => .trace

/-- The part of the library that an event belongs to. -/
def target : Event → String
  | configurationLoading _ | managerCreating .. => "assetgate::factory"
  | handleIssued .. | handleReleased _ => "assetgate::bridge"
  | pagerReleased => "assetgate::pager"
  | _ => "assetgate::manager"

def message : Event → String
  | unrecognisedCode _ => "Unrecognised batch element error code, treating as unknown"
  | strayReport .. => "Manager reported a result for an index outside the batch, ignoring"
  | repeatedReport _ =>
    "Manager reported more than one result for a batch element, ignoring"
  | prefixAdopted advertised =>
    "Entity reference prefix '" ++ advertised ++ "' provided by manager's info() dict. " ++
      "Subsequent calls to is_entity_reference_string will use this prefix " ++
      "rather than call the manager's implementation."
  | prefixNotText _ =>
    "Entity reference prefix given but is an invalid type: should be a string."
  | configurationLoading _ => "Loading default manager config"
  | managerCreating .. => "Creating default manager"
  | handleIssued .. => "Handle issued"
  | handleReleased _ => "Handle released"
  | pagerReleased => "Releasing entity reference pager"

/-- What an event says beside its message, by field. -/
def fields : Event → List (String × String)
  | unrecognisedCode code => [("code", toString code)]
  | strayReport index batchLength =>
    [("index", toString index), ("batch_len", toString batchLength)]
  | repeatedReport index => [("index", toString index)]
  | prefixAdopted advertised => [("prefix", advertised)]
  | prefixNotText typeName => [("value_type", typeName)]
  | configurationLoading path => [("path", path)]
  | managerCreating identifier settings =>
    [("identifier", identifier), ("settings", toString settings)]
  | handleIssued handle typeName => [("handle", handle), ("type_name", typeName)]
  | handleReleased handle => [("handle", handle)]
  | pagerReleased => []

end Event

/-- A result together with the events that happened on the way to it. -/
structure Logged (α : Type) where
  value : α
  events : List Event
deriving DecidableEq

namespace Logged

def pure {α : Type} (value : α) : Logged α := ⟨value, []⟩

def bind {α β : Type} (first : Logged α) (next : α → Logged β) : Logged β :=
  ⟨(next first.value).value, first.events ++ (next first.value).events⟩

instance : Monad Logged where
  pure := Logged.pure
  bind := Logged.bind

end Logged
end AssetBroker
