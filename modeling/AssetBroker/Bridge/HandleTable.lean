import AssetBroker.Bridge.Handle

/-! The table of live handles. Each handle stands for one object, known by its
identity, and is issued once: a released handle stays unknown while later handles
are counted on. A failed conversion leaves the table as it was. -/
namespace AssetBroker.Bridge

/-- The types of object that a table tells apart: a tag for each type, the objects
of that type and the name the type is reported by. -/
class Catalogue (κ : Type) where
  Content : κ → Type
  typeName : κ → String

/-- An object of a given type. Two objects of equal content are told apart by
their identities. -/
structure Object {κ : Type} [Catalogue κ] (kind : κ) where
  identity : Nat
  content : Catalogue.Content kind

/-- An object of any type of the catalogue. -/
abbrev AnyObject (κ : Type) [Catalogue κ] := (kind : κ) × Object kind

structure HandleTable (κ : Type) [Catalogue κ] where
  live : List (Handle × AnyObject κ)
  /-- The number of the handle to be issued next. -/
  next : UInt64

namespace HandleTable

variable {κ : Type} [Catalogue κ]

def empty : HandleTable κ := ⟨[], 1⟩

def find? (table : HandleTable κ) (handle : Handle) : Option (AnyObject κ) :=
  table.live.lookup handle

def size (table : HandleTable κ) : Nat := table.live.length

def isEmpty (table : HandleTable κ) : Bool := table.live.isEmpty

def display (table : HandleTable κ) : String :=
  "HandleTable \x7b live: " ++ toString table.size ++ " \x7d"

/-- The live handles other than the given one. -/
def others (table : HandleTable κ) (handle : Handle) : List (Handle × AnyObject κ) :=
  table.live.filter fun entry => entry.1 != handle

/-- The handle that stands for the next object. -/
def upcoming (table : HandleTable κ) : Handle := ⟨table.next⟩

/-- Hands an object over, unless it is null, and counts on. -/
def issue (table : HandleTable κ) :
    Option (AnyObject κ) → Logged (Except BridgeError Handle × HandleTable κ)
  | none => ⟨(.error .nullObject, table), []⟩
  | some object =>
    ⟨(.ok table.upcoming,
        ⟨(table.upcoming, object) :: table.others table.upcoming, table.next + 1⟩),
      [.handleIssued table.upcoming.display (Catalogue.typeName object.1)]⟩

/-- The object of the wanted type that a handle stands for. -/
def fetch [DecidableEq κ] (table : HandleTable κ) (wanted : κ) :
    Option Handle → Except BridgeError (Object wanted)
  | none => .error .nullHandle
  | some handle =>
    match table.find? handle with
    | none => .error (.unknownHandle handle)
    | some ⟨kind, object⟩ =>
      if same : kind = wanted then .ok (same ▸ object)
      else .error (.typeMismatch (Catalogue.typeName wanted))

/-- Takes a handle out of the table. -/
def release (table : HandleTable κ) (handle : Handle) :
    Logged (Except BridgeError Unit × HandleTable κ) :=
  match table.find? handle with
  | none => ⟨(.error (.unknownHandle handle), table), []⟩
  | some _ =>
    ⟨(.ok (), ⟨table.others handle, table.next⟩), [.handleReleased handle.display]⟩

end HandleTable
end AssetBroker.Bridge
