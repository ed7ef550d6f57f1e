import AssetBroker.Bridge.HandleTable

/-! Two parties holding objects: a host that owns objects by name, and a handle
table that holds one reference for every live handle. Each object has a count of
the references held to it, raised when a reference is taken and lowered when one
is given up, and it is alive while the count is above zero. -/
namespace AssetBroker.Bridge

/-- How many references are held to each object, by identity. Identities are given
out in order. -/
structure ReferenceCounts where
  counts : List Nat

namespace ReferenceCounts

def empty : ReferenceCounts := ⟨[]⟩

/-- The identity of the next object. -/
def fresh (c : ReferenceCounts) : Nat := c.counts.length

/-- A new object that nobody holds yet. -/
def grow (c : ReferenceCounts) : ReferenceCounts := ⟨c.counts ++ [0]⟩

def retain (c : ReferenceCounts) (identity : Nat) : ReferenceCounts :=
  ⟨c.counts.modify identity (· + 1)⟩

def drop (c : ReferenceCounts) (identity : Nat) : ReferenceCounts :=
  ⟨c.counts.modify identity (· - 1)⟩

def dropIfAny (c : ReferenceCounts) : Option Nat → ReferenceCounts
  | some identity => c.drop identity
  | none => c

def isAlive (c : ReferenceCounts) (identity : Nat) : Bool := (c.counts[identity]?).any (0 < ·)

end ReferenceCounts

structure Custody (κ : Type) [Catalogue κ] where
  table : HandleTable κ
  /-- What the host owns, by name. -/
  owned : Dictionary (AnyObject κ)
  /-- Every name that the host gave to an object, the latest first. -/
  given : List (String × Nat)
  references : ReferenceCounts

namespace Custody

variable {κ : Type} [Catalogue κ]

def empty : Custody κ := ⟨.empty, .empty, [], .empty⟩

/-- The names ever given to an object, in ascending order. -/
def namesOf (c : Custody κ) (identity : Nat) : List String :=
  (NameSet.ofList ((c.given.filter fun entry => entry.2 == identity).map Prod.fst)).names

/-- Gives up the host's reference under a name. -/
def disown (c : Custody κ) (name : String) : Custody κ :=
  { c with
    owned := c.owned.erase name
    references := c.references.dropIfAny ((c.owned.get? name).map (·.2.identity)) }

/-- The host owns an object under a name, in place of what it owned there. -/
def own (c : Custody κ) (name : String) (object : AnyObject κ) : Custody κ :=
  { c.disown name with
    owned := c.owned.insert name object
    given := (name, object.2.identity) :: c.given }

/-- A new object, owned by the host. -/
def create (c : Custody κ) (name : String) (kind : κ) (content : Catalogue.Content kind) :
    Custody κ :=
  let object : Object kind := ⟨c.references.fresh, content⟩
  { c with references := c.references.grow.retain object.identity }.own name ⟨kind, object⟩

/-- Hands an object to the table, which takes a reference of its own. A handle whose
number has come round again gives up the object it stood for. -/
def handOver (c : Custody κ) (object : Option (AnyObject κ)) :
    Logged (Except BridgeError Handle × Custody κ) := do
  let (result, table) ← c.table.issue object
  let references := match object with
    | none => c.references
    | some object => (c.references.retain object.2.identity).dropIfAny
        ((c.table.find? c.table.upcoming).map (·.2.identity))
  return (result, { c with table, references })

/-- Takes an object back. The host has a reference to it afterwards, which it owns
under a name or gives up again; what is taken comes with the names that the object
had before. -/
def takeBack [DecidableEq κ] (c : Custody κ) (wanted : κ) (handle : Option Handle)
    (name : Option String) : Except BridgeError (Object wanted × List String) × Custody κ :=
  let found := (handle.bind c.table.find?).map (·.2.identity)
  let taken := match found with
    | some identity => { c with references := c.references.retain identity }
    | none => c
  match c.table.fetch wanted handle, name with
  | .ok object, some name =>
    (.ok (object, c.namesOf object.identity), taken.own name ⟨wanted, object⟩)
  | .ok object, none =>
    (.ok (object, c.namesOf object.identity),
      { taken with references := taken.references.drop object.identity })
  | .error fault, _ =>
    (.error fault, { taken with references := taken.references.dropIfAny found })

/-- Releases a handle, and with it the table's reference. -/
def release (c : Custody κ) (handle : Handle) : Logged (Except BridgeError Unit × Custody κ) := do
  let (result, table) ← c.table.release handle
  let references := c.references.dropIfAny ((c.table.find? handle).map (·.2.identity))
  return (result, { c with table, references })

/-- Whether the object that had a name last is still held by anyone. -/
def isAlive (c : Custody κ) (name : String) : Bool :=
  (c.given.lookup name).any c.references.isAlive

end Custody
end AssetBroker.Bridge
