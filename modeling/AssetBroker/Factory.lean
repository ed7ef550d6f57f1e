import AssetBroker.Configuration
import AssetBroker.Manager

/-! The managers that a host can choose from, and the one its configuration names. A
registry holds a constructor for each identifier, the one registered last; a backend is
made anew whenever one is wanted. -/
namespace AssetBroker

structure Registry (V : Vendor) where
  constructors : Dictionary V.Constructor

/-- What an available manager says of itself. -/
structure ManagerDetails where
  identity : Identity
  info : InfoDictionary
deriving DecidableEq

namespace Registry

variable {V : Vendor}

def empty : Registry V := ⟨.empty⟩

def register (r : Registry V) (identifier : String) (constructor : V.Constructor) :
    Registry V :=
  ⟨r.constructors.insert identifier constructor⟩

/-- The registered identifiers, in ascending order. -/
def identifiers (r : Registry V) : List String := r.constructors.keys

def unknownMessage (identifier : String) : String :=
  "Could not instantiate manager '" ++ identifier ++ "': no such manager is registered."

/-- A new backend for an identifier. -/
def instantiate (r : Registry V) (identifier : String) :
    Dialogue V (Except Error V.Backend) := do
  match r.constructors.get? identifier with
  | none => return .error (.inputValidation (unknownMessage identifier))
  | some constructor => return .ok (← Dialogue.construct constructor)

def detailsOf (backend : V.Backend) : Dialogue V ManagerDetails := do
  let identity ← Dialogue.identityOf backend
  let info : InfoDictionary ← Dialogue.call backend .info
  return { identity, info }

/-- Adds the details of each identifier to those gathered before. -/
def gather (r : Registry V) (details : Dictionary ManagerDetails) :
    List String → Dialogue V (Except Error (Dictionary ManagerDetails))
  | [] => return .ok details
  | identifier :: rest => do
    match ← r.instantiate identifier with
    | .error fault => return .error fault
    | .ok backend =>
      let found ← detailsOf backend
      r.gather (details.insert identifier found) rest

/-- What each available manager says of itself, by the identifier it is registered
under. The backends asked are made for the purpose and never set up. -/
def availableManagers (r : Registry V) :
    Dialogue V (Except Error (Dictionary ManagerDetails)) :=
  r.gather .empty r.identifiers

/-- A manager that is not set up yet. -/
def createManager (r : Registry V) (identifier : String) :
    Dialogue V (Except Error (Manager V)) := do
  let backend ← r.instantiate identifier
  return backend.map fun backend => { backend }

/-- The manager that a configuration names, set up with its settings. -/
def managerOf (r : Registry V) (configuration : Configuration) :
    Dialogue V (Except Error (Manager V)) := do
  Dialogue.logAll [.managerCreating configuration.identifier configuration.settings.size]
  match ← r.createManager configuration.identifier with
  | .error fault => return .error fault
  | .ok m =>
    let (outcome, m) ← m.setUp configuration.settings
    return outcome.map fun _ => m

/-- The manager that a configuration file names, set up. -/
def defaultManager (r : Registry V) (files : FileSystem) (path : String) :
    Dialogue V (Except Error (Manager V)) := do
  match ← Dialogue.ofLogged (Configuration.ofFile files path) with
  | .error fault => return .error fault.toError
  | .ok configuration => r.managerOf configuration

def listing (title : String) (r : Registry V) : String :=
  title ++ " \x7b identifiers: " ++ Text.quotedList r.identifiers ++ " \x7d"

def display (r : Registry V) : String := listing "StaticManagerRegistry" r

/-- The registry as shown by what a host makes managers with. -/
def factoryDisplay (r : Registry V) : String := listing "ManagerFactory" r

end Registry
end AssetBroker
