import AssetBroker.Backend.Dialogue
import AssetBroker.Text.Quoted

/-! A host's access to one manager. It asks the backend on the host's behalf, checks at
set-up that the required capabilities are there, and keeps the text that the manager's
references start with, if the manager advertises one: references are then told by
their start, and the backend is not asked. -/
namespace AssetBroker

structure Manager (V : Vendor) where
  backend : V.Backend
  /-- What the manager's references start with, as of the last successful set-up. -/
  cachedPrefix : Option String := none

namespace Manager

variable {V : Vendor}

def call (m : Manager V) (question : Call V.State) : Dialogue V (question.Answer V) :=
  Dialogue.call m.backend question

def identity (m : Manager V) : Dialogue V Identity := Dialogue.identityOf m.backend

def display (m : Manager V) : Dialogue V String := do
  let identity ← m.identity
  let shown := match m.cachedPrefix with
    | some start => "Some(" ++ Text.quoted start ++ ")"
    | none => "None"
  return "Manager \x7b identifier: " ++ Text.quoted identity.identifier ++
    ", entity_reference_prefix: " ++ shown ++ " \x7d"

def info (m : Manager V) : Dialogue V InfoDictionary := m.call .info

def settings (m : Manager V) : Dialogue V (Except Error InfoDictionary) := m.call .settings

def hasCapability (m : Manager V) (capability : Capability) : Dialogue V Bool :=
  m.call (.hasCapability capability)

/-- The manager's own terms in place of the given ones. -/
def updateTerminology (m : Manager V) (terms : Terminology) :
    Dialogue V (Except Error Terminology) :=
  m.call (.updateTerminology terms)

def flushCaches (m : Manager V) : Dialogue V (Except Error Unit) := m.call .flushCaches

/-- How the manager handles each trait set. -/
def managementPolicy (m : Manager V) (traitSets : List TraitSet) (access : PolicyAccess)
    (context : Context V.State) : Dialogue V (Except Error (List TraitsData)) :=
  m.call (.managementPolicy traitSets access context)

/-! ### Set-up -/

/-- Those of the given capabilities that the manager lacks, in the same order. -/
def lacking (m : Manager V) : List Capability → Dialogue V (List Capability)
  | [] => return []
  | capability :: rest => do
    let held ← m.hasCapability capability
    let others ← m.lacking rest
    return if held then others else capability :: others

def lackingMessage (identifier : String) (capabilities : List Capability) : String :=
  "Manager implementation for '" ++ identifier ++
    "' does not support the required capabilities: " ++
    ", ".intercalate (capabilities.map Capability.name)

/-- The key under which a manager advertises what its references start with. -/
def prefixKey : String := "entityReferencesMatchPrefix"

/-- What a manager's references start with. Anything but text under the key counts as
nothing. -/
def advertisedPrefix (info : InfoDictionary) : Logged (Option String) :=
  match info.get? prefixKey with
  | some (.text start) => ⟨some start, [.prefixAdopted start]⟩
  | some other => ⟨none, [.prefixNotText other.typeName]⟩
  | none => ⟨none, []⟩

/-- Sets the manager up with the given settings. Whatever start of references was kept
before is forgotten, also if the set-up fails. -/
def setUp (m : Manager V) (settings : InfoDictionary) :
    Dialogue V (Except Error Unit × Manager V) := do
  let forgetful : Manager V := { m with cachedPrefix := none }
  match (← m.call (.setUp settings) : Except Error Unit) with
  | .error fault => return (.error fault, forgetful)
  | .ok () =>
    let missing ← m.lacking Capability.required
    if missing.isEmpty then
      let start ← Dialogue.ofLogged (advertisedPrefix (← m.info))
      return (.ok (), { m with cachedPrefix := start })
    else
      let identity ← m.identity
      return (.error (.configuration (lackingMessage identity.identifier missing)), forgetful)

/-! ### Entity references -/

/-- Whether one text starts with another, byte by byte. -/
def startsWith (text start : String) : Bool :=
  start.toByteArray.data.toList.isPrefixOf text.toByteArray.data.toList

/-- Whether a text is one of the manager's references. -/
def isEntityReference (m : Manager V) (text : String) : Dialogue V Bool :=
  match m.cachedPrefix with
  | some start => return startsWith text start
  | none => m.call (.isEntityReference text)

def entityReference (m : Manager V) (text : String) :
    Dialogue V (Except Error EntityReference) := do
  if ← m.isEntityReference text then return .ok ⟨text⟩
  else return .error (.inputValidation ("Invalid entity reference: " ++ text))

def entityReference? (m : Manager V) (text : String) : Dialogue V (Option EntityReference) := do
  if ← m.isEntityReference text then return some ⟨text⟩ else return none

/-! ### Contexts -/

/-- A new context, with a state if the manager keeps states. -/
def createContext (m : Manager V) : Dialogue V (Except Error (Context V.State)) := do
  if ← m.hasCapability .statefulContexts then
    let state : Except Error V.State ← m.call .createState
    return state.map fun state => { state := some state }
  else return .ok {}

/-- A new context of the same locale, with a state derived from its parent's if that has
one. -/
def createChildContext (m : Manager V) (parent : Context V.State) :
    Dialogue V (Except Error (Context V.State)) := do
  match parent.state with
  | some held =>
    let state : Except Error V.State ← m.call (.createChildState held)
    return state.map fun state => { locale := parent.locale, state := some state }
  | none => return .ok { locale := parent.locale }

/-- The token that a context's state can be restored from, empty for no state. -/
def persistenceToken (m : Manager V) (context : Context V.State) :
    Dialogue V (Except Error String) :=
  match context.state with
  | some state => m.call (.persistenceToken state)
  | none => return .ok ""

/-- The context restored from a token. -/
def contextFromToken (m : Manager V) (token : String) :
    Dialogue V (Except Error (Context V.State)) := do
  if token.isEmpty then return .ok {}
  else
    let state : Except Error V.State ← m.call (.stateFromToken token)
    return state.map fun state => { state := some state }

end Manager
end AssetBroker
