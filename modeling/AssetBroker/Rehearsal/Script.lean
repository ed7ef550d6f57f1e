import AssetBroker.Backend.Dialogue

/-! A manager to rehearse a host with. Its profile says how its backends answer as long
as nothing else is asked for, and a script what they answer for the next call. -/
namespace AssetBroker.Rehearsal

structure Profile where
  identity : Identity
  info : InfoDictionary
  capabilities : List Capability
  /-- What references start with. -/
  scheme : String
  terms : Terminology
  /-- The names of the methods that the backend leaves out. -/
  leftOut : List String

/-- The states of the rehearsed manager, and those of other managers. -/
inductive State where
  | own (id : String) (parent : Option String)
  | foreign

/-- The pages of a pager, and the one question that it always fails, if any, with the
error that it makes anew each time. -/
structure PagerPlan where
  pages : List (List EntityReference)
  failure : Option (PagerCall × Logged Error)

/-- Reports to be made on a batch, with plans in place of pagers. -/
abbrev Replies (op : Operation) := List (Logged (Report (op.Payload PagerPlan)))

/-- What a backend is to answer once, in place of its own answer. -/
structure Script where
  /-- An error, with the events of making it. -/
  failure : Option (Logged Error)
  replies : Option ((op : Operation) × Replies op)
  policies : Option (List TraitsData)

def Script.empty : Script := ⟨none, none, none⟩

/-- The scripted reports, if they are for the given operation. -/
def Script.repliesTo? (script : Script) (op : Operation) : Option (Replies op) :=
  match script.replies with
  | some ⟨intended, replies⟩ => if same : intended = op then some (same ▸ replies) else none
  | none => none

/-- Backends and pagers are known by number. -/
abbrev vendor : Vendor where
  Constructor := Profile
  Backend := Nat
  State := State
  Pager := Nat

/-- A backend, with what it was last set up with. -/
structure Backend where
  profile : Profile
  settings : InfoDictionary

structure Pager where
  plan : PagerPlan
  position : Nat

/-- Everything that the rehearsed manager keeps. Numbers count from one. -/
structure Stage where
  backends : List Backend
  pagers : List Pager
  /-- How many states were made. -/
  states : Nat
  script : Script

namespace Stage

def empty : Stage := ⟨[], [], 0, .empty⟩

def addBackend (stage : Stage) (profile : Profile) : Nat × Stage :=
  (stage.backends.length + 1,
    { stage with backends := stage.backends ++ [⟨profile, .empty⟩] })

def backend? (stage : Stage) (number : Nat) : Option Backend := stage.backends[number - 1]?

def modifyBackend (stage : Stage) (number : Nat) (change : Backend → Backend) : Stage :=
  { stage with backends := stage.backends.modify (number - 1) change }

def addPager (stage : Stage) (plan : PagerPlan) : Nat × Stage :=
  (stage.pagers.length + 1, { stage with pagers := stage.pagers ++ [⟨plan, 0⟩] })

/-- A new state. -/
def addState (stage : Stage) (parent : Option String) : State × Stage :=
  (.own ("s" ++ toString (stage.states + 1)) parent, { stage with states := stage.states + 1 })

/-- The scripted failure, which is used up, or the given answer. -/
def failOr {α : Type} (stage : Stage) (answer : Stage → Except Error α × Stage) :
    Logged (Except Error α) × Stage :=
  match stage.script.failure with
  | some ⟨fault, events⟩ =>
    (⟨.error fault, events⟩, { stage with script := { stage.script with failure := none } })
  | none =>
    let (reply, stage) := answer stage
    (pure reply, stage)

end Stage
end AssetBroker.Rehearsal
