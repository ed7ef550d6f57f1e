import AssetBroker.Manager.Batch
import AssetBroker.Proofs.Transcript

/-! Sessions: a host asks a manager for one thing after another, for as long as it likes.
Whatever comes of it, the host goes on with the same manager, except that setting a manager up
may change what it keeps. -/
namespace AssetBroker

/-- What a host may ask of a manager. -/
inductive Action (V : Vendor) where
  | identity
  | display
  | info
  | settings
  | setUp (settings : InfoDictionary)
  | hasCapability (capability : Capability)
  | updateTerminology (terms : Terminology)
  | flushCaches
  | managementPolicy (traitSets : List TraitSet) (access : PolicyAccess)
      (context : Context V.State)
  | createContext
  | createChildContext (parent : Context V.State)
  | persistenceToken (context : Context V.State)
  | contextFromToken (token : String)
  | isEntityReference (text : String)
  | entityReference (text : String)
  | entityReference? (text : String)
  | primitive {op : Operation} (request : Request op) (context : Context V.State)
  | batch {op : Operation} (policy : ErrorPolicy) (request : Request op)
      (context : Context V.State)
  | one {op : Operation} (policy : ErrorPolicy) (element : op.Element) (shared : op.Shared)
      (context : Context V.State)

variable {V : Vendor} {σ α : Type}

def Action.isSetUp : Action V → Bool
  | setUp _ => true
  | _ => false

namespace Manager

/-- The same manager, once something was asked of it. -/
def keptAfter (m : Manager V) (asked : Dialogue V α) : Dialogue V (Manager V) := do
  let _ ← asked
  return m

/-- The manager that a host has after an action, whatever came of the action. -/
def perform (m : Manager V) : Action V → Dialogue V (Manager V)
  | .setUp settings => return (← m.setUp settings).2
  | .identity => m.keptAfter m.identity
  | .display => m.keptAfter m.display
  | .info => m.keptAfter m.info
  | .settings => m.keptAfter m.settings
  | .hasCapability capability => m.keptAfter (m.hasCapability capability)
  | .updateTerminology terms => m.keptAfter (m.updateTerminology terms)
  | .flushCaches => m.keptAfter m.flushCaches
  | .managementPolicy traitSets access context =>
    m.keptAfter (m.managementPolicy traitSets access context)
  | .createContext => m.keptAfter m.createContext
  | .createChildContext parent => m.keptAfter (m.createChildContext parent)
  | .persistenceToken context => m.keptAfter (m.persistenceToken context)
  | .contextFromToken token => m.keptAfter (m.contextFromToken token)
  | .isEntityReference text => m.keptAfter (m.isEntityReference text)
  | .entityReference text => m.keptAfter (m.entityReference text)
  | .entityReference? text => m.keptAfter (m.entityReference? text)
  | .primitive request context => m.keptAfter (m.primitive request context)
  | .batch policy request context => m.keptAfter (m.batch policy request context)
  | .one policy element shared context => m.keptAfter (m.one policy element shared context)

/-- The manager after a session. -/
def performAll (m : Manager V) (actions : List (Action V)) : Dialogue V (Manager V) :=
  actions.foldlM perform m

theorem performAll_cons (m : Manager V) (action : Action V) (rest : List (Action V)) :
    m.performAll (action :: rest) = m.perform action >>= fun m => m.performAll rest :=
  List.foldlM_cons

theorem performAll_append (m : Manager V) (earlier later : List (Action V)) :
    m.performAll (earlier ++ later) = m.performAll earlier >>= fun m => m.performAll later :=
  List.foldlM_append

variable (m : Manager V) (world : World V σ) (state : σ)

theorem value_keptAfter (asked : Dialogue V α) :
    ((m.keptAfter asked).run world state).value = m := by
  rw [keptAfter, Dialogue.value_bind, Dialogue.run_pure]

/-- Only a set-up leaves the host with another manager. -/
theorem value_perform_of_not_setUp {action : Action V} (quiet : action.isSetUp = false) :
    ((m.perform action).run world state).value = m := by
  cases action with
  | setUp settings => cases quiet
  | _ => exact value_keptAfter ..

theorem value_performAll_of_quiet {actions : List (Action V)}
    (quiet : ∀ action ∈ actions, action.isSetUp = false) :
    ((m.performAll actions).run world state).value = m := by
  induction actions generalizing state with
  | nil => rfl
  | cons action rest ih =>
    rw [performAll_cons, Dialogue.value_bind,
      value_perform_of_not_setUp m world state (quiet action List.mem_cons_self)]
    exact ih _ fun later member => quiet later (List.mem_cons_of_mem action member)

end Manager

/-- A session has a last set-up, or none at all. -/
theorem Action.exists_last_setUp (actions : List (Action V)) :
    (∀ action ∈ actions, action.isSetUp = false) ∨
    ∃ earlier settings later, actions = earlier ++ .setUp settings :: later ∧
      ∀ action ∈ later, action.isSetUp = false := by
  induction actions with
  | nil => exact .inl (by simp)
  | cons action rest ih =>
    rcases ih with quiet | ⟨earlier, settings, later, rfl, quiet⟩
    · cases kind : action.isSetUp with
      | false => exact .inl (List.forall_mem_cons.mpr ⟨kind, quiet⟩)
      | true =>
        cases action with
        | setUp settings => exact .inr ⟨[], settings, rest, rfl, quiet⟩
        | _ => cases kind
    · exact .inr ⟨action :: earlier, settings, later, rfl, quiet⟩

end AssetBroker
