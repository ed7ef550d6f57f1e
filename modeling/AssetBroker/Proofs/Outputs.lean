import AssetBroker.Proofs.Gathering
import AssetBroker.Proofs.Requests

/-! What the outputs of a batch stand for. Under both error policies there is one for each
element, and it stands for the entry of that element. The form for one element yields the
only output of its batch, or its error. -/
namespace AssetBroker

variable {V : Vendor} {σ α : Type} {op : Operation}

namespace ErrorPolicy

/-- Outputs stand for the entries of all slots, under both policies. -/
theorem outcomes_settleAll {policy : ErrorPolicy} {identifier : String}
    {context : Nat → ErrorContext} {slots : List (Option (Outcome α))}
    {outputs : List (policy.Output α)}
    (settled : (policy.settleAll identifier context slots).result = .ok outputs) :
    outputs.map policy.outcome = slots.mapIdx (entry identifier) := by
  cases policy with
  | inPlace =>
    rw [settleAll_inPlace] at settled
    rw [Except.ok.inj settled]
    exact List.map_id _
  | raised =>
    have inPlace := settleAll_raised_eq_ok_iff.mp settled
    rw [settleAll_inPlace] at inPlace
    exact (Except.ok.inj inPlace).symm

end ErrorPolicy

namespace Manager

section

variable (m : Manager V) (policy : ErrorPolicy) (request : Request op)
  (context : Context V.State) (world : World V σ) (state : σ)

/-- Outputs that a batch yields stand for the first outcomes on the elements. -/
theorem outcomes_of_value_batch {outputs : List (policy.Output (op.Payload V.Pager))}
    (success : ((m.batch policy request context).run world state).value = .ok outputs) :
    outputs.map policy.outcome =
      (((m.gather request context).run world state).value.collector.slots).mapIdx
        (ErrorPolicy.entry ((m.gather request context).run world state).value.identifier) := by
  rw [value_batch] at success
  dsimp only at success
  cases ending : ((m.gather request context).run world state).value.ending with
  | error fault =>
    rw [ending] at success
    cases success
  | ok done =>
    rw [ending] at success
    exact ErrorPolicy.outcomes_settleAll success

theorem length_outputs {outputs : List (policy.Output (op.Payload V.Pager))}
    (yielded : ((m.batch policy request context).run world state).value = .ok outputs) :
    outputs.length = request.size := by
  have outcomes := outcomes_of_value_batch m policy request context world state yielded
  have lengths := congrArg List.length outcomes
  rw [slots_gather] at lengths
  simpa using lengths

end

section

variable (m : Manager V) (policy : ErrorPolicy) (context : Context V.State)
  (world : World V σ) (state : σ)

/-- The form for one element differs from the batch form on it in the list around the output
only. -/
theorem run_one (element : op.Element) (shared : op.Shared) :
    (m.one policy element shared context).run world state =
      let batch := (m.batch policy (.ofElements [element] shared) context).run world state
      ⟨batch.value.bind single, batch.state, batch.log, batch.exchanges⟩ := by
  rw [one, Dialogue.bind_eq, Dialogue.run_bind]
  simp only [Dialogue.run_pure, List.append_nil]

theorem exchanges_one (policy : ErrorPolicy) (element : op.Element) (shared : op.Shared) :
    ((m.one policy element shared context).run world state).exchanges =
      ((m.batch policy (.ofElements [element] shared) context).run world state).exchanges := by
  rw [run_one]

theorem value_one (element : op.Element) (shared : op.Shared) :
    ((m.one policy element shared context).run world state).value =
      ((m.batch policy (.ofElements [element] shared) context).run world state).value.bind
        single := by
  rw [run_one]

theorem value_one_of_error {element : op.Element} {shared : op.Shared} {fault : Error}
    (failed : ((m.batch policy (.ofElements [element] shared) context).run world state).value =
      .error fault) :
    ((m.one policy element shared context).run world state).value = .error fault := by
  rw [value_one, failed]
  rfl

/-- The output for a single element is the only one of its batch. -/
theorem value_one_of_ok {element : op.Element} {shared : op.Shared}
    {outputs : List (policy.Output (op.Payload V.Pager))}
    (yielded : ((m.batch policy (.ofElements [element] shared) context).run world state).value =
      .ok outputs) :
    ∃ output, outputs = [output] ∧
      ((m.one policy element shared context).run world state).value = .ok output := by
  have length := length_outputs m policy _ context world state yielded
  rw [Request.size_ofElements, List.length_singleton] at length
  obtain ⟨output, rfl⟩ := List.length_eq_one_iff.mp length
  refine ⟨output, rfl, ?_⟩
  rw [value_one, yielded]
  rfl

end

end Manager

end AssetBroker
