import AssetBroker.Proofs.Enrichment

/-! The form for one element is the batch form on that element alone, down to what is asked and
logged. A batch of one element never yields anything but one output, so the form has no failure
of its own. -/
namespace AssetBroker

variable {V : Vendor} {σ α : Type} {op : Operation}

/-- What would be told if a batch of one element had no output. -/
def Manager.noResult : Error := .unhandled "Manager returned no result for a single element."

namespace ErrorPolicy

/-- The message on an element without a report is another one. -/
theorem unhandled_unreportedMessage_ne (identifier : String) (index : Nat) :
    Error.unhandled (unreportedMessage identifier index) ≠ Manager.noResult := by
  intro same
  have texts : unreportedMessage identifier index =
      "Manager returned no result for a single element." := Error.unhandled.inj same
  -- The name of the manager is quoted, so the texts differ behind their common first word.
  have quote := congrArg (fun text => text.toList[8]?) texts
  simp [unreportedMessage, String.toList_append] at quote

/-- Settling never ends that way. -/
theorem settleAll_ne_noResult {policy : ErrorPolicy} {identifier : String}
    {context : Nat → ErrorContext} {slots : List (Option (Outcome α))} :
    (policy.settleAll identifier context slots).result ≠ .error Manager.noResult := by
  cases policy with
  | inPlace =>
    rw [settleAll_inPlace]
    exact nofun
  | raised =>
    intro failed
    obtain ⟨index, slot, _, raised, _⟩ := settleUntil_raised_eq_error_iff.mp failed
    cases slot with
    | some outcome =>
      obtain ⟨error, _, same⟩ := settleSlot_raised_eq_error_iff.mp raised
      cases same
    | none => exact unhandled_unreportedMessage_ne identifier _ (Except.error.inj raised)

end ErrorPolicy

namespace Manager

section

variable (m : Manager V) (policy : ErrorPolicy) (context : Context V.State)
  (world : World V σ) (state : σ)

/-- A batch that ends that way has it from the backend. -/
theorem ending_of_value_batch_eq_noResult {request : Request op}
    (failed : ((m.batch policy request context).run world state).value = .error noResult) :
    (m.backendRun request context world state).ending.value = .error noResult := by
  cases validity : request.fault? with
  | some fault =>
    rw [value_batch_of_fault m policy context world state validity] at failed
    cases failed
  | none =>
    cases ending : (m.backendRun request context world state).ending.value with
    | error fault =>
      rw [value_batch_of_failure m policy context world state validity ending] at failed
      exact congrArg Except.error (Except.error.inj failed)
    | ok done =>
      rw [value_batch_of_success m policy context world state validity ending] at failed
      exact absurd failed ErrorPolicy.settleAll_ne_noResult

end

/-- An operation on one element is the batch of that element. It asks the backend the same and
logs the same. If the batch fails, its error is the error of the call, and otherwise the call
yields the only output that the batch has. That a batch of one element has no output is never
told, unless by a backend that ends with these very words itself. -/
theorem one_is_batch_of_one (m : Manager V) (policy : ErrorPolicy) (element : op.Element)
    (shared : op.Shared) (context : Context V.State) (world : World V σ) (state : σ) :
    let request := Request.ofElements [element] shared
    let one := (m.one policy element shared context).run world state
    let batch := (m.batch policy request context).run world state
    request.elements = [element] ∧ request.shared = shared ∧
    (request.Valid → AsksOnce one m.backend request context
      (m.backendRun request context world state)) ∧
    one.exchanges = batch.exchanges ∧ one.log = batch.log ∧ one.state = batch.state ∧
    (∀ fault, batch.value = .error fault → one.value = .error fault) ∧
    (∀ outputs, batch.value = .ok outputs →
      ∃ output, outputs = [output] ∧ one.value = .ok output) ∧
    (one.value =
        .error (.unhandled "Manager returned no result for a single element.") →
      (m.backendRun request context world state).ending.value =
        .error (.unhandled "Manager returned no result for a single element.")) := by
  intro request one batch
  have whole : one = ⟨batch.value.bind single, batch.state, batch.log, batch.exchanges⟩ :=
    run_one m policy context world state element shared
  refine ⟨Request.elements_ofElements [element] shared, Request.shared_ofElements [element] shared,
    ?_, congrArg _ whole, congrArg _ whole, congrArg _ whole, ?_, ?_, ?_⟩
  · intro valid
    exact asksOnce_one m context world state policy (Request.fault?_eq_none_iff.mpr valid)
  · intro fault failed
    exact value_one_of_error m policy context world state failed
  · intro outputs yielded
    exact value_one_of_ok m policy context world state yielded
  · intro failed
    apply ending_of_value_batch_eq_noResult m policy context world state
    cases value : batch.value with
    | error fault =>
      have same : one.value = .error fault := value_one_of_error m policy context world state value
      exact congrArg Except.error (Except.error.inj (same.symm.trans failed))
    | ok outputs =>
      obtain ⟨output, _, same⟩ := value_one_of_ok m policy context world state value
      cases failed.symm.trans same

end Manager
end AssetBroker
