import AssetBroker.Proofs.BatchOutcomes
import AssetBroker.Proofs.Validation

/-! Exceptions tell of the elements they are raised for: a batch that fails for one of its
elements says for which, and all that the operation knows of it and the kind of exception has
a place for. -/
namespace AssetBroker

variable {V : Vendor} {σ α : Type} {op : Operation}

namespace ElementException

/-- An exception tells of the element of a request at its index, which all lists have, and
of what a run reported first on it. -/
structure TellsOf (exception : ElementException) (request : Request op)
    (run : Run (op.Payload V.Pager)) (element : op.Element) (error : ElementError) : Prop where
  inRange : ∀ length ∈ request.lengths, exception.index < length
  element_eq : request.element? exception.index = some element
  reported : Report.firstOutcome? run.made exception.index = some (.error error)
  describes : exception.Describes error (op.supplied element request.shared)

end ElementException

namespace ErrorPolicy

/-- An exception is raised for an element that an error was reported on. -/
theorem settleAll_raised_eq_batchElement {identifier : String}
    {context : Nat → ErrorContext} {slots : List (Option (Outcome α))}
    {exception : ElementException}
    (raised : (settleAll .raised identifier context slots).result =
      .error (.batchElement exception)) :
    ∃ index error, slots[index]? = some (some (.error error)) ∧
      exception = .of index error (context index) := by
  obtain ⟨index, slot, held, failed, _⟩ := settleUntil_raised_eq_error_iff.mp raised
  rw [Nat.zero_add] at failed
  match slot with
  | none => cases failed
  | some (.ok value) => cases failed
  | some (.error error) =>
    cases failed
    exact ⟨index, error, held, rfl⟩

end ErrorPolicy

namespace Manager

/-- An exception that a batch raises is the error that the backend ended the batch with, or
tells of an element that an error was reported on. -/
theorem batch_raised_tellsOf (m : Manager V) {request : Request op}
    {context : Context V.State} {world : World V σ} {state : σ}
    {exception : ElementException}
    (raised : ((m.batch .raised request context).run world state).value =
      .error (.batchElement exception)) :
    let run := m.backendRun request context world state
    run.ending.value = .error (.batchElement exception) ∨
      ∃ element error, exception.TellsOf request run element error := by
  intro run
  cases validity : request.fault? with
  | some fault =>
    rw [value_batch_of_fault m .raised context world state validity] at raised
    cases raised
  | none =>
    cases ending : run.ending.value with
    | error fault =>
      rw [value_batch_of_failure m .raised context world state validity ending] at raised
      exact .inl (congrArg Except.error (Except.error.inj raised))
    | ok done =>
      rw [value_batch_of_success m .raised context world state validity ending] at raised
      obtain ⟨index, error, held, rfl⟩ :=
        ErrorPolicy.settleAll_raised_eq_batchElement raised
      obtain ⟨inside, reported⟩ : index < request.size ∧
          Report.firstOutcome? run.made index = some (.error error) := by
        simpa [List.getElem?_eq_some_iff] using held
      have inRange : ∀ length ∈ request.lengths, index < length := by
        intro length member
        rwa [Request.length_eq_size validity length member]
      obtain ⟨element, found⟩ := Request.exists_element inRange
      refine .inr ⟨element, error, inRange, found, reported, ?_⟩
      rw [← Request.errorContext_eq_supplied found]
      exact ElementException.of_describes index error _

/-- Only the error of the batch can be an exception: that there was no output is none. -/
theorem value_one_eq_batchElement {m : Manager V} {element : op.Element} {shared : op.Shared}
    {context : Context V.State} {world : World V σ} {state : σ}
    {exception : ElementException}
    (raised : ((m.one .raised element shared context).run world state).value =
      .error (.batchElement exception)) :
    ((m.batch .raised (.ofElements [element] shared) context).run world state).value =
      .error (.batchElement exception) := by
  rw [one, Dialogue.value_bind, Dialogue.run_pure] at raised
  cases outputs : ((m.batch .raised (.ofElements [element] shared) context).run world
      state).value with
  | error fault =>
    rw [outputs] at raised
    exact congrArg Except.error (Except.error.inj raised)
  | ok values =>
    rw [outputs] at raised
    cases values with
    | nil => cases raised
    | cons value rest => cases raised

end Manager

namespace Rehearsal

def oneDenied : Replies .entityExists := [pure ⟨0, .error denied⟩]

end Rehearsal

namespace Manager

/-- Exceptions are right, and no list is too short for them. An exception that a batch raises,
unless the backend ended the batch with it, stands at an index that all lists of the request
have, holds the error reported first on that element, is of the kind for its code, and has
those parts of the element's context that the operation knows and its kind has a place for.
So is an exception that is raised for a single element, at index 0. -/
theorem raised_exception_tells_of_element (m : Manager V) (context : Context V.State)
    (world : World V σ) (state : σ) :
    (∀ (request : Request op) (exception : ElementException),
      ((m.batch .raised request context).run world state).value =
        .error (.batchElement exception) →
      let run := m.backendRun request context world state
      run.ending.value = .error (.batchElement exception) ∨
        ∃ element error, exception.TellsOf request run element error) ∧
    ∀ (element : op.Element) (shared : op.Shared) (exception : ElementException),
      ((m.one .raised element shared context).run world state).value =
        .error (.batchElement exception) →
      let run := m.backendRun (.ofElements [element] shared) context world state
      run.ending.value = .error (.batchElement exception) ∨
        exception.index = 0 ∧ ∃ error, Report.firstOutcome? run.made 0 = some (.error error) ∧
          exception.Describes error (op.supplied element shared) := by
  refine ⟨fun request exception raised => batch_raised_tellsOf m raised, ?_⟩
  intro element shared exception raised run
  rcases batch_raised_tellsOf m (value_one_eq_batchElement raised) with
    failed | ⟨found, error, tells⟩
  · exact .inl failed
  · have first : exception.index = 0 := by
      have inside := tells.inRange _ (Request.size_mem_lengths _)
      rw [Request.size_ofElements, List.length_singleton] at inside
      omega
    have same : element = found := by
      have held := tells.element_eq
      rw [first, Request.element?_ofElements] at held
      exact Option.some.inj held
    refine .inr ⟨first, error, first ▸ tells.reported, ?_⟩
    have describes := tells.describes
    rwa [Request.shared_ofElements, ← same] at describes

theorem refused_data_tells_of_element :
    let run := Rehearsal.manager.backendRun Rehearsal.publication {} Rehearsal.world
      (Rehearsal.stageFor Rehearsal.secondRefused none)
    ∃ element error, (ElementException.of 1 Rehearsal.badFrame
      { entityReference := some ⟨"b"⟩, access := some .write,
        traitsData := some Rehearsal.frame }).TellsOf Rehearsal.publication run element error :=
  ((raised_exception_tells_of_element Rehearsal.manager {} Rehearsal.world
    (Rehearsal.stageFor Rehearsal.secondRefused none)).1 Rehearsal.publication _ rfl).resolve_left
      (fun failed => nomatch failed)

/-- The error that a backend ends a batch with is passed on as it is, also if it is an
exception, and then it need not tell of any element of the batch. -/
theorem exception_of_whole_batch_out_of_range :
    let request : Request .entityExists := .entityExists [⟨"mock://e0"⟩]
    let stage := Rehearsal.stageFor Rehearsal.oneDenied
      (some (.batchElement (.of 7 Rehearsal.badFrame {})))
    let run := Rehearsal.manager.backendRun request {} Rehearsal.world stage
    ((Rehearsal.manager.batch .raised request {}).run Rehearsal.world stage).value =
      .error (.batchElement (.of 7 Rehearsal.badFrame {})) ∧
    Report.firstOutcome? run.made 7 = none ∧ ¬ ∀ length ∈ request.lengths, 7 < length :=
  ⟨rfl, rfl, by decide⟩

end Manager
end AssetBroker
