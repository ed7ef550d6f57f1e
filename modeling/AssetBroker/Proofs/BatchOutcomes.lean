import AssetBroker.Proofs.Gathering
import AssetBroker.Proofs.Requests
import AssetBroker.Rehearsal.Performance

/-! What a batch yields, for every run of the backend. With errors in place, each element
has the first outcome reported on it, or an error that says there was none. With errors
raised, the batch yields the same values, or an error made of the first entry in place
that is none. -/
namespace AssetBroker.Manager

variable {V : Vendor} {σ : Type} {op : Operation}

end AssetBroker.Manager

namespace AssetBroker.Rehearsal

/-- A stage with one backend, which makes the given reports on its next batch. Then it fails,
if it is given an error. -/
def stageFor {op : Operation} (replies : Replies op) (failure : Option Error) : Stage :=
  { Stage.empty with
    backends := [⟨{ noProfile with identity := ⟨"org.rehearsal", "Rehearsal"⟩ }, .empty⟩]
    script := ⟨failure.map pure, some ⟨op, replies⟩, none⟩ }

/-- The manager of the one backend. -/
def manager : Manager vendor := ⟨1, none⟩

def denied : ElementError := ⟨.entityAccessError, "denied"⟩

/-- Whether three entities exist. -/
def existence : Request .entityExists := .entityExists [⟨"a"⟩, ⟨"b"⟩, ⟨"c"⟩]

/-- Reports on them out of order, with one repeated, one stray and one left out. -/
def contested : Replies .entityExists :=
  [pure ⟨2, .error denied⟩, pure ⟨0, .ok true⟩, pure ⟨0, .error denied⟩, pure ⟨7, .ok false⟩]

/-- Data that holds one frame. -/
def frame : TraitsData := TraitsData.empty.setProperty "shot" "start" (.integer 1001)

def badFrame : ElementError := ⟨.invalidTraitsData, "bad frame"⟩

def toWrite : PublishingAccess := ⟨.write, by decide⟩

/-- Two entities to be published. -/
def publication : Request .register :=
  .register [⟨"a"⟩, ⟨"b"⟩] [.ofTraits ["shot"], frame] toWrite

def secondRefused : Replies .register := [pure ⟨1, .error badFrame⟩, pure ⟨0, .ok ⟨"a?v=1"⟩⟩]

end AssetBroker.Rehearsal

namespace AssetBroker.Manager

variable {V : Vendor} {σ : Type} {op : Operation}

/-- The policies agree on every run. They yield the same values and fail alike for refused
requests and failed runs. Otherwise what is raised is made of the first entry in place that
is an error. If the element was reported on, it is the exception for its index and the entry,
which tells what the operation knows of the element. If not, it has the entry's message. -/
theorem batch_raised_agrees_with_inPlace (m : Manager V) (request : Request op)
    (context : Context V.State) (world : World V σ) (state : σ) :
    let run := m.backendRun request context world state
    let raised := ((m.batch .raised request context).run world state).value
    let inPlace := ((m.batch .inPlace request context).run world state).value
    (∀ values : List (op.Payload V.Pager),
      raised = .ok values ↔ inPlace = .ok (values.map .ok)) ∧
    (∀ fault, request.fault? = some fault →
      raised = .error fault.toError ∧ inPlace = .error fault.toError) ∧
    (request.fault? = none → ∀ fault, run.ending.value = .error fault →
      raised = .error fault ∧ inPlace = .error fault) ∧
    ∀ (outcomes : List (Outcome (op.Payload V.Pager))) (index : Nat) (error : ElementError),
      inPlace = .ok outcomes → outcomes[index]? = some (.error error) →
      (∀ before < index, ∃ value, outcomes[before]? = some (.ok value)) →
      match Report.firstOutcome? run.made index with
      | some _ => ∃ element, request.element? index = some element ∧
          let known := op.supplied element request.shared
          let exception := ElementException.of index error known
          raised = .error (.batchElement exception) ∧
          exception.index = index ∧ exception.Describes error known
      | none => raised = .error (.unhandled error.message) := by
  intro run raised inPlace
  cases validity : request.fault? with
  | some fault =>
    have raisedFault : raised = .error fault.toError :=
      value_batch_of_fault m .raised context world state validity
    have inPlaceFault : inPlace = .error fault.toError :=
      value_batch_of_fault m .inPlace context world state validity
    simp [raisedFault, inPlaceFault]
  | none =>
    cases ending : run.ending.value with
    | error fault =>
      have raisedFault : raised = .error fault :=
        value_batch_of_failure m .raised context world state validity ending
      have inPlaceFault : inPlace = .error fault :=
        value_batch_of_failure m .inPlace context world state validity ending
      simp [raisedFault, inPlaceFault]
    | ok done =>
      have raisedValue : raised = _ :=
        value_batch_of_success m .raised context world state validity ending
      have inPlaceValue : inPlace = _ :=
        value_batch_of_success m .inPlace context world state validity ending
      refine ⟨fun values => ?_, by simp, by simp, ?_⟩
      · rw [raisedValue, inPlaceValue]
        exact ErrorPolicy.settleAll_raised_eq_ok_iff
      · intro outcomes index error yielded failed clean
        obtain ⟨slot, held, fault⟩ := ErrorPolicy.settleAll_raised_of_inPlace
          (inPlaceValue.symm.trans yielded) failed clean
        obtain ⟨inside, rfl⟩ : index < request.size ∧
            Report.firstOutcome? run.made index = slot := by
          simpa [List.getElem?_eq_some_iff] using held
        obtain ⟨element, found⟩ := Request.exists_element_of_lt_size validity inside
        have known := Request.errorContext_eq_supplied found
        have raisedFault := raisedValue.trans fault
        split
        · rename_i reported
          rw [reported, ErrorPolicy.faultOf, known] at raisedFault
          exact ⟨element, found, raisedFault, rfl, ElementException.of_describes ..⟩
        · rename_i unreported
          rwa [unreported] at raisedFault

/-- The first error is raised for an element that nothing was reported on, though another one
was reported before, or else for one that was. -/
theorem contested_batch_raised :
    ((Rehearsal.manager.batch .raised Rehearsal.existence {}).run Rehearsal.world
        (Rehearsal.stageFor Rehearsal.contested none)).value = .error (.unhandled
      "Manager 'org.rehearsal' did not report a result for batch element 1.") ∧
    ∃ exception : ElementException,
      ((Rehearsal.manager.batch .raised Rehearsal.publication {}).run Rehearsal.world
        (Rehearsal.stageFor Rehearsal.secondRefused none)).value =
          .error (.batchElement exception) ∧
      exception.index = 1 ∧ exception.error = Rehearsal.badFrame ∧
      exception.evidence = .invalidTraitsData (some ⟨"b"⟩) (some Rehearsal.frame) := by
  constructor
  · refine (batch_raised_agrees_with_inPlace Rehearsal.manager Rehearsal.existence {}
      Rehearsal.world (Rehearsal.stageFor Rehearsal.contested none)).2.2.2 _ 1 _ rfl rfl ?_
    intro before earlier
    obtain rfl : before = 0 := by omega
    exact ⟨true, rfl⟩
  · obtain ⟨element, found, raised, index, describes⟩ :=
      (batch_raised_agrees_with_inPlace Rehearsal.manager Rehearsal.publication {}
        Rehearsal.world (Rehearsal.stageFor Rehearsal.secondRefused none)).2.2.2 _ 1 _ rfl rfl
        (by
          intro before earlier
          obtain rfl : before = 0 := by omega
          exact ⟨⟨"a?v=1"⟩, rfl⟩)
    obtain rfl := Option.some.inj found
    exact ⟨_, raised, index, describes.error_eq, rfl⟩

end AssetBroker.Manager
