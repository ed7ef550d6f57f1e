import AssetBroker.Proofs.BatchOutcomes
import AssetBroker.Proofs.Outputs
import AssetBroker.Proofs.Requests

/-! Requests are checked before anyone is asked. In all three forms of an operation, a request
that does not meet the conditions of its operation is refused without a trace, and any other
is put to the backend once, just as the caller gave it. -/
namespace AssetBroker

variable {V : Vendor} {σ : Type} {op : Operation}

namespace Request

/-- Lengths are checked before contents. -/
theorem fault?_register_of_uneven {references : List EntityReference} {datas : List TraitsData}
    (uneven : references.length ≠ datas.length) (access : PublishingAccess) :
    (register references datas access).fault? =
      some (.unevenLists references.length datas.length "traits datas") := by
  rw [fault?, lengthFault?, if_neg uneven]
  rfl

/-- What is said of lists of data that differ in length. -/
theorem toError_unevenLists (references datas : Nat) :
    (RequestFault.unevenLists references datas "traits datas").toError =
      .inputValidation ("Parameter lists must be of the same length: " ++ toString references ++
        " entity references vs. " ++ toString datas ++ " traits datas.") := by
  have ending : " " ++ ("traits datas" ++ ".") = " traits datas." := by simp
  unfold RequestFault.toError RequestFault.message
  dsimp only
  generalize toString references = first
  generalize toString datas = second
  simp only [String.append_assoc, ending]

end Request

namespace Manager

section

variable (m : Manager V) {request : Request op} (context : Context V.State)
  (world : World V σ) (state : σ)

theorem run_gather_of_fault {fault : RequestFault} (refused : request.fault? = some fault) :
    (m.gather request context).run world state =
      ⟨⟨.empty request.size, .error fault.toError, (world.identity m.backend state).identifier⟩,
        state, [], []⟩ := by
  rw [gather, submit_of_fault m request context refused]
  rfl

/-- A refused request leaves no trace but the error. -/
theorem run_batch_of_fault (policy : ErrorPolicy) {fault : RequestFault}
    (refused : request.fault? = some fault) :
    (m.batch policy request context).run world state = ⟨.error fault.toError, state, [], []⟩ := by
  rw [batch, Dialogue.bind_eq, Dialogue.run_bind,
    run_gather_of_fault m context world state refused]
  simp only [conclude, Collector.stored_empty]
  rfl

theorem run_primitive_of_fault {fault : RequestFault} (refused : request.fault? = some fault) :
    (m.primitive request context).run world state =
      ⟨([], .error fault.toError), state, [], []⟩ := by
  rw [primitive, submit_of_fault m request context refused]
  rfl

theorem run_one_of_fault (policy : ErrorPolicy) {element : op.Element} {shared : op.Shared}
    {fault : RequestFault} (refused : (Request.ofElements [element] shared).fault? = some fault) :
    (m.one policy element shared context).run world state =
      ⟨.error fault.toError, state, [], []⟩ := by
  rw [one, Dialogue.bind_eq, Dialogue.run_bind,
    run_batch_of_fault m context world state policy refused]
  rfl

theorem exchanges_submit_of_accepted (accepted : request.fault? = none) :
    ((m.submit request context).run world state).exchanges =
      [⟨.call m.backend (.entities request context),
        m.backendRun request context world state⟩] := by
  rw [submit_of_accepted m request context accepted]
  rfl

theorem exchanges_gather_of_accepted (accepted : request.fault? = none) :
    ∃ pagers, ((m.gather request context).run world state).exchanges =
      ⟨.call m.backend (.entities request context), m.backendRun request context world state⟩ ::
        Dialogue.releases pagers := by
  rw [gather, Dialogue.exchanges_bind, exchanges_submit_of_accepted m context world state accepted,
    Dialogue.exchanges_bind, exchanges_takeAll]
  simp only [identity, Dialogue.exchanges_bind, Dialogue.run_ofLogged, Dialogue.run_identityOf,
    Dialogue.run_pure, List.append_nil, List.singleton_append]
  exact ⟨_, rfl⟩

/-- A call puts a request to the backend once, as it is. All that it does beside that is to
release pagers. -/
def AsksOnce {α : Type} (transcript : Transcript V σ α) (backend : V.Backend)
    (request : Request op) (context : Context V.State) (run : Run (op.Payload V.Pager)) : Prop :=
  transcript.exchanges = ⟨.call backend (.entities request context), run⟩ ::
    Dialogue.releases transcript.released

theorem asksOnce_of_exchanges {α : Type} {transcript : Transcript V σ α} {backend : V.Backend}
    {run : Run (op.Payload V.Pager)} {pagers : List V.Pager}
    (exchanges : transcript.exchanges =
      ⟨.call backend (.entities request context), run⟩ :: Dialogue.releases pagers) :
    AsksOnce transcript backend request context run := by
  have released : transcript.released = pagers := by
    rw [Transcript.released, exchanges, List.filterMap_cons_none rfl]
    exact Dialogue.filterMap_releases pagers
  rw [AsksOnce, released, exchanges]

theorem asksOnce_batch (policy : ErrorPolicy) (accepted : request.fault? = none) :
    AsksOnce ((m.batch policy request context).run world state) m.backend request context
      (m.backendRun request context world state) := by
  obtain ⟨aside, gathered⟩ := exchanges_gather_of_accepted m context world state accepted
  apply asksOnce_of_exchanges context
  rw [batch, Dialogue.exchanges_bind, gathered, exchanges_conclude, List.cons_append,
    ← Dialogue.releases_append]

theorem asksOnce_one (policy : ErrorPolicy) {element : op.Element} {shared : op.Shared}
    (accepted : (Request.ofElements [element] shared).fault? = none) :
    AsksOnce ((m.one policy element shared context).run world state) m.backend
      (.ofElements [element] shared) context
      (m.backendRun (.ofElements [element] shared) context world state) := by
  have batch := asksOnce_batch m context world state policy accepted
  rwa [AsksOnce, Transcript.released, ← exchanges_one] at batch

theorem exchanges_primitive_of_accepted (accepted : request.fault? = none) :
    ((m.primitive request context).run world state).exchanges =
      [⟨.call m.backend (.entities request context),
        m.backendRun request context world state⟩] := by
  simp only [primitive, Dialogue.exchanges_bind, Dialogue.run_mapM_ofLogged,
    Dialogue.run_ofLogged, Dialogue.run_pure, List.append_nil,
    exchanges_submit_of_accepted m context world state accepted]

/-- The primitive form passes on what the backend reports and how it ends. -/
theorem value_primitive_of_accepted (accepted : request.fault? = none) :
    ((m.primitive request context).run world state).value =
      ((m.backendRun request context world state).made,
        (m.backendRun request context world state).ending.value) := by
  rw [← submitted_of_accepted m request context world state accepted]
  simp only [primitive, Dialogue.value_bind, Dialogue.run_mapM_ofLogged, Dialogue.run_ofLogged,
    Dialogue.run_pure, submitted, Run.made]

end

/-- Requests are checked first. One that does not meet the conditions of its operation is
refused in every form of the operation: the error is all that comes of it, nobody is asked and
nothing is reported, and the world stays as it was. Any other is put to the backend once, just
as it is, also if its batch is empty, and the backend is asked nothing else. What the form for
one element puts to it is that element in lists of length one, with the arguments that all
elements share. Lists of different lengths are told of whatever else is wrong with data to be
registered. -/
theorem requests_checked_then_put_once (m : Manager V) (context : Context V.State)
    (world : World V σ) (state : σ) :
    (∀ (op : Operation) (request : Request op),
      (¬ request.Valid → ∃ message,
        (m.primitive request context).run world state =
          ⟨([], .error (.inputValidation message)), state, [], []⟩ ∧
        ∀ policy, (m.batch policy request context).run world state =
          ⟨.error (.inputValidation message), state, [], []⟩) ∧
      (request.Valid → ∃ run : Run (op.Payload V.Pager),
        ((m.primitive request context).run world state).value = (run.made, run.ending.value) ∧
        ((m.primitive request context).run world state).exchanges =
          [⟨.call m.backend (.entities request context), run⟩] ∧
        ∀ policy, AsksOnce ((m.batch policy request context).run world state) m.backend request
          context run)) ∧
    (∀ (op : Operation) (element : op.Element) (shared : op.Shared),
      let request := Request.ofElements [element] shared
      (request.elements = [element] ∧ request.shared = shared ∧
        ∀ length ∈ request.lengths, length = 1) ∧
      (¬ request.Valid → ∃ message, ∀ policy,
        (m.one policy element shared context).run world state =
          ⟨.error (.inputValidation message), state, [], []⟩) ∧
      (request.Valid → ∃ run, ∀ policy,
        AsksOnce ((m.one policy element shared context).run world state) m.backend request
          context run)) ∧
    ∀ references datas access, references.length ≠ datas.length →
      let request : Request .register := .register references datas access
      let message := "Parameter lists must be of the same length: " ++
        toString references.length ++ " entity references vs. " ++ toString datas.length ++
          " traits datas."
      (m.primitive request context).run world state =
        ⟨([], .error (.inputValidation message)), state, [], []⟩ ∧
      ∀ policy, (m.batch policy request context).run world state =
        ⟨.error (.inputValidation message), state, [], []⟩ := by
  refine ⟨fun op request => ⟨?_, ?_⟩, fun op element shared => ⟨⟨?_, ?_, ?_⟩, ?_, ?_⟩, ?_⟩
  · intro invalid
    obtain ⟨fault, refused⟩ := Request.exists_fault invalid
    exact ⟨fault.message, run_primitive_of_fault m context world state refused,
      fun policy => run_batch_of_fault m context world state policy refused⟩
  · intro valid
    have accepted := Request.fault?_eq_none_iff.mpr valid
    exact ⟨m.backendRun request context world state,
      value_primitive_of_accepted m context world state accepted,
      exchanges_primitive_of_accepted m context world state accepted,
      fun policy => asksOnce_batch m context world state policy accepted⟩
  · exact Request.elements_ofElements [element] shared
  · exact Request.shared_ofElements [element] shared
  · exact Request.lengths_ofElements [element] shared
  · intro invalid
    obtain ⟨fault, refused⟩ := Request.exists_fault invalid
    exact ⟨fault.message, fun policy => run_one_of_fault m context world state policy refused⟩
  · intro valid
    have accepted := Request.fault?_eq_none_iff.mpr valid
    exact ⟨_, fun policy => asksOnce_one m context world state policy accepted⟩
  · intro references datas access uneven
    have refused := Request.fault?_register_of_uneven uneven access
    simp only [← Request.toError_unevenLists]
    exact ⟨run_primitive_of_fault m context world state refused,
      fun policy => run_batch_of_fault m context world state policy refused⟩

end Manager

namespace Rehearsal

/-- A stage with one backend, which leaves resolving out. -/
def sparseStage : Stage :=
  { Stage.empty with backends := [⟨{ noProfile with leftOut := ["resolve"] }, .empty⟩] }

/-- A request about no entity. -/
def emptyResolution : Request .resolve := .resolve [] .empty ⟨.read, by decide⟩

/-- A request with less data than references, and with data of different traits. -/
def unevenPublication : Request .register :=
  .register [⟨"a"⟩, ⟨"b"⟩, ⟨"c"⟩] [.ofTraits ["shot"], .ofTraits ["image"]]
    ⟨.createRelated, by decide⟩

/-- An entity with what is intended for it. -/
def intention : Operation.preflight.Element := (⟨"a"⟩, frame)

end Rehearsal

namespace Manager

/-- A request about nothing reaches a backend that cannot answer it, a request with two faults
reaches none, and what is intended for one entity reaches it in lists of length one. -/
theorem empty_resolution_put_once :
    let resolved := (Rehearsal.manager.batch .inPlace Rehearsal.emptyResolution {}).run
      Rehearsal.world Rehearsal.sparseStage
    Rehearsal.emptyResolution.Valid ∧ ¬ Rehearsal.unevenPublication.Valid ∧
    resolved.value = .error (Call.notImplemented "resolve" .resolution) ∧
    (∃ run, AsksOnce resolved 1 Rehearsal.emptyResolution {} run) ∧
    (Rehearsal.manager.batch .raised Rehearsal.unevenPublication {}).run Rehearsal.world
        Rehearsal.sparseStage =
      ⟨.error (.inputValidation ("Parameter lists must be of the same length: " ++ toString 3 ++
        " entity references vs. " ++ toString 2 ++ " traits datas.")),
        Rehearsal.sparseStage, [], []⟩ ∧
    ∃ run, AsksOnce ((Rehearsal.manager.one .raised Rehearsal.intention Rehearsal.toWrite {}).run
      Rehearsal.world Rehearsal.sparseStage) 1
        (.preflight [⟨"a"⟩] [Rehearsal.frame] Rehearsal.toWrite) {} run := by
  intro resolved
  obtain ⟨batches, ones, uneven⟩ := requests_checked_then_put_once Rehearsal.manager {}
    Rehearsal.world Rehearsal.sparseStage
  obtain ⟨run, _, _, once⟩ := (batches _ Rehearsal.emptyResolution).2 trivial
  obtain ⟨_, _, reaches⟩ := ones .preflight Rehearsal.intention Rehearsal.toWrite
  obtain ⟨answer, hinted⟩ := reaches rfl
  exact ⟨trivial, fun valid => absurd valid.1 (by decide), rfl, ⟨run, once .inPlace⟩,
    (uneven _ _ _ (by decide)).2 .raised, answer, hinted .raised⟩

end Manager

end AssetBroker
