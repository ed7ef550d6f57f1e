import AssetBroker.Manager.Batch
import AssetBroker.Proofs.Collecting
import AssetBroker.Proofs.Settling
import AssetBroker.Proofs.Transcript

/-! The batch form, as a function of what the backend reports. Everything up to the
settling of the slots is the same under both error policies. -/
namespace AssetBroker.Manager

variable {V : Vendor} {σ : Type} {op : Operation}

/-- What the backend makes of a request that is put to it. -/
def backendRun (m : Manager V) (request : Request op) (context : Context V.State)
    (world : World V σ) (state : σ) : Run (op.Payload V.Pager) :=
  (world.answer (.call m.backend (.entities request context)) state).1.value

section

variable (m : Manager V) (request : Request op) (context : Context V.State)
  (world : World V σ) (state : σ)

theorem submit_of_fault {fault : RequestFault} (refused : request.fault? = some fault) :
    m.submit request context = pure ⟨[], pure (.error fault.toError)⟩ := by
  rw [submit, refused]

theorem submit_of_accepted (accepted : request.fault? = none) :
    m.submit request context = m.call (.entities request context) := by
  rw [submit, accepted]

/-- What comes of submitting a request. -/
def submitted : Run (op.Payload V.Pager) := ((m.submit request context).run world state).value

theorem submitted_of_fault {fault : RequestFault} (refused : request.fault? = some fault) :
    m.submitted request context world state = ⟨[], pure (.error fault.toError)⟩ := by
  rw [submitted, submit_of_fault m request context refused]
  rfl

theorem submitted_of_accepted (accepted : request.fault? = none) :
    m.submitted request context world state = m.backendRun request context world state := by
  rw [submitted, submit_of_accepted m request context accepted]
  rfl

end

/-- The error that a batch ended with, or else what the settling of its slots results in. -/
def settled (policy : ErrorPolicy) (identifier : String) (request : Request op)
    (ending : Except Error Unit) (slots : List (Option (Outcome (op.Payload V.Pager)))) :
    Except Error (List (policy.Output (op.Payload V.Pager))) :=
  ending.bind fun _ => (policy.settleAll identifier request.errorContext slots).result

theorem pagersIn_append (op : Operation) (first rest : List (Outcome (op.Payload V.Pager))) :
    pagersIn op (first ++ rest) = pagersIn op first ++ pagersIn op rest :=
  List.filterMap_append

section Taking

variable (c : Collector (op.Payload V.Pager)) (world : World V σ) (state : σ)

theorem value_take (report : Logged (Report (op.Payload V.Pager))) :
    ((take c report).run world state).value = (c.record report.value).value := by
  simp only [take, Dialogue.value_bind, Dialogue.run_ofLogged, Dialogue.run_pure]

theorem exchanges_take (report : Logged (Report (op.Payload V.Pager))) :
    ((take c report).run world state).exchanges =
      Dialogue.releases (pagersIn op (c.dropped? report.value).toList) := by
  simp only [take, Dialogue.exchanges_bind, Dialogue.run_ofLogged, Dialogue.exchanges_releaseAll,
    Dialogue.run_pure, List.nil_append, List.append_nil]

/-- The log has the events of making the report, what there is to say against it, and a word
of its pager if that is released. -/
theorem log_take (report : Logged (Report (op.Payload V.Pager))) :
    (((take c report).run world state).log : Multiset Event) =
      (take c report).foreignEvents world state + report.events +
        (c.record report.value).events +
        Multiset.replicate (pagersIn op (c.dropped? report.value).toList).length
          Event.pagerReleased := by
  simp only [take, Dialogue.log_bind, Dialogue.foreignEvents_bind, Dialogue.run_ofLogged,
    Dialogue.foreignEvents_ofLogged, Dialogue.run_pure, Dialogue.foreignEvents_pure,
    List.append_nil, List.nil_append, ← Multiset.coe_add, Dialogue.log_releaseAll]
  abel

/-- Reports that are taken in one by one are all recorded. -/
theorem value_takeAll (reports : List (Logged (Report (op.Payload V.Pager)))) :
    ((reports.foldlM take c).run world state).value = (c.recordAll reports).value := by
  induction reports generalizing c state with
  | nil => rfl
  | cons report rest ih =>
    rw [List.foldlM_cons, Dialogue.value_bind, ih, value_take, Collector.recordAll_cons]

theorem exchanges_takeAll (reports : List (Logged (Report (op.Payload V.Pager)))) :
    ((reports.foldlM take c).run world state).exchanges = Dialogue.releases
      (pagersIn op ((c.refused (reports.map Logged.value)).map Report.outcome)) := by
  induction reports generalizing c state with
  | nil => rfl
  | cons report rest ih =>
    rw [List.foldlM_cons, Dialogue.exchanges_bind, ih, value_take, exchanges_take,
      ← Dialogue.releases_append, ← pagersIn_append, List.map_cons,
      Collector.map_outcome_refused_cons]

theorem log_takeAll (reports : List (Logged (Report (op.Payload V.Pager)))) :
    (((reports.foldlM take c).run world state).log : Multiset Event) =
      (reports.foldlM take c).foreignEvents world state + (c.recordAll reports).events +
        Multiset.replicate
          (pagersIn op ((c.refused (reports.map Logged.value)).map Report.outcome)).length
          Event.pagerReleased := by
  induction reports generalizing c state with
  | nil => rfl
  | cons report rest ih =>
    rw [List.foldlM_cons, Dialogue.log_bind, Dialogue.foreignEvents_bind, ← Multiset.coe_add,
      ← Multiset.coe_add, ih, log_take, value_take, Collector.recordAll_cons, List.map_cons,
      Collector.map_outcome_refused_cons, pagersIn_append, List.length_append,
      Multiset.replicate_add, ← Multiset.coe_add, ← Multiset.coe_add]
    abel

end Taking

section

variable (m : Manager V) (request : Request op) (context : Context V.State)
  (world : World V σ) (state : σ)

theorem value_gather :
    ((m.gather request context).run world state).value =
      let run := m.submitted request context world state
      let after := ((m.gather request context).run world state).state
      ⟨((Collector.empty request.size).recordAll run.reports).value, run.ending.value,
        (world.identity m.backend after).identifier⟩ := by
  simp only [gather, identity, submitted, Dialogue.value_bind, Dialogue.state_bind,
    value_takeAll, Dialogue.run_ofLogged, Dialogue.run_identityOf, Dialogue.run_pure]

theorem slots_gather :
    ((m.gather request context).run world state).value.collector.slots =
      (List.range request.size).map
        (Report.firstOutcome? (m.submitted request context world state).made) := by
  rw [value_gather]
  exact Collector.slots_recordAll_empty _ _

theorem ending_gather :
    ((m.gather request context).run world state).value.ending =
      (m.submitted request context world state).ending.value := by
  rw [value_gather]

end

/-- The pagers that are still the library's when a call concludes, in the order in which it
releases them. -/
def left (policy : ErrorPolicy) (request : Request op) (gathered : Gathered V op) :
    List V.Pager :=
  match gathered.ending with
  | .error _ => pagersIn op gathered.collector.stored
  | .ok () =>
    let settlement := policy.settleAll gathered.identifier request.errorContext
      gathered.collector.slots
    match settlement.stop? with
    | none => []
    | some (_, rest) => pagersIn op (rest.filterMap id) ++
        pagersIn op (settlement.outputs.map policy.outcome)

section Concluding

variable (policy : ErrorPolicy) (request : Request op) (gathered : Gathered V op)
  (world : World V σ) (state : σ)

/-- Whatever is released on the way, the outputs are settled from what was gathered. -/
theorem value_conclude :
    ((conclude policy request gathered).run world state).value =
      settled policy gathered.identifier request gathered.ending gathered.collector.slots := by
  unfold conclude settled
  cases gathered.ending with
  | error fault => simp only [Dialogue.value_bind, Dialogue.run_pure, Except.bind]
  | ok done =>
    dsimp only [Except.bind, ErrorPolicy.Settlement.result]
    cases (policy.settleAll gathered.identifier request.errorContext
        gathered.collector.slots).stop? with
    | none => rfl
    | some stop => simp only [Dialogue.value_bind, Dialogue.run_pure]

theorem exchanges_conclude :
    ((conclude policy request gathered).run world state).exchanges =
      Dialogue.releases (left policy request gathered) := by
  unfold conclude left
  cases gathered.ending with
  | error fault =>
    simp only [Dialogue.exchanges_bind, Dialogue.exchanges_releaseAll, Dialogue.run_pure,
      List.append_nil]
  | ok done =>
    dsimp only
    cases (policy.settleAll gathered.identifier request.errorContext
        gathered.collector.slots).stop? with
    | none => rfl
    | some stop =>
      simp only [Dialogue.exchanges_bind, Dialogue.exchanges_releaseAll, Dialogue.run_pure,
        List.append_nil, Dialogue.releases_append]

theorem log_conclude :
    (((conclude policy request gathered).run world state).log : Multiset Event) =
      (conclude policy request gathered).foreignEvents world state +
        Multiset.replicate (left policy request gathered).length Event.pagerReleased := by
  unfold conclude left
  cases gathered.ending with
  | error fault =>
    simp only [Dialogue.log_bind, Dialogue.foreignEvents_bind, Dialogue.run_pure,
      Dialogue.foreignEvents_pure, List.append_nil, Dialogue.log_releaseAll]
  | ok done =>
    dsimp only
    cases (policy.settleAll gathered.identifier request.errorContext
        gathered.collector.slots).stop? with
    | none => rfl
    | some stop =>
      simp only [Dialogue.log_bind, Dialogue.foreignEvents_bind, Dialogue.run_pure,
        Dialogue.foreignEvents_pure, List.append_nil, ← Multiset.coe_add,
        Dialogue.log_releaseAll, List.length_append, Multiset.replicate_add]
      abel

end Concluding

theorem value_batch (m : Manager V) (policy : ErrorPolicy) (request : Request op)
    (context : Context V.State) (world : World V σ) (state : σ) :
    ((m.batch policy request context).run world state).value =
      let gathered := ((m.gather request context).run world state).value
      settled policy gathered.identifier request gathered.ending gathered.collector.slots := by
  rw [batch, Dialogue.value_bind, value_conclude]

section

variable (m : Manager V) (policy : ErrorPolicy) {request : Request op}
  (context : Context V.State) (world : World V σ) (state : σ)

/-- The error that a batch ends with is the error of the call. -/
theorem value_batch_of_error {fault : Error}
    (failed : (m.submitted request context world state).ending.value = .error fault) :
    ((m.batch policy request context).run world state).value = .error fault := by
  have ending := (m.ending_gather request context world state).trans failed
  rw [value_batch]
  simp only [ending]
  rfl

theorem value_batch_of_fault {fault : RequestFault} (refused : request.fault? = some fault) :
    ((m.batch policy request context).run world state).value = .error fault.toError := by
  apply value_batch_of_error
  rw [submitted_of_fault m request context world state refused]
  rfl

theorem value_batch_of_failure (accepted : request.fault? = none) {fault : Error}
    (failed : (m.backendRun request context world state).ending.value = .error fault) :
    ((m.batch policy request context).run world state).value = .error fault := by
  apply value_batch_of_error
  rwa [submitted_of_accepted m request context world state accepted]

/-- Once the backend ends well, the first outcomes on the elements are settled. -/
theorem value_batch_of_success (accepted : request.fault? = none)
    (succeeded : (m.backendRun request context world state).ending.value = .ok ()) :
    ((m.batch policy request context).run world state).value =
      (policy.settleAll ((m.gather request context).run world state).value.identifier
        request.errorContext ((List.range request.size).map
          (Report.firstOutcome? (m.backendRun request context world state).made))).result := by
  have ending := m.ending_gather request context world state
  have slots := m.slots_gather request context world state
  rw [submitted_of_accepted m request context world state accepted] at ending slots
  rw [value_batch, ← slots]
  simp only [ending, succeeded]
  rfl

end

end AssetBroker.Manager
