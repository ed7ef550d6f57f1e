import AssetBroker.Proofs.BatchOutcomes

/-! The order of reports does not show. Two runs of a backend that end alike and make the
same reports, those on each element in the same order, have the same outcome for the caller,
make the library warn of the same reports and let it release the same pagers. -/
namespace AssetBroker.Manager

variable {V : Vendor} {σ σ₁ σ₂ : Type} {op : Operation}

section

variable (m : Manager V) (policy : ErrorPolicy) (request : Request op)
  (context : Context V.State) (world : World V σ) (state : σ)

/-- What comes with the answer to a request: the events of answering, which are logged at
once, and those in the run. -/
theorem foreignEvents_submit :
    (m.submit request context).foreignEvents world state =
      ((m.submit request context).run world state).log ++
        (m.submitted request context world state).events := by
  cases validity : request.fault? with
  | some fault =>
    rw [submitted, submit_of_fault m request context validity]
    rfl
  | none =>
    let reply := world.answer (.call m.backend (.entities request context)) state
    rw [submitted, submit_of_accepted m request context validity]
    change reply.1.events ++ Run.events reply.1.value ++ [] =
      (reply.1.events ++ []) ++ Run.events reply.1.value
    rw [List.append_nil, List.append_nil]

theorem released_submit : ((m.submit request context).run world state).released = [] := by
  cases validity : request.fault? with
  | some fault =>
    rw [submit_of_fault m request context validity]
    rfl
  | none =>
    rw [submit_of_accepted m request context validity]
    rfl

/-- The reports that a batch drops. -/
def refused : List (Report (op.Payload V.Pager)) :=
  (Collector.empty request.size).refused (m.submitted request context world state).made

theorem released_gather :
    ((m.gather request context).run world state).released =
      pagersIn op ((m.refused request context world state).map Report.outcome) := by
  rw [gather, Dialogue.released_bind, released_submit, Dialogue.released_bind,
    Dialogue.released_of_exchanges (exchanges_takeAll ..)]
  simp only [identity, refused, submitted, Run.made, Dialogue.released_bind,
    Dialogue.run_ofLogged, Dialogue.run_identityOf, Dialogue.run_pure,
    Transcript.released_of_silence, List.nil_append, List.append_nil]

/-- While it gathers, the library itself warns once of each report that it drops, and has a
word of each pager among them. -/
theorem log_gather :
    (((m.gather request context).run world state).log : Multiset Event) =
      (m.gather request context).foreignEvents world state +
        (m.refused request context world state).map (Collector.warning request.size) +
        Multiset.replicate ((m.gather request context).run world state).released.length
          Event.pagerReleased := by
  rw [released_gather]
  simp only [gather, identity, refused, submitted, foreignEvents_submit, Dialogue.log_bind,
    Dialogue.foreignEvents_bind, Dialogue.run_ofLogged, Dialogue.foreignEvents_ofLogged,
    Dialogue.run_identityOf, Dialogue.foreignEvents_identityOf, Dialogue.run_pure,
    Dialogue.foreignEvents_pure, List.append_nil, Run.events, Run.made,
    ← Multiset.coe_add, log_takeAll, Collector.events_recordAll_empty]
  abel

theorem released_conclude (gathered : Gathered V op) :
    ((conclude policy request gathered).run world state).released =
      left policy request gathered :=
  Dialogue.released_of_exchanges (exchanges_conclude policy request gathered world state)

/-- All that the library itself reports in a batch is one warning for each report that it
drops, and a word of each pager that it releases. -/
theorem ownEvents_batch :
    (m.batch policy request context).ownEvents world state =
      (m.refused request context world state).map (Collector.warning request.size) +
        Multiset.replicate ((m.batch policy request context).run world state).released.length
          Event.pagerReleased := by
  have whole : (((m.batch policy request context).run world state).log : Multiset Event) =
      (m.batch policy request context).foreignEvents world state +
        ((m.refused request context world state).map (Collector.warning request.size) +
          Multiset.replicate ((m.batch policy request context).run world state).released.length
            Event.pagerReleased) := by
    rw [batch, Dialogue.log_bind, Dialogue.foreignEvents_bind, Dialogue.released_bind,
      List.length_append, Multiset.replicate_add, released_conclude, ← Multiset.coe_add,
      ← Multiset.coe_add, log_gather, log_conclude]
    abel
  rw [Dialogue.ownEvents, whole]
  exact add_tsub_cancel_left _ _

end

section

variable {m : Manager V} {request : Request op} {context : Context V.State}
  {world₁ : World V σ₁} {state₁ : σ₁} {world₂ : World V σ₂} {state₂ : σ₂}

/-- What is the same of two runs of the backend is the same of what comes of submitting the
request, since refused requests are not put to anyone. -/
theorem submitted_congr {β : Type} (aspect : Run (op.Payload V.Pager) → β)
    (same : aspect (m.backendRun request context world₁ state₁) =
      aspect (m.backendRun request context world₂ state₂)) :
    aspect (m.submitted request context world₁ state₁) =
      aspect (m.submitted request context world₂ state₂) := by
  cases validity : request.fault? with
  | some fault =>
    rw [submitted_of_fault m request context world₁ state₁ validity,
      submitted_of_fault m request context world₂ state₂ validity]
  | none =>
    rwa [submitted_of_accepted m request context world₁ state₁ validity,
      submitted_of_accepted m request context world₂ state₂ validity]

theorem submitted_reordered
    (reordered : Report.Reordered (m.backendRun request context world₁ state₁).made
      (m.backendRun request context world₂ state₂).made) :
    Report.Reordered (m.submitted request context world₁ state₁).made
      (m.submitted request context world₂ state₂).made :=
  fun index => submitted_congr (fun run => Report.on index run.made) (reordered index)

theorem slots_gather_eq
    (reordered : Report.Reordered (m.backendRun request context world₁ state₁).made
      (m.backendRun request context world₂ state₂).made) :
    ((m.gather request context).run world₁ state₁).value.collector.slots =
      ((m.gather request context).run world₂ state₂).value.collector.slots := by
  have same := funext (submitted_reordered reordered).firstOutcome?_eq
  rw [slots_gather, slots_gather, same]

/-- There is the same to settle after both runs. -/
theorem gathered_eq
    (named : ((m.gather request context).run world₁ state₁).value.identifier =
      ((m.gather request context).run world₂ state₂).value.identifier)
    (ending : (m.backendRun request context world₁ state₁).ending.value =
      (m.backendRun request context world₂ state₂).ending.value)
    (reordered : Report.Reordered (m.backendRun request context world₁ state₁).made
      (m.backendRun request context world₂ state₂).made) :
    ((m.gather request context).run world₁ state₁).value =
      ((m.gather request context).run world₂ state₂).value := by
  have slots := slots_gather_eq reordered
  have endings := submitted_congr (fun run => run.ending.value) ending
  rw [← ending_gather, ← ending_gather] at endings
  generalize ((m.gather request context).run world₁ state₁).value = first at *
  generalize ((m.gather request context).run world₂ state₂).value = second at *
  obtain ⟨⟨_⟩, _, _⟩ := first
  obtain ⟨⟨_⟩, _, _⟩ := second
  cases slots
  cases endings
  cases named
  rfl

/-- The reports that are dropped are the same in another order. -/
theorem refused_perm
    (reordered : Report.Reordered (m.backendRun request context world₁ state₁).made
      (m.backendRun request context world₂ state₂).made) :
    (m.refused request context world₁ state₁).Perm (m.refused request context world₂ state₂) :=
  (Collector.refused_reordered _ (submitted_reordered reordered)).perm

/-- Two runs of the backend that end alike and make the same reports, those on each element
in the same order, cannot be told apart, as long as the backend goes by the same name after
both: the call has the same value, with the same error or with the same outputs and pagers
in the same places, and the library reports the same events of its own and releases the
same pagers, in whatever order. -/
theorem batch_reordered (m : Manager V) (policy : ErrorPolicy) (request : Request op)
    (context : Context V.State) (world₁ : World V σ₁) (state₁ : σ₁) (world₂ : World V σ₂)
    (state₂ : σ₂)
    (named : ((m.gather request context).run world₁ state₁).value.identifier =
      ((m.gather request context).run world₂ state₂).value.identifier)
    (ending : (m.backendRun request context world₁ state₁).ending.value =
      (m.backendRun request context world₂ state₂).ending.value)
    (reordered : Report.Reordered (m.backendRun request context world₁ state₁).made
      (m.backendRun request context world₂ state₂).made) :
    let first := (m.batch policy request context).run world₁ state₁
    let second := (m.batch policy request context).run world₂ state₂
    first.value = second.value ∧
    (m.batch policy request context).ownEvents world₁ state₁ =
      (m.batch policy request context).ownEvents world₂ state₂ ∧
    first.released.Perm second.released := by
  intro first second
  have aside := refused_perm reordered
  have same : ((m.gather request context).run world₁ state₁).value =
      ((m.gather request context).run world₂ state₂).value :=
    gathered_eq named ending reordered
  have released : first.released.Perm second.released := by
    simp only [first, second]
    rw [batch, Dialogue.released_bind, Dialogue.released_bind, released_gather,
      released_gather, released_conclude, released_conclude, same]
    exact ((aside.map _).filterMap _).append_right _
  refine ⟨?_, ?_, released⟩
  · simp only [first, second, value_batch, same]
  · rw [ownEvents_batch, ownEvents_batch, Multiset.coe_eq_coe.mpr (aside.map _)]
    exact congrArg (_ + Multiset.replicate · _) released.length_eq

end

end AssetBroker.Manager

namespace AssetBroker.Rehearsal

/-- What is related to two entities. -/
def relations : Request .getWithRelationship :=
  .getWithRelationship [⟨"a"⟩, ⟨"b"⟩] .empty ⟨.empty, 10, ⟨.read, by decide⟩⟩

/-- Pagers for the first entity, for the first entity again and for none. -/
def surplus : Replies .getWithRelationship :=
  [pure ⟨0, .ok ⟨[], none⟩⟩, pure ⟨0, .ok ⟨[], none⟩⟩, pure ⟨7, .ok ⟨[], none⟩⟩]

def earlyDenial : Replies .getWithRelationship := pure ⟨1, .error denied⟩ :: surplus

def lateDenial : Replies .getWithRelationship :=
  pure ⟨0, .ok ⟨[], none⟩⟩ :: pure ⟨1, .error denied⟩ :: surplus.tail

end AssetBroker.Rehearsal

namespace AssetBroker.Manager

theorem denied_batch_reordered :
    let early := Rehearsal.stageFor Rehearsal.earlyDenial none
    let late := Rehearsal.stageFor Rehearsal.lateDenial none
    let batch := Rehearsal.manager.batch .raised Rehearsal.relations {}
    let own : Multiset Event := {.repeatedReport 0, .strayReport 7 2, .pagerReleased,
      .pagerReleased, .pagerReleased}
    (batch.run Rehearsal.world early).value =
      (batch.run Rehearsal.world late).value ∧
    batch.ownEvents Rehearsal.world early = own ∧
    batch.ownEvents Rehearsal.world late = own ∧
    (batch.run Rehearsal.world late).released.Perm [2, 3, 1] := by
  intro early late batch own
  have named : ((Rehearsal.manager.gather Rehearsal.relations {}).run Rehearsal.world
      early).value.identifier = ((Rehearsal.manager.gather Rehearsal.relations {}).run
      Rehearsal.world late).value.identifier := by decide +kernel
  obtain ⟨value, same, perm⟩ := batch_reordered Rehearsal.manager .raised
    Rehearsal.relations {} Rehearsal.world early Rehearsal.world late
    named rfl (Report.Reordered.swap (by decide) _)
  have warnings : (Rehearsal.manager.refused Rehearsal.relations {} Rehearsal.world early).map
      (Collector.warning Rehearsal.relations.size) = [.repeatedReport 0, .strayReport 7 2] := rfl
  have released : (batch.run Rehearsal.world early).released = [2, 3, 1] := by decide +kernel
  have warned : batch.ownEvents Rehearsal.world early = own := by
    rw [ownEvents_batch, warnings, released]
    rfl
  exact ⟨value, warned, same.symm.trans warned, released ▸ perm.symm⟩

end AssetBroker.Manager
