import AssetBroker.Backend.Dialogue
import Mathlib.Algebra.Order.Group.Multiset
import Mathlib.Data.Multiset.Replicate

/-! What can be read off a transcript: the pagers that were released, and the events that
the library reported itself, as against those that came with the world's answers. -/
namespace AssetBroker

variable {V : Vendor} {σ α β : Type}

/-- The pager that a query releases. -/
def Query.released? : Query V → Option V.Pager
  | .release pager => some pager
  | .construct _ | .call .. | .page .. => none

/-- The pagers that were released, in order. -/
def Transcript.released (transcript : Transcript V σ α) : List V.Pager :=
  transcript.exchanges.filterMap fun exchange => exchange.1.released?

/-- Where nothing was asked, nothing was released. -/
@[simp] theorem Transcript.released_of_silence (value : α) (state : σ) (log : List Event) :
    (⟨value, state, log, []⟩ : Transcript V σ α).released = [] := rfl

/-- The events of making the reports of a run and its ending. -/
def Run.events (run : Run α) : List Event :=
  run.reports.flatMap Logged.events ++ run.ending.events

/-- The events that an answer holds in its parts. -/
def Query.within : (query : Query V) → query.Answer → List Event
  | .call _ (.entities ..), run => Run.events run
  | _, _ => []

/-- What a backend answers to a question. -/
def World.reply (world : World V σ) (backend : V.Backend) (question : Call V.State)
    (state : σ) : question.Answer V :=
  (world.answer (.call backend question) state).1.value

namespace Dialogue

/-- The events that came with the world's answers or in them. -/
def foreignEvents (world : World V σ) : Dialogue V α → σ → List Event
  | done _, _ => []
  | log _ rest, state => rest.foreignEvents world state
  | identify backend rest, state =>
    (rest (world.identity backend state)).foreignEvents world state
  | ask query rest, state =>
    let reply := world.answer query state
    reply.1.events ++ query.within reply.1.value ++
      (rest reply.1.value).foreignEvents world reply.2

/-- What the library adds to the log of a dialogue, in whatever order. -/
def ownEvents (world : World V σ) (d : Dialogue V α) (state : σ) : Multiset Event :=
  (d.run world state).log - d.foreignEvents world state

variable (world : World V σ) (state : σ)

@[simp] theorem run_pure (value : α) :
    (pure value : Dialogue V α).run world state = ⟨value, state, [], []⟩ := rfl

@[simp] theorem foreignEvents_pure (value : α) :
    (pure value : Dialogue V α).foreignEvents world state = [] := rfl

theorem bind_eq (d : Dialogue V α) (next : α → Dialogue V β) : d >>= next = d.bind next := rfl

section Bind

variable (d : Dialogue V α) (next : α → Dialogue V β)

@[simp] theorem value_bind : ((d >>= next).run world state).value =
    ((next (d.run world state).value).run world (d.run world state).state).value := by
  change ((d.bind next).run world state).value = _
  rw [run_bind]

@[simp] theorem state_bind : ((d >>= next).run world state).state =
    ((next (d.run world state).value).run world (d.run world state).state).state := by
  change ((d.bind next).run world state).state = _
  rw [run_bind]

@[simp] theorem log_bind : ((d >>= next).run world state).log = (d.run world state).log ++
    ((next (d.run world state).value).run world (d.run world state).state).log :=
  congrArg Transcript.log (run_bind world d next state)

@[simp] theorem exchanges_bind : ((d >>= next).run world state).exchanges =
    (d.run world state).exchanges ++
      ((next (d.run world state).value).run world (d.run world state).state).exchanges :=
  congrArg Transcript.exchanges (run_bind world d next state)

@[simp] theorem released_bind : ((d >>= next).run world state).released =
    (d.run world state).released ++
      ((next (d.run world state).value).run world (d.run world state).state).released := by
  simp only [Transcript.released, exchanges_bind, List.filterMap_append]

@[simp] theorem foreignEvents_bind : (d >>= next).foreignEvents world state =
    d.foreignEvents world state ++
      (next (d.run world state).value).foreignEvents world (d.run world state).state := by
  change (d.bind next).foreignEvents world state = _
  induction d generalizing state with
  | done value => rfl
  | log event rest ih => exact ih state
  | identify backend rest ih => exact ih _ state
  | ask query rest ih =>
    simp only [bind, foreignEvents, run, ih, List.append_assoc]

end Bind

theorem run_logAll (events : List Event) :
    (logAll events : Dialogue V Unit).run world state = ⟨(), state, events, []⟩ := by
  induction events with
  | nil => rfl
  | cons event rest ih => simp only [logAll, run, ih]

theorem foreignEvents_logAll (events : List Event) :
    (logAll events : Dialogue V Unit).foreignEvents world state = [] := by
  induction events with
  | nil => rfl
  | cons event rest ih => exact ih

@[simp] theorem run_ofLogged (logged : Logged α) :
    (ofLogged logged : Dialogue V α).run world state =
      ⟨logged.value, state, logged.events, []⟩ := by
  change ((logAll logged.events).bind fun _ => done logged.value).run world state = _
  simp only [run_bind, run_logAll, run, List.append_nil]

@[simp] theorem foreignEvents_ofLogged (logged : Logged α) :
    (ofLogged logged : Dialogue V α).foreignEvents world state = [] := by
  rw [ofLogged, foreignEvents_bind, foreignEvents_logAll]
  rfl

@[simp] theorem run_identityOf (backend : V.Backend) :
    (identityOf backend).run world state = ⟨world.identity backend state, state, [], []⟩ := rfl

@[simp] theorem foreignEvents_identityOf (backend : V.Backend) :
    (identityOf backend).foreignEvents world state = [] := rfl

/-- Beside what the world has to say, there is a word of each pager that is released. -/
theorem log_releaseAll (pagers : List V.Pager) :
    (((releaseAll pagers).run world state).log : Multiset Event) =
      (releaseAll pagers).foreignEvents world state +
        Multiset.replicate pagers.length Event.pagerReleased := by
  induction pagers generalizing state with
  | nil => rfl
  | cons pager rest ih =>
    simp only [releaseAll, run, foreignEvents, Query.within, List.append_nil, List.length_cons,
      Multiset.replicate_succ, ← Multiset.cons_coe, ← Multiset.coe_add, ih, Multiset.add_cons,
      add_assoc]

/-- What passes when pagers are released. -/
def releases (pagers : List V.Pager) : List (Exchange V) :=
  pagers.map fun pager => ⟨.release pager, ()⟩

theorem releases_append (first rest : List V.Pager) :
    releases (first ++ rest) = releases first ++ releases rest := List.map_append

theorem filterMap_releases (pagers : List V.Pager) :
    (releases pagers).filterMap (fun exchange => exchange.1.released?) = pagers := by
  rw [releases, List.filterMap_map]
  exact List.filterMap_some

theorem exchanges_releaseAll (pagers : List V.Pager) :
    ((releaseAll pagers).run world state).exchanges = releases pagers := by
  induction pagers generalizing state with
  | nil => rfl
  | cons pager rest ih =>
    exact congrArg (⟨.release pager, ()⟩ :: ·) (ih (world.answer (.release pager) state).2)

/-- Where nothing else passes, the pagers are those that are released. -/
theorem released_of_exchanges {transcript : Transcript V σ α} {pagers : List V.Pager}
    (only : transcript.exchanges = releases pagers) : transcript.released = pagers := by
  rw [Transcript.released, only, filterMap_releases]

/-- Reports that are passed on one by one are all passed on, and nobody is asked. -/
theorem run_mapM_ofLogged (logged : List (Logged α)) :
    (logged.mapM ofLogged : Dialogue V (List α)).run world state =
      ⟨logged.map Logged.value, state, logged.flatMap Logged.events, []⟩ := by
  induction logged with
  | nil => rfl
  | cons first rest ih =>
    rw [List.mapM_cons]
    simp only [bind_eq, run_bind, run_ofLogged, ih, run_pure, List.map_cons,
      List.flatMap_cons, List.append_nil]

end Dialogue
end AssetBroker
