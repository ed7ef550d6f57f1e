import AssetBroker.Proofs.Session
import AssetBroker.Proofs.SetUp
import AssetBroker.Rehearsal.Performance

/-! What a manager keeps of the start of its references. At any point of a session it is what
the backend advertised in the last set-up, if that was complete, and nothing otherwise. -/
namespace AssetBroker.Manager

variable {V : Vendor} {σ : Type}

section

variable (m : Manager V) (world : World V σ) (state : σ)

theorem backend_perform (action : Action V) :
    ((m.perform action).run world state).value.backend = m.backend := by
  cases action with
  | setUp settings =>
    rw [perform, Dialogue.value_bind, Dialogue.run_pure]
    exact backend_setUp m world state settings
  | _ => rw [value_perform_of_not_setUp m world state rfl]

/-- The backend stays the same throughout a session. -/
theorem backend_performAll (actions : List (Action V)) :
    ((m.performAll actions).run world state).value.backend = m.backend := by
  induction actions generalizing m state with
  | nil => rfl
  | cons action rest ih =>
    rw [performAll_cons, Dialogue.value_bind, ih, backend_perform]

/-- What a session leaves of a manager is what its last set-up leaves of it. -/
theorem value_performAll_of_last_setUp (earlier later : List (Action V))
    (settings : InfoDictionary) (quiet : ∀ action ∈ later, action.isSetUp = false) :
    let before := (m.performAll earlier).run world state
    ((m.performAll (earlier ++ .setUp settings :: later)).run world state).value =
      ((before.value.setUp settings).run world before.state).value.2 := by
  intro before
  rw [performAll_append, Dialogue.value_bind, performAll_cons, Dialogue.value_bind,
    value_performAll_of_quiet _ _ _ quiet, perform, Dialogue.value_bind, Dialogue.run_pure]

theorem cachedPrefix_of_last_setUp (earlier later : List (Action V))
    (settings : InfoDictionary) (quiet : ∀ action ∈ later, action.isSetUp = false)
    (start : String) :
    let before := (m.performAll earlier).run world state
    let setUp := (before.value.setUp settings).run world before.state
    ((m.performAll (earlier ++ .setUp settings :: later)).run world state).value.cachedPrefix =
        some start ↔
      setUp.value.1 = .ok () ∧ ∃ info : InfoDictionary,
        (⟨.call m.backend .info, info⟩ : Exchange V) ∈ setUp.exchanges ∧
          info.get? "entityReferencesMatchPrefix" = some (.text start) := by
  intro before setUp
  have same : before.value.backend = m.backend := backend_performAll m world state earlier
  have course := setUp_course before.value world before.state settings
  rw [same] at course
  rw [value_performAll_of_last_setUp m world state earlier later settings quiet]
  exact course.kept_eq_some_iff start

/-- A kept start of references decides by itself, byte by byte. -/
theorem run_isEntityReference_of_kept {start : String} (kept : m.cachedPrefix = some start)
    (text : String) :
    (m.isEntityReference text).run world state =
      ⟨startsWith text start, state, [], []⟩ := by
  rw [isEntityReference, kept]
  rfl

/-- As long as no start of references is kept, the backend decides. -/
theorem exchanges_isEntityReference_of_none (kept : m.cachedPrefix = none) (text : String) :
    ((m.isEntityReference text).run world state).exchanges =
      [⟨.call m.backend (.isEntityReference text),
        ((m.isEntityReference text).run world state).value⟩] := by
  rw [isEntityReference, kept]
  rfl

end

/-- At any point of a session, a manager keeps what its backend advertised in the last set-up,
if there was one and it went to the end, and nothing otherwise; every set-up goes one of three
ways. As long as a start of references is kept, references are told by it and the backend
is not asked; otherwise the backend is asked once for each. -/
theorem session_keeps_last_advertised_prefix (backend : V.Backend) (actions : List (Action V))
    (world : World V σ) (state : σ) :
    let fresh : Manager V := { backend }
    let reached := (fresh.performAll actions).run world state
    (∀ start, reached.value.cachedPrefix = some start ↔
      ∃ earlier settings later, actions = earlier ++ .setUp settings :: later ∧
        (∀ action ∈ later, action.isSetUp = false) ∧
        let before := (fresh.performAll earlier).run world state
        let setUp := (before.value.setUp settings).run world before.state
        setUp.value.1 = .ok () ∧ ∃ info : InfoDictionary,
          (⟨.call backend .info, info⟩ : Exchange V) ∈ setUp.exchanges ∧
            info.get? "entityReferencesMatchPrefix" = some (.text start)) ∧
    (∀ settings,
      let setUp := (reached.value.setUp settings).run world reached.state
      SetUpCourse backend settings (world.identity backend setUp.state).identifier
        setUp.exchanges setUp.value.1 setUp.value.2.cachedPrefix) ∧
    (∀ action : Action V, action.isSetUp = false →
      ((reached.value.perform action).run world reached.state).value = reached.value) ∧
    ∀ text,
      let told := (reached.value.isEntityReference text).run world reached.state
      match reached.value.cachedPrefix with
      | some start => told.exchanges = [] ∧ told.state = reached.state ∧
          (told.value = true ↔
            start.toByteArray.data.toList <+: text.toByteArray.data.toList)
      | none => told.exchanges = [⟨.call backend (.isEntityReference text), told.value⟩] := by
  intro fresh reached
  have same : reached.value.backend = backend := backend_performAll fresh world state actions
  refine ⟨?_, ?_, ?_, ?_⟩
  · intro start
    constructor
    · intro kept
      rcases Action.exists_last_setUp actions with quiet | ⟨earlier, settings, later, rfl, quiet⟩
      · have unchanged : reached.value = fresh := value_performAll_of_quiet _ _ _ quiet
        rw [unchanged] at kept
        cases kept
      · have advertised := (cachedPrefix_of_last_setUp fresh world state earlier later settings
          quiet start).mp kept
        exact ⟨earlier, settings, later, rfl, quiet, advertised⟩
    · rintro ⟨earlier, settings, later, rfl, quiet, advertised⟩
      exact (cachedPrefix_of_last_setUp fresh world state earlier later settings quiet
        start).mpr advertised
  · intro settings
    have course := setUp_course reached.value world reached.state settings
    rwa [same] at course
  · intro action quiet
    exact value_perform_of_not_setUp _ _ _ quiet
  · intro text told
    cases kept : reached.value.cachedPrefix with
    | some start =>
      have run : told = _ := run_isEntityReference_of_kept _ world reached.state kept text
      rw [run]
      exact ⟨rfl, rfl, List.isPrefixOf_iff_prefix⟩
    | none =>
      have exchanges := exchanges_isEntityReference_of_none _ world reached.state kept text
      rwa [same] at exchanges

end AssetBroker.Manager

namespace AssetBroker.Rehearsal

/-- A stage with one backend, which advertises what its references start with. -/
def advertisingStage : Stage :=
  { Stage.empty with
    backends := [⟨{ noProfile with
      info := .ofList [("entityReferencesMatchPrefix", .text "mock://")]
      capabilities := Capability.required
      scheme := "mock://" }, .empty⟩] }

/-- A stage with one backend, which has one of the required capabilities. -/
def incapableStage : Stage :=
  { Stage.empty with
    backends := [⟨{ noProfile with
      identity := ⟨"org.rehearsal", "Rehearsal"⟩
      capabilities := [.resolution, .managementPolicyQueries] }, .empty⟩] }

/-- A manager that accepts settings every other time. -/
def fickleWorld : World vendor (Bool × Stage) where
  identity := fun number (_, stage) => world.identity number stage
  answer
    | .call number (.setUp settings), (accepting, stage) =>
      let script := if accepting then stage.script
        else { stage.script with failure := some (pure (.unhandled "down")) }
      let (reply, stage) := answer (.call number (.setUp settings)) { stage with script }
      (reply, !accepting, stage)
    | query, (accepting, stage) =>
      let (reply, stage) := answer query stage
      (reply, accepting, stage)

end AssetBroker.Rehearsal

namespace AssetBroker.Manager

/-- A set-up that fails after one that did not leaves the backend to decide again. A backend
that lacks capabilities is told of all of them. -/
theorem refused_set_up_forgets_prefix :
    let fresh : Manager Rehearsal.vendor := ⟨1, none⟩
    let after := fun actions =>
      (fresh.performAll actions).run Rehearsal.fickleWorld (true, Rehearsal.advertisingStage)
    let once := after [.setUp .empty, .flushCaches]
    let twice := after [.setUp .empty, .flushCaches, .setUp .empty]
    once.value.cachedPrefix = some "mock://" ∧ twice.value.cachedPrefix = none ∧
    ((once.value.isEntityReference "mock://a").run Rehearsal.fickleWorld
      once.state).exchanges = [] ∧
    ((twice.value.isEntityReference "mock://a").run Rehearsal.fickleWorld
      twice.state).exchanges = [⟨.call 1 (.isEntityReference "mock://a"), true⟩] ∧
    ((fresh.setUp .empty).run Rehearsal.world Rehearsal.incapableStage).value.1 =
      .error (.configuration ("Manager implementation for 'org.rehearsal' does not support the " ++
        "required capabilities: entityReferenceIdentification, entityTraitIntrospection")) := by
  intro fresh after once twice
  obtain ⟨keeps, _, _, tells⟩ := session_keeps_last_advertised_prefix (1 : Nat)
    [.setUp .empty, .flushCaches] Rehearsal.fickleWorld (true, Rehearsal.advertisingStage)
  obtain ⟨_, _, _, asks⟩ := session_keeps_last_advertised_prefix (1 : Nat)
    [.setUp .empty, .flushCaches, .setUp .empty] Rehearsal.fickleWorld
    (true, Rehearsal.advertisingStage)
  have kept : once.value.cachedPrefix = some "mock://" :=
    (keeps "mock://").mpr ⟨[], .empty, [.flushCaches], rfl, by simp [Action.isSetUp], rfl, _,
      List.mem_of_getElem? (i := 4) rfl, rfl⟩
  exact ⟨kept, rfl, (tells "mock://a").1, asks "mock://a", by decide +kernel⟩

end AssetBroker.Manager
