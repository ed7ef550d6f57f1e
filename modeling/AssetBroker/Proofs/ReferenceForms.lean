import AssetBroker.Proofs.PrefixCache

/-! A manager can be asked whether a text is one of its references, for the reference or an
error, and for the reference or nothing. All three forms decide alike and ask the backend alike.
What a manager has taken for a reference it takes again until it is set up anew. -/
namespace AssetBroker

variable {V : Vendor} {σ : Type}

/-- A backend that tells references by their texts alone, whenever it is asked. -/
def World.TellsReferences (world : World V σ) (backend : V.Backend)
    (isReference : String → Bool) : Prop :=
  ∀ text state, world.reply backend (.isEntityReference text) state = isReference text

namespace Manager

/-- Whether a manager takes a text for a reference, given what its backend takes for one. -/
def accepts (m : Manager V) (isReference : String → Bool) (text : String) : Bool :=
  match m.cachedPrefix with
  | some start => startsWith text start
  | none => isReference text

/-- What passes between a manager and its backend in telling whether a text is a reference. -/
def checks (m : Manager V) (isReference : String → Bool) (text : String) : List (Exchange V) :=
  match m.cachedPrefix with
  | some _ => []
  | none => [⟨.call m.backend (.isEntityReference text), isReference text⟩]

section

variable {m : Manager V} {world : World V σ} {isReference : String → Bool}

theorem told_isEntityReference (tells : world.TellsReferences m.backend isReference)
    (text : String) (state : σ) :
    let told := (m.isEntityReference text).run world state
    told.value = m.accepts isReference text ∧ told.exchanges = m.checks isReference text := by
  intro told
  cases kept : m.cachedPrefix with
  | some start =>
    have run : told = _ := run_isEntityReference_of_kept m world state kept text
    simp only [run, accepts, checks, kept, and_self]
  | none =>
    have value : told.value = isReference text := by
      simp only [told, isEntityReference, kept]
      exact tells text state
    have exchanges : told.exchanges = _ :=
      exchanges_isEntityReference_of_none m world state kept text
    rw [exchanges, accepts, checks, kept]
    exact ⟨value, congrArg (fun answer : Bool => [(⟨.call m.backend (.isEntityReference text),
      answer⟩ : Exchange V)]) value⟩

theorem told_entityReference (tells : world.TellsReferences m.backend isReference)
    (text : String) (state : σ) :
    let made := (m.entityReference text).run world state
    made.value = (if m.accepts isReference text then .ok ⟨text⟩
      else .error (.inputValidation ("Invalid entity reference: " ++ text))) ∧
    made.exchanges = m.checks isReference text := by
  intro made
  obtain ⟨value, exchanges⟩ := told_isEntityReference tells text state
  simp only [made, entityReference, Dialogue.value_bind, Dialogue.exchanges_bind, value, exchanges]
  split
  · exact ⟨rfl, List.append_nil _⟩
  · exact ⟨rfl, List.append_nil _⟩

theorem told_entityReference? (tells : world.TellsReferences m.backend isReference)
    (text : String) (state : σ) :
    let found := (m.entityReference? text).run world state
    found.value = (if m.accepts isReference text then some ⟨text⟩ else none) ∧
    found.exchanges = m.checks isReference text := by
  intro found
  obtain ⟨value, exchanges⟩ := told_isEntityReference tells text state
  simp only [found, entityReference?, Dialogue.value_bind, Dialogue.exchanges_bind, value,
    exchanges]
  split
  · exact ⟨rfl, List.append_nil _⟩
  · exact ⟨rfl, List.append_nil _⟩

end

/-- At any point of a session with a backend that tells references by their texts, the three
forms agree on every text, whenever they are asked: the text itself is wrapped or none is. Each
form asks the backend once if no start of references is kept, and never otherwise. A text that
was wrapped is wrapped again at any later point before the next set-up. -/
theorem reference_forms_agree_and_stay_valid (backend : V.Backend) (actions : List (Action V))
    (world : World V σ) (state : σ) (isReference : String → Bool)
    (tells : world.TellsReferences backend isReference) :
    let fresh : Manager V := { backend }
    let m := ((fresh.performAll actions).run world state).value
    (∀ text (first second third : σ),
      let told := (m.isEntityReference text).run world first
      let made := (m.entityReference text).run world second
      let found := (m.entityReference? text).run world third
      let checks : List (Exchange V) := match m.cachedPrefix with
        | some _ => []
        | none => [⟨.call backend (.isEntityReference text), isReference text⟩]
      ((∃ reference, made.value = .ok reference) ↔ told.value = true) ∧
      (found.value.isSome = true ↔ told.value = true) ∧
      (∀ reference, made.value = .ok reference → reference.text = text) ∧
      (∀ reference, found.value = some reference → reference.text = text) ∧
      (told.value = false → found.value = none ∧
        made.value = .error (.inputValidation ("Invalid entity reference: " ++ text))) ∧
      told.exchanges = checks ∧ made.exchanges = checks ∧ found.exchanges = checks) ∧
    ∀ text (reference : EntityReference) (first since : σ),
      ((m.entityReference text).run world first).value = .ok reference ∨
        ((m.entityReference? text).run world first).value = some reference →
      ∀ later : List (Action V), (∀ action ∈ later, action.isSetUp = false) →
        let reached := (m.performAll later).run world since
        ((reached.value.entityReference reference.text).run world reached.state).value =
            .ok reference ∧
          ((reached.value.entityReference? reference.text).run world reached.state).value =
            some reference := by
  intro fresh m
  have same : m.backend = backend := backend_performAll fresh world state actions
  have tells : world.TellsReferences m.backend isReference := same ▸ tells
  constructor
  · intro text first second third told made found checks
    obtain ⟨told_value, told_checks⟩ := told_isEntityReference tells text first
    obtain ⟨made_value, made_checks⟩ := told_entityReference tells text second
    obtain ⟨found_value, found_checks⟩ := told_entityReference? tells text third
    have checks_eq : m.checks isReference text = checks := by rw [Manager.checks, same]
    rw [checks_eq] at told_checks made_checks found_checks
    simp only [told, made, found, told_value, made_value, found_value]
    cases m.accepts isReference text with
    | true => simp [told_checks, made_checks, found_checks]
    | false => simp [told_checks, made_checks, found_checks]
  · intro text reference first since wrapped later quiet reached
    have unchanged : reached.value = m := value_performAll_of_quiet m world since quiet
    have accepted : m.accepts isReference text = true ∧ reference = ⟨text⟩ := by
      rw [(told_entityReference tells text first).1, (told_entityReference? tells text first).1]
        at wrapped
      cases taken : m.accepts isReference text with
      | true => simpa [taken, eq_comm] using wrapped
      | false => simp [taken] at wrapped
    obtain ⟨taken, rfl⟩ := accepted
    rw [unchanged, (told_entityReference tells text _).1, (told_entityReference? tells text _).1,
      taken]
    exact ⟨rfl, rfl⟩

end Manager
end AssetBroker

namespace AssetBroker.Rehearsal

/-- A manager whose backends all tell references by one start, whatever else becomes of them. -/
def steadyWorld (start : String) : World vendor Stage where
  identity := world.identity
  answer
    | .call _ (.isEntityReference text), stage =>
      (⟨start.toList.isPrefixOf text.toList, []⟩, stage)
    | query, stage => answer query stage

end AssetBroker.Rehearsal

namespace AssetBroker.Manager

/-- A backend may advertise another start than the one it tells references by. Before the set-up
its own decision counts, and after it the advertised start. -/
theorem advertised_start_overrules_backend :
    let fresh : Manager Rehearsal.vendor := ⟨1, none⟩
    let world := Rehearsal.steadyWorld "x://"
    let setUp := (fresh.performAll [.setUp .empty]).run world Rehearsal.advertisingStage
    let m := setUp.value
    let early := (fresh.entityReference? "x://a").run world Rehearsal.advertisingStage
    let refused := (m.entityReference "x://a").run world setUp.state
    let flushed := (m.performAll [.flushCaches]).run world setUp.state
    early.value = some ⟨"x://a"⟩ ∧
    early.exchanges = [⟨.call 1 (.isEntityReference "x://a"), true⟩] ∧
    refused.value = .error (.inputValidation "Invalid entity reference: x://a") ∧
    refused.exchanges = [] ∧
    ((m.entityReference "mock://a").run world setUp.state).value = .ok ⟨"mock://a"⟩ ∧
    ((flushed.value.entityReference "mock://a").run world flushed.state).value =
      .ok ⟨"mock://a"⟩ := by
  intro fresh world setUp m early refused flushed
  have tells : world.TellsReferences 1 fun text => "x://".toList.isPrefixOf text.toList :=
    fun _ _ => rfl
  obtain ⟨_, _, _, _, _, _, _, asked⟩ := (reference_forms_agree_and_stay_valid (1 : Nat) [] world
    Rehearsal.advertisingStage _ tells).1 "x://a" Rehearsal.advertisingStage
    Rehearsal.advertisingStage Rehearsal.advertisingStage
  obtain ⟨agree, stay⟩ := reference_forms_agree_and_stay_valid (1 : Nat) [.setUp .empty] world
    Rehearsal.advertisingStage _ tells
  obtain ⟨_, _, _, _, refuses, _, silent, _⟩ := agree "x://a" setUp.state setUp.state setUp.state
  have made : ((m.entityReference "mock://a").run world setUp.state).value = .ok ⟨"mock://a"⟩ := rfl
  have quiet : ∀ action ∈ [Action.flushCaches (V := Rehearsal.vendor)],
      action.isSetUp = false := by simp [Action.isSetUp]
  obtain ⟨again, _⟩ := stay "mock://a" ⟨"mock://a"⟩ setUp.state setUp.state (.inl made) _ quiet
  exact ⟨rfl, asked, (refuses rfl).2, silent, made, again⟩

end AssetBroker.Manager
