import AssetBroker.Factory
import AssetBroker.Proofs.History
import AssetBroker.Proofs.Lookups
import AssetBroker.Proofs.Transcript
import AssetBroker.Rehearsal.Performance

/-! What is left of a history of registrations: for each identifier the constructor that was
registered last. Backends are made by it alone, be it to manage or only to be asked about
themselves; and asking about managers sets none of them up. -/
namespace AssetBroker

variable {V : Vendor} {σ α : Type}

/-- The constructor that a query makes a backend by. -/
def Query.constructor? : Query V → Option V.Constructor
  | .construct constructor => some constructor
  | .call .. | .page .. | .release _ => none

/-- The backend that a query sets up, with the settings. -/
def Query.setUp? : Query V → Option (V.Backend × InfoDictionary)
  | .call backend (.setUp settings) => some (backend, settings)
  | _ => none

/-- The constructors that backends were made by, in order. -/
def Transcript.constructed (transcript : Transcript V σ α) : List V.Constructor :=
  transcript.exchanges.filterMap fun exchange => exchange.1.constructor?

/-- The backends that were set up, each with the settings, in order. -/
def Transcript.setUps (transcript : Transcript V σ α) : List (V.Backend × InfoDictionary) :=
  transcript.exchanges.filterMap fun exchange => exchange.1.setUp?

theorem setUps_bind {β : Type} (d : Dialogue V α) (next : α → Dialogue V β) (world : World V σ)
    (state : σ) :
    ((d >>= next).run world state).setUps = (d.run world state).setUps ++
      ((next (d.run world state).value).run world (d.run world state).state).setUps := by
  simp only [Transcript.setUps, Dialogue.exchanges_bind, List.filterMap_append]

/-- In a state, a world answers a query so, and is then in the next state. -/
def World.Answers (world : World V σ) (query : Query V) (state : σ) (answer : query.Answer)
    (next : σ) : Prop :=
  (world.answer query state).1.value = answer ∧ (world.answer query state).2 = next

namespace Registry

/-! ### Histories of registrations -/

/-- The registry that registrations lead to, the earliest first. -/
def ofHistory (history : List (String × V.Constructor)) : Registry V :=
  history.foldl (fun r entry => r.register entry.1 entry.2) empty

/-- A constructor that was registered for an identifier, with none after it. -/
def LastFor (history : List (String × V.Constructor)) (identifier : String)
    (constructor : V.Constructor) : Prop :=
  InForce (fun entry => entry.1 = identifier) history (identifier, constructor)

theorem ofHistory_concat (history : List (String × V.Constructor))
    (last : String × V.Constructor) :
    ofHistory (history ++ [last]) = (ofHistory history).register last.1 last.2 :=
  List.foldl_concat ..

theorem get?_ofHistory {history : List (String × V.Constructor)} {identifier : String}
    {constructor : V.Constructor} :
    (ofHistory history).constructors.get? identifier = some constructor ↔
      LastFor history identifier constructor := by
  induction history using List.reverseRecOn with
  | nil =>
    constructor
    · intro found
      cases found
    · intro last
      exact absurd last not_inForce_nil
  | append_singleton earlier last ih =>
    obtain ⟨registered, made⟩ := last
    rw [LastFor, inForce_concat, ofHistory_concat, register, Dictionary.get?_insert, ← LastFor,
      ← ih]
    by_cases same : identifier = registered
    · simp [same]
    · simp [same, Ne.symm same]

theorem exists_lastFor_iff {history : List (String × V.Constructor)} {identifier : String} :
    (∃ constructor, LastFor history identifier constructor) ↔
      ∃ constructor, (identifier, constructor) ∈ history := by
  constructor
  · rintro ⟨constructor, last⟩
    exact ⟨constructor, last.mem⟩
  · rintro ⟨constructor, member⟩
    induction history using List.reverseRecOn with
    | nil => cases member
    | append_singleton earlier last ih =>
      obtain ⟨registered, made⟩ := last
      by_cases same : registered = identifier
      · exact ⟨made, inForce_concat.mpr (.inl (by rw [same]))⟩
      · have before : (identifier, constructor) ∈ earlier := by
          simpa [Ne.symm same] using member
        obtain ⟨constructor, last⟩ := ih before
        exact ⟨constructor, inForce_concat.mpr (.inr ⟨same, last⟩)⟩

theorem mem_identifiers_iff {r : Registry V} {identifier : String} :
    identifier ∈ r.identifiers ↔
      ∃ constructor, r.constructors.get? identifier = some constructor := by
  rw [identifiers, Dictionary.mem_keys_iff, Option.isSome_iff_exists]

/-! ### Making backends -/

section

variable {r : Registry V} {identifier : String} {constructor : V.Constructor}
  (world : World V σ) (state : σ)

theorem run_instantiate_of_registered
    (found : r.constructors.get? identifier = some constructor) :
    let made := world.answer (.construct constructor) state
    (r.instantiate identifier).run world state =
      ⟨.ok made.1.value, made.2, made.1.events, [⟨.construct constructor, made.1.value⟩]⟩ := by
  intro made
  have run : (r.instantiate identifier).run world state =
      ⟨.ok made.1.value, made.2, made.1.events ++ [],
        [⟨.construct constructor, made.1.value⟩]⟩ := by
    rw [instantiate, found]
    rfl
  rw [run, List.append_nil]

theorem run_instantiate_of_unknown (absent : r.constructors.get? identifier = none) :
    (r.instantiate identifier).run world state =
      ⟨.error (.inputValidation (unknownMessage identifier)), state, [], []⟩ := by
  rw [instantiate, absent]
  rfl

/-- Making a manager is making its backend. -/
theorem run_createManager :
    let made := (r.instantiate identifier).run world state
    (r.createManager identifier).run world state =
      ⟨made.value.map fun backend => { backend }, made.state, made.log, made.exchanges⟩ := by
  intro made
  simp only [createManager, Dialogue.bind_eq, Dialogue.run_bind, Dialogue.run_pure,
    List.append_nil, made]

theorem run_createManager_of_registered
    (found : r.constructors.get? identifier = some constructor) :
    let made := world.answer (.construct constructor) state
    (r.createManager identifier).run world state =
      ⟨.ok { backend := made.1.value }, made.2, made.1.events,
        [⟨.construct constructor, made.1.value⟩]⟩ := by
  intro made
  have created : (r.createManager identifier).run world state = _ := run_createManager world state
  rw [run_instantiate_of_registered world state found] at created
  exact created

theorem run_createManager_of_unknown (absent : r.constructors.get? identifier = none) :
    (r.createManager identifier).run world state =
      ⟨.error (.inputValidation (unknownMessage identifier)), state, [], []⟩ := by
  have created : (r.createManager identifier).run world state = _ := run_createManager world state
  rw [run_instantiate_of_unknown world state absent] at created
  exact created

end

/-! ### Asking all managers -/

/-- How managers are asked about themselves, one after another: a backend is made for each, which
shows who it is and is asked what it says of itself. -/
inductive Survey (world : World V σ) (chosen : String → V.Constructor → Prop) :
    List String → σ → List (String × ManagerDetails) → List (Exchange V) → σ → Prop
  | done (state : σ) : Survey world chosen [] state [] [] state
  | next {identifier : String} {identifiers : List String} {constructor : V.Constructor}
      {backend : V.Backend} {info : InfoDictionary} {state made told final : σ}
      {found : List (String × ManagerDetails)} {exchanges : List (Exchange V)}
      (registered : chosen identifier constructor)
      (construction : world.Answers (.construct constructor) state backend made)
      (inquiry : world.Answers (.call backend .info) made info told)
      (rest : Survey world chosen identifiers told found exchanges final) :
      Survey world chosen (identifier :: identifiers) state
        ((identifier, ⟨world.identity backend made, info⟩) :: found)
        (⟨.construct constructor, backend⟩ :: ⟨.call backend .info, info⟩ :: exchanges) final

section

variable {world : World V σ} {chosen : String → V.Constructor → Prop} {identifiers : List String}
  {state final : σ} {found : List (String × ManagerDetails)} {exchanges : List (Exchange V)}

theorem Survey.keys (survey : Survey world chosen identifiers state found exchanges final) :
    found.map Prod.fst = identifiers := by
  induction survey with
  | done => rfl
  | next _ _ _ _ ih => rw [List.map_cons, ih]

theorem Survey.no_setUp (survey : Survey world chosen identifiers state found exchanges final) :
    (exchanges.filterMap fun exchange => exchange.1.setUp?) = [] := by
  induction survey with
  | done => rfl
  | next _ _ _ _ ih => exact ih

end

variable (world : World V σ)

theorem gather_surveys (r : Registry V) {identifiers : List String}
    (known : ∀ identifier ∈ identifiers, identifier ∈ r.identifiers)
    (details : Dictionary ManagerDetails) (state : σ) :
    let gathered := (r.gather details identifiers).run world state
    ∃ found, Survey world (fun identifier constructor =>
        r.constructors.get? identifier = some constructor)
        identifiers state found gathered.exchanges gathered.state ∧
      gathered.value = .ok (found.foldl (fun d entry => d.insert entry.1 entry.2) details) := by
  intro gathered
  induction identifiers generalizing details state with
  | nil => exact ⟨[], .done state, rfl⟩
  | cons identifier rest ih =>
    obtain ⟨constructor, registered⟩ :=
      mem_identifiers_iff.mp (known identifier List.mem_cons_self)
    let made := world.answer (.construct constructor) state
    let backend : V.Backend := made.1.value
    let told := world.answer (.call backend .info) made.2
    let answered : ManagerDetails := ⟨world.identity backend made.2, told.1.value⟩
    let later := (r.gather (details.insert identifier answered) rest).run world told.2
    obtain ⟨found, survey, value⟩ := ih (fun other member => known other
      (List.mem_cons_of_mem identifier member)) (details.insert identifier answered) told.2
    have step : gathered.value = later.value ∧ gathered.state = later.state ∧
        gathered.exchanges = ⟨.construct constructor, backend⟩ ::
          ⟨.call backend .info, told.1.value⟩ :: later.exchanges := by
      simp only [gathered, gather, Dialogue.value_bind, Dialogue.state_bind,
        Dialogue.exchanges_bind, run_instantiate_of_registered world state registered]
      exact ⟨rfl, rfl, rfl⟩
    rw [step.1, step.2.1, step.2.2]
    exact ⟨_, .next registered ⟨rfl, rfl⟩ ⟨rfl, rfl⟩ survey, value⟩

theorem availableManagers_surveys (r : Registry V) (state : σ) :
    let available := r.availableManagers.run world state
    ∃ details, available.value = .ok details ∧ details.keys = r.identifiers ∧
      Survey world (fun identifier constructor =>
        r.constructors.get? identifier = some constructor)
        r.identifiers state details.entries available.exchanges available.state := by
  intro available
  obtain ⟨found, survey, value⟩ := gather_surveys world r (fun _ member => member) .empty state
  have keys : found.map Prod.fst = r.identifiers := survey.keys
  have ascending : found.Pairwise fun a b => a.1 < b.1 :=
    List.pairwise_map.mp (keys ▸ r.constructors.keys_ascending)
  have listed := Dictionary.ofList_entries (⟨found, ascending⟩ : Dictionary ManagerDetails)
  exact ⟨⟨found, ascending⟩, value.trans (congrArg Except.ok listed), keys, survey⟩

theorem setUps_availableManagers (r : Registry V) (state : σ) :
    (r.availableManagers.run world state).setUps = [] := by
  obtain ⟨_, _, _, survey⟩ := availableManagers_surveys world r state
  exact survey.no_setUp

/-- Asks all managers about themselves, so many times. -/
def surveys (r : Registry V) : Nat → Dialogue V Unit
  | 0 => return ()
  | n + 1 => do
    let _ ← r.availableManagers
    r.surveys n

theorem setUps_surveys (r : Registry V) (n : Nat) (state : σ) :
    ((r.surveys n).run world state).setUps = [] := by
  induction n generalizing state with
  | zero => rfl
  | succ n ih => rw [surveys, setUps_bind, setUps_availableManagers, ih, List.append_nil]

/-- After any history of registrations, the identifiers are those registered, each once and in
ascending order. For each of them a backend, and with it a manager that keeps nothing, is made by
the constructor registered last, and for all others there is an error and nothing happens. Asking
about the managers succeeds, with one entry for each identifier: what a backend made by the last
constructor says of itself. However often this is done, no backend is set up, and managers are
made as before: by the same constructor or not at all, and the same ones if it makes the same
backend. -/
theorem registry_goes_by_last_registration (history : List (String × V.Constructor))
    (world : World V σ) (state : σ) :
    let r := ofHistory history
    (r.identifiers.Pairwise (· < ·) ∧
      (∀ id, id ∈ r.identifiers ↔ ∃ constructor, (id, constructor) ∈ history) ∧
      ∀ id, id ∈ r.identifiers ↔ ∃ constructor, LastFor history id constructor) ∧
    (∀ id, id ∉ r.identifiers →
      let refused := Error.inputValidation
        ("Could not instantiate manager '" ++ id ++ "': no such manager is registered.")
      (r.instantiate id).run world state = ⟨.error refused, state, [], []⟩ ∧
        (r.createManager id).run world state = ⟨.error refused, state, [], []⟩) ∧
    (∀ id constructor, LastFor history id constructor → ∀ backend next,
      world.Answers (.construct constructor) state backend next →
      let instantiated := (r.instantiate id).run world state
      let created := (r.createManager id).run world state
      (instantiated.value = .ok backend ∧ instantiated.state = next ∧
        instantiated.exchanges = [⟨.construct constructor, backend⟩]) ∧
      created.value = .ok ⟨backend, none⟩ ∧ created.state = next ∧
        created.exchanges = [⟨.construct constructor, backend⟩]) ∧
    (let available := r.availableManagers.run world state
      ∃ details, available.value = .ok details ∧ details.keys = r.identifiers ∧
        Survey world (LastFor history) r.identifiers state details.entries available.exchanges
          available.state) ∧
    ∀ n id,
      let surveyed := (r.surveys n).run world state
      let created := (r.createManager id).run world state
      let later := (r.createManager id).run world surveyed.state
      surveyed.setUps = [] ∧ later.constructed = created.constructed ∧
      (later.value.map fun m => m.cachedPrefix) = (created.value.map fun m => m.cachedPrefix) ∧
      ((∀ constructor, LastFor history id constructor →
          (world.answer (.construct constructor) surveyed.state).1.value =
            (world.answer (.construct constructor) state).1.value) →
        later.value = created.value) := by
  intro r
  have unknown (id : String) (absent : id ∉ r.identifiers) :
      r.constructors.get? id = none := by
    rw [mem_identifiers_iff, ← Option.isSome_iff_exists] at absent
    exact Option.not_isSome_iff_eq_none.mp absent
  refine ⟨⟨r.constructors.keys_ascending, ?_, ?_⟩, ?_, ?_, ?_, ?_⟩
  · intro id
    simp only [mem_identifiers_iff, r, get?_ofHistory, exists_lastFor_iff]
  · intro id
    simp only [mem_identifiers_iff, r, get?_ofHistory]
  · intro id absent refused
    exact ⟨run_instantiate_of_unknown world state (unknown id absent),
      run_createManager_of_unknown world state (unknown id absent)⟩
  · rintro id constructor last backend next ⟨rfl, rfl⟩ instantiated created
    have found : r.constructors.get? id = some constructor := get?_ofHistory.mpr last
    have instantiation := run_instantiate_of_registered world state found
    have creation := run_createManager_of_registered world state found
    simp only [instantiated, created, instantiation, creation, and_self]
  · have chosen : (fun id constructor => r.constructors.get? id = some constructor) =
        LastFor history := by
      funext id constructor
      exact propext get?_ofHistory
    exact chosen ▸ availableManagers_surveys world r state
  · intro n id surveyed created later
    refine ⟨setUps_surveys world r n state, ?_⟩
    cases found : r.constructors.get? id with
    | none =>
      have run (now : σ) := run_createManager_of_unknown world now found
      simp only [created, later, Transcript.constructed, run, and_self, implies_true]
    | some constructor =>
      have run (now : σ) := run_createManager_of_registered world now found
      simp only [created, later, Transcript.constructed, run]
      refine ⟨rfl, rfl, fun alike => ?_⟩
      rw [alike constructor (get?_ofHistory.mp found)]

/-- A constructor is not used once another is registered for its identifier, also after all
managers have been asked about themselves twice. -/
theorem replaced_constructor_not_used :
    let named (name : String) : Rehearsal.Profile :=
      { Rehearsal.noProfile with identity := ⟨name, name⟩ }
    let history := [("b", named "x"), ("a", named "y"), ("b", named "z")]
    let r : Registry Rehearsal.vendor := ofHistory history
    let surveyed := (r.surveys 2).run Rehearsal.world .empty
    let later := (r.createManager "b").run Rehearsal.world surveyed.state
    LastFor (V := Rehearsal.vendor) history "b" (named "z") ∧
    (∃ number, later.value = .ok ⟨number, none⟩) ∧
    later.constructed = [named "z"] ∧ surveyed.setUps = [] ∧
    ((r.createManager "c").run Rehearsal.world surveyed.state).value = .error (.inputValidation
      "Could not instantiate manager 'c': no such manager is registered.") := by
  intro named history r surveyed later
  have last : LastFor (V := Rehearsal.vendor) history "b" (named "z") :=
    ⟨[("b", named "x"), ("a", named "y")], [], rfl, by simp⟩
  obtain ⟨_, _, made, _, repeated⟩ :=
    registry_goes_by_last_registration (V := Rehearsal.vendor) history Rehearsal.world .empty
  obtain ⟨⟨_, identifiers, _⟩, unknown, made', _, _⟩ :=
    registry_goes_by_last_registration (V := Rehearsal.vendor) history Rehearsal.world
      surveyed.state
  obtain ⟨no_setUp, same, _, _⟩ := repeated 2 "b"
  obtain ⟨_, _, _, exchanges⟩ := made "b" (named "z") last (1 : Nat) _ ⟨rfl, rfl⟩
  obtain ⟨_, value, _, _⟩ := made' "b" (named "z") last _ _ ⟨rfl, rfl⟩
  have absent : "c" ∉ r.identifiers := by
    rw [identifiers]
    simp [history]
  refine ⟨last, ⟨_, value⟩, same.trans ?_, no_setUp, ?_⟩
  · simp only [Transcript.constructed, exchanges]
    rfl
  · rw [(unknown "c" absent).2]
    rfl

end Registry
end AssetBroker
