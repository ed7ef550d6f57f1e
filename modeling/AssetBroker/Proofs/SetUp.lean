import AssetBroker.Manager
import AssetBroker.Proofs.Transcript
import Mathlib.Logic.Function.Basic

/-! How a set-up goes. The backend may refuse the settings, or lack required capabilities;
otherwise the set-up is complete, and what the backend advertises of its references is
kept. -/
namespace AssetBroker.Manager

variable {V : Vendor} {σ : Type}

/-- The capabilities that every manager must have, in the order they are checked, each with
the name that errors call it by. -/
def requirements : List (Capability × String) :=
  [(.entityReferenceIdentification, "entityReferenceIdentification"),
    (.managementPolicyQueries, "managementPolicyQueries"),
    (.entityTraitIntrospection, "entityTraitIntrospection")]

/-- What passes when a backend is asked for capabilities. -/
def inquiries (backend : V.Backend) (held : Capability → Bool)
    (capabilities : List Capability) : List (Exchange V) :=
  capabilities.map fun capability =>
    ⟨.call backend (.hasCapability capability), held capability⟩

/-- The names of the required capabilities that are not held, in the order they are checked. -/
def missing (held : Capability → Bool) : List String :=
  (requirements.filter fun requirement => !held requirement.1).map Prod.snd

/-- The ways that a set-up can go: what passes between manager and backend, what comes of it,
and what the manager then keeps of the start of its references. -/
inductive SetUpCourse (backend : V.Backend) (settings : InfoDictionary) (identifier : String) :
    List (Exchange V) → Except Error Unit → Option String → Prop
  /-- The backend does not accept the settings. -/
  | refused (fault : Error) :
      SetUpCourse backend settings identifier
        [⟨.call backend (.setUp settings), (Except.error fault : Except Error Unit)⟩]
        (.error fault) none
  /-- The backend lacks required capabilities. -/
  | incapable (held : Capability → Bool) (some_missing : missing held ≠ []) :
      SetUpCourse backend settings identifier
        (⟨.call backend (.setUp settings), (Except.ok () : Except Error Unit)⟩ ::
          inquiries backend held (requirements.map Prod.fst))
        (.error (.configuration ("Manager implementation for '" ++ identifier ++
          "' does not support the required capabilities: " ++ ", ".intercalate (missing held))))
        none
  | complete (held : Capability → Bool) (none_missing : missing held = [])
      (info : InfoDictionary) :
      SetUpCourse backend settings identifier
        (⟨.call backend (.setUp settings), (Except.ok () : Except Error Unit)⟩ ::
          inquiries backend held (requirements.map Prod.fst) ++ [⟨.call backend .info, info⟩])
        (.ok ())
        (match info.get? "entityReferencesMatchPrefix" with
          | some (.text start) => some start
          | _ => none)

theorem value_advertisedPrefix (info : InfoDictionary) :
    (advertisedPrefix info).value =
      match info.get? "entityReferencesMatchPrefix" with
      | some (.text start) => some start
      | _ => none := by
  have key : "entityReferencesMatchPrefix" = prefixKey := rfl
  rw [key, advertisedPrefix]
  cases info.get? prefixKey with
  | none => rfl
  | some held => cases held <;> rfl

theorem name_of_mem_requirements :
    ∀ requirement ∈ requirements, requirement.1.name = requirement.2 := by
  simp [requirements, Capability.name, Named.name]

theorem names_missing (held : Capability → Bool) :
    (Capability.required.filter fun capability => !held capability).map Capability.name =
      missing held := by
  change ((requirements.map Prod.fst).filter fun capability => !held capability).map _ = _
  rw [List.filter_map, List.map_map]
  exact List.map_congr_left fun requirement member =>
    name_of_mem_requirements requirement (List.mem_of_mem_filter member)

theorem lackingMessage_of_names (identifier : String) {capabilities : List Capability}
    {names : List String} (named : capabilities.map Capability.name = names) :
    lackingMessage identifier capabilities =
      "Manager implementation for '" ++ identifier ++
        "' does not support the required capabilities: " ++ ", ".intercalate names := by
  subst named
  rfl

theorem isEmpty_missing (held : Capability → Bool) :
    (Capability.required.filter fun capability => !held capability).isEmpty =
      (missing held).isEmpty := by
  change ((requirements.map Prod.fst).filter fun capability => !held capability).isEmpty = _
  rw [List.filter_map, List.isEmpty_map, missing, List.isEmpty_map]
  rfl

section

variable (m : Manager V) (world : World V σ) (state : σ)

theorem lacking_cons (capability : Capability) (rest : List Capability) :
    m.lacking (capability :: rest) = do
      let held ← m.hasCapability capability
      let others ← m.lacking rest
      return if held then others else capability :: others := rfl

/-- The backend is asked for each capability once, in order, and those are lacking that it
says it has not. -/
theorem run_lacking {capabilities : List Capability} (distinct : capabilities.Nodup) :
    ∃ held : Capability → Bool,
      ((m.lacking capabilities).run world state).value =
        capabilities.filter (fun capability => !held capability) ∧
      ((m.lacking capabilities).run world state).exchanges =
        inquiries m.backend held capabilities := by
  induction capabilities generalizing state with
  | nil => exact ⟨fun _ => true, rfl, rfl⟩
  | cons capability rest ih =>
    obtain ⟨fresh, distinct⟩ := List.nodup_cons.mp distinct
    let answer : Bool := world.reply m.backend (.hasCapability capability) state
    let next := (world.answer (.call m.backend (.hasCapability capability)) state).2
    obtain ⟨held, value, exchanges⟩ := ih next distinct
    let answers := Function.update held capability answer
    have first : answers capability = answer := Function.update_self ..
    have others (other : Capability) (member : other ∈ rest) : answers other = held other := by
      refine Function.update_of_ne ?_ _ _
      rintro rfl
      exact fresh member
    refine ⟨answers, ?_, ?_⟩
    · have later : rest.filter (fun other => !answers other) =
          rest.filter fun other => !held other :=
        List.filter_congr fun other member => by rw [others other member]
      rw [List.filter_cons, first, later, ← value, lacking_cons, Dialogue.value_bind,
        Dialogue.value_bind]
      change (if answer then _ else _) = _
      cases answer <;> rfl
    · have later : inquiries m.backend answers rest = inquiries m.backend held rest :=
        List.map_congr_left fun other member => by rw [others other member]
      have cons : inquiries m.backend answers (capability :: rest) =
          ⟨.call m.backend (.hasCapability capability), answer⟩ ::
            inquiries m.backend held rest := by
        rw [← later, ← first]
        rfl
      rw [cons, ← exchanges, lacking_cons, Dialogue.exchanges_bind, Dialogue.exchanges_bind,
        Dialogue.run_pure, List.append_nil]
      rfl

theorem exchanges_info : (m.info.run world state).exchanges =
    [⟨.call m.backend .info, (m.info.run world state).value⟩] := rfl

/-- A set-up, from where the backend has answered to the settings. -/
def proceed (m : Manager V) : Except Error Unit → Dialogue V (Except Error Unit × Manager V)
  | .error fault => return (.error fault, { m with cachedPrefix := none })
  | .ok () => do
    let missing ← m.lacking Capability.required
    if missing.isEmpty then
      let start ← Dialogue.ofLogged (advertisedPrefix (← m.info))
      return (.ok (), { m with cachedPrefix := start })
    else
      let identity ← m.identity
      return (.error (.configuration (lackingMessage identity.identifier missing)),
        { m with cachedPrefix := none })

theorem setUp_eq (settings : InfoDictionary) :
    m.setUp settings = (m.call (.setUp settings)).bind m.proceed := by
  refine congrArg (Dialogue.bind (m.call (.setUp settings))) ?_
  funext answer
  cases (answer : Except Error Unit) with
  | error fault => rfl
  | ok accepted =>
    cases accepted
    rfl

theorem proceed_course (settings : InfoDictionary) (answer : Except Error Unit) :
    let rest := (m.proceed answer).run world state
    SetUpCourse m.backend settings (world.identity m.backend rest.state).identifier
      (⟨.call m.backend (.setUp settings), answer⟩ :: rest.exchanges) rest.value.1
      rest.value.2.cachedPrefix := by
  intro rest
  cases answer with
  | error fault => exact .refused fault
  | ok accepted =>
    cases accepted
    have distinct : Capability.required.Nodup := by decide
    obtain ⟨held, lacking, exchanges⟩ := m.run_lacking world state distinct
    cases capable : (missing held).isEmpty with
    | true =>
      simp only [rest, proceed, Dialogue.value_bind, Dialogue.exchanges_bind, lacking,
        exchanges, isEmpty_missing, capable, if_true, Dialogue.run_ofLogged, Dialogue.run_pure,
        exchanges_info, value_advertisedPrefix, List.append_nil]
      exact .complete held (List.isEmpty_iff.mp capable) _
    | false =>
      simp only [rest, proceed, identity, Dialogue.value_bind, Dialogue.state_bind,
        Dialogue.exchanges_bind, lacking, exchanges, isEmpty_missing, capable,
        Bool.false_eq_true, if_false, lackingMessage_of_names _ (names_missing held),
        Dialogue.run_identityOf, Dialogue.run_pure, List.append_nil]
      exact .incapable held (List.isEmpty_eq_false_iff.mp capable)

/-- A set-up goes one of the three ways. -/
theorem setUp_course (settings : InfoDictionary) :
    let setUp := (m.setUp settings).run world state
    SetUpCourse m.backend settings (world.identity m.backend setUp.state).identifier
      setUp.exchanges setUp.value.1 setUp.value.2.cachedPrefix := by
  rw [setUp_eq]
  exact proceed_course m world _ settings (world.reply m.backend (.setUp settings) state)

theorem backend_proceed (answer : Except Error Unit) :
    ((m.proceed answer).run world state).value.2.backend = m.backend := by
  cases answer with
  | error fault => rfl
  | ok accepted =>
    cases accepted
    rw [proceed, Dialogue.value_bind]
    split
    · simp only [Dialogue.value_bind, Dialogue.run_pure]
    · simp only [Dialogue.value_bind, Dialogue.run_pure]

theorem backend_setUp (settings : InfoDictionary) :
    ((m.setUp settings).run world state).value.2.backend = m.backend := by
  rw [setUp_eq]
  exact backend_proceed m world _ _

end

/-- In a complete set-up, the backend is asked about itself once. -/
theorem info_eq_of_mem {backend : V.Backend} {settings : InfoDictionary}
    {held : Capability → Bool} {info told : InfoDictionary}
    (member : (⟨.call backend .info, told⟩ : Exchange V) ∈
      (⟨.call backend (.setUp settings), (Except.ok () : Except Error Unit)⟩ ::
        inquiries backend held (requirements.map Prod.fst) ++ [⟨.call backend .info, info⟩] :
          List (Exchange V))) : told = info := by
  rw [List.mem_append, List.mem_cons, List.mem_singleton] at member
  rcases member with (first | inquired) | last
  · cases first
  · obtain ⟨capability, _, same⟩ := List.mem_map.mp inquired
    cases same
  · cases last
    rfl

theorem text_eq_some_iff {found : Option Value} {start : String} :
    (match found with
      | some (.text held) => some held
      | _ => none) = some start ↔ found = some (.text start) := by
  constructor
  · intro told
    split at told
    · cases told
      rfl
    · cases told
  · rintro rfl
    rfl

/-- A start of references is kept just if the set-up goes to the end and the backend
advertises it on the way. -/
theorem SetUpCourse.kept_eq_some_iff {backend : V.Backend} {settings : InfoDictionary}
    {identifier : String} {exchanges : List (Exchange V)} {outcome : Except Error Unit}
    {kept : Option String}
    (course : SetUpCourse backend settings identifier exchanges outcome kept) (start : String) :
    kept = some start ↔ outcome = .ok () ∧ ∃ info : InfoDictionary,
      (⟨.call backend .info, info⟩ : Exchange V) ∈ exchanges ∧
        info.get? "entityReferencesMatchPrefix" = some (.text start) := by
  cases course with
  | refused fault => simp
  | incapable held some_missing => simp
  | complete held none_missing info =>
    rw [text_eq_some_iff]
    constructor
    · intro advertised
      exact ⟨rfl, info, List.mem_append_right _ List.mem_cons_self, advertised⟩
    · rintro ⟨-, told, member, advertised⟩
      exact info_eq_of_mem member ▸ advertised

end AssetBroker.Manager
