import AssetBroker.Proofs.ContainerHistory
import AssetBroker.Proofs.Validation

/-! Data to be registered must have the same traits throughout. The check looks at the first data
and goes by the traits alone: it refuses data for the first index that deviates from them, and no
property of any data, nor the way in which it was put together, makes a difference. -/
namespace AssetBroker

variable {V : Vendor} {σ α : Type} {op : Operation}

namespace TraitsData

variable {a b d : TraitsData}

/-- Containers that hold the same traits, whatever properties these have. -/
def SameTraits (a b : TraitsData) : Prop := ∀ traitId, a.hasTrait traitId = b.hasTrait traitId

theorem sameTraits_iff : SameTraits a b ↔ a.traitSet = b.traitSet := NameSet.nameSet_eq_iff.symm

/-- Properties of a trait that is there may be set and replaced. -/
theorem sameTraits_setProperty {traitId : String} (present : d.hasTrait traitId = true)
    (key : String) (value : Value) : SameTraits (d.setProperty traitId key value) d := by
  intro other
  rw [Bool.eq_iff_iff, hasTrait_setProperty]
  exact ⟨fun held => held.elim (fun same => same ▸ present) id, .inr⟩

theorem named_iff_of_no_replacement {history : List Change} {traitId : String}
    (keeps : ∀ change ∈ history, ¬change.Replaces) :
    Named history traitId ↔ ∃ change ∈ history, traitId ∈ change.named := by
  constructor
  · rintro ⟨change, inForce, named⟩
    exact ⟨change, inForce.mem, named⟩
  · rintro ⟨change, member, named⟩
    obtain ⟨earlier, later, rfl⟩ := List.append_of_mem member
    refine ⟨change, ⟨earlier, later, rfl, fun next after => ?_⟩, named⟩
    exact keeps next (List.mem_append_right _ (List.mem_cons_of_mem _ after))

/-- Changes that only add may be made in any order. -/
theorem sameTraits_after_of_perm {first second : List Change}
    (keeps : ∀ change ∈ first, ¬change.Replaces) (perm : first.Perm second) :
    SameTraits (after first) (after second) := by
  intro traitId
  have keeps' : ∀ change ∈ second, ¬change.Replaces := fun change member =>
    keeps change (perm.mem_iff.mpr member)
  rw [Bool.eq_iff_iff, hasTrait_after, hasTrait_after, named_iff_of_no_replacement keeps,
    named_iff_of_no_replacement keeps']
  simp only [perm.mem_iff]

end TraitsData

open TraitsData (SameTraits)

/-- The first index at which a data has other traits than the first one. -/
structure FirstDeviation (datas : List TraitsData) (index : Nat) : Prop where
  positive : 1 ≤ index
  inRange : index < datas.length
  deviates : (datas.map TraitsData.traitSet)[index]? ≠ (datas.map TraitsData.traitSet)[0]?
  alike : ∀ earlier < index,
    (datas.map TraitsData.traitSet)[earlier]? = (datas.map TraitsData.traitSet)[0]?

theorem FirstDeviation.unique {datas : List TraitsData} {i j : Nat}
    (first : FirstDeviation datas i) (second : FirstDeviation datas j) : i = j := by
  rcases Nat.lt_trichotomy i j with before | same | after
  · exact absurd (second.alike i before) first.deviates
  · exact same
  · exact absurd (first.alike j after) second.deviates

namespace Request

theorem findIdx?_eq_some_iff_firstDeviation {first : TraitsData} {rest : List TraitsData}
    {offset : Nat} :
    (rest.findIdx? fun data => data.traitSet != first.traitSet) = some offset ↔
      FirstDeviation (first :: rest) (offset + 1) := by
  rw [List.findIdx?_eq_some_iff_getElem]
  constructor
  · rintro ⟨inRange, differs, alike⟩
    refine ⟨Nat.le_add_left 1 offset, Nat.succ_lt_succ inRange, ?_, fun earlier before => ?_⟩
    · simpa [inRange] using differs
    · cases earlier with
      | zero => rfl
      | succ earlier =>
        have within : earlier < offset := Nat.lt_of_succ_lt_succ before
        have inRange' : earlier < rest.length := Nat.lt_trans within inRange
        simpa [inRange'] using alike earlier within
  · rintro ⟨_, inRange, differs, alike⟩
    have inRange : offset < rest.length := Nat.lt_of_succ_lt_succ inRange
    refine ⟨inRange, by simpa [inRange] using differs, fun earlier before => ?_⟩
    have inRange' : earlier < rest.length := Nat.lt_trans before inRange
    simpa [inRange'] using alike (earlier + 1) (Nat.succ_lt_succ before)

theorem uniformityFault?_eq_some_iff {datas : List TraitsData} {fault : RequestFault} :
    uniformityFault? datas = some fault ↔
      ∃ index, fault = .mismatchedTraits index ∧ FirstDeviation datas index := by
  cases datas with
  | nil =>
    have none (index : Nat) : ¬FirstDeviation [] index := fun deviation =>
      Nat.not_lt_zero index deviation.inRange
    exact iff_of_false nofun fun ⟨index, _, deviation⟩ => none index deviation
  | cons first rest =>
    rw [uniformityFault?, Option.map_eq_some_iff]
    constructor
    · rintro ⟨offset, found, rfl⟩
      exact ⟨offset + 1, rfl, findIdx?_eq_some_iff_firstDeviation.mp found⟩
    · rintro ⟨index, rfl, deviation⟩
      obtain ⟨offset, rfl⟩ := Nat.exists_eq_add_of_le' deviation.positive
      exact ⟨offset, findIdx?_eq_some_iff_firstDeviation.mpr deviation, rfl⟩

/-- The check of data sees nothing but the traits. -/
theorem uniformityFault?_congr {datas others : List TraitsData}
    (same : List.Forall₂ SameTraits datas others) :
    uniformityFault? others = uniformityFault? datas := by
  cases same with
  | nil => rfl
  | @cons first other rest others firsts rests =>
    have traits : rest.map TraitsData.traitSet = others.map TraitsData.traitSet := by
      rw [← List.forall₂_eq_eq_eq, List.forall₂_map_left_iff, List.forall₂_map_right_iff]
      exact rests.imp fun _ _ same => TraitsData.sameTraits_iff.mp same
    have found (list : List TraitsData) (expected : TraitSet) :
        (list.findIdx? fun data => data.traitSet != expected) =
          (list.map TraitsData.traitSet).findIdx? (· != expected) := by
      rw [List.findIdx?_map]
      rfl
    rw [uniformityFault?, uniformityFault?, found, found, traits,
      TraitsData.sameTraits_iff.mp firsts]

/-- With as many references as datas, only the traits can be at fault. -/
theorem fault?_register_of_even {references : List EntityReference} {datas : List TraitsData}
    (even : references.length = datas.length) (access : PublishingAccess) :
    (register references datas access).fault? = uniformityFault? datas := by
  rw [fault?, lengthFault?_eq_none_iff.mpr even, Option.none_or]

end Request

namespace Manager

/-- A call puts the request to the backend. -/
def Reaches (transcript : Transcript V σ α) (backend : V.Backend) (request : Request op)
    (context : Context V.State) : Prop :=
  ∃ run, (⟨.call backend (.entities request context), run⟩ : Exchange V) ∈ transcript.exchanges

section

variable (m : Manager V) (context : Context V.State) (world : World V σ) (state : σ)

/-- In all its forms the operation refuses data for the traits at an index, and that is all. -/
structure RefusedAt (request : Request op) (index : Nat) : Prop where
  primitive : (m.primitive request context).run world state =
    ⟨([], .error (.inputValidation ("Mismatched traits at index " ++ toString index))),
      state, [], []⟩
  batch : ∀ policy, (m.batch policy request context).run world state =
    ⟨.error (.inputValidation ("Mismatched traits at index " ++ toString index)), state, [], []⟩

variable {request : Request op}

theorem refusedAt_of_fault {index : Nat}
    (refused : request.fault? = some (.mismatchedTraits index)) :
    m.RefusedAt context world state request index :=
  ⟨run_primitive_of_fault m context world state refused,
    fun policy => run_batch_of_fault m context world state policy refused⟩

/-- A call whose first exchange, if there is any, is the request reaches the backend just with
requests that are accepted. -/
theorem reaches_iff_of_exchanges {transcript : Transcript V σ α}
    (refused : ∀ fault, request.fault? = some fault → transcript.exchanges = [])
    (accepted : request.fault? = none → ∃ run rest, transcript.exchanges =
      ⟨.call m.backend (.entities request context), run⟩ :: rest) :
    Reaches transcript m.backend request context ↔ request.fault? = none := by
  constructor
  · rintro ⟨run, member⟩
    cases fault : request.fault? with
    | none => rfl
    | some found =>
      rw [refused found fault] at member
      exact absurd member List.not_mem_nil
  · intro valid
    obtain ⟨run, rest, exchanges⟩ := accepted valid
    exact ⟨run, exchanges ▸ List.mem_cons_self⟩

theorem reaches_primitive_iff :
    Reaches ((m.primitive request context).run world state) m.backend request context ↔
      request.fault? = none := by
  apply reaches_iff_of_exchanges
  · intro fault refused
    rw [run_primitive_of_fault m context world state refused]
  · intro accepted
    exact ⟨_, _, exchanges_primitive_of_accepted m context world state accepted⟩

theorem reaches_batch_iff (policy : ErrorPolicy) :
    Reaches ((m.batch policy request context).run world state) m.backend request context ↔
      request.fault? = none := by
  apply reaches_iff_of_exchanges
  · intro fault refused
    rw [run_batch_of_fault m context world state policy refused]
  · intro accepted
    exact ⟨_, _, asksOnce_batch m context world state policy accepted⟩

variable {m context world state}

theorem not_refusedAt_of_accepted (accepted : request.fault? = none) (index : Nat) :
    ¬m.RefusedAt context world state request index := by
  intro refusal
  obtain ⟨run, member⟩ := (reaches_primitive_iff m context world state).mpr accepted
  rw [refusal.primitive] at member
  exact absurd member List.not_mem_nil

/-- Requests with the same fault are refused in the same way. -/
theorem RefusedAt.congr {other : Request op} {index : Nat} (same : request.fault? = other.fault?)
    (refusal : m.RefusedAt context world state request index) :
    m.RefusedAt context world state other index := by
  cases refused : request.fault? with
  | none => exact absurd refusal (not_refusedAt_of_accepted refused index)
  | some fault =>
    have refused' : other.fault? = some fault := same ▸ refused
    refine ⟨?_, fun policy => ?_⟩
    · rw [run_primitive_of_fault m context world state refused',
        ← run_primitive_of_fault m context world state refused, refusal.primitive]
    · rw [run_batch_of_fault m context world state policy refused',
        ← run_batch_of_fault m context world state policy refused, refusal.batch policy]

end

/-- Data to be registered reaches the backend just if all datas have the same traits. Otherwise it
is refused, in every form of the operation and without any other effect, for the first index at
which the traits are not those of the first data. Neither verdict changes as long as the datas
keep their traits: setting properties of traits that are there keeps them, and so does building a
container in another order. -/
theorem registration_takes_uniform_data (m : Manager V) (context : Context V.State)
    (world : World V σ) (state : σ) (references : List EntityReference) (datas : List TraitsData)
    (access : PublishingAccess) (even : references.length = datas.length) :
    let request (datas : List TraitsData) := Request.register references datas access
    let primitive (datas : List TraitsData) := (m.primitive (request datas) context).run world state
    let batch (policy : ErrorPolicy) (datas : List TraitsData) :=
      (m.batch policy (request datas) context).run world state
    let uniform := ∀ a ∈ datas, ∀ b ∈ datas, a.traitSet = b.traitSet
    (Reaches (primitive datas) m.backend (request datas) context ↔ uniform) ∧
    (∀ policy, Reaches (batch policy datas) m.backend (request datas) context ↔ uniform) ∧
    (¬uniform → ∃ index, FirstDeviation datas index ∧
      m.RefusedAt context world state (request datas) index) ∧
    (∀ others, List.Forall₂ SameTraits datas others →
      (Reaches (primitive others) m.backend (request others) context ↔
        Reaches (primitive datas) m.backend (request datas) context) ∧
      (∀ policy, Reaches (batch policy others) m.backend (request others) context ↔
        Reaches (batch policy datas) m.backend (request datas) context) ∧
      ∀ index, m.RefusedAt context world state (request others) index ↔
        m.RefusedAt context world state (request datas) index) ∧
    (∀ (data : TraitsData) traitId, data.hasTrait traitId = true → ∀ key value,
      SameTraits (data.setProperty traitId key value) data) ∧
    ∀ first second : List TraitsData.Change, (∀ change ∈ first, ¬change.Replaces) →
      first.Perm second → SameTraits (TraitsData.after first) (TraitsData.after second) := by
  intro request primitive batch uniform
  have checked : (request datas).fault? = Request.uniformityFault? datas :=
    Request.fault?_register_of_even even access
  have accepted : (request datas).fault? = none ↔ uniform :=
    checked ▸ Request.uniformityFault?_eq_none_iff
  refine ⟨?_, fun policy => ?_, ?_, ?_, ?_, ?_⟩
  · exact (reaches_primitive_iff m context world state).trans accepted
  · exact (reaches_batch_iff m context world state policy).trans accepted
  · intro mixed
    obtain ⟨fault, refused⟩ := Option.ne_none_iff_exists'.mp (mt accepted.mp mixed)
    obtain ⟨index, rfl, deviation⟩ :=
      Request.uniformityFault?_eq_some_iff.mp (checked.symm.trans refused)
    exact ⟨index, deviation, refusedAt_of_fault m context world state refused⟩
  · intro others alike
    have even' : references.length = others.length := even.trans alike.length_eq
    have same : (request others).fault? = (request datas).fault? := by
      rw [checked, ← Request.uniformityFault?_congr alike]
      exact Request.fault?_register_of_even even' access
    refine ⟨?_, fun policy => ?_, fun index => ⟨.congr same, .congr same.symm⟩⟩
    · rw [reaches_primitive_iff, reaches_primitive_iff, same]
    · rw [reaches_batch_iff, reaches_batch_iff, same]
  · intro data traitId present key value
    exact TraitsData.sameTraits_setProperty present key value
  · intro first second keeps perm
    exact TraitsData.sameTraits_after_of_perm keeps perm

end Manager

namespace Rehearsal

/-- A shot with a property, and one without. -/
def shots : List TraitsData :=
  [(TraitsData.ofTraits ["shot"]).setProperty "shot" "start" (.integer 1001),
    .ofTraits ["shot"]]

/-- Data that is to be registered, all of it under one reference. -/
def publishing (access : PublishingAccess) (datas : List TraitsData) : Request .register :=
  .register (datas.map fun _ => ⟨"a"⟩) datas access

end Rehearsal

namespace Manager

/-- Shots go through whatever their properties, and an image behind them is refused. -/
theorem image_behind_shots_refused :
    let access : PublishingAccess := ⟨.write, by decide⟩
    let mixed := Rehearsal.shots ++ [.ofTraits ["image"]]
    let references : List EntityReference := mixed.map fun _ => ⟨"a"⟩
    references.length = mixed.length ∧
    Reaches ((Rehearsal.manager.batch .inPlace (Rehearsal.publishing access Rehearsal.shots) {}).run
      Rehearsal.world Rehearsal.sparseStage) 1 (Rehearsal.publishing access Rehearsal.shots) {} ∧
    Rehearsal.manager.RefusedAt {} Rehearsal.world Rehearsal.sparseStage
      (Rehearsal.publishing access mixed) 2 := by
  intro access mixed references
  have verdict (datas : List TraitsData) :=
    registration_takes_uniform_data Rehearsal.manager {} Rehearsal.world Rehearsal.sparseStage
      (datas.map fun _ => ⟨"a"⟩) datas access (List.length_map _)
  obtain ⟨_, reached, _⟩ := verdict Rehearsal.shots
  obtain ⟨_, _, refused, _⟩ := verdict mixed
  have different : ¬∀ a ∈ mixed, ∀ b ∈ mixed, a.traitSet = b.traitSet := by decide
  have third : FirstDeviation mixed 2 := ⟨by decide, by decide, by decide, by decide⟩
  obtain ⟨index, deviation, refusal⟩ := refused different
  obtain rfl := deviation.unique third
  exact ⟨rfl, (reached .inPlace).mpr (by decide), refusal⟩

end Manager

end AssetBroker
