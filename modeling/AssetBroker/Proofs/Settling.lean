import AssetBroker.Manager.ErrorPolicy
import Mathlib.Data.List.Basic

/-! How slots are settled under the two error policies. In place, each slot is settled by
itself. Raised, the slots up to the first one without a value decide, and what is raised
for that slot is made of its entry in place. -/
namespace AssetBroker.ErrorPolicy

variable {α : Type}

/-- What a slot yields in place. -/
def entry (identifier : String) (index : Nat) (slot : Option (Outcome α)) : Outcome α :=
  slot.getD (.error ⟨.unknown, unreportedMessage identifier index⟩)

theorem entry_eq_ok_iff {identifier : String} {index : Nat} {slot : Option (Outcome α)}
    {value : α} : entry identifier index slot = .ok value ↔ slot = some (.ok value) := by
  cases slot with
  | none => simp [entry]
  | some outcome => simp [entry]

@[simp] theorem result_settleUntil_nil (policy : ErrorPolicy) (identifier : String)
    (context : Nat → ErrorContext) (index : Nat) :
    (policy.settleUntil identifier context index ([] : List (Option (Outcome α)))).result =
      .ok [] :=
  rfl

/-- The first slot that cannot be settled decides. -/
theorem result_settleUntil_cons (policy : ErrorPolicy) (identifier : String)
    (context : Nat → ErrorContext) (index : Nat) (slot : Option (Outcome α))
    (rest : List (Option (Outcome α))) :
    (policy.settleUntil identifier context index (slot :: rest)).result =
      (policy.settleSlot identifier context index slot).bind fun output =>
        (policy.settleUntil identifier context (index + 1) rest).result.map (output :: ·) := by
  rw [settleUntil]
  cases policy.settleSlot identifier context index slot with
  | error fault => rfl
  | ok output =>
    simp only [Settlement.result, Except.bind]
    cases (policy.settleUntil identifier context (index + 1) rest).stop? with
    | none => rfl
    | some stop => rfl

theorem settleUntil_inPlace (identifier : String) (context : Nat → ErrorContext) (start : Nat)
    (slots : List (Option (Outcome α))) :
    (settleUntil .inPlace identifier context start slots).result =
      .ok (slots.mapIdx fun index slot => entry identifier (start + index) slot) := by
  induction slots generalizing start with
  | nil => rfl
  | cons slot rest ih =>
    have settled : settleSlot .inPlace identifier context start slot =
        .ok (entry identifier start slot) := by
      cases slot <;> rfl
    rw [result_settleUntil_cons, settled, ih, List.mapIdx_cons]
    simp only [Except.bind, Except.map, Nat.add_right_comm, Nat.add_zero, Nat.add_assoc]

theorem settleAll_inPlace (identifier : String) (context : Nat → ErrorContext)
    (slots : List (Option (Outcome α))) :
    (settleAll .inPlace identifier context slots).result =
      .ok (slots.mapIdx (entry identifier)) := by
  rw [settleAll, settleUntil_inPlace]
  simp only [Nat.zero_add]

/-- What is raised for a slot whose entry in place is an error. -/
def faultOf (context : Nat → ErrorContext) (index : Nat) (reported : Bool)
    (error : ElementError) : Error :=
  if reported then .batchElement (.of index error (context index))
  else .unhandled error.message

theorem settleSlot_raised_eq_ok_iff {identifier : String} {context : Nat → ErrorContext}
    {index : Nat} {slot : Option (Outcome α)} {value : α} :
    settleSlot .raised identifier context index slot = .ok value ↔
      slot = some (.ok value) := by
  match slot with
  | none => simp [settleSlot, unreported]
  | some (.ok _) => simp [settleSlot, settle, Except.mapError]
  | some (.error _) => simp [settleSlot, settle, Except.mapError]

theorem settleSlot_raised_eq_error_iff {identifier : String} {context : Nat → ErrorContext}
    {index : Nat} {slot : Option (Outcome α)} {fault : Error} :
    settleSlot .raised identifier context index slot = .error fault ↔
      ∃ error, entry identifier index slot = .error error ∧
        fault = faultOf context index slot.isSome error := by
  match slot with
  | none => simp [settleSlot, unreported, entry, faultOf, eq_comm]
  | some (.ok _) => simp [settleSlot, settle, Except.mapError, entry]
  | some (.error _) => simp [settleSlot, settle, Except.mapError, entry, faultOf, eq_comm]

/-- Nothing is raised just when every slot holds a value. -/
theorem settleUntil_raised_eq_ok_iff {identifier : String} {context : Nat → ErrorContext}
    {start : Nat} {slots : List (Option (Outcome α))} {values : List α} :
    (settleUntil .raised identifier context start slots).result = .ok values ↔
      slots = values.map fun value => some (.ok value) := by
  induction slots generalizing start values with
  | nil => cases values <;> simp
  | cons slot rest ih =>
    rw [result_settleUntil_cons]
    cases settled : settleSlot .raised identifier context start slot with
    | error fault =>
      have failed (value : α) : slot ≠ some (.ok value) := by
        intro held
        rw [settleSlot_raised_eq_ok_iff.mpr held] at settled
        contradiction
      cases values with
      | nil => simp [Except.bind]
      | cons value values => simp [Except.bind, failed]
    | ok output =>
      obtain rfl := settleSlot_raised_eq_ok_iff.mp settled
      simp only [Except.bind]
      cases values with
      | nil =>
        cases (settleUntil .raised identifier context (start + 1) rest).result <;>
          simp [Except.map]
      | cons value values =>
        rw [List.map_cons, List.cons.injEq, ← @ih (start + 1) values]
        cases (settleUntil .raised identifier context (start + 1) rest).result <;>
          simp [Except.map]

/-- What is raised is raised for the first slot that holds no value. -/
theorem settleUntil_raised_eq_error_iff {identifier : String} {context : Nat → ErrorContext}
    {start : Nat} {slots : List (Option (Outcome α))} {fault : Error} :
    (settleUntil .raised identifier context start slots).result = .error fault ↔
      ∃ i slot, slots[i]? = some slot ∧
        settleSlot .raised identifier context (start + i) slot = .error fault ∧
        ∀ j < i, ∃ value, slots[j]? = some (some (.ok value)) := by
  induction slots generalizing start with
  | nil => simp
  | cons slot rest ih =>
    rw [result_settleUntil_cons]
    cases settled : settleSlot .raised identifier context start slot with
    | error first =>
      constructor
      · intro raised
        cases raised
        exact ⟨0, slot, rfl, settled, fun j before => absurd before (Nat.not_lt_zero j)⟩
      · rintro ⟨i, failing, held, failed, clean⟩
        cases i with
        | zero =>
          obtain rfl : slot = failing := Option.some.inj held
          obtain rfl := Except.error.inj (settled.symm.trans failed)
          rfl
        | succ i =>
          obtain ⟨value, first⟩ := clean 0 (Nat.succ_pos i)
          rw [settleSlot_raised_eq_ok_iff.mpr (Option.some.inj first)] at settled
          contradiction
    | ok output =>
      have held := settleSlot_raised_eq_ok_iff.mp settled
      let later := (settleUntil .raised identifier context (start + 1) rest).result
      have rest_iff : later.map (output :: ·) = .error fault ↔ later = .error fault := by
        cases later <;> simp [Except.map]
      rw [Except.bind, rest_iff, ih]
      constructor
      · rintro ⟨i, failing, at_i, failed, clean⟩
        refine ⟨i + 1, failing, at_i, by rwa [← Nat.add_assoc, Nat.add_right_comm], ?_⟩
        intro j before
        cases j with
        | zero => exact ⟨output, congrArg some held⟩
        | succ j => exact clean j (by omega)
      · rintro ⟨i, failing, at_i, failed, clean⟩
        cases i with
        | zero =>
          obtain rfl : slot = failing := Option.some.inj at_i
          exact absurd (settled.symm.trans failed) (by simp)
        | succ i =>
          refine ⟨i, failing, at_i, by rwa [Nat.add_right_comm, Nat.add_assoc], ?_⟩
          intro j before
          exact clean (j + 1) (by omega)

/-- The policies agree on batches without errors. -/
theorem settleAll_raised_eq_ok_iff {identifier : String} {context : Nat → ErrorContext}
    {slots : List (Option (Outcome α))} {values : List α} :
    (settleAll .raised identifier context slots).result = .ok values ↔
      (settleAll .inPlace identifier context slots).result = .ok (values.map .ok) := by
  rw [settleAll, settleUntil_raised_eq_ok_iff, settleAll_inPlace, Except.ok.injEq]
  rw [List.ext_getElem?_iff, List.ext_getElem?_iff]
  refine forall_congr' fun index => ?_
  rw [List.getElem?_mapIdx, List.getElem?_map, List.getElem?_map]
  cases slots[index]? with
  | none => cases values[index]? <;> simp
  | some slot => cases values[index]? <;> simp [entry_eq_ok_iff]

/-- What is raised is made of the first entry in place that is an error. -/
theorem settleAll_raised_of_inPlace {identifier : String} {context : Nat → ErrorContext}
    {slots : List (Option (Outcome α))} {outcomes : List (Outcome α)} {index : Nat}
    {error : ElementError}
    (yielded : (settleAll .inPlace identifier context slots).result = .ok outcomes)
    (failed : outcomes[index]? = some (.error error))
    (clean : ∀ before < index, ∃ value, outcomes[before]? = some (.ok value)) :
    ∃ slot, slots[index]? = some slot ∧ (settleAll .raised identifier context slots).result =
      .error (faultOf context index slot.isSome error) := by
  rw [settleAll_inPlace, Except.ok.injEq] at yielded
  subst yielded
  obtain ⟨slot, held, failed⟩ : ∃ slot, slots[index]? = some slot ∧
      entry identifier index slot = .error error := by
    simpa [List.getElem?_mapIdx] using failed
  refine ⟨slot, held, settleUntil_raised_eq_error_iff.mpr ⟨index, slot, held, ?_, ?_⟩⟩
  · rw [Nat.zero_add, settleSlot_raised_eq_error_iff]
    exact ⟨error, failed, rfl⟩
  · intro before earlier
    obtain ⟨value, passed⟩ := clean before earlier
    obtain ⟨slot, held, passed⟩ : ∃ slot, slots[before]? = some slot ∧
        entry identifier before slot = .ok value := by
      simpa [List.getElem?_mapIdx] using passed
    exact ⟨value, entry_eq_ok_iff.mp passed ▸ held⟩

theorem settleAll_inPlace_some {identifier : String} {context : Nat → ErrorContext}
    {outcomes : List (Outcome α)} :
    (settleAll .inPlace identifier context (outcomes.map some)).result = .ok outcomes := by
  rw [settleAll_inPlace]
  congr 1
  apply List.ext_getElem
  · simp
  · intro index _ _
    simp [entry]

theorem settleAll_raised_some_eq_ok_iff {identifier : String} {context : Nat → ErrorContext}
    {outcomes : List (Outcome α)} {values : List α} :
    (settleAll .raised identifier context (outcomes.map some)).result = .ok values ↔
      outcomes = values.map .ok := by
  rw [settleAll_raised_eq_ok_iff, settleAll_inPlace_some, Except.ok.injEq]

/-- Where every element was reported on, what is raised is the exception for the first error. -/
theorem settleAll_raised_some_eq_error {identifier : String} {context : Nat → ErrorContext}
    {outcomes : List (Outcome α)} {fault : Error}
    (raised : (settleAll .raised identifier context (outcomes.map some)).result = .error fault) :
    ∃ index error, outcomes[index]? = some (.error error) ∧
      (∀ before < index, ∃ value, outcomes[before]? = some (.ok value)) ∧
      fault = .batchElement (.of index error (context index)) := by
  obtain ⟨index, slot, held, failed, clean⟩ := settleUntil_raised_eq_error_iff.mp raised
  rw [Nat.zero_add, settleSlot_raised_eq_error_iff] at failed
  obtain ⟨error, failed, rfl⟩ := failed
  obtain ⟨outcome, at_index, rfl⟩ : ∃ outcome, outcomes[index]? = some outcome ∧
      some outcome = slot := by
    simpa using held
  obtain rfl : outcome = .error error := failed
  refine ⟨index, error, at_index, ?_, rfl⟩
  intro before earlier
  obtain ⟨value, passed⟩ := clean before earlier
  exact ⟨value, by simpa using passed⟩

/-- A single slot is settled by itself. -/
theorem settleAll_singleton (policy : ErrorPolicy) (identifier : String)
    (context : Nat → ErrorContext) (outcome : Outcome α) :
    (policy.settleAll identifier context [some outcome]).result =
      (policy.settle 0 outcome (context 0)).map fun output => [output] := by
  rw [settleAll, result_settleUntil_cons, settleSlot]
  cases policy.settle 0 outcome (context 0) with
  | error fault => rfl
  | ok output => rfl

theorem settle_raised_eq_ok_iff {index : Nat} {outcome : Outcome α} {context : ErrorContext}
    {value : α} : settle .raised index outcome context = .ok value ↔ outcome = .ok value :=
  (@settleSlot_raised_eq_ok_iff α "" (fun _ => context) index (some outcome) value).trans
    Option.some_inj

/-- Outcomes are settled one by one without an error just when they are values. -/
theorem map_settle_raised_eq_map_ok_iff {β : Type} {elements : List β} {index : Nat}
    {outcome : β → Outcome α} {context : β → ErrorContext} {values : List α} :
    (elements.map fun element => settle .raised index (outcome element) (context element)) =
        values.map .ok ↔
      elements.map outcome = values.map .ok := by
  induction elements generalizing values with
  | nil => cases values <;> simp
  | cons element rest ih =>
    cases values with
    | nil => simp
    | cons value values =>
      rw [List.map_cons, List.map_cons, List.map_cons, List.map_cons, List.cons.injEq,
        List.cons.injEq, settle_raised_eq_ok_iff, ih]

end AssetBroker.ErrorPolicy
