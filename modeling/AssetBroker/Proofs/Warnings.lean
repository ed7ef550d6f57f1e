import AssetBroker.Proofs.Collecting
import Mathlib.Data.List.Induction
import Mathlib.Data.List.ReduceOption

/-! The warnings that a collector gives, report by report. Whether a report is stored, and what
is said of it if it is not, is settled by the reports before it: there is no other way for a
report to get lost. -/
namespace AssetBroker

variable {α : Type}

namespace Report

/-- What there is to say against a report that comes after others: it is about no element of the
batch, or about an element that was reported on before. -/
def objectionAfter (size : Nat) (earlier : List (Report α)) (report : Report α) : Option Event :=
  if size ≤ report.index then some (.strayReport report.index size)
  else if report.index ∈ earlier.map index then some (.repeatedReport report.index)
  else none

/-- What there is to say against each report of a run. -/
def objections (size : Nat) (made : List (Report α)) : List (Option Event) :=
  made.mapIdx fun position => objectionAfter size (made.take position)

theorem length_objections (size : Nat) (made : List (Report α)) :
    (objections size made).length = made.length :=
  List.length_mapIdx

theorem objections_concat (size : Nat) (made : List (Report α)) (last : Report α) :
    objections size (made ++ [last]) = objections size made ++ [objectionAfter size made last] := by
  have earlier (position : Nat) (inside : position < made.length) :
      (made ++ [last]).take position = made.take position :=
    List.take_append_of_le_length (Nat.le_of_lt inside)
  rw [objections, List.mapIdx_concat, List.take_left]
  congr 1
  apply List.ext_getElem
  · rw [List.length_mapIdx, length_objections]
  · intro position bound _
    rw [List.length_mapIdx] at bound
    simp only [objections, List.getElem_mapIdx, earlier position bound]

theorem objectionAfter_eq_none_iff {size : Nat} {earlier : List (Report α)} {report : Report α} :
    objectionAfter size earlier report = none ↔
      report.index < size ∧ report.index ∉ earlier.map index := by
  rw [objectionAfter]
  split
  · rename_i outside
    simp [outside]
  · rename_i inside
    simp [Nat.lt_of_not_le inside]

theorem level_of_mem_objections {size : Nat} {made : List (Report α)} {event : Event}
    (member : some event ∈ objections size made) : event.level = .warn := by
  obtain ⟨position, _, objection⟩ := List.mem_mapIdx.mp member
  rw [objectionAfter] at objection
  split at objection
  · exact Option.some.inj objection ▸ rfl
  · split at objection
    · exact Option.some.inj objection ▸ rfl
    · cases objection

/-- Nothing is said against a run that reports once on each element it reports on. -/
theorem reduceOption_objections_eq_nil_iff {size : Nat} {made : List (Report α)} :
    (objections size made).reduceOption = [] ↔
      (made.map index).Nodup ∧ ∀ report ∈ made, report.index < size := by
  induction made using List.reverseRecOn with
  | nil => simp [objections]
  | append_singleton earlier last ih =>
    rw [objections_concat, List.reduceOption_append, List.reduceOption_singleton,
      List.append_eq_nil_iff, ih, Option.toList_eq_nil_iff, objectionAfter_eq_none_iff,
      List.map_append, List.map_singleton, ← List.concat_eq_append, List.nodup_concat,
      List.forall_mem_append, List.forall_mem_singleton]
    tauto

theorem firstOutcome?_eq_none_iff {made : List (Report α)} {index : Nat} :
    firstOutcome? made index = none ↔ index ∉ made.map Report.index := by
  rw [firstOutcome?, Option.map_eq_none_iff, List.find?_eq_none, List.mem_map]
  simp

end Report

namespace Collector

open Report

theorem recordAll_append (c : Collector α) (first rest : List (Logged (Report α))) :
    c.recordAll (first ++ rest) =
      let recorded := c.recordAll first
      let later := recorded.value.recordAll rest
      ⟨later.value, recorded.events ++ later.events⟩ := by
  induction first generalizing c with
  | nil => rfl
  | cons report first ih =>
    simp only [List.cons_append, recordAll_cons, ih, List.append_assoc]

theorem recordAll_concat (c : Collector α) (earlier : List (Logged (Report α)))
    (last : Logged (Report α)) :
    c.recordAll (earlier ++ [last]) =
      let recorded := c.recordAll earlier
      let final := recorded.value.record last.value
      ⟨final.value, recorded.events ++ (last.events ++ final.events)⟩ := by
  simp only [recordAll_append, recordAll_cons, recordAll_nil, List.append_nil]

theorem length_recordAll_empty (size : Nat) (reports : List (Logged (Report α))) :
    ((empty size).recordAll reports).value.slots.length = size := by
  rw [slots_recordAll_empty, List.length_map, List.length_range]

theorem objection?_recordAll_empty (size : Nat) (earlier : List (Logged (Report α)))
    (report : Report α) :
    ((empty size).recordAll earlier).value.objection? report.index =
      objectionAfter size (earlier.map Logged.value) report := by
  rw [objection?, slots_recordAll_empty, List.length_map, List.length_range, objectionAfter,
    List.getElem?_map]
  by_cases inside : report.index < size
  · rw [List.getElem?_range inside, if_neg (Nat.not_le_of_lt inside), Option.map_some]
    cases first : firstOutcome? (earlier.map Logged.value) report.index with
    | none => rw [if_neg (firstOutcome?_eq_none_iff.mp first)]
    | some outcome =>
      have before : report.index ∈ (earlier.map Logged.value).map Report.index := by
        by_contra never
        rw [firstOutcome?_eq_none_iff.mpr never] at first
        cases first
      rw [if_pos before]
  · have outside : size ≤ report.index := Nat.le_of_not_lt inside
    rw [if_pos outside, List.getElem?_eq_none (by simpa using outside)]
    rfl

theorem events_record (c : Collector α) (report : Report α) :
    (c.record report).events = (c.objection? report.index).toList := by
  rw [record]
  cases c.objection? report.index <;> rfl

theorem events_recordAll_empty_eq (size : Nat) (reports : List (Logged (Report α))) :
    ((empty size).recordAll reports).events =
      (List.zipWith (fun report objection => report.events ++ objection.toList) reports
        (objections size (reports.map Logged.value))).flatten := by
  -- From the end, since a report is judged by those before it.
  induction reports using List.reverseRecOn with
  | nil => rfl
  | append_singleton earlier last ih =>
    have lengths : earlier.length = (objections size (earlier.map Logged.value)).length := by
      rw [length_objections, List.length_map]
    rw [recordAll_concat, List.map_append, List.map_singleton, objections_concat,
      List.zipWith_append lengths, List.flatten_append]
    simp only [ih, events_record, objection?_recordAll_empty, List.zipWith_cons_cons,
      List.zipWith_nil_left, List.flatten_singleton]

/-- A report at the end is dropped or not by what the reports before it left. -/
theorem refused_concat (c : Collector α) (earlier : List (Logged (Report α)))
    (last : Report α) :
    c.refused (earlier.map Logged.value ++ [last]) = c.refused (earlier.map Logged.value) ++
      (((c.recordAll earlier).value.objection? last.index).map fun _ => last).toList := by
  induction earlier generalizing c with
  | nil =>
    simp only [List.map_nil, List.nil_append, refused, recordAll_nil]
    cases c.objection? last.index <;> rfl
  | cons report rest ih =>
    rw [List.map_cons, List.cons_append, refused, refused, ih, recordAll_cons]
    cases c.objection? report.value.index <;> rfl

theorem length_refused_empty (size : Nat) (reports : List (Logged (Report α))) :
    ((empty size).refused (reports.map Logged.value)).length =
      (objections size (reports.map Logged.value)).reduceOption.length := by
  induction reports using List.reverseRecOn with
  | nil => rfl
  | append_singleton earlier last ih =>
    rw [List.map_append, List.map_singleton, refused_concat, objection?_recordAll_empty,
      objections_concat, List.reduceOption_append, List.reduceOption_singleton,
      List.length_append, List.length_append, ih]
    cases objectionAfter size (earlier.map Logged.value) last.value <;> rfl

theorem slots_recordAll_concat_of_none {size : Nat} {earlier : List (Logged (Report α))}
    {last : Logged (Report α)}
    (unobjected : objectionAfter size (earlier.map Logged.value) last.value = none) :
    let slots := ((empty size).recordAll earlier).value.slots
    slots[last.value.index]? = some none ∧
    ((empty size).recordAll (earlier ++ [last])).value.slots =
      slots.set last.value.index (some last.value.outcome) := by
  rw [← objection?_recordAll_empty] at unobjected
  refine ⟨(objection?_eq_none_iff _ _).mp unobjected, ?_⟩
  simp only [recordAll_concat, record_of_empty unobjected]

theorem slots_recordAll_concat_of_some {size : Nat} {earlier : List (Logged (Report α))}
    {last : Logged (Report α)} {event : Event}
    (objection : objectionAfter size (earlier.map Logged.value) last.value = some event) :
    ((empty size).recordAll (earlier ++ [last])).value.slots =
      ((empty size).recordAll earlier).value.slots := by
  rw [← objection?_recordAll_empty] at objection
  simp only [recordAll_concat, record_of_objection objection]

theorem slot_recordAll_append {size index : Nat} {earlier : List (Logged (Report α))}
    {outcome : Outcome α}
    (filled : ((empty size).recordAll earlier).value.slots[index]? = some (some outcome))
    (later : List (Logged (Report α))) :
    ((empty size).recordAll (earlier ++ later)).value.slots[index]? = some (some outcome) := by
  rw [recordAll_append]
  simp only [slot_recordAll, filled, Option.map_some, Option.some_or]

/-- No report is lost without a word. Collecting gives one warning for each report that is not
stored, in the order of the reports and behind the events of making the report: about reports on
no element of the batch, with its size, and about reports on elements that were reported on
before. All others fill the empty slots of their elements, and no slot is filled twice. So there
are as many reports as filled slots and warnings, and there is no warning just when the reports
are on different elements of the batch. -/
theorem no_report_lost_silently (size : Nat) (reports : List (Logged (Report α))) :
    let made := reports.map Logged.value
    let collected := (empty size).recordAll reports
    collected.events =
      (List.zipWith (fun report objection => report.events ++ objection.toList) reports
        (objections size made)).flatten ∧
    (∀ event, some event ∈ objections size made → event.level = .warn) ∧
    collected.value.slots.length = size ∧
    made.length = collected.value.stored.length + (objections size made).reduceOption.length ∧
    ((objections size made).reduceOption = [] ↔
      (made.map Report.index).Nodup ∧ ∀ report ∈ made, report.index < size) ∧
    (∀ next : Logged (Report α),
      let slots := ((empty size).recordAll (reports ++ [next])).value.slots
      match objectionAfter size made next.value with
      | none => collected.value.slots[next.value.index]? = some none ∧
        slots = collected.value.slots.set next.value.index (some next.value.outcome)
      | some _ => slots = collected.value.slots) ∧
    ∀ (later : List (Logged (Report α))) (index : Nat) (outcome : Outcome α),
      collected.value.slots[index]? = some (some outcome) →
      ((empty size).recordAll (reports ++ later)).value.slots[index]? = some (some outcome) := by
  intro made collected
  refine ⟨events_recordAll_empty_eq size reports, fun event => level_of_mem_objections,
    length_recordAll_empty size reports, ?_, reduceOption_objections_eq_nil_iff, ?_, ?_⟩
  · have all := (recordAll_empty_perm size ⟨reports, pure (.ok ())⟩).length_eq
    rw [List.length_append, List.length_map, List.length_map, Run.made, length_refused_empty] at all
    exact all.symm
  · intro next slots
    cases objection : objectionAfter size made next.value with
    | none => exact slots_recordAll_concat_of_none objection
    | some event => exact slots_recordAll_concat_of_some objection
  · intro later index outcome filled
    exact slot_recordAll_append filled later

example : (empty 2).recordAll [.pure ⟨1, .ok true⟩, .pure ⟨2, .ok true⟩, .pure ⟨1, .ok false⟩] =
    ⟨⟨[none, some (.ok true)]⟩, [.strayReport 2 2, .repeatedReport 1]⟩ :=
  rfl

end Collector
end AssetBroker
