import AssetBroker.Manager.Collector
import Mathlib.Algebra.Order.Group.Multiset
import Mathlib.Tactic.Abel

/-! What a collector makes of any sequence of reports. A slot ends with the first outcome
reported on its element. All other reports are dropped, with one warning for each, and
which of the reports on an element are dropped does not depend on reports on others. -/
namespace AssetBroker

variable {α : Type}

/-- The reports of a run, in the order they came. -/
def Run.made (run : Run α) : List (Report α) := run.reports.map Logged.value

namespace Report

/-- The reports on one element. -/
def on (index : Nat) (reports : List (Report α)) : List (Report α) :=
  reports.filter fun report => report.index == index

/-- What was reported first on an element. -/
def firstOutcome? (reports : List (Report α)) (index : Nat) : Option (Outcome α) :=
  (reports.find? fun report => report.index == index).map Report.outcome

theorem on_cons_self {report : Report α} {index : Nat} (same : report.index = index)
    (rest : List (Report α)) : on index (report :: rest) = report :: on index rest :=
  List.filter_cons_of_pos (beq_iff_eq.mpr same)

theorem on_cons_other {report : Report α} {index : Nat} (other : report.index ≠ index)
    (rest : List (Report α)) : on index (report :: rest) = on index rest :=
  List.filter_cons_of_neg (by simpa using other)

theorem firstOutcome?_eq_head? (reports : List (Report α)) (index : Nat) :
    firstOutcome? reports index = (on index reports).head?.map Report.outcome := by
  rw [firstOutcome?, on, List.head?_filter]

theorem firstOutcome?_cons (report : Report α) (rest : List (Report α)) (index : Nat) :
    firstOutcome? (report :: rest) index =
      (if report.index = index then some report.outcome else none).or
        (firstOutcome? rest index) := by
  by_cases same : report.index = index
  · simp [firstOutcome?, same]
  · simp [firstOutcome?, same]

/-- The same reports, with those on each element in the same order. -/
def Reordered (a b : List (Report α)) : Prop := ∀ index, on index a = on index b

theorem Reordered.perm {a b : List (Report α)} (reordered : Reordered a b) : a.Perm b := by
  classical
  apply List.perm_iff_count.mpr
  intro report
  have onElement : ∀ reports : List (Report α),
      (on report.index reports).count report = reports.count report :=
    fun reports => List.count_filter (beq_self_eq_true report.index)
  rw [← onElement a, ← onElement b, reordered report.index]

theorem index_of_mem_on {index : Nat} {reports : List (Report α)} {report : Report α}
    (member : report ∈ on index reports) : report.index = index :=
  beq_iff_eq.mp (List.mem_filter.mp member).2

/-- Reports on different elements may change places. -/
theorem Reordered.swap {a b : Report α} (different : a.index ≠ b.index)
    (rest : List (Report α)) : Reordered (a :: b :: rest) (b :: a :: rest) := by
  intro index
  by_cases first : a.index = index
  · have second : b.index ≠ index := fun same => different (first.trans same.symm)
    rw [on_cons_self first, on_cons_other second, on_cons_other second, on_cons_self first]
  · rw [on_cons_other first]
    by_cases second : b.index = index
    · rw [on_cons_self second, on_cons_self second, on_cons_other first]
    · rw [on_cons_other second, on_cons_other second, on_cons_other first]

/-- Any order will do for reports on different elements. -/
theorem Reordered.of_perm {a b : List (Report α)} (perm : a.Perm b)
    (once : (a.map Report.index).Nodup) : Reordered a b := by
  intro index
  have same : (on index a).Perm (on index b) := perm.filter _
  have nodup : ((on index a).map Report.index).Nodup :=
    once.sublist (List.filter_sublist.map Report.index)
  have only (report : Report α) (member : report ∈ on index a) : report.index = index :=
    index_of_mem_on member
  match found : on index a with
  | [] => exact (List.nil_perm.mp (found ▸ same)).symm
  | [report] => exact List.singleton_perm.mp (found ▸ same)
  | first :: second :: rest =>
    rw [found] at nodup only
    have equal : first.index = second.index :=
      (only first (by simp)).trans (only second (by simp)).symm
    simp [equal] at nodup

theorem Reordered.firstOutcome?_eq {a b : List (Report α)} (reordered : Reordered a b)
    (index : Nat) : firstOutcome? a index = firstOutcome? b index := by
  rw [firstOutcome?_eq_head?, firstOutcome?_eq_head?, reordered index]

end Report

namespace Collector

open Report

theorem objection?_eq_none_iff (c : Collector α) (index : Nat) :
    c.objection? index = none ↔ c.slots[index]? = some none := by
  unfold objection?
  split <;> simp_all

/-- Recording a report changes the slot of its element only, and that only if it is
empty. -/
theorem slot_record (c : Collector α) (report : Report α) (index : Nat) :
    (c.record report).value.slots[index]? = c.slots[index]?.map fun slot =>
      slot.or (if report.index = index then some report.outcome else none) := by
  cases objection : c.objection? report.index with
  | none =>
    have empty := (c.objection?_eq_none_iff report.index).mp objection
    obtain ⟨bound, _⟩ := List.getElem?_eq_some_iff.mp empty
    simp only [record, objection]
    by_cases same : report.index = index
    · subst same
      rw [List.getElem?_set_self bound, empty, if_pos rfl]
      rfl
    · simp [same]
  | some warning =>
    simp only [record, objection]
    by_cases same : report.index = index
    · subst same
      cases held : c.slots[report.index]? with
      | none => rfl
      | some slot =>
        cases slot with
        | none => simp [(c.objection?_eq_none_iff report.index).mpr held] at objection
        | some outcome => rfl
    · simp [same]

theorem length_record (c : Collector α) (report : Report α) :
    (c.record report).value.slots.length = c.slots.length := by
  unfold record
  split
  · exact List.length_set
  · rfl

@[simp] theorem recordAll_nil (c : Collector α) : c.recordAll [] = ⟨c, []⟩ := rfl

theorem recordAll_cons (c : Collector α) (report : Logged (Report α))
    (rest : List (Logged (Report α))) :
    c.recordAll (report :: rest) =
      let recorded := c.record report.value
      let later := recorded.value.recordAll rest
      ⟨later.value, (report.events ++ recorded.events) ++ later.events⟩ := rfl

/-- A slot ends with what it held, or else with what was first reported on its element. -/
theorem slot_recordAll (c : Collector α) (reports : List (Logged (Report α))) (index : Nat) :
    (c.recordAll reports).value.slots[index]? = c.slots[index]?.map fun slot =>
      slot.or (firstOutcome? (reports.map Logged.value) index) := by
  induction reports generalizing c with
  | nil => simp [firstOutcome?]
  | cons report rest ih =>
    rw [recordAll_cons, ih, slot_record, Option.map_map, List.map_cons, firstOutcome?_cons]
    simp only [Function.comp_def, Option.or_assoc]

/-- What is collected on a batch, element by element. -/
theorem slots_recordAll_empty (size : Nat) (reports : List (Logged (Report α))) :
    ((empty size).recordAll reports).value.slots =
      (List.range size).map (firstOutcome? (reports.map Logged.value)) := by
  apply List.ext_getElem?
  intro index
  rw [slot_recordAll, empty, List.getElem?_map, List.getElem?_replicate]
  by_cases inside : index < size
  · simp [inside]
  · simp [inside]

/-- The reports that are dropped, in order. -/
def refused (c : Collector α) : List (Report α) → List (Report α)
  | [] => []
  | report :: rest =>
    match c.objection? report.index with
    | none => (c.record report).value.refused rest
    | some _ => report :: (c.record report).value.refused rest

/-- The warning about a report that a batch of the given size drops. -/
def warning (size : Nat) (report : Report α) : Event :=
  if report.index < size then .repeatedReport report.index
  else .strayReport report.index size

theorem objection?_eq_warning (c : Collector α) (report : Report α) {event : Event}
    (objection : c.objection? report.index = some event) :
    event = warning c.slots.length report := by
  unfold objection? at objection
  split at objection
  · rename_i outside
    have bound := List.getElem?_eq_none_iff.mp outside
    rw [warning, if_neg (by omega)]
    exact (Option.some.inj objection).symm
  · rename_i inside
    obtain ⟨bound, _⟩ := List.getElem?_eq_some_iff.mp inside
    rw [warning, if_pos bound]
    exact (Option.some.inj objection).symm
  · contradiction

/-- An empty slot takes the outcome, without a word. -/
theorem record_of_empty {c : Collector α} {report : Report α}
    (empty : c.objection? report.index = none) :
    c.record report = ⟨⟨c.slots.set report.index (some report.outcome)⟩, []⟩ := by
  rw [record, empty]

/-- All other reports are dropped, with a warning. -/
theorem record_of_objection {c : Collector α} {report : Report α} {event : Event}
    (objection : c.objection? report.index = some event) :
    c.record report = ⟨c, [warning c.slots.length report]⟩ := by
  rw [record, objection, objection?_eq_warning c report objection]

/-- The outcomes of dropped reports are dropped one by one. -/
theorem map_outcome_refused_cons (c : Collector α) (report : Report α)
    (rest : List (Report α)) :
    (c.refused (report :: rest)).map Report.outcome =
      (c.dropped? report).toList ++
        ((c.record report).value.refused rest).map Report.outcome := by
  rw [refused, dropped?]
  cases c.objection? report.index with
  | none => rfl
  | some event => rfl

/-- Beside the events of making the reports, there is one warning for each report that is
dropped. -/
theorem events_recordAll (c : Collector α) (reports : List (Logged (Report α))) :
    ((c.recordAll reports).events : Multiset Event) =
      reports.flatMap Logged.events +
        (c.refused (reports.map Logged.value)).map (warning c.slots.length) := by
  induction reports generalizing c with
  | nil => simp [refused]
  | cons report rest ih =>
    have length := c.length_record report.value
    rw [recordAll_cons, List.map_cons, refused, List.flatMap_cons, ← Multiset.coe_add,
      ← Multiset.coe_add, ← Multiset.coe_add, ih, length]
    cases objection : c.objection? report.value.index with
    | none =>
      rw [record_of_empty objection]
      simp only [Multiset.coe_nil, add_zero, add_assoc]
    | some event =>
      rw [record_of_objection objection]
      simp only [List.map_cons, ← Multiset.cons_coe, ← Multiset.singleton_add,
        Multiset.coe_nil]
      abel

/-- What collecting a run adds to the events of making its reports. -/
theorem events_recordAll_empty (size : Nat) (run : Run α) :
    (((empty size).recordAll run.reports).events : Multiset Event) =
      run.reports.flatMap Logged.events +
        ((empty size).refused run.made).map (warning size) := by
  have recorded := events_recordAll (empty size) run.reports
  rwa [empty, List.length_replicate] at recorded

theorem isNone_objection?_record (c : Collector α) (report : Report α) (index : Nat) :
    ((c.record report).value.objection? index).isNone =
      ((c.objection? index).isNone && report.index != index) := by
  rw [Bool.eq_iff_iff, Bool.and_eq_true, Option.isNone_iff_eq_none, Option.isNone_iff_eq_none,
    objection?_eq_none_iff, objection?_eq_none_iff, slot_record, bne_iff_ne]
  by_cases same : report.index = index
  · simp [same]
  · simp [same]

/-- Of the reports on an element, the first is stored if the slot is empty, and all others
are dropped. -/
theorem on_refused (c : Collector α) (reports : List (Report α)) (index : Nat) :
    on index (c.refused reports) =
      if (c.objection? index).isNone then (on index reports).tail else on index reports := by
  induction reports generalizing c with
  | nil => simp [refused, on]
  | cons report rest ih =>
    have later := ih (c.record report).value
    rw [isNone_objection?_record] at later
    rw [refused]
    by_cases same : report.index = index
    · subst same
      rw [bne_self_eq_false, Bool.and_false, if_neg Bool.false_ne_true] at later
      rw [on_cons_self rfl]
      cases objection : c.objection? report.index with
      | none => simpa using later
      | some event => simpa [on_cons_self rfl] using later
    · have different : (report.index != index) = true := bne_iff_ne.mpr same
      rw [different, Bool.and_true] at later
      rw [on_cons_other same]
      cases c.objection? report.index with
      | none => exact later
      | some event => exact (on_cons_other same _).trans later

/-- Which reports are dropped is the same for every order that is the same on each
element. -/
theorem refused_reordered (c : Collector α) {a b : List (Report α)}
    (reordered : Reordered a b) : Reordered (c.refused a) (c.refused b) := by
  intro index
  rw [on_refused, on_refused, reordered index]

/-- An outcome that fills an empty slot joins those that are stored. -/
theorem filterMap_set_perm {slots : List (Option α)} {index : Nat} (value : α)
    (empty : slots[index]? = some none) :
    ((slots.set index (some value)).filterMap id).Perm (value :: slots.filterMap id) := by
  induction slots generalizing index with
  | nil => cases empty
  | cons slot rest ih =>
    cases index with
    | zero =>
      obtain rfl : slot = none := Option.some.inj empty
      exact .refl _
    | succ index =>
      cases slot with
      | none => exact ih empty
      | some held => exact ((ih empty).cons held).trans (.swap value held _)

/-- A recorded outcome is stored or dropped. -/
theorem record_perm (c : Collector α) (report : Report α) :
    ((c.record report).value.stored ++ (c.dropped? report).toList).Perm
      (report.outcome :: c.stored) := by
  cases objection : c.objection? report.index with
  | none =>
    rw [record_of_empty objection, dropped?, objection, Option.map_none, Option.toList_none,
      List.append_nil]
    exact filterMap_set_perm report.outcome ((c.objection?_eq_none_iff report.index).mp objection)
  | some event =>
    rw [record_of_objection objection, dropped?, objection]
    exact List.perm_append_singleton ..

/-- Every reported outcome ends up stored or dropped, each just once. -/
theorem recordAll_perm (c : Collector α) (reports : List (Logged (Report α))) :
    ((c.recordAll reports).value.stored ++
        (c.refused (reports.map Logged.value)).map Report.outcome).Perm
      ((reports.map Logged.value).map Report.outcome ++ c.stored) := by
  induction reports generalizing c with
  | nil => simp [refused]
  | cons report rest ih =>
    let recorded := (c.record report.value).value
    let later := (recorded.refused (rest.map Logged.value)).map Report.outcome
    rw [recordAll_cons, List.map_cons, map_outcome_refused_cons]
    calc (recorded.recordAll rest).value.stored ++ ((c.dropped? report.value).toList ++ later)
      _ |>.Perm ((recorded.recordAll rest).value.stored ++
            (later ++ (c.dropped? report.value).toList)) :=
          List.perm_append_comm.append_left _
      _ |>.Perm ((rest.map Logged.value).map Report.outcome ++
            (recorded.stored ++ (c.dropped? report.value).toList)) := by
          rw [← List.append_assoc, ← List.append_assoc]
          exact (ih recorded).append_right _
      _ |>.Perm ((rest.map Logged.value).map Report.outcome ++
            (report.value.outcome :: c.stored)) := (c.record_perm report.value).append_left _
      _ |>.Perm _ := List.perm_middle

/-- Nothing is stored before there are reports. -/
theorem stored_empty (size : Nat) : (empty size : Collector α).stored = [] := by
  rw [stored, empty, List.filterMap_replicate_of_none rfl]

/-- What is stored for a batch and what is dropped is all that a run reports. -/
theorem recordAll_empty_perm (size : Nat) (run : Run α) :
    (((empty size).recordAll run.reports).value.stored ++
        ((empty size).refused run.made).map Report.outcome).Perm
      (run.made.map Report.outcome) := by
  have recorded := (empty size).recordAll_perm run.reports
  rwa [stored_empty, List.append_nil] at recorded

end Collector
end AssetBroker
