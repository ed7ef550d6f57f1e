import AssetBroker.Proofs.Enrichment

/-! Batches are transparent for backends that judge every element by itself. Such a backend
reports on each element of a batch once, in an order of its own, and what it reports depends
on nothing but the element and the arguments that all elements share. A batch then comes to
what the form for one element comes to on each of its elements, but for the index that an
exception tells. -/
namespace AssetBroker

variable {V : Vendor} {σ α β : Type} {op : Operation}

namespace Report

/-- One report on each of the elements, which are numbered from the given index on. -/
def onEach (verdict : β → Outcome α) : Nat → List β → List (Report α)
  | _, [] => []
  | index, element :: rest => ⟨index, verdict element⟩ :: onEach verdict (index + 1) rest

theorem map_index_onEach (verdict : β → Outcome α) (start : Nat) (elements : List β) :
    (onEach verdict start elements).map index = List.range' start elements.length := by
  induction elements generalizing start with
  | nil => rfl
  | cons element rest ih =>
    simp only [onEach, List.map_cons, ih, List.length_cons, List.range'_succ]

theorem firstOutcome?_onEach (verdict : β → Outcome α) (start : Nat) (elements : List β)
    (index : Nat) :
    firstOutcome? (onEach verdict start elements) (start + index) =
      elements[index]?.map verdict := by
  induction elements generalizing start index with
  | nil => rfl
  | cons element rest ih =>
    rw [onEach, firstOutcome?_cons]
    cases index with
    | zero => simp
    | succ index =>
      have later := ih (start + 1) index
      rw [Nat.add_right_comm, Nat.add_assoc] at later
      simp [later]

/-- In whatever order the elements are reported on, each has its verdict. -/
theorem firstOutcome?_of_perm_onEach {reports : List (Report α)} {verdict : β → Outcome α}
    {elements : List β} (perm : reports.Perm (onEach verdict 0 elements)) (index : Nat) :
    firstOutcome? reports index = elements[index]?.map verdict := by
  have once : ((onEach verdict 0 elements).map Report.index).Nodup := by
    rw [map_index_onEach]
    exact List.nodup_range'
  rw [← (Reordered.of_perm perm.symm once).firstOutcome?_eq, ← firstOutcome?_onEach verdict 0,
    Nat.zero_add]

theorem map_firstOutcome?_of_perm_onEach {reports : List (Report α)} {verdict : β → Outcome α}
    {elements : List β} (perm : reports.Perm (onEach verdict 0 elements)) :
    (List.range elements.length).map (firstOutcome? reports) =
      (elements.map verdict).map some := by
  apply List.ext_getElem
  · simp
  · intro index inside _
    have bound : index < elements.length := by simpa using inside
    simp [firstOutcome?_of_perm_onEach perm, bound]

end Report

namespace ElementException

/-- Exceptions that tell the same but for the index. Their messages tell it in one place. -/
structure SameButForIndex (first second : ElementException) : Prop where
  error_eq : first.error = second.error
  evidence_eq : first.evidence = second.evidence
  message_eq : ∃ start ending,
    first.message = start ++ " [index=" ++ toString first.index ++ "]" ++ ending ∧
    second.message = start ++ " [index=" ++ toString second.index ++ "]" ++ ending

/-- What a message says before it tells the index. -/
def opening (error : ElementError) : String :=
  error.code.name ++ ":" ++ (if error.message.isEmpty then "" else " " ++ error.message)

/-- What a message says after it has told the index. -/
def closing (context : ErrorContext) : String :=
  bracketed "access" (context.access.map Access.name) ++
    bracketed "entity" (context.entityReference.map EntityReference.text)

theorem message_of (index : Nat) (error : ElementError) (context : ErrorContext) :
    (of index error context).message =
      opening error ++ " [index=" ++ toString index ++ "]" ++ closing context := by
  simp only [of, compose, bracketed, opening, closing, String.append_assoc]
  rfl

theorem sameButForIndex_of (i j : Nat) (error : ElementError) (context : ErrorContext) :
    (of i error context).SameButForIndex (of j error context) where
  error_eq := rfl
  evidence_eq := rfl
  message_eq := ⟨_, _, message_of i error context, message_of j error context⟩

end ElementException

/-- A backend judges the elements of an operation one by one: whatever the elements, it
reports the verdict on each of them once, in any order, and ends well. -/
def World.ElementWise (world : World V σ) (backend : V.Backend) (op : Operation)
    (verdict : op.Element → op.Shared → Context V.State → Outcome (op.Payload V.Pager)) : Prop :=
  ∀ (elements : List op.Element) (shared : op.Shared) (context : Context V.State) (state : σ),
    let run : Run (op.Payload V.Pager) :=
      world.reply backend (.entities (.ofElements elements shared) context) state
    run.made.Perm (Report.onEach (verdict · shared context) 0 elements) ∧
      run.ending.value = .ok ()

namespace Operation

/-- How many entities a page is asked to have, if the operation yields pages. -/
def pageSize? : (op : Operation) → op.Shared → Option Nat
  | getWithRelationship, (_, query) | getWithRelationships, (_, query) => some query.pageSize
  | entityExists, _ | entityTraits, _ | resolve, _ | defaultEntityReference, _
  | preflight, _ | register, _ => none

/-- Data to be registered together must have the same traits. -/
def Uniform : (op : Operation) → List op.Element → Prop
  | register, elements =>
    let datas := List.map Prod.snd elements
    ∀ a ∈ datas, ∀ b ∈ datas, a.traitSet = b.traitSet
  | entityExists, _ | entityTraits, _ | resolve, _ | defaultEntityReference, _
  | getWithRelationship, _ | getWithRelationships, _ | preflight, _ => True

theorem uniform_singleton (element : op.Element) : op.Uniform [element] := by
  cases op with
  | register =>
    intro a inA b inB
    rw [List.mem_singleton.mp inA, List.mem_singleton.mp inB]
  | _ => trivial

end Operation

namespace Request

/-- The conditions on a batch of given elements. -/
theorem valid_ofElements_iff {elements : List op.Element} {shared : op.Shared} :
    (ofElements elements shared).Valid ↔ op.pageSize? shared ≠ some 0 ∧ op.Uniform elements := by
  have pageless : (none : Option Nat) ≠ some 0 := nofun
  have even (pairs : List (EntityReference × TraitsData)) :
      (pairs.map Prod.fst).length = (pairs.map Prod.snd).length := by
    rw [List.length_map, List.length_map]
  cases op with
  | getWithRelationship | getWithRelationships =>
    obtain ⟨_, query⟩ := shared
    change 0 < query.pageSize ↔ some query.pageSize ≠ some 0 ∧ True
    simp [Nat.pos_iff_ne_zero]
  | preflight => exact iff_of_true (even elements) ⟨pageless, trivial⟩
  | register => exact (and_iff_right (even elements)).trans (and_iff_right pageless).symm
  | _ => exact iff_of_true trivial ⟨pageless, trivial⟩

/-- What a batch of given elements knows of the element at an index. -/
theorem errorContext_ofElements {elements : List op.Element} {index : Nat} {element : op.Element}
    (found : elements[index]? = some element) (shared : op.Shared) :
    (ofElements elements shared).errorContext index = op.supplied element shared := by
  have held : (ofElements elements shared).element? index = some element := by
    rwa [element?_ofElements]
  rw [errorContext_eq_supplied held, shared_ofElements]

end Request

namespace Manager

/-- What the form for one element comes to on each of several, called in any states. -/
def singly (m : Manager V) (policy : ErrorPolicy) (elements : List op.Element)
    (shared : op.Shared) (context : Context V.State) (world : World V σ) (states : Nat → σ) :
    List (Except Error (policy.Output (op.Payload V.Pager))) :=
  elements.mapIdx fun index element =>
    ((m.one policy element shared context).run world (states index)).value

/-- Where the answer on an element does not depend on the state, it is the same in all. -/
theorem singly_eq_map {m : Manager V} {policy : ErrorPolicy} {shared : op.Shared}
    {context : Context V.State} {world : World V σ}
    {answer : op.Element → Except Error (policy.Output (op.Payload V.Pager))}
    (answered : ∀ element state,
      ((m.one policy element shared context).run world state).value = answer element)
    (elements : List op.Element) (states : Nat → σ) :
    m.singly policy elements shared context world states = elements.map answer := by
  apply List.ext_getElem
  · simp [singly]
  · intro index _ _
    simp [singly, answered]

section

variable {m : Manager V} {world : World V σ}
  {verdict : op.Element → op.Shared → Context V.State → Outcome (op.Payload V.Pager)}
  (elementWise : world.ElementWise m.backend op verdict) (policy : ErrorPolicy)
  {shared : op.Shared} (context : Context V.State)

include elementWise

/-- Whatever the order of the reports, the verdicts are settled in the order of the batch. -/
theorem value_batch_of_elementWise {elements : List op.Element}
    (valid : (Request.ofElements elements shared).Valid) (state : σ) :
    ∃ identifier, ((m.batch policy (.ofElements elements shared) context).run world state).value =
      (policy.settleAll identifier (Request.ofElements elements shared).errorContext
        ((elements.map (verdict · shared context)).map some)).result := by
  obtain ⟨perm, ending⟩ := elementWise elements shared context state
  rw [value_batch_of_success m policy context world state (Request.fault?_eq_none_iff.mpr valid)
    ending, Request.size_ofElements]
  exact ⟨_, congrArg (fun slots => (policy.settleAll _ _ slots).result)
    (Report.map_firstOutcome?_of_perm_onEach perm)⟩

theorem value_one_of_elementWise (paged : op.pageSize? shared ≠ some 0) (element : op.Element)
    (state : σ) :
    ((m.one policy element shared context).run world state).value =
      policy.settle 0 (verdict element shared context) (op.supplied element shared) := by
  have valid : (Request.ofElements [element] shared).Valid :=
    Request.valid_ofElements_iff.mpr ⟨paged, op.uniform_singleton element⟩
  obtain ⟨identifier, value⟩ := value_batch_of_elementWise elementWise policy context valid state
  rw [value_one, value, List.map_singleton, List.map_singleton, ErrorPolicy.settleAll_singleton,
    Request.errorContext_ofElements rfl]
  cases policy.settle 0 (verdict element shared context) (op.supplied element shared) with
  | error fault => rfl
  | ok output => rfl

/-- A verdict in the batch is the verdict on an element alone. -/
theorem getElem?_singly_of_elementWise (paged : op.pageSize? shared ≠ some 0)
    {elements : List op.Element} {index : Nat} {outcome : Outcome (op.Payload V.Pager)}
    (judged : (elements.map (verdict · shared context))[index]? = some outcome)
    (states : Nat → σ) :
    ∃ element, elements[index]? = some element ∧
      (m.singly policy elements shared context world states)[index]? =
        some (policy.settle 0 outcome (op.supplied element shared)) := by
  obtain ⟨element, found, rfl⟩ : ∃ element, elements[index]? = some element ∧
      verdict element shared context = outcome := by
    simpa using judged
  refine ⟨element, found, ?_⟩
  rw [singly_eq_map (value_one_of_elementWise elementWise policy context paged),
    List.getElem?_map, found, Option.map_some]

end

/-- A request for empty pages is refused, whatever the elements. -/
theorem value_batch_of_empty_pages (m : Manager V) (policy : ErrorPolicy)
    (elements : List op.Element) {shared : op.Shared} (pageless : op.pageSize? shared = some 0)
    (context : Context V.State) (world : World V σ) (state : σ) :
    ((m.batch policy (.ofElements elements shared) context).run world state).value =
      .error (.inputValidation "pageSize must be greater than zero.") := by
  have refused : (Request.ofElements elements shared).fault? = some .emptyPages := by
    cases op with
    | getWithRelationship | getWithRelationships =>
      exact if_pos (Option.some.inj pageless)
    | _ => cases pageless
  exact value_batch_of_fault m policy context world state refused

end Manager

namespace Rehearsal

/-- The rehearsed world, but with a backend that gives verdicts on elements, the last one
first. -/
def judging (verdict : (op : Operation) → op.Element → op.Shared → Outcome (op.Payload Nat)) :
    World vendor Stage :=
  { world with
    answer := fun query stage => match query with
      | .call _ (@Call.entities _ op request _) =>
        let reports := Report.onEach (verdict op · request.shared) 0 request.elements
        (⟨⟨reports.reverse.map pure, pure (.ok ())⟩, []⟩, stage)
      | query => answer query stage }

theorem elementWise_judging
    (verdict : (op : Operation) → op.Element → op.Shared → Outcome (op.Payload Nat))
    (backend : Nat) (op : Operation) :
    (judging verdict).ElementWise backend op fun element shared _ => verdict op element shared := by
  intro elements shared context state run
  refine ⟨?_, rfl⟩
  have made : run.made = (Report.onEach (verdict op · shared) 0 elements).reverse := by
    simp only [run, World.reply, judging, Run.made, Request.elements_ofElements,
      Request.shared_ofElements, List.map_map]
    exact List.map_id _
  rw [made]
  exact List.reverse_perm _

/-- Only default entities are told of, and none for the empty set of traits. -/
def denyEmpty : (op : Operation) → op.Element → op.Shared → Outcome (op.Payload Nat)
  | .defaultEntityReference, traits, _ =>
    if NameSet.isEmpty traits then .error denied else .ok none
  | _, _, _ => .error denied

end Rehearsal

namespace Manager

/-- Batches are transparent for backends that judge every element by itself. With errors in
place, a batch yields what the form for one element yields on each of its elements. With
errors raised, it yields values just when all single calls do, and these. Otherwise it
raises the exception of the first single call to fail, but for the index: that of the element
in the batch, which the message tells in the place where it told the index of the only element.
Requests for empty pages are refused in both forms, whatever the elements. -/
theorem batch_transparent_for_element_wise (m : Manager V) {world : World V σ}
    {verdict : op.Element → op.Shared → Context V.State → Outcome (op.Payload V.Pager)}
    (elementWise : world.ElementWise m.backend op verdict) (elements : List op.Element)
    (shared : op.Shared) (context : Context V.State) (state : σ) (states : Nat → σ) :
    let batch := fun policy =>
      ((m.batch policy (.ofElements elements shared) context).run world state).value
    let ones := fun policy => m.singly policy elements shared context world states
    (op.pageSize? shared ≠ some 0 → op.Uniform elements →
      (∃ outcomes, batch .inPlace = .ok outcomes ∧ ones .inPlace = outcomes.map .ok) ∧
      (∀ values, batch .raised = .ok values ↔ ones .raised = values.map .ok) ∧
      ∀ fault, batch .raised = .error fault → ∃ index alone among,
        (ones .raised)[index]? = some (.error (.batchElement alone)) ∧
        (∀ before < index, ∃ value, (ones .raised)[before]? = some (.ok value)) ∧
        fault = .batchElement among ∧ alone.index = 0 ∧ among.index = index ∧
        alone.SameButForIndex among) ∧
    (op.pageSize? shared = some 0 → ∀ policy,
      let refusal := Error.inputValidation "pageSize must be greater than zero."
      batch policy = .error refusal ∧ ones policy = elements.map fun _ => .error refusal) := by
  intro batch ones
  refine ⟨fun paged uniform => ?_, fun pageless policy => ⟨?_, ?_⟩⟩
  · have valid : (Request.ofElements elements shared).Valid :=
      Request.valid_ofElements_iff.mpr ⟨paged, uniform⟩
    have each (policy : ErrorPolicy) : ones policy = _ :=
      singly_eq_map (value_one_of_elementWise elementWise policy context paged) elements states
    obtain ⟨_, inPlace⟩ := value_batch_of_elementWise elementWise .inPlace context valid state
    obtain ⟨_, raised⟩ := value_batch_of_elementWise elementWise .raised context valid state
    refine ⟨⟨_, inPlace.trans ErrorPolicy.settleAll_inPlace_some, ?_⟩, ?_, ?_⟩
    · rw [each, List.map_map]
      rfl
    · intro values
      rw [each]
      exact ((Eq.congr raised rfl).trans ErrorPolicy.settleAll_raised_some_eq_ok_iff).trans
        ErrorPolicy.map_settle_raised_eq_map_ok_iff.symm
    · intro fault failed
      obtain ⟨index, error, judged, clean, rfl⟩ :=
        ErrorPolicy.settleAll_raised_some_eq_error (raised.symm.trans failed)
      obtain ⟨element, found, alone⟩ :=
        getElem?_singly_of_elementWise elementWise .raised context paged judged states
      rw [Request.errorContext_ofElements found]
      let known := op.supplied element shared
      refine ⟨index, .of 0 error known, .of index error known, alone, ?_, rfl, rfl, rfl,
        ElementException.sameButForIndex_of 0 index error known⟩
      intro before earlier
      obtain ⟨value, passed⟩ := clean before earlier
      obtain ⟨_, _, one⟩ :=
        getElem?_singly_of_elementWise elementWise .raised context paged passed states
      exact ⟨value, one⟩
  · exact value_batch_of_empty_pages m policy elements pageless context world state
  · refine singly_eq_map (fun element later => ?_) elements states
    exact value_one_of_error m policy context world later
      (value_batch_of_empty_pages m policy [element] pageless context world later)

/-- A denial in a batch is the denial of the element alone, but for the index. -/
theorem denial_told_at_index_in_batch :
    let elements : List TraitSet := [.ofList ["shot"], .empty, .ofList ["image"]]
    let access : DefaultEntityAccess := ⟨.read, by decide⟩
    let world := Rehearsal.judging Rehearsal.denyEmpty
    let ones := @singly _ _ .defaultEntityReference Rehearsal.manager .raised elements access {}
      world fun _ => .empty
    let among := ElementException.of 1 Rehearsal.denied
      { access := some .read, traitSet := some .empty }
    ((Rehearsal.manager.batch .raised (.defaultEntityReference elements access) {}).run world
      .empty).value = .error (.batchElement among) ∧
    ∃ alone, ones[1]? = some (.error (.batchElement alone)) ∧ alone.index = 0 ∧
      alone.SameButForIndex among := by
  intro elements access world ones among
  have raised : ((Rehearsal.manager.batch .raised (.defaultEntityReference elements access)
      {}).run world .empty).value = .error (.batchElement among) :=
    value_batch_of_success Rehearsal.manager .raised {} world .empty rfl rfl
  obtain ⟨_, _, failure⟩ := (batch_transparent_for_element_wise Rehearsal.manager
    (Rehearsal.elementWise_judging Rehearsal.denyEmpty 1 .defaultEntityReference) elements access
    {} .empty fun _ => .empty).1 nofun trivial
  obtain ⟨index, alone, told, failed, _, same, first, rfl, agree⟩ := failure _ raised
  cases same
  exact ⟨raised, alone, failed, first, agree⟩

/-- A request for empty pages is refused even without elements, where there is no single call
that could be refused. -/
theorem empty_batch_for_empty_pages_refused :
    let world := Rehearsal.judging Rehearsal.denyEmpty
    let shared : Operation.getWithRelationship.Shared := (.empty, ⟨.empty, 0, ⟨.read, by decide⟩⟩)
    let batch := (Rehearsal.manager.batch .inPlace (.ofElements [] shared) {}).run world .empty
    let ones := Rehearsal.manager.singly .inPlace [] shared {} world fun _ => .empty
    world.ElementWise Rehearsal.manager.backend .getWithRelationship
      (fun element shared _ => Rehearsal.denyEmpty _ element shared) ∧
    batch.value = .error (.inputValidation "pageSize must be greater than zero.") ∧
    ones = [] ∧
    ¬ ∃ outcomes, batch.value = .ok outcomes ∧ ones = outcomes.map .ok := by
  intro world shared batch ones
  have refused : batch.value =
      .error (.inputValidation "pageSize must be greater than zero.") := rfl
  refine ⟨Rehearsal.elementWise_judging Rehearsal.denyEmpty 1 .getWithRelationship, refused, rfl,
    ?_⟩
  rintro ⟨outcomes, yielded, _⟩
  rw [refused] at yielded
  cases yielded

end Manager
end AssetBroker
