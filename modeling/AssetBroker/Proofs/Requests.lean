import AssetBroker.Operation
import Mathlib.Data.List.Basic

/-! Requests, element by element: which of them are accepted, what elements their batches
have, what an operation knows of an element, and which parts of that an exception has a place
for. The last two are tables, one by operation and one by the code of the error. -/
namespace AssetBroker

variable {op : Operation}

inductive ContextPart where
  | entityReference
  | access
  | traitSet
  | traitsData
deriving DecidableEq

/-- The parts of a context that exceptions for a code have a place for. -/
def ErrorCode.carried : ErrorCode → List ContextPart
  | .unknown => []
  | .invalidEntityReference | .malformedEntityReference | .entityResolutionError =>
    [.entityReference]
  | .entityAccessError => [.entityReference, .access]
  | .invalidPreflightHint | .invalidTraitsData => [.entityReference, .traitsData]
  | .invalidTraitSet => [.entityReference, .traitSet]

/-- The kind of the exceptions for a code. -/
def ErrorCode.exceptionKind : ErrorCode → String
  | .unknown => "Unknown"
  | .invalidEntityReference => "InvalidEntityReference"
  | .malformedEntityReference => "MalformedEntityReference"
  | .entityAccessError => "EntityAccess"
  | .entityResolutionError => "EntityResolution"
  | .invalidPreflightHint => "InvalidPreflightHint"
  | .invalidTraitSet => "InvalidTraitSet"
  | .invalidTraitsData => "InvalidTraitsData"

/-- What an operation knows of one element. -/
def Operation.supplied : (op : Operation) → op.Element → op.Shared → ErrorContext
  | .entityExists, reference, _ => { entityReference := some reference }
  | .entityTraits, reference, access =>
    { entityReference := some reference, access := some access.access }
  | .resolve, reference, (traits, access) =>
    { entityReference := some reference, access := some access.access,
      traitSet := some traits }
  | .defaultEntityReference, traits, access =>
    { access := some access.access, traitSet := some traits }
  | .getWithRelationship, reference, (_, query) =>
    { entityReference := some reference, access := some query.access.access }
  | .getWithRelationships, relationship, (reference, query) =>
    { entityReference := some reference, access := some query.access.access,
      traitsData := some relationship }
  | .preflight, (reference, data), access | .register, (reference, data), access =>
    { entityReference := some reference, access := some access.access,
      traitsData := some data }

namespace Request

/-- The conditions on a request. -/
def Valid : Request op → Prop
  | getWithRelationship _ _ query | getWithRelationships _ _ query => 0 < query.pageSize
  | preflight references hints _ => references.length = hints.length
  | register references datas _ => references.length = datas.length ∧
      ∀ a ∈ datas, ∀ b ∈ datas, a.traitSet = b.traitSet
  | entityExists .. | entityTraits .. | resolve .. | defaultEntityReference .. => True

theorem pageFault?_eq_none_iff {query : PagedQuery} :
    pageFault? query = none ↔ 0 < query.pageSize := by
  unfold pageFault?
  split <;> simp_all [Nat.pos_iff_ne_zero]

theorem lengthFault?_eq_none_iff {references : List EntityReference}
    {others : List TraitsData} {what : String} :
    lengthFault? references others what = none ↔ references.length = others.length := by
  unfold lengthFault?
  split <;> simp_all

/-- It is enough to compare the traits of each data with those of the first. -/
theorem uniformityFault?_eq_none_iff {datas : List TraitsData} :
    uniformityFault? datas = none ↔ ∀ a ∈ datas, ∀ b ∈ datas, a.traitSet = b.traitSet := by
  cases datas with
  | nil => simp [uniformityFault?]
  | cons first rest =>
    have compared : uniformityFault? (first :: rest) = none ↔
        ∀ data ∈ rest, data.traitSet = first.traitSet := by
      simp [uniformityFault?, List.findIdx?_eq_none_iff]
    rw [compared]
    constructor
    · intro alike a inA b inB
      have toFirst (data : TraitsData) (member : data ∈ first :: rest) :
          data.traitSet = first.traitSet := by
        rcases List.mem_cons.mp member with rfl | later
        · rfl
        · exact alike data later
      exact (toFirst a inA).trans (toFirst b inB).symm
    · intro uniform data member
      exact uniform data (List.mem_cons_of_mem first member) first List.mem_cons_self

/-- The checks accept just the requests that meet the conditions. -/
theorem fault?_eq_none_iff {request : Request op} : request.fault? = none ↔ request.Valid := by
  cases request with
  | getWithRelationship references relationship query => exact pageFault?_eq_none_iff
  | getWithRelationships reference relationships query => exact pageFault?_eq_none_iff
  | preflight references hints access => exact lengthFault?_eq_none_iff
  | register references datas access =>
    rw [fault?, Option.or_eq_none_iff, lengthFault?_eq_none_iff, uniformityFault?_eq_none_iff]
    rfl
  | _ => simp [fault?, Valid]

theorem exists_fault {request : Request op} (invalid : ¬ request.Valid) :
    ∃ fault, request.fault? = some fault :=
  Option.ne_none_iff_exists'.mp fun accepted => invalid (fault?_eq_none_iff.mp accepted)

/-- The lengths of the lists that a batch takes its elements from. -/
def lengths : Request op → List Nat
  | entityExists references | entityTraits references _ | resolve references _ _
  | getWithRelationship references _ _ => [references.length]
  | defaultEntityReference traitSets _ => [traitSets.length]
  | getWithRelationships _ relationships _ => [relationships.length]
  | preflight references datas _ | register references datas _ =>
    [references.length, datas.length]

/-- The element at an index, if all lists reach that far. -/
def element? : {op : Operation} → Request op → Nat → Option op.Element
  | _, entityExists references, index | _, entityTraits references _, index
  | _, resolve references _ _, index | _, getWithRelationship references _ _, index =>
    references[index]?
  | _, defaultEntityReference traitSets _, index => traitSets[index]?
  | _, getWithRelationships _ relationships _, index => relationships[index]?
  | _, preflight references datas _, index | _, register references datas _, index =>
    (references.zip datas)[index]?

/-- The elements of a batch, as far as all lists reach. -/
def elements : {op : Operation} → Request op → List op.Element
  | _, entityExists references | _, entityTraits references _ | _, resolve references _ _
  | _, getWithRelationship references _ _ => references
  | _, defaultEntityReference traitSets _ => traitSets
  | _, getWithRelationships _ relationships _ => relationships
  | _, preflight references datas _ | _, register references datas _ => references.zip datas

theorem element?_eq_getElem? (request : Request op) (index : Nat) :
    request.element? index = request.elements[index]? := by
  cases request <;> rfl

/-- The arguments that all elements share. -/
def shared : {op : Operation} → Request op → op.Shared
  | _, entityExists _ => ()
  | _, entityTraits _ access => access
  | _, resolve _ traits access => (traits, access)
  | _, defaultEntityReference _ access => access
  | _, getWithRelationship _ relationship query => (relationship, query)
  | _, getWithRelationships reference _ query => (reference, query)
  | _, preflight _ _ access => access
  | _, register _ _ access => access

/-- The lists of an accepted request all have the length of its batch. -/
theorem length_eq_size {request : Request op} (accepted : request.fault? = none) :
    ∀ length ∈ request.lengths, length = request.size := by
  cases request with
  | preflight references hints access =>
    have even := lengthFault?_eq_none_iff.mp accepted
    simp [lengths, size, even]
  | register references datas access =>
    have even := lengthFault?_eq_none_iff.mp (Option.or_eq_none_iff.mp accepted).1
    simp [lengths, size, even]
  | _ => simp [lengths, size]

theorem exists_element {request : Request op} {index : Nat}
    (inRange : ∀ length ∈ request.lengths, index < length) :
    ∃ element, request.element? index = some element := by
  cases request with
  | preflight references datas access | register references datas access =>
    have both : index < (references.zip datas).length := by
      simpa [lengths, Nat.lt_min] using inRange
    exact ⟨_, List.getElem?_eq_getElem both⟩
  | _ => exact ⟨_, List.getElem?_eq_getElem (inRange _ (List.mem_singleton.mpr rfl))⟩

/-- An accepted request has an element at every index of its batch. -/
theorem exists_element_of_lt_size {request : Request op} {index : Nat}
    (accepted : request.fault? = none) (inside : index < request.size) :
    ∃ element, request.element? index = some element := by
  refine exists_element fun length member => ?_
  rwa [length_eq_size accepted length member]

/-- What a request says about an element is what the operation knows of it. -/
theorem errorContext_eq_supplied {request : Request op} {index : Nat} {element : op.Element}
    (found : request.element? index = some element) :
    request.errorContext index = op.supplied element request.shared := by
  cases request with
  | preflight references datas access | register references datas access =>
    obtain ⟨reference, data⟩ := element
    obtain ⟨atReference, atData⟩ := List.getElem?_zip_eq_some.mp found
    simp [errorContext, Operation.supplied, shared, atReference, atData]
  | _ =>
    simp only [errorContext, Operation.supplied, shared, ErrorContext.mk.injEq, and_self,
      and_true, true_and]
    exact found

theorem elements_ofElements (elements : List op.Element) (shared : op.Shared) :
    (ofElements elements shared).elements = elements := by
  cases op with
  | preflight | register => exact (List.zip_of_prod rfl rfl).symm
  | _ => rfl

theorem element?_ofElements (elements : List op.Element) (shared : op.Shared) (index : Nat) :
    (ofElements elements shared).element? index = elements[index]? := by
  rw [element?_eq_getElem?, elements_ofElements]

theorem shared_ofElements (elements : List op.Element) (shared : op.Shared) :
    (ofElements elements shared).shared = shared := by
  cases op <;> rfl

theorem size_ofElements (elements : List op.Element) (shared : op.Shared) :
    (ofElements elements shared).size = elements.length := by
  cases op with
  | preflight | register => exact List.length_map _
  | _ => rfl

theorem lengths_ofElements (elements : List op.Element) (shared : op.Shared) :
    ∀ length ∈ (ofElements elements shared).lengths, length = elements.length := by
  cases op with
  | preflight | register =>
    exact List.forall_mem_cons.mpr
      ⟨List.length_map _, List.forall_mem_singleton.mpr (List.length_map _)⟩
  | _ => exact List.forall_mem_singleton.mpr rfl

theorem size_mem_lengths (request : Request op) : request.size ∈ request.lengths := by
  cases request <;> simp [size, lengths]

end Request

namespace ElementException

/-- What an exception tells of the element it is raised for: all parts of the element's
context that the operation knows and that the kind of exception has a place for, and no
others. -/
structure Describes (exception : ElementException) (error : ElementError)
    (context : ErrorContext) : Prop where
  error_eq : exception.error = error
  kind_eq : exception.evidence.kind = error.code.exceptionKind
  entityReference_eq : exception.evidence.entityReference? =
    if .entityReference ∈ error.code.carried then context.entityReference else none
  access_eq : exception.evidence.access? =
    if .access ∈ error.code.carried then context.access else none
  traitSet_eq : exception.evidence.traitSet? =
    if .traitSet ∈ error.code.carried then context.traitSet else none
  traitsData_eq : exception.evidence.traitsData? =
    if .traitsData ∈ error.code.carried then context.traitsData else none

theorem of_describes (index : Nat) (error : ElementError) (context : ErrorContext) :
    (of index error context).Describes error context := by
  obtain ⟨code, message⟩ := error
  refine ⟨rfl, ?_, ?_, ?_, ?_, ?_⟩ <;> cases code <;> rfl

end ElementException
end AssetBroker
