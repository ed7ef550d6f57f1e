import AssetBroker.Capability
import AssetBroker.Error

/-! The operations on entities. Each works on a batch of elements, with arguments that
all elements share, and yields a payload for every element. Some requests are refused
before any manager sees them. -/
namespace AssetBroker

inductive Operation where
  | entityExists
  | entityTraits
  | resolve
  | defaultEntityReference
  | getWithRelationship
  | getWithRelationships
  | preflight
  | register
deriving DecidableEq

/-- What queries for related entities say about their answer. -/
structure PagedQuery where
  resultTraits : TraitSet
  pageSize : Nat
  access : RelationsAccess
deriving DecidableEq

namespace Operation

instance : Named Operation where
  all := [.entityExists, .entityTraits, .resolve, .defaultEntityReference,
    .getWithRelationship, .getWithRelationships, .preflight, .register]
  name
    | .entityExists => "entity_exists"
    | .entityTraits => "entity_traits"
    | .resolve => "resolve"
    | .defaultEntityReference => "default_entity_reference"
    | .getWithRelationship => "get_with_relationship"
    | .getWithRelationships => "get_with_relationships"
    | .preflight => "preflight"
    | .register => "register"

def name (op : Operation) : String := Named.name op

/-- The capability of managers that implement the operation. -/
def capability : Operation → Capability
  | entityExists => .existenceQueries
  | entityTraits => .entityTraitIntrospection
  | resolve => .resolution
  | defaultEntityReference => .defaultEntityReferences
  | getWithRelationship | getWithRelationships => .relationshipQueries
  | preflight | register => .publishing

/-- The elements of a batch. -/
def Element : Operation → Type
  | entityExists | entityTraits | resolve | getWithRelationship => EntityReference
  | defaultEntityReference => TraitSet
  | getWithRelationships => TraitsData
  | preflight | register => EntityReference × TraitsData

/-- The arguments that all elements of a batch share. -/
def Shared : Operation → Type
  | entityExists => Unit
  | entityTraits => EntityTraitsAccess
  | resolve => TraitSet × ResolveAccess
  | defaultEntityReference => DefaultEntityAccess
  | getWithRelationship => TraitsData × PagedQuery
  | getWithRelationships => EntityReference × PagedQuery
  | preflight | register => PublishingAccess

/-- What an element yields. Queries for related entities yield a pager over them. -/
def Payload (Pager : Type) : Operation → Type
  | entityExists => Bool
  | entityTraits => TraitSet
  | resolve => TraitsData
  | defaultEntityReference => Option EntityReference
  | getWithRelationship | getWithRelationships => Pager
  | preflight | register => EntityReference

/-- The pager in a payload, if the operation yields pagers. -/
def pager? {Pager : Type} : (op : Operation) → op.Payload Pager → Option Pager
  | getWithRelationship, pager | getWithRelationships, pager => some pager
  | entityExists, _ | entityTraits, _ | resolve, _ | defaultEntityReference, _
  | preflight, _ | register, _ => none

end Operation

/-- The arguments of an operation as a caller gives them. Lists that belong together
element by element may still differ in length. -/
inductive Request : Operation → Type where
  | entityExists (references : List EntityReference) : Request .entityExists
  | entityTraits (references : List EntityReference) (access : EntityTraitsAccess) :
      Request .entityTraits
  | resolve (references : List EntityReference) (traits : TraitSet) (access : ResolveAccess) :
      Request .resolve
  | defaultEntityReference (traitSets : List TraitSet) (access : DefaultEntityAccess) :
      Request .defaultEntityReference
  | getWithRelationship (references : List EntityReference) (relationship : TraitsData)
      (query : PagedQuery) : Request .getWithRelationship
  | getWithRelationships (reference : EntityReference) (relationships : List TraitsData)
      (query : PagedQuery) : Request .getWithRelationships
  | preflight (references : List EntityReference) (hints : List TraitsData)
      (access : PublishingAccess) : Request .preflight
  | register (references : List EntityReference) (datas : List TraitsData)
      (access : PublishingAccess) : Request .register

/-- Why a request is refused. -/
inductive RequestFault where
  | emptyPages
  | unevenLists (references others : Nat) (what : String)
  /-- The first data whose traits are not those of the first one in the list. -/
  | mismatchedTraits (index : Nat)
deriving DecidableEq

namespace RequestFault

def message : RequestFault → String
  | emptyPages => "pageSize must be greater than zero."
  | unevenLists references others what =>
    "Parameter lists must be of the same length: " ++ toString references ++
      " entity references vs. " ++ toString others ++ " " ++ what ++ "."
  | mismatchedTraits index => "Mismatched traits at index " ++ toString index

def toError (fault : RequestFault) : Error := .inputValidation fault.message

end RequestFault

namespace Request

variable {op : Operation}

/-- A batch of given elements. -/
def ofElements : {op : Operation} → List op.Element → op.Shared → Request op
  | .entityExists, elements, _ => .entityExists elements
  | .entityTraits, elements, access => .entityTraits elements access
  | .resolve, elements, (traits, access) => .resolve elements traits access
  | .defaultEntityReference, elements, access => .defaultEntityReference elements access
  | .getWithRelationship, elements, (relationship, query) =>
    .getWithRelationship elements relationship query
  | .getWithRelationships, elements, (reference, query) =>
    .getWithRelationships reference elements query
  | .preflight, elements, access =>
    .preflight (List.map Prod.fst elements) (List.map Prod.snd elements) access
  | .register, elements, access =>
    .register (List.map Prod.fst elements) (List.map Prod.snd elements) access

/-- How many elements the batch has. -/
def size : Request op → Nat
  | entityExists references | entityTraits references _ | resolve references _ _
  | getWithRelationship references _ _ | preflight references _ _
  | register references _ _ => references.length
  | defaultEntityReference traitSets _ => traitSets.length
  | getWithRelationships _ relationships _ => relationships.length

def pageFault? (query : PagedQuery) : Option RequestFault :=
  if query.pageSize = 0 then some .emptyPages else none

def lengthFault? (references : List EntityReference) (others : List TraitsData)
    (what : String) : Option RequestFault :=
  if references.length = others.length then none
  else some (.unevenLists references.length others.length what)

/-- Every data must have the traits of the first one. -/
def uniformityFault? : List TraitsData → Option RequestFault
  | [] => none
  | first :: rest =>
    (rest.findIdx? fun data => data.traitSet != first.traitSet).map fun offset =>
      .mismatchedTraits (offset + 1)

/-- What is wrong with a request, lengths before contents. -/
def fault? : Request op → Option RequestFault
  | getWithRelationship _ _ query | getWithRelationships _ _ query => pageFault? query
  | preflight references hints _ => lengthFault? references hints "traits hints"
  | register references datas _ =>
    (lengthFault? references datas "traits datas").or (uniformityFault? datas)
  | entityExists .. | entityTraits .. | resolve .. | defaultEntityReference .. => none

/-- What the request says about one element of its batch. -/
def errorContext (request : Request op) (index : Nat) : ErrorContext :=
  match request with
  | entityExists references => { entityReference := references[index]? }
  | entityTraits references access =>
    { entityReference := references[index]?, access := some access.access }
  | resolve references traits access =>
    { entityReference := references[index]?, access := some access.access,
      traitSet := some traits }
  | defaultEntityReference traitSets access =>
    { access := some access.access, traitSet := traitSets[index]? }
  | getWithRelationship references _ query =>
    { entityReference := references[index]?, access := some query.access.access }
  | getWithRelationships reference relationships query =>
    { entityReference := some reference, access := some query.access.access,
      traitsData := relationships[index]? }
  | preflight references hints access =>
    { entityReference := references[index]?, access := some access.access,
      traitsData := hints[index]? }
  | register references datas access =>
    { entityReference := references[index]?, access := some access.access,
      traitsData := datas[index]? }

end Request
end AssetBroker
