import AssetBroker.Named

/-! Capabilities: the groups of operations that a manager may implement, three of
which every manager must. -/
namespace AssetBroker

inductive Capability where
  | statefulContexts
  | customTerminology
  | resolution
  | publishing
  | relationshipQueries
  | existenceQueries
  | defaultEntityReferences
  | entityReferenceIdentification
  | managementPolicyQueries
  | entityTraitIntrospection
deriving DecidableEq

namespace Capability

instance : Named Capability where
  all := [.statefulContexts, .customTerminology, .resolution, .publishing,
    .relationshipQueries, .existenceQueries, .defaultEntityReferences,
    .entityReferenceIdentification, .managementPolicyQueries, .entityTraitIntrospection]
  name
    | .statefulContexts => "statefulContexts"
    | .customTerminology => "customTerminology"
    | .resolution => "resolution"
    | .publishing => "publishing"
    | .relationshipQueries => "relationshipQueries"
    | .existenceQueries => "existenceQueries"
    | .defaultEntityReferences => "defaultEntityReferences"
    | .entityReferenceIdentification => "entityReferenceIdentification"
    | .managementPolicyQueries => "managementPolicyQueries"
    | .entityTraitIntrospection => "entityTraitIntrospection"

def name (capability : Capability) : String := Named.name capability

/-- The capabilities that every manager must have, in the order they are checked. -/
def required : List Capability :=
  [entityReferenceIdentification, managementPolicyQueries, entityTraitIntrospection]

def isRequired (capability : Capability) : Bool := required.contains capability

end Capability
end AssetBroker
