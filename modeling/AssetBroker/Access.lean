import AssetBroker.Named

/-! Why a host asks: the access modes, and for each kind of operation the modes
it admits. A mode admitted by an operation carries the proof that it is on the
operation's list, so widening it to a plain mode forgets nothing else. -/
namespace AssetBroker

inductive Access where
  | read
  | write
  | createRelated
  | required
  | managerDriven
deriving DecidableEq

instance : Named Access where
  all := [.read, .write, .createRelated, .required, .managerDriven]
  name
    | .read => "read"
    | .write => "write"
    | .createRelated => "createRelated"
    | .required => "required"
    | .managerDriven => "managerDriven"

def Access.name (access : Access) : String := Named.name access

/-- One of the listed access modes. -/
structure AccessAmong (modes : List Access) where
  access : Access
  admitted : access ∈ modes
deriving DecidableEq

instance (modes : List Access) : Named (AccessAmong modes) where
  all := modes.attach.map fun mode => ⟨mode.1, mode.2⟩
  name mode := mode.access.name

/-- The modes of queries about management policy. -/
def Access.forPolicy : List Access := [.read, .write, .createRelated, .required, .managerDriven]

def Access.forResolving : List Access := [.read, .managerDriven]

def Access.forPublishing : List Access := [.write, .createRelated]

def Access.forRelations : List Access := [.read, .write, .createRelated]

def Access.forDefaultEntities : List Access := [.read, .write, .createRelated]

def Access.forEntityTraits : List Access := [.read, .write]

abbrev PolicyAccess := AccessAmong Access.forPolicy

abbrev ResolveAccess := AccessAmong Access.forResolving

abbrev PublishingAccess := AccessAmong Access.forPublishing

abbrev RelationsAccess := AccessAmong Access.forRelations

abbrev DefaultEntityAccess := AccessAmong Access.forDefaultEntities

abbrev EntityTraitsAccess := AccessAmong Access.forEntityTraits

end AssetBroker
