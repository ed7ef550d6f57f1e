import AssetBroker.TraitsData

/-! The context of a call: where in the host the call comes from, and the state that a
manager keeps for related calls. States are the manager's own; a context only carries
them. -/
namespace AssetBroker

structure Context (State : Type) where
  locale : TraitsData := .empty
  state : Option State := none

end AssetBroker
