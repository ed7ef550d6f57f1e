/-! Entity references: strings that belong to the manager that issued them. Only
that manager can tell whether a string is one of its references, so the type
promises nothing about its text. -/
namespace AssetBroker

structure EntityReference where
  text : String
deriving DecidableEq

namespace EntityReference

/-- References are ordered as their texts, by code point. -/
instance : Ord EntityReference := ⟨fun a b => compareOfLessAndEq a.text b.text⟩

end EntityReference
end AssetBroker
