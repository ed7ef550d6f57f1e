/-! Closed lists of alternatives that are known by their names, as access modes,
error codes and capabilities are. -/
namespace AssetBroker

/-- A type with finitely many members, each with the name it is written as. -/
class Named (α : Type) where
  all : List α
  name : α → String

/-- The member of the given name. -/
def Named.ofName? {α : Type} [Named α] (name : String) : Option α :=
  (all : List α).find? fun member => Named.name member == name

end AssetBroker
