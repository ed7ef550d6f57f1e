import AssetBroker.Value

/-! Traits data: the traits of an entity and, for each trait, the properties set
on it. A trait without properties is present all the same. Setting a property
adds its trait; reading one from an absent trait is refused. -/
namespace AssetBroker

/-- A set of trait identifiers. -/
abbrev TraitSet := NameSet

structure TraitsData where
  traits : Dictionary (Dictionary Value)
deriving DecidableEq

/-- The refusal to read properties of a trait that is not present. -/
structure UnknownTrait where
  traitId : String
deriving DecidableEq

namespace TraitsData

def empty : TraitsData := ⟨.empty⟩

instance : Inhabited TraitsData := ⟨empty⟩

/-- Containers agree when they hold the same traits with the same property keys
and agreeing values. -/
instance : BEq TraitsData := ⟨fun a b => a.traits == b.traits⟩

def traitSet (d : TraitsData) : TraitSet := d.traits.nameSet

def hasTrait (d : TraitsData) (traitId : String) : Bool := d.traits.contains traitId

def isEmpty (d : TraitsData) : Bool := d.traits.isEmpty

/-- Adds a trait without properties; a trait already present keeps its own. -/
def addTrait (d : TraitsData) (traitId : String) : TraitsData :=
  if d.hasTrait traitId then d else ⟨d.traits.insert traitId .empty⟩

def addTraits (d : TraitsData) (traitIds : List String) : TraitsData :=
  traitIds.foldl addTrait d

def ofTraits (traitIds : List String) : TraitsData := empty.addTraits traitIds

def setProperty (d : TraitsData) (traitId key : String) (value : Value) : TraitsData :=
  ⟨d.traits.insert traitId (((d.traits.get? traitId).getD .empty).insert key value)⟩

/-- The properties of a present trait. -/
def properties (d : TraitsData) (traitId : String) : Except UnknownTrait (Dictionary Value) :=
  match d.traits.get? traitId with
  | some held => .ok held
  | none => .error ⟨traitId⟩

def property (d : TraitsData) (traitId key : String) : Except UnknownTrait (Option Value) :=
  (d.properties traitId).map fun held => held.get? key

/-- The keys set on a present trait, in ascending order. -/
def propertyKeys (d : TraitsData) (traitId : String) : Except UnknownTrait (List String) :=
  (d.properties traitId).map fun held => held.keys

end TraitsData
end AssetBroker
