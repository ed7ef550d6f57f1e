import AssetBroker.Bridge.Custody
import AssetBroker.EntityReference
import AssetBroker.TraitsData

/-! The types of object that cross the bridge. -/
namespace AssetBroker.Bridge

inductive Kind where
  | text
  | integer
  | boolean
  | float
  | value
  | traitsData
  | entityReference
deriving DecidableEq

namespace Kind

instance : Catalogue Kind where
  Content
    | text => String
    | integer => Int64
    | boolean => Bool
    | float => Binary64
    | value => Value
    | traitsData => TraitsData
    | entityReference => EntityReference
  typeName
    | text => "alloc::string::String"
    | integer => "i64"
    | boolean => "bool"
    | float => "f64"
    | value => "assetgate_core::value::Value"
    | traitsData => "assetgate_core::traits_data::TraitsData"
    | entityReference => "assetgate_core::entity_ref::EntityReference"

end Kind
end AssetBroker.Bridge
