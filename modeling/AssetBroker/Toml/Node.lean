import AssetBroker.Binary64

/-! TOML documents as trees. A date or time is kept as its normalised text, which is
all that a reader of settings can make of it. -/
namespace AssetBroker.Toml

inductive Node where
  | text (s : String)
  | integer (n : Int64)
  | float (x : Binary64)
  | boolean (b : Bool)
  | moment (normalised : String)
  | array (items : List Node)
  | table (entries : List (String × Node))

/-- The entries of a table; each key occurs once. -/
abbrev Table := List (String × Node)

end AssetBroker.Toml
