import AssetBroker.Toml.Moment

/-! Tables that stand for dates and times. A table whose first key is the key of moments
is taken for a moment, and the text under that key has to be one, written as in a
document; the rest of such a table does not count. -/
namespace AssetBroker.Toml

/-- The key under which a moment appears where a table is expected. -/
def momentKey : String := "$__toml_private_datetime"

/-- Whether a text is a date, a time of day, or both with an optional offset. -/
def isMoment (text : String) : Bool :=
  (readMoment? text.toList).any fun (_, rest) => rest == []

def isMomentNode : Node → Bool
  | .text s => isMoment s
  | _ => false

mutual

/-- Whether every table taken for a moment, at any depth, has the text of one. -/
def Node.isSound : Node → Bool
  | .array items => areSound items
  | .table [] => true
  | .table ((key, node) :: rest) =>
    if key = momentKey then isMomentNode node else node.isSound && haveSoundNodes rest
  | .text _ | .integer _ | .float _ | .boolean _ | .moment _ => true

def areSound : List Node → Bool
  | [] => true
  | item :: rest => item.isSound && areSound rest

def haveSoundNodes : Table → Bool
  | [] => true
  | (_, node) :: rest => node.isSound && haveSoundNodes rest

end

end AssetBroker.Toml
