import AssetBroker.ElementError
import AssetBroker.EntityReference
import AssetBroker.Json.Reader
import AssetBroker.TraitsData

/-! Payloads as JSON documents. A value is an object with its type as the only key;
traits data and element errors are objects with known fields, or arrays of the
fields in order; an enumeration is its name. A float without a JSON number (NaN or
an infinity) is written as null, which no reader of values accepts. -/
namespace AssetBroker.Json

namespace Document

def ofString (s : String) : Document := text (some s)

def ofInt (n : Int) : Document := number (.integer n)

/-- The document of a float, null where JSON has no number for it. -/
def ofBinary64 (x : Binary64) : Document := if x.isFinite then number (.real x) else null

/-- An object whose members are those of a dictionary, in its order. -/
def ofDictionary {α : Type} (write : α → Document) (d : Dictionary α) : Document :=
  object (d.entries.map fun entry => (some entry.1, write entry.2))

def boolean? : Document → Option Bool
  | boolean b => some b
  | _ => none

def text? : Document → Option String
  | text content => content
  | _ => none

def integer? : Document → Option Int
  | number (.integer n) => some n
  | _ => none

def int64? (d : Document) : Option Int64 :=
  d.integer?.bind fun n =>
    if Int64.minValue.toInt ≤ n ∧ n ≤ Int64.maxValue.toInt then some (Int64.ofInt n) else none

def uint32? (d : Document) : Option UInt32 :=
  d.integer?.bind fun n => if 0 ≤ n ∧ n < UInt32.size then some (UInt32.ofNat n.toNat) else none

def binary64? : Document → Option Binary64
  | number n => n.binary64?
  | _ => none

/-- A member with its key as a string and its value read. -/
def readMember? {α : Type} (read? : Document → Option α)
    (member : Option String × Document) : Option (String × α) := do
  return (← member.1, ← read? member.2)

/-- An object as a dictionary; of repeated keys the last one counts. -/
def dictionary? {α : Type} (read? : Document → Option α) : Document → Option (Dictionary α)
  | object members => (members.mapM (readMember? read?)).map .ofList
  | _ => none

/-- The only member of the given key, if any; a repeated key is refused. -/
def field? (key : String) (members : List (Option String × Document)) :
    Option (Option Document) :=
  match members.filter fun member => member.1 == some key with
  | [] => some none
  | [member] => some (some member.2)
  | _ => none

/-- The values of the named fields of an object, or of an array that lists them in
order and may leave out the last ones. An object may have members beside them. -/
def fields? (keys : List String) : Document → Option (List (Option Document))
  | object members =>
    if members.all fun member => member.1.isSome then keys.mapM fun key => field? key members
    else none
  | array items =>
    if items.length ≤ keys.length then
      some (items.map some ++ List.replicate (keys.length - items.length) none)
    else none
  | _ => none

/-- An enumeration's member: its name, or an object that maps the name to null. -/
def named? {α : Type} [Named α] : Document → Option α
  | text content => content.bind Named.ofName?
  | object [(key, null)] => key.bind Named.ofName?
  | _ => none

def ofNamed {α : Type} [Named α] (member : α) : Document := ofString (Named.name member)

end Document

end AssetBroker.Json

namespace AssetBroker

open Json (Document)

def Value.toDocument (value : Value) : Document :=
  .object [(some value.typeName, match value with
    | .boolean b => .boolean b
    | .integer n => .ofInt n.toInt
    | .float x => .ofBinary64 x
    | .text s => .ofString s)]

def Value.ofDocument? : Document → Option Value
  | .object [(some "Bool", d)] => d.boolean?.map .boolean
  | .object [(some "Int", d)] => d.int64?.map .integer
  | .object [(some "Float", d)] => d.binary64?.map .float
  | .object [(some "String", d)] => d.text?.map .text
  | _ => none

def TraitsData.toDocument (data : TraitsData) : Document :=
  .object [(some "data", .ofDictionary (.ofDictionary Value.toDocument) data.traits)]

def TraitsData.ofDocument? (d : Document) : Option TraitsData := do
  let [some traits] ← d.fields? ["data"] | none
  return ⟨← traits.dictionary? fun properties => properties.dictionary? Value.ofDocument?⟩

def EntityReference.toDocument (reference : EntityReference) : Document :=
  .ofString reference.text

def EntityReference.ofDocument? (d : Document) : Option EntityReference :=
  d.text?.map EntityReference.mk

def ElementError.toDocument (error : ElementError) : Document :=
  .object [(some "code", .ofInt error.code.number.toNat), (some "message", .ofString error.message)]

/-- The number must be one of 32 bits; a missing message is empty. -/
def ElementError.ofDocument? (d : Document) : Option (Logged ElementError) := do
  let [some code, message] ← d.fields? ["code", "message"] | none
  let number ← code.uint32?
  match message with
  | some message => return ElementError.ofNumber number (← message.text?)
  | none => return ElementError.ofNumber number ""

/-- Reads a payload from a text that holds one value and nothing else. What the
reading of the value reports stands even if something follows it. -/
def Json.ofText {α : Type} (read? : Document → Option (Logged α)) (text : String) :
    Logged (Option α) :=
  match Json.read? text with
  | none => ⟨none, []⟩
  | some (document, rest) =>
    match read? document with
    | none => ⟨none, []⟩
    | some payload => ⟨if skipBlank rest = [] then some payload.value else none, payload.events⟩

/-- As `ofText`, for payloads whose reading reports nothing. -/
def Json.ofText? {α : Type} (read? : Document → Option α) (text : String) : Option α :=
  (ofText (fun d => (read? d).map .pure) text).value

end AssetBroker
