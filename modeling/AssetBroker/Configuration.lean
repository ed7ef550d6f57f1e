import AssetBroker.Error
import AssetBroker.FileSystem
import AssetBroker.Toml.MomentTable
import AssetBroker.Toml.Reader

/-! The configuration that names a default manager and its settings, read from a TOML
document. The settings are taken in ascending order of their keys, and the first one
whose type has no value is reported. -/
namespace AssetBroker

structure Configuration where
  identifier : String
  settings : InfoDictionary
deriving DecidableEq

/-- Why there is no configuration. -/
inductive ConfigurationFault where
  | missing (path : String)
  /-- Something is there, but its text cannot be had. -/
  | unreadable (path reason : String)
  | notParsed
  | unsupported (key : String)
deriving DecidableEq

namespace ConfigurationFault

def message : ConfigurationFault → String
  | missing path =>
    "Could not load default manager config from '" ++ path ++ "', file does not exist."
  | unreadable path reason => "Failed to read manager config '" ++ path ++ "': " ++ reason
  | notParsed => "Failed to parse manager config: "
  | unsupported key => "Unsupported value type for '" ++ key ++ "'."

def toError (fault : ConfigurationFault) : Error := .configuration fault.message

end ConfigurationFault

/-- The part of a document that describes the manager, before its settings are looked
at. -/
structure ManagerSection where
  identifier : String
  settings : Dictionary Toml.Node

namespace ManagerSection

def empty : ManagerSection := ⟨"", .empty⟩

def identifierOf? : Option Toml.Node → Option String
  | none => some ""
  | some (.text s) => some s
  | _ => none

def settingsOf? : Option Toml.Node → Option (Dictionary Toml.Node)
  | none => some .empty
  | some (.table entries) =>
    if Toml.haveSoundNodes entries then some (.ofList entries) else none
  | some (.moment text) => some (Dictionary.empty.insert Toml.momentKey (.text text))
  | _ => none

/-- A section is a table with known fields, both optional, or an array of them in
order. Whatever else it holds does not count, so a date or time is an empty section. -/
def ofNode? : Toml.Node → Option ManagerSection
  | .table entries => do
    return ⟨← identifierOf? (entries.lookup "identifier"),
      ← settingsOf? (entries.lookup "settings")⟩
  | .array items => do return ⟨← identifierOf? items[0]?, ← settingsOf? items[1]?⟩
  | .moment _ => some empty
  | _ => none

/-- A document without the section is as one with an empty section. -/
def ofDocument? (document : Toml.Table) : Option ManagerSection :=
  match document.lookup "manager" with
  | none => some empty
  | some node => ofNode? node

end ManagerSection

/-- The value of a setting, if its type has one. -/
def Toml.Node.value? : Toml.Node → Option Value
  | .text s => some (.text s)
  | .integer n => some (.integer n)
  | .float x => some (.float x)
  | .boolean b => some (.boolean b)
  | .moment _ | .array _ | .table _ => none

namespace Configuration

def default : Configuration := ⟨"", .empty⟩

instance : BEq Configuration :=
  ⟨fun a b => a.identifier == b.identifier && a.settings == b.settings⟩

/-- Converts settings one after another, up to the first that has no value. -/
def convert : List (String × Toml.Node) → Except ConfigurationFault (List (String × Value))
  | [] => .ok []
  | (key, node) :: rest =>
    match node.value? with
    | none => .error (.unsupported key)
    | some value => (convert rest).map ((key, value) :: ·)

def ofSection (described : ManagerSection) : Except ConfigurationFault Configuration :=
  (convert described.settings.entries).map fun settings =>
    ⟨described.identifier, .ofList settings⟩

def ofDocument (document : Toml.Table) : Except ConfigurationFault Configuration :=
  match ManagerSection.ofDocument? document with
  | none => .error .notParsed
  | some described => ofSection described

def ofText (text : String) : Except ConfigurationFault Configuration :=
  match Toml.read? text with
  | none => .error .notParsed
  | some document => ofDocument document

/-- The text of a file. -/
def readFile (fs : FileSystem) (path : String) : Except ConfigurationFault String :=
  if fs.isThere path then (fs.readText path).mapError (.unreadable path)
  else .error (.missing path)

def ofFile (fs : FileSystem) (path : String) :
    Logged (Except ConfigurationFault Configuration) :=
  ⟨(readFile fs path).bind ofText, [.configurationLoading path]⟩

end Configuration
end AssetBroker
