import AssetBroker.Configuration
import AssetBroker.Proofs.DistinctKeys
import AssetBroker.Proofs.Lookups
import Mathlib

/-! From the settings of a document to those of a configuration. Either all are values, and each
is kept under its key as what it is; or there is no configuration, and the first key in
ascending order whose node is no value is told. Nothing else in the document counts, nor does the
order of its lines. -/
namespace AssetBroker

/-- The value that a node is, of the same type and with the same content. -/
inductive Toml.Node.Denotes : Toml.Node → Value → Prop
  | text (s : String) : Denotes (.text s) (.text s)
  | integer (n : Int64) : Denotes (.integer n) (.integer n)
  | float (x : Binary64) : Denotes (.float x) (.float x)
  | boolean (b : Bool) : Denotes (.boolean b) (.boolean b)

/-- The nodes that are no value. -/
inductive Toml.Node.Unsupported : Toml.Node → Prop
  | moment (normalised : String) : Unsupported (.moment normalised)
  | array (items : List Toml.Node) : Unsupported (.array items)
  | table (entries : Toml.Table) : Unsupported (.table entries)

namespace Toml.Node

theorem value?_eq_some_iff {node : Node} {value : Value} :
    node.value? = some value ↔ node.Denotes value := by
  constructor
  · intro found
    cases node with
    | text | integer | float | boolean =>
      obtain rfl := Option.some.inj found
      constructor
    | moment | array | table => cases found
  · rintro ⟨⟩ <;> rfl

theorem value?_eq_none_iff {node : Node} : node.value? = none ↔ node.Unsupported := by
  constructor
  · intro none
    cases node with
    | text | integer | float | boolean => cases none
    | moment | array | table => constructor
  · rintro ⟨⟩ <;> rfl

theorem exists_denotes_iff {node : Node} : (∃ value, node.Denotes value) ↔ ¬node.Unsupported := by
  simp only [← value?_eq_some_iff, ← value?_eq_none_iff, ← Option.isSome_iff_exists,
    Option.isSome_iff_ne_none, ne_eq]

end Toml.Node

namespace Configuration

/-! ### One list of settings -/

theorem convert_eq_ok_iff {settings : List (String × Toml.Node)}
    {values : List (String × Value)} :
    convert settings = .ok values ↔
      List.Forall₂ (fun a b => a.1 = b.1 ∧ a.2.Denotes b.2) settings values := by
  induction settings generalizing values with
  | nil => simp [convert, eq_comm]
  | cons entry rest ih =>
    obtain ⟨key, node⟩ := entry
    rw [convert]
    cases found : node.value? with
    | none =>
      have unsupported := Toml.Node.value?_eq_none_iff.mp found
      constructor
      · intro converted
        cases converted
      · rintro (_ | ⟨⟨_, denotes⟩, _⟩)
        exact absurd unsupported (Toml.Node.exists_denotes_iff.mp ⟨_, denotes⟩)
    | some value =>
      cases values with
      | nil =>
        cases convert rest <;> simp [Except.map]
      | cons first others =>
        have split : (convert rest).map ((key, value) :: ·) = .ok (first :: others) ↔
            (key, value) = first ∧ convert rest = .ok others := by
          cases convert rest <;> simp [Except.map]
        rw [split, ih, List.forall₂_cons, ← Toml.Node.value?_eq_some_iff, found, Prod.ext_iff,
          Option.some.injEq]

/-- The keys of settings whose nodes are no value. -/
def unsupportedIn (settings : List (String × Toml.Node)) : Set String :=
  {key | ∃ node, (key, node) ∈ settings ∧ node.Unsupported}

/-- The first key that has no value is the least one, as settings are converted in ascending
order of their keys. -/
theorem isLeast_of_convert_eq_error {settings : List (String × Toml.Node)}
    (ascending : settings.Pairwise fun a b => a.1 < b.1) {fault : ConfigurationFault}
    (failed : convert settings = .error fault) :
    ∃ key, fault = .unsupported key ∧ IsLeast (unsupportedIn settings) key := by
  induction settings with
  | nil => cases failed
  | cons entry rest ih =>
    obtain ⟨key, node⟩ := entry
    obtain ⟨above, ascending⟩ := List.pairwise_cons.mp ascending
    rw [convert] at failed
    cases found : node.value? with
    | none =>
      rw [found] at failed
      cases failed
      refine ⟨key, rfl, ⟨node, List.mem_cons_self, Toml.Node.value?_eq_none_iff.mp found⟩, ?_⟩
      rintro other ⟨node, member, _⟩
      rcases List.mem_cons.mp member with same | later
      · cases same
        exact String.le_refl key
      · refine String.not_lt.mp fun below => ?_
        exact String.lt_irrefl other (String.lt_trans below (above (other, node) later))
    | some value =>
      rw [found] at failed
      have denotes := Toml.Node.exists_denotes_iff.mp ⟨value, Toml.Node.value?_eq_some_iff.mp found⟩
      cases converted : convert rest with
      | ok values =>
        rw [converted] at failed
        cases failed
      | error other =>
        rw [converted] at failed
        cases failed
        obtain ⟨key', rfl, ⟨node', member, unsupported⟩, least⟩ := ih ascending converted
        refine ⟨key', rfl, ⟨node', List.mem_cons_of_mem _ member, unsupported⟩, ?_⟩
        rintro other ⟨node, member, unsupported⟩
        rcases List.mem_cons.mp member with same | later
        · cases same
          exact absurd unsupported denotes
        · exact least ⟨node, later, unsupported⟩

end Configuration

/-! ### The settings of a section -/

namespace ManagerSection

/-- A configuration that says what a section says, with values in place of nodes. -/
structure Conveys (described : ManagerSection) (configuration : Configuration) : Prop where
  identifier : configuration.identifier = described.identifier
  settings : Dictionary.Related Toml.Node.Denotes described.settings configuration.settings

/-- The keys of the settings whose nodes are no value. -/
def unsupportedKeys (described : ManagerSection) : Set String :=
  Configuration.unsupportedIn described.settings.entries

theorem Conveys.supported {described : ManagerSection} {configuration : Configuration}
    (conveys : described.Conveys configuration) (key : String) :
    key ∉ described.unsupportedKeys := by
  rintro ⟨node, member, unsupported⟩
  have matching := Dictionary.related_iff_get?.mp conveys.settings key
  rw [Dictionary.get?_eq_some_iff_mem.mpr member] at matching
  cases held : configuration.settings.get? key with
  | none =>
    rw [held] at matching
    cases matching
  | some value =>
    rw [held, Option.rel_some_some] at matching
    exact Toml.Node.exists_denotes_iff.mp ⟨value, matching⟩ unsupported

end ManagerSection

namespace Configuration

variable {described : ManagerSection}

theorem ofSection_eq_ok_iff {configuration : Configuration} :
    ofSection described = .ok configuration ↔ described.Conveys configuration := by
  rw [ofSection]
  constructor
  · intro converted
    cases found : convert described.settings.entries with
    | error fault =>
      rw [found] at converted
      cases converted
    | ok values =>
      rw [found] at converted
      cases converted
      have matching := convert_eq_ok_iff.mp found
      have keys : described.settings.keys = values.map Prod.fst := by
        rw [Dictionary.keys, ← List.forall₂_eq_eq_eq, List.forall₂_map_left_iff,
          List.forall₂_map_right_iff]
        exact matching.imp fun _ _ => And.left
      have ascending : values.Pairwise fun a b => a.1 < b.1 :=
        List.pairwise_map.mp (keys ▸ described.settings.keys_ascending)
      refine ⟨rfl, ?_⟩
      change Dictionary.Related _ _ (Dictionary.ofList values)
      rwa [Dictionary.ofList_entries ⟨values, ascending⟩]
  · rintro ⟨identifier, settings⟩
    rw [convert_eq_ok_iff.mpr settings, Except.map, Dictionary.ofList_entries, ← identifier]

theorem ofSection_eq_error_iff {fault : ConfigurationFault} :
    ofSection described = .error fault ↔
      ∃ key, fault = .unsupported key ∧ IsLeast described.unsupportedKeys key := by
  have least_of_error {fault : ConfigurationFault} (failed : ofSection described = .error fault) :
      ∃ key, fault = .unsupported key ∧ IsLeast described.unsupportedKeys key := by
    rw [ofSection] at failed
    cases converted : convert described.settings.entries with
    | ok values =>
      rw [converted] at failed
      cases failed
    | error other =>
      rw [converted] at failed
      cases failed
      exact isLeast_of_convert_eq_error described.settings.ascending converted
  constructor
  · exact least_of_error
  · rintro ⟨key, rfl, least⟩
    cases outcome : ofSection described with
    | ok configuration =>
      exact absurd least.1 ((ofSection_eq_ok_iff.mp outcome).supported key)
    | error fault =>
      obtain ⟨other, rfl, least'⟩ := least_of_error outcome
      have below : key ≤ other := least.2 least'.1
      have above : other ≤ key := least'.2 least.1
      rw [String.le_antisymm above below]

theorem exists_ofSection_eq_ok_iff :
    (∃ configuration, ofSection described = .ok configuration) ↔
      ∀ key, key ∉ described.unsupportedKeys := by
  constructor
  · rintro ⟨configuration, converted⟩
    exact (ofSection_eq_ok_iff.mp converted).supported
  · intro supported
    cases outcome : ofSection described with
    | ok configuration => exact ⟨configuration, rfl⟩
    | error fault =>
      obtain ⟨key, _, least⟩ := ofSection_eq_error_iff.mp outcome
      exact absurd least.1 (supported key)

end Configuration

/-! ### What a document says of the manager -/

namespace ManagerSection

/-- What a document holds for a field of the section on the manager: under the name of the field
in a table, at its place in an array. -/
def field? (document : Toml.Table) (name : String) (place : Nat) : Option Toml.Node :=
  match document.lookup "manager" with
  | some (.table entries) => entries.lookup name
  | some (.array items) => items[place]?
  | _ => none

def identifierIn (document : Toml.Table) : Option Toml.Node := field? document "identifier" 0

/-- The entries of the settings in a document, in the order of its lines. A date or time counts as
a table with one entry. -/
def settingsIn (document : Toml.Table) : Toml.Table :=
  match field? document "settings" 1 with
  | some (.table entries) => entries
  | some (.moment text) => [(Toml.momentKey, .text text)]
  | _ => []

variable {document : Toml.Table} {described : ManagerSection}

theorem fields_of_ofDocument? (shaped : ofDocument? document = some described) :
    identifierOf? (identifierIn document) = some described.identifier ∧
      settingsOf? (field? document "settings" 1) = some described.settings := by
  rw [identifierIn, field?, field?]
  rw [ofDocument?] at shaped
  cases held : document.lookup "manager" with
  | none =>
    rw [held] at shaped
    cases shaped
    exact ⟨rfl, rfl⟩
  | some node =>
    rw [held] at shaped
    cases node with
    | table | array =>
      obtain ⟨identifier, identified, shaped⟩ := Option.bind_eq_some_iff.mp shaped
      obtain ⟨settings, listed, same⟩ := Option.bind_eq_some_iff.mp shaped
      cases same
      exact ⟨identified, listed⟩
    | moment =>
      cases shaped
      exact ⟨rfl, rfl⟩
    | text | integer | float | boolean => cases shaped

theorem identifier_of_ofDocument? (shaped : ofDocument? document = some described) :
    identifierIn document = some (.text described.identifier) ∨
      identifierIn document = none ∧ described.identifier = "" := by
  have identified := (fields_of_ofDocument? shaped).1
  cases held : identifierIn document with
  | none =>
    rw [held] at identified
    exact .inr ⟨rfl, (Option.some.inj identified).symm⟩
  | some node =>
    rw [held] at identified
    cases node with
    | text s =>
      obtain rfl := Option.some.inj identified
      exact .inl rfl
    | _ => cases identified

theorem settings_of_ofDocument? (shaped : ofDocument? document = some described) :
    described.settings = .ofList (settingsIn document) := by
  have listed := (fields_of_ofDocument? shaped).2
  rw [settingsIn]
  cases held : field? document "settings" 1 with
  | none =>
    rw [held] at listed
    exact (Option.some.inj listed).symm
  | some node =>
    rw [held] at listed
    cases node with
    | table entries =>
      rw [settingsOf?] at listed
      split at listed
      · exact (Option.some.inj listed).symm
      · cases listed
    | moment text => exact (Option.some.inj listed).symm
    | text | integer | float | boolean | array => cases listed

/-- As no table holds a key twice, neither do the settings. -/
theorem nodup_settingsIn (distinct : (Toml.Node.table document).Distinct) :
    ((settingsIn document).map Prod.fst).Nodup := by
  have held (node : Toml.Node) (found : field? document "settings" 1 = some node) :
      node.Distinct := by
    obtain _ | _ | _ | _ | _ | _ | ⟨_, each⟩ := distinct
    rw [field?] at found
    split at found
    · rename_i entries manager
      obtain ⟨before, after, rfl, _⟩ := List.lookup_eq_some_iff.mp manager
      have section_distinct := each ("manager", .table entries) (by simp)
      obtain _ | _ | _ | _ | _ | _ | ⟨_, each⟩ := section_distinct
      obtain ⟨before, after, rfl, _⟩ := List.lookup_eq_some_iff.mp found
      exact each ("settings", node) (by simp)
    · rename_i items manager
      obtain ⟨before, after, rfl, _⟩ := List.lookup_eq_some_iff.mp manager
      have section_distinct := each ("manager", .array items) (by simp)
      obtain _ | _ | _ | _ | _ | each := section_distinct
      exact each node (List.mem_of_getElem? found)
    · cases found
  rw [settingsIn]
  split
  · rename_i entries found
    obtain _ | _ | _ | _ | _ | _ | ⟨keys, _⟩ := held _ found
    exact keys
  · simp
  · exact .nil

theorem mem_settings_iff (distinct : (Toml.Node.table document).Distinct)
    (shaped : ofDocument? document = some described) {entry : String × Toml.Node} :
    entry ∈ described.settings.entries ↔ entry ∈ settingsIn document := by
  rw [← Dictionary.get?_eq_some_iff_mem, settings_of_ofDocument? shaped,
    Dictionary.get?_ofList_eq_some_iff (nodup_settingsIn distinct)]

/-- A section is known by its identifier and the entries of its settings. -/
theorem eq_of_same_fields {document' : Toml.Table} {described' : ManagerSection}
    (distinct : (Toml.Node.table document).Distinct)
    (shaped : ofDocument? document = some described)
    (shaped' : ofDocument? document' = some described')
    (identifier : identifierIn document = identifierIn document')
    (settings : (settingsIn document).Perm (settingsIn document')) : described = described' := by
  have identified := (fields_of_ofDocument? shaped).1
  rw [identifier, (fields_of_ofDocument? shaped').1] at identified
  have listed := settings_of_ofDocument? shaped
  rw [Dictionary.ofList_congr (nodup_settingsIn distinct) settings,
    ← settings_of_ofDocument? shaped'] at listed
  obtain ⟨_, _⟩ := described
  cases identified
  cases listed
  rfl

end ManagerSection

namespace Configuration

open ManagerSection (identifierIn settingsIn)

theorem ofText_of_read? {text : String} {document : Toml.Table} {described : ManagerSection}
    (read : Toml.read? text = some document)
    (shaped : ManagerSection.ofDocument? document = some described) :
    ofText text = ofSection described := by
  simp only [ofText, read, ofDocument, shaped]

/-- Settings are converted all or none. For a text that is a document of the right shape, there is
a configuration just if every setting is a boolean, an integer, a float or a text; it has the
settings under the same keys, each as the same value, and the identifier of the document, or an
empty one. Otherwise the least key whose setting is something else is told. Two such texts with
one identifier and the same settings, in whatever order, have the same outcome. -/
theorem settings_converted_all_or_none {text : String} {document : Toml.Table}
    (read : Toml.read? text = some document)
    (shaped : (ManagerSection.ofDocument? document).isSome = true) :
    ((∃ configuration, ofText text = .ok configuration) ↔
      ∀ entry ∈ settingsIn document, ∃ value, entry.2.Denotes value) ∧
    (∀ configuration, ofText text = .ok configuration →
      (identifierIn document = some (.text configuration.identifier) ∨
        identifierIn document = none ∧ configuration.identifier = "") ∧
      ∀ key, Option.Rel Toml.Node.Denotes ((settingsIn document).lookup key)
        (configuration.settings.get? key)) ∧
    ((¬∀ entry ∈ settingsIn document, ∃ value, entry.2.Denotes value) →
      ∃ key fault, ofText text = .error fault ∧
        fault.toError = .configuration ("Unsupported value type for '" ++ key ++ "'.") ∧
        IsLeast (unsupportedIn (settingsIn document)) key) ∧
    ∀ (text' : String) (document' : Toml.Table), Toml.read? text' = some document' →
      (ManagerSection.ofDocument? document').isSome = true →
      identifierIn document' = identifierIn document →
      (settingsIn document').Perm (settingsIn document) → ofText text' = ofText text := by
  have distinct := Toml.distinct_of_read? read
  obtain ⟨described, shaped⟩ := Option.isSome_iff_exists.mp shaped
  have keys : described.unsupportedKeys = unsupportedIn (settingsIn document) := by
    ext key
    simp only [ManagerSection.unsupportedKeys, unsupportedIn, Set.mem_ofPred_eq,
      ManagerSection.mem_settings_iff distinct shaped]
  have supported : (∀ entry ∈ settingsIn document, ∃ value, entry.2.Denotes value) ↔
      ∀ key, key ∉ described.unsupportedKeys := by
    simp only [keys, unsupportedIn, Toml.Node.exists_denotes_iff, Set.mem_ofPred_eq, not_exists,
      not_and, Prod.forall]
  rw [ofText_of_read? read shaped]
  refine ⟨?_, ?_, ?_, ?_⟩
  · rw [supported, exists_ofSection_eq_ok_iff]
  · intro configuration converted
    obtain ⟨identifier, settings⟩ := ofSection_eq_ok_iff.mp converted
    refine ⟨identifier ▸ ManagerSection.identifier_of_ofDocument? shaped, fun key => ?_⟩
    have held : described.settings.get? key = (settingsIn document).lookup key := by
      apply Option.ext
      intro node
      rw [Dictionary.get?_eq_some_iff_mem, ManagerSection.mem_settings_iff distinct shaped,
        Dictionary.lookup_eq_some_iff_mem (ManagerSection.nodup_settingsIn distinct)]
    exact held ▸ Dictionary.related_iff_get?.mp settings key
  · intro unsupported
    rw [supported, ← exists_ofSection_eq_ok_iff] at unsupported
    cases outcome : ofSection described with
    | ok configuration => exact absurd ⟨configuration, outcome⟩ unsupported
    | error fault =>
      obtain ⟨key, rfl, least⟩ := ofSection_eq_error_iff.mp outcome
      exact ⟨key, _, rfl, rfl, keys ▸ least⟩
  · intro text' document' read' shaped' identifier settings
    have distinct' := Toml.distinct_of_read? read'
    obtain ⟨described', shaped'⟩ := Option.isSome_iff_exists.mp shaped'
    have same : described' = described :=
      ManagerSection.eq_of_same_fields distinct' shaped' shaped identifier settings
    rw [ofText_of_read? read' shaped', same]

/-- Of two settings that are no values, the one with the lesser key is told, wherever it stands
and whatever else the documents hold. -/
theorem time_told_before_array :
    let early := "[manager.settings]\nz = []\nat = 07:00:00"
    let late := "z = 1\nmanager.settings = \x7bat = 07:00:00, z = []\x7d"
    (∃ fault, ofText early = .error fault ∧
      fault.toError = .configuration "Unsupported value type for 'at'.") ∧
    ofText late = ofText early := by
  intro early late
  let settings : Toml.Table := [("z", .array []), ("at", .moment "07:00:00")]
  let settings' : Toml.Table := [("at", .moment "07:00:00"), ("z", .array [])]
  have read : Toml.read? early = some [("manager", .table [("settings", .table settings)])] := by
    cbv
  have read' : Toml.read? late =
      some [("z", .integer 1), ("manager", .table [("settings", .table settings')])] := by
    cbv
  obtain ⟨_, _, unsupported, same⟩ := settings_converted_all_or_none read rfl
  refine ⟨?_, same late _ read' rfl rfl (.swap _ _ _)⟩
  have some_unsupported : ¬∀ entry ∈ settings, ∃ value, entry.2.Denotes value := by
    intro supported
    obtain ⟨_, ⟨⟩⟩ := supported ("z", .array []) (by simp [settings])
  obtain ⟨key, fault, failed, told, ⟨node, member, noValue⟩, least⟩ := unsupported some_unsupported
  have below : key ≤ "at" := least ⟨.moment "07:00:00", by simp [settingsIn, ManagerSection.field?,
    settings], .moment _⟩
  change (key, node) ∈ settings at member
  simp only [settings, List.mem_cons, Prod.mk.injEq, List.not_mem_nil, or_false] at member
  obtain ⟨rfl, -⟩ | ⟨rfl, -⟩ := member
  · exact absurd below (by decide)
  · exact ⟨fault, failed, told⟩

end Configuration
end AssetBroker
