import AssetBroker.Proofs.Registration
import AssetBroker.Proofs.SetUp
import AssetBroker.Proofs.SettingsConversion
import AssetBroker.Rehearsal.Directory

/-! The manager that a configuration file names is made in stages: there is a file, it is a text,
the text is a document of the right shape, its settings are values, its identifier is registered,
the backend accepts the settings, and it has all required capabilities. The first stage that
fails gives the error. No backend is made before the identifier is known to be registered, and
then just one. -/
namespace AssetBroker

/-- What a text says of the manager, if it is a document of the right shape. -/
def ManagerSection.DescribedBy (described : ManagerSection) (text : String) : Prop :=
  ∃ document, Toml.read? text = some document ∧
    ManagerSection.ofDocument? document = some described

namespace Configuration

/-! ### Reading the file -/

/-- What is there, but has no text, with what the system says of that. -/
inductive Textless : FileNode → String → Prop
  | directory : Textless .directory "Is a directory (os error 21)"
  | unreadable (reason : String) : Textless (.unreadable reason) reason
  | illFormed {bytes : ByteArray} (illFormed : ¬bytes.IsValidUTF8) :
      Textless (.file bytes) "stream did not contain valid UTF-8"

/-- What comes of a configuration file, by how far it can be read. -/
inductive Loading (files : FileSystem) (path : String) : Except Error Configuration → Prop
  | missing (nothing : files.lookup path = .missing) :
      Loading files path (.error (.configuration
        ("Could not load default manager config from '" ++ path ++ "', file does not exist.")))
  | textless {reason : String} (unread : Textless (files.lookup path) reason) :
      Loading files path (.error (.configuration
        ("Failed to read manager config '" ++ path ++ "': " ++ reason)))
  | notParsed {text : String} (found : files.lookup path = .file text.toByteArray)
      (unread : ∀ described : ManagerSection, ¬described.DescribedBy text) :
      Loading files path (.error (.configuration "Failed to parse manager config: "))
  | unsupported {text key : String} {described : ManagerSection}
      (found : files.lookup path = .file text.toByteArray)
      (reads : described.DescribedBy text) (least : IsLeast described.unsupportedKeys key) :
      Loading files path (.error (.configuration ("Unsupported value type for '" ++ key ++ "'.")))
  | complete {text : String} {described : ManagerSection} {configuration : Configuration}
      (found : files.lookup path = .file text.toByteArray)
      (reads : described.DescribedBy text) (conveys : described.Conveys configuration) :
      Loading files path (.ok configuration)

theorem readFile_of_missing {files : FileSystem} {path : String}
    (nothing : files.lookup path = .missing) : readFile files path = .error (.missing path) := by
  have absent : files.isThere path = false := by rw [FileSystem.isThere, nothing]
  rw [readFile, absent]
  rfl

theorem isThere_of_textless {files : FileSystem} {path reason : String}
    (unread : Textless (files.lookup path) reason) : files.isThere path = true := by
  rw [FileSystem.isThere]
  generalize files.lookup path = node at unread ⊢
  cases unread <;> rfl

theorem readText_of_textless {files : FileSystem} {path reason : String}
    (unread : Textless (files.lookup path) reason) : files.readText path = .error reason := by
  rw [FileSystem.readText]
  generalize files.lookup path = node at unread ⊢
  cases unread with
  | directory => rfl
  | unreadable => rfl
  | @illFormed bytes illFormed =>
    have undecoded : String.fromUTF8? bytes = none := dif_neg illFormed
    simp only [undecoded]

theorem readFile_of_textless {files : FileSystem} {path reason : String}
    (unread : Textless (files.lookup path) reason) :
    readFile files path = .error (.unreadable path reason) := by
  rw [readFile, isThere_of_textless unread, readText_of_textless unread]
  rfl

theorem readFile_of_text {files : FileSystem} {path text : String}
    (found : files.lookup path = .file text.toByteArray) : readFile files path = .ok text := by
  have decoded : String.fromUTF8? text.toByteArray = some text := dif_pos text.isValidUTF8
  simp only [readFile, FileSystem.isThere, FileSystem.readText, found, decoded, if_true]
  rfl

/-- At every path there is nothing, something without a text, or a text. -/
theorem lookup_cases (files : FileSystem) (path : String) :
    files.lookup path = .missing ∨ (∃ reason, Textless (files.lookup path) reason) ∨
      ∃ text : String, files.lookup path = .file text.toByteArray := by
  cases files.lookup path with
  | missing => exact .inl rfl
  | directory => exact .inr (.inl ⟨_, .directory⟩)
  | unreadable reason => exact .inr (.inl ⟨_, .unreadable reason⟩)
  | file bytes =>
    by_cases wellFormed : bytes.IsValidUTF8
    · exact .inr (.inr ⟨⟨bytes, wellFormed⟩, rfl⟩)
    · exact .inr (.inl ⟨_, .illFormed wellFormed⟩)

theorem ofText_of_describedBy {text : String} {described : ManagerSection}
    (reads : described.DescribedBy text) : ofText text = ofSection described := by
  obtain ⟨document, read, shaped⟩ := reads
  exact ofText_of_read? read shaped

theorem ofText_of_unread {text : String}
    (unread : ∀ described : ManagerSection, ¬described.DescribedBy text) :
    ofText text = .error .notParsed := by
  rw [ofText]
  cases read : Toml.read? text with
  | none => rfl
  | some document =>
    cases shaped : ManagerSection.ofDocument? document with
    | none => simp only [ofDocument, shaped]
    | some described => exact absurd ⟨document, read, shaped⟩ (unread described)

theorem loading_iff {files : FileSystem} {path : String}
    {outcome : Except Error Configuration} :
    Loading files path outcome ↔
      (ofFile files path).value.mapError ConfigurationFault.toError = outcome := by
  change _ ↔ ((readFile files path).bind ofText).mapError ConfigurationFault.toError = outcome
  constructor
  · intro loading
    cases loading with
    | missing nothing => rw [readFile_of_missing nothing]; rfl
    | textless unread => rw [readFile_of_textless unread]; rfl
    | notParsed found unread =>
      rw [readFile_of_text found]
      exact congrArg _ (ofText_of_unread unread)
    | unsupported found reads least =>
      have failed := ofSection_eq_error_iff.mpr ⟨_, rfl, least⟩
      rw [readFile_of_text found]
      exact congrArg _ ((ofText_of_describedBy reads).trans failed)
    | complete found reads conveys =>
      rw [readFile_of_text found]
      exact congrArg _ ((ofText_of_describedBy reads).trans (ofSection_eq_ok_iff.mpr conveys))
  · rintro rfl
    obtain nothing | ⟨reason, unread⟩ | ⟨text, found⟩ := lookup_cases files path
    · rw [readFile_of_missing nothing]
      exact .missing nothing
    · rw [readFile_of_textless unread]
      exact .textless unread
    · rw [readFile_of_text found]
      change Loading files path ((ofText text).mapError ConfigurationFault.toError)
      by_cases reads : ∃ described : ManagerSection, described.DescribedBy text
      · obtain ⟨described, reads⟩ := reads
        rw [ofText_of_describedBy reads]
        cases outcome : ofSection described with
        | ok configuration => exact .complete found reads (ofSection_eq_ok_iff.mp outcome)
        | error fault =>
          obtain ⟨key, rfl, least⟩ := ofSection_eq_error_iff.mp outcome
          exact .unsupported found reads least
      · have unread := not_exists.mp reads
        rw [ofText_of_unread unread]
        exact .notParsed found unread

theorem Loading.unique {files : FileSystem} {path : String}
    {outcome outcome' : Except Error Configuration}
    (loading : Loading files path outcome) (loading' : Loading files path outcome') :
    outcome = outcome' :=
  (loading_iff.mp loading).symm.trans (loading_iff.mp loading')

end Configuration

namespace Manager

/-! ### Setting up -/

variable {V : Vendor} {backend : V.Backend} {settings : InfoDictionary} {identifier : String}
  {exchanges : List (Exchange V)} {outcome : Except Error Unit} {kept : Option String}

theorem SetUpCourse.constructed
    (course : SetUpCourse backend settings identifier exchanges outcome kept) :
    (exchanges.filterMap fun exchange => exchange.1.constructor?) = [] := by
  cases course <;> rfl

theorem SetUpCourse.setUps
    (course : SetUpCourse backend settings identifier exchanges outcome kept) :
    (exchanges.filterMap fun exchange => exchange.1.setUp?) = [(backend, settings)] := by
  cases course <;> rfl

end Manager

namespace Registry

open AssetBroker.Configuration (Loading Textless)
open Manager (SetUpCourse)

variable {V : Vendor} {σ : Type}

/-! ### The stages in order -/

/-- The ways that the making of the default manager can go: what passes, and what comes of it. A
configuration that is not there, or an identifier that is not registered, leaves it at that; else
one backend is made, and set up in one of the ways that a set-up goes. -/
inductive StagedCourse (r : Registry V) (files : FileSystem) (path : String)
    (identity : V.Backend → Identity) : List (Exchange V) → Except Error (Manager V) → Prop
  | unconfigured {fault : Error} (loading : Loading files path (.error fault)) :
      StagedCourse r files path identity [] (.error fault)
  | unregistered {configuration : Configuration}
      (loading : Loading files path (.ok configuration))
      (absent : r.constructors.get? configuration.identifier = none) :
      StagedCourse r files path identity []
        (.error (.inputValidation ("Could not instantiate manager '" ++
          configuration.identifier ++ "': no such manager is registered.")))
  | instantiated {configuration : Configuration} {constructor : V.Constructor}
      {backend : V.Backend} {exchanges : List (Exchange V)} {outcome : Except Error Unit}
      {kept : Option String} (loading : Loading files path (.ok configuration))
      (registered : r.constructors.get? configuration.identifier = some constructor)
      (course : SetUpCourse backend configuration.settings (identity backend).identifier
        exchanges outcome kept) :
      StagedCourse r files path identity (⟨.construct constructor, backend⟩ :: exchanges)
        (outcome.map fun _ => ⟨backend, kept⟩)

section

variable {r : Registry V} {files : FileSystem} {path : String} {identity : V.Backend → Identity}
  {exchanges : List (Exchange V)} {value : Except Error (Manager V)}

/-- Nothing passes, if no registered identifier is configured. -/
theorem StagedCourse.silent (course : StagedCourse r files path identity exchanges value)
    (unavailable : ∀ configuration : Configuration, Loading files path (.ok configuration) →
      r.constructors.get? configuration.identifier = none) :
    exchanges = [] := by
  cases course with
  | unconfigured | unregistered => rfl
  | instantiated loading registered =>
    cases (unavailable _ loading).symm.trans registered

end

section

variable (r : Registry V) (files : FileSystem) (path : String) (world : World V σ) (state : σ)

end

end Registry
end AssetBroker
