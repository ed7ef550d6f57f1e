import AssetBroker.Proofs.ContainerEquality
import AssetBroker.Proofs.DocumentReading

/-! Values and containers are read back from the documents they are written as. Every part comes
back as it was, the sign of a zero and traits without properties included. The only parts that
are not read are floats that are not finite, and one of them is enough for a container to be
refused as a whole. -/
namespace AssetBroker

open Json (Document Holds ReadAs readAs_of_eq)

namespace Binary64

theorem binary64?_ofBinary64 (x : Binary64) :
    (Document.ofBinary64 x).binary64? = if x.isFinite then some x else none := by
  rw [Document.ofBinary64]
  split <;> rfl

end Binary64

namespace Value

/-- All values but floats are finite. -/
def isFinite : Value → Bool
  | float x => x.isFinite
  | boolean _ | integer _ | text _ => true

theorem isFinite_iff {v : Value} :
    v.isFinite = true ↔ ∀ x, v = .float x → x.isFinite = true := by
  cases v <;> simp [isFinite]

theorem int64?_ofInt (n : Int64) : (Document.ofInt n.toInt).int64? = some n := by
  have inRange : Int64.minValue.toInt ≤ n.toInt ∧ n.toInt ≤ Int64.maxValue.toInt :=
    ⟨Int64.minValue_le_toInt n, Int64.toInt_le n⟩
  change (if _ then some (Int64.ofInt n.toInt) else none) = some n
  rw [if_pos inRange, Int64.ofInt_toInt]

theorem ofDocument?_toDocument (v : Value) :
    ofDocument? v.toDocument = if v.isFinite then some v else none := by
  cases v with
  | boolean b => rfl
  | integer n =>
    change (Document.ofInt n.toInt).int64?.map integer = some (integer n)
    rw [int64?_ofInt]
    rfl
  | float x =>
    change (Document.ofBinary64 x).binary64?.map float = if x.isFinite then _ else _
    rw [Binary64.binary64?_ofBinary64]
    split <;> rfl
  | text s => rfl

end Value

namespace TraitsData

/-- A document of a container: its traits in any order, and the properties of each trait in any
order. -/
def WrittenAs (d : TraitsData) (document : Document) : Prop :=
  ∃ traits, document = .object [(some "data", traits)] ∧
    Document.Lists (Document.Lists fun value written => written = value.toDocument)
      d.traits traits

theorem writtenAs_toDocument (d : TraitsData) : d.WrittenAs d.toDocument := by
  refine ⟨_, rfl, ?_⟩
  apply Document.lists_ofDictionary
  intro properties
  apply Document.lists_ofDictionary
  intro value
  rfl

/-- No property of the container is an infinity or a NaN. -/
def isFinite (d : TraitsData) : Bool := d.traits.all fun held => held.all Value.isFinite

theorem isFinite_iff {d : TraitsData} : d.isFinite = true ↔
    ∀ traitId key x, d.property traitId key = .ok (some (.float x)) → x.isFinite = true := by
  rw [isFinite, Dictionary.all_iff_get?]
  constructor
  · intro finite traitId key x held
    obtain ⟨properties, present, set⟩ :=
      Option.bind_eq_some_iff.mp (property_eq_ok_some_iff.mp held)
    exact Dictionary.all_iff_get?.mp (finite traitId properties present) key (.float x) set
  · intro finite traitId properties present
    apply Dictionary.all_iff_get?.mpr
    intro key value set
    have held : d.property traitId key = .ok (some value) :=
      property_eq_ok_some_iff.mpr (Option.bind_eq_some_iff.mpr ⟨properties, present, set⟩)
    cases value with
    | float x => exact finite traitId key x held
    | boolean _ | integer _ | text _ => rfl

theorem ofDocument?_of_writtenAs {d : TraitsData} {document : Document}
    (written : d.WrittenAs document) :
    ofDocument? document = if d.isFinite then some d else none := by
  obtain ⟨traits, rfl, listed⟩ := written
  have read := Document.dictionary?_of_lists (fun properties document listed =>
    Document.dictionary?_of_lists (fun value written same => same ▸ value.ofDocument?_toDocument)
      listed) listed
  change (traits.dictionary? fun properties => properties.dictionary? Value.ofDocument?).bind _ = _
  rw [read, isFinite]
  split <;> rfl

end TraitsData

/-- Payloads are read back from their documents and from all texts that hold these, whatever the
order of the members. Values and containers come back the same, unless there is a float that is
not finite: then nothing is read at all. -/
theorem payload_reads_back_iff_finite :
    (∀ v : Value,
      ((∀ x, v = .float x → x.isFinite = true) →
        ReadAs Value.ofDocument? v.toDocument (some v)) ∧
      ∀ x, v = .float x → x.isFinite = false → ReadAs Value.ofDocument? v.toDocument none) ∧
    ∀ d : TraitsData, d.WrittenAs d.toDocument ∧ ∀ document, d.WrittenAs document →
      ((∀ traitId key x, d.property traitId key = .ok (some (.float x)) → x.isFinite = true) →
        ReadAs TraitsData.ofDocument? document (some d)) ∧
      ∀ traitId key x, d.property traitId key = .ok (some (.float x)) → x.isFinite = false →
        ReadAs TraitsData.ofDocument? document none := by
  refine ⟨fun v => ⟨?_, ?_⟩, fun d => ⟨d.writtenAs_toDocument, fun document written => ⟨?_, ?_⟩⟩⟩
  · intro finite
    apply readAs_of_eq
    rw [v.ofDocument?_toDocument, if_pos (Value.isFinite_iff.mpr finite)]
  · rintro x rfl infinite
    apply readAs_of_eq
    rw [Value.ofDocument?_toDocument, if_neg]
    exact Bool.eq_false_iff.mp infinite
  · intro finite
    apply readAs_of_eq
    rw [TraitsData.ofDocument?_of_writtenAs written, if_pos (TraitsData.isFinite_iff.mpr finite)]
  · intro traitId key x held infinite
    apply readAs_of_eq
    rw [TraitsData.ofDocument?_of_writtenAs written, if_neg]
    intro finite
    exact Bool.eq_false_iff.mp infinite (TraitsData.isFinite_iff.mp finite traitId key x held)

/-- A container with a trait that has no properties, and with a property on the empty trait whose
key is a line break. -/
def oddContainer (x : Binary64) : TraitsData :=
  (TraitsData.ofTraits ["été"]).setProperty "" "\n" (.float x)

/-- Its traits may be listed in an order that is not the one they are held in. -/
theorem oddContainer_writtenAs (x : Binary64) :
    (oddContainer x).WrittenAs (.object [(some "data", .object [(some "été", .object []),
      (some "", .object [(some "\n", (Value.float x).toDocument)])])]) := by
  refine ⟨_, rfl, [("été", .empty), ("", Dictionary.empty.insert "\n" (.float x))], _, ?_, rfl, ?_⟩
  · exact .swap _ _ _
  · refine .cons ⟨rfl, [], [], .refl _, rfl, .nil⟩ (.cons ⟨rfl, ?_⟩ .nil)
    exact ⟨[("\n", .float x)], _, .refl _, rfl, .cons ⟨rfl, rfl⟩ .nil⟩

/-- With a negative zero the text of the container is read back, with an infinity it is not. -/
theorem odd_container_reads_back_from_text :
    Json.ofText? TraitsData.ofDocument?
        "\x7b\"data\" : \x7b\"été\":\x7b\x7d, \"\":\x7b\"\\n\":\x7b\"Float\":-0.0\x7d\x7d\x7d\x7d" =
      some (oddContainer (.ofMagnitude true 0)) ∧
    Json.ofText? TraitsData.ofDocument?
        "\x7b\"data\" : \x7b\"été\":\x7b\x7d, \"\":\x7b\"\\n\":\x7b\"Float\":null\x7d\x7d\x7d\x7d" =
      none := by
  have written (x : Binary64) :=
    (payload_reads_back_iff_finite.2 (oddContainer x)).2 _ (oddContainer_writtenAs x)
  obtain ⟨_, read⟩ := (written (.ofMagnitude true 0)).1 (TraitsData.isFinite_iff.mp rfl)
  obtain ⟨_, refused⟩ := (written (.infinity true)).2 "" "\n" (.infinity true) rfl rfl
  exact ⟨read _ ⟨[], by cbv, rfl⟩, refused _ ⟨[], by cbv, rfl⟩⟩

end AssetBroker
