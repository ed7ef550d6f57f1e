import AssetBroker.Proofs.ContainerHistory

/-! When two containers are equal. Nothing counts but what can be read from them: the traits,
the keys set on each trait and the values, which are equal as values. Since a NaN is equal to
nothing, equality of containers is a partial equivalence, reflexive where there is no NaN. -/
namespace AssetBroker

/-- Equality of values: same type and same content, where floats are numbers. -/
inductive Value.Equal : Value → Value → Prop where
  | boolean (b : Bool) : Equal (.boolean b) (.boolean b)
  | integer (n : Int64) : Equal (.integer n) (.integer n)
  | text (s : String) : Equal (.text s) (.text s)
  | number (x : Binary64) (number : x.isNaN = false) : Equal (.float x) (.float x)
  | zeros (x y : Binary64) (zero : x.isZero = true) (zero' : y.isZero = true) :
    Equal (.float x) (.float y)

theorem Binary64.isNaN_of_isZero {x : Binary64} (zero : x.isZero = true) : x.isNaN = false := by
  have magnitude : x.bits.toNat % magnitudeCount = 0 := beq_iff_eq.mp zero
  have exponent : x.exponent = 0 := by rw [Binary64.exponent, magnitude, Nat.zero_div]
  rw [isNaN, exponent]
  rfl

namespace Value

variable {v w u : Value}

theorem float_beq_iff {x y : Binary64} :
    ((float x : Value) == float y) = true ↔
      (x = y ∧ x.isNaN = false) ∨ (x.isZero = true ∧ y.isZero = true) := by
  change x.same y = true ↔ _
  have sameBits : (x.bits == y.bits) = true ↔ x = y := by
    rw [beq_iff_eq]
    exact ⟨fun bits => congrArg Binary64.mk bits, congrArg Binary64.bits⟩
  rw [Binary64.same, Bool.and_eq_true, Bool.and_eq_true, Bool.or_eq_true, Bool.and_eq_true,
    sameBits, Bool.not_eq_true', Bool.not_eq_true']
  constructor
  · rintro ⟨⟨number, _⟩, same | zeros⟩
    · exact .inl ⟨same, number⟩
    · exact .inr zeros
  · rintro (⟨rfl, number⟩ | ⟨zero, zero'⟩)
    · exact ⟨⟨number, number⟩, .inl rfl⟩
    · exact ⟨⟨Binary64.isNaN_of_isZero zero, Binary64.isNaN_of_isZero zero'⟩, .inr ⟨zero, zero'⟩⟩

theorem beq_iff_equal : (v == w) = true ↔ Equal v w := by
  constructor
  · intro agree
    change agrees v w = true at agree
    cases v <;> cases w <;> first | contradiction | skip
    case boolean.boolean => obtain rfl := beq_iff_eq.mp agree; exact .boolean _
    case integer.integer => obtain rfl := beq_iff_eq.mp agree; exact .integer _
    case text.text => obtain rfl := beq_iff_eq.mp agree; exact .text _
    case float.float =>
      rcases float_beq_iff.mp agree with ⟨rfl, number⟩ | ⟨zero, zero'⟩
      · exact .number _ number
      · exact .zeros _ _ zero zero'
  · intro equal
    cases equal with
    | boolean b => exact beq_self_eq_true b
    | integer n => exact beq_self_eq_true n
    | text s => exact beq_self_eq_true s
    | number x number => exact float_beq_iff.mpr (.inl ⟨rfl, number⟩)
    | zeros x y zero zero' => exact float_beq_iff.mpr (.inr ⟨zero, zero'⟩)

theorem Equal.symm (equal : Equal v w) : Equal w v := by
  cases equal with
  | boolean b => exact .boolean b
  | integer n => exact .integer n
  | text s => exact .text s
  | number x number => exact .number x number
  | zeros x y zero zero' => exact .zeros y x zero' zero

theorem Equal.trans (first : Equal v w) (second : Equal w u) : Equal v u := by
  cases first with
  | boolean _ | integer _ | text _ | number _ _ => exact second
  | zeros x y zero zero' =>
    cases second with
    | number _ _ => exact .zeros x y zero zero'
    | zeros _ z _ zero'' => exact .zeros x z zero zero''

instance : PartialEquivBEq Value where
  symm agree := beq_iff_equal.mpr (beq_iff_equal.mp agree).symm
  trans first second := beq_iff_equal.mpr ((beq_iff_equal.mp first).trans (beq_iff_equal.mp second))

theorem equal_self_iff : Equal v v ↔ ∀ x, v = .float x → x.isNaN = false := by
  constructor
  · rintro equal x rfl
    cases equal with
    | number _ number => exact number
    | zeros _ _ zero _ => exact Binary64.isNaN_of_isZero zero
  · intro number
    cases v with
    | boolean b => exact .boolean b
    | integer n => exact .integer n
    | text s => exact .text s
    | float x => exact .number x (number x rfl)

end Value

namespace TraitsData

variable {a b : TraitsData} {traitId key : String} {value : Value}

instance : PartialEquivBEq TraitsData where
  symm {a b} equal := by
    change (b.traits == a.traits) = true
    exact PartialEquivBEq.symm equal
  trans {a b c} first second := by
    change (a.traits == c.traits) = true
    change (b.traits == c.traits) = true at second
    exact PartialEquivBEq.trans first second

theorem beq_iff_related : (a == b) = true ↔
    Dictionary.Related (Dictionary.Related Value.Equal) a.traits b.traits := by
  change (a.traits == b.traits) = true ↔ _
  simp only [Dictionary.beq_iff_related, Value.beq_iff_equal]

/-- Two containers are equal if they have the same traits and equal values, or none, for every
key of every trait. -/
theorem beq_iff_value? : (a == b) = true ↔
    (∀ traitId, a.hasTrait traitId = b.hasTrait traitId) ∧
    ∀ traitId key, Option.Rel Value.Equal (a.value? traitId key) (b.value? traitId key) := by
  rw [beq_iff_related, Dictionary.related_iff_get?]
  constructor
  · intro matching
    refine ⟨fun traitId => Dictionary.isSome_eq_of_rel (matching traitId), fun traitId key => ?_⟩
    have here := matching traitId
    rw [value?, value?]
    generalize a.traits.get? traitId = held at here ⊢
    generalize b.traits.get? traitId = held' at here ⊢
    cases here with
    | none => exact .none
    | some related => exact Dictionary.related_iff_get?.mp related key
  · rintro ⟨traits, values⟩ traitId
    apply Dictionary.rel_iff.mpr
    refine ⟨traits traitId, fun properties properties' held held' => ?_⟩
    apply Dictionary.related_iff_get?.mpr
    intro key
    have here := values traitId key
    rwa [value?, value?, held, held'] at here

theorem property_eq_ok_some_iff :
    a.property traitId key = .ok (some value) ↔ a.value? traitId key = some value := by
  by_cases present : a.hasTrait traitId = true
  · rw [a.property_of_hasTrait traitId key present, Except.ok.injEq]
  · rw [(a.property_eq_error_iff traitId key).mpr present, a.value?_of_not_hasTrait _ _ present]
    exact iff_of_false nofun nofun

theorem propertyKeys_eq_iff (same : a.hasTrait traitId = b.hasTrait traitId) :
    a.propertyKeys traitId = b.propertyKeys traitId ↔
      ∀ key, (a.value? traitId key).isSome = (b.value? traitId key).isSome := by
  by_cases present : a.hasTrait traitId = true
  · obtain ⟨held, found, read⟩ := a.properties_of_hasTrait traitId present
    obtain ⟨held', found', read'⟩ := b.properties_of_hasTrait traitId (same ▸ present)
    simp only [propertyKeys, read, read', Except.map, Except.ok.injEq, value?, found, found',
      Option.bind_some]
    exact Dictionary.keys_eq_iff_get?
  · have absent : ¬b.hasTrait traitId = true := same ▸ present
    rw [(a.propertyKeys_eq_error_iff traitId).mpr present,
      (b.propertyKeys_eq_error_iff traitId).mpr absent]
    refine iff_of_true rfl fun key => ?_
    rw [a.value?_of_not_hasTrait _ _ present, b.value?_of_not_hasTrait _ _ absent]

theorem beq_iff_observed : (a == b) = true ↔ a.traitSet = b.traitSet ∧ ∀ traitId,
    a.propertyKeys traitId = b.propertyKeys traitId ∧ ∀ key v w,
      a.property traitId key = .ok (some v) → b.property traitId key = .ok (some w) →
        Value.Equal v w := by
  have traits : a.traitSet = b.traitSet ↔ ∀ traitId, a.hasTrait traitId = b.hasTrait traitId :=
    NameSet.nameSet_eq_iff
  rw [beq_iff_value?, traits]
  refine and_congr_right fun same => forall_congr' fun traitId => ?_
  simp only [propertyKeys_eq_iff (same traitId), property_eq_ok_some_iff, Dictionary.rel_iff,
    forall_and]

theorem beq_iff_foundIn : (a == b) = true ↔
    Dictionary.FoundIn (Dictionary.FoundIn Value.Equal) a.traits b.traits := by
  have nested : Dictionary.Related Value.Equal = Dictionary.FoundIn Value.Equal := by
    funext d e
    exact propext Dictionary.related_iff_foundIn
  rw [beq_iff_related, Dictionary.related_iff_foundIn, nested]

theorem after_beq_after_iff (first second : List Change) :
    (after first == after second) = true ↔
      (∀ traitId, Named first traitId ↔ Named second traitId) ∧ ∀ traitId key,
        (EverSet first traitId key ↔ EverSet second traitId key) ∧
        ∀ v w, LastSet first traitId key v → LastSet second traitId key w → Value.Equal v w := by
  have values (history : List Change) (traitId key : String) :
      ((after history).value? traitId key).isSome = true ↔ EverSet history traitId key := by
    simp only [Option.isSome_iff_exists, value?_after, everSet_iff_exists_lastSet]
  have sameTrait (traitId : String) :
      (after first).hasTrait traitId = (after second).hasTrait traitId ↔
        (Named first traitId ↔ Named second traitId) := by
    rw [Bool.eq_iff_iff, hasTrait_after, hasTrait_after]
  have sameKey (traitId key : String) :
      ((after first).value? traitId key).isSome = ((after second).value? traitId key).isSome ↔
        (EverSet first traitId key ↔ EverSet second traitId key) := by
    rw [Bool.eq_iff_iff, values, values]
  simp only [beq_iff_value?, Dictionary.rel_iff, value?_after, sameTrait, sameKey]

theorem beq_self_iff : (a == a) = true ↔ ∀ traitId key x,
    a.property traitId key = .ok (some (.float x)) → x.isNaN = false := by
  simp only [beq_iff_value?, Dictionary.rel_iff, property_eq_ok_some_iff, implies_true, true_and]
  constructor
  · intro agree traitId key x held
    exact Value.equal_self_iff.mp (agree traitId key _ _ held held) x rfl
  · intro numbers traitId key v w held held'
    obtain rfl : v = w := Option.some.inj (held.symm.trans held')
    apply Value.equal_self_iff.mpr
    rintro x rfl
    exact numbers traitId key x held

/-- Containers are equal exactly when nothing that can be read from them tells them apart, up
to equality of values. The comparison that looks for the entries of one side in the other,
trait by trait and key by key, comes to the same. It is symmetric and transitive, knows neither
the order of changes nor values that were overwritten, tells a trait without properties from
one that is not there, and finds a container equal to its copy unless a property is a NaN. -/
theorem container_equality_is_observational (a b c : TraitsData) :
    ((a == b) = true ↔ a.traitSet = b.traitSet ∧ ∀ traitId,
      a.propertyKeys traitId = b.propertyKeys traitId ∧ ∀ key v w,
        a.property traitId key = .ok (some v) → b.property traitId key = .ok (some w) →
          Value.Equal v w) ∧
    (∀ v w : Value, (v == w) = true ↔ Value.Equal v w) ∧
    ((a == b) = true ↔ Dictionary.FoundIn (Dictionary.FoundIn Value.Equal) a.traits b.traits) ∧
    (a == b) = (b == a) ∧
    ((a == b) = true → (b == c) = true → (a == c) = true) ∧
    (∀ first second : List Change, (after first == after second) = true ↔
      (∀ traitId, Named first traitId ↔ Named second traitId) ∧ ∀ traitId key,
        (EverSet first traitId key ↔ EverSet second traitId key) ∧
        ∀ v w, LastSet first traitId key v → LastSet second traitId key w → Value.Equal v w) ∧
    (∀ traitId, a.hasTrait traitId = true → b.hasTrait traitId = false → (a == b) = false) ∧
    ((a == a) = true ↔ ∀ traitId key x,
      a.property traitId key = .ok (some (.float x)) → x.isNaN = false) := by
  refine ⟨beq_iff_observed, fun _ _ => Value.beq_iff_equal, beq_iff_foundIn, ?symm,
    PartialEquivBEq.trans, after_beq_after_iff, ?lacking, beq_self_iff⟩
  case symm => exact Bool.eq_iff_iff.mpr ⟨PartialEquivBEq.symm, PartialEquivBEq.symm⟩
  case lacking =>
    intro traitId present absent
    apply Bool.eq_false_iff.mpr
    intro equal
    obtain ⟨traits, _⟩ := beq_iff_value?.mp equal
    rw [traits traitId, absent] at present
    contradiction

end TraitsData
end AssetBroker
