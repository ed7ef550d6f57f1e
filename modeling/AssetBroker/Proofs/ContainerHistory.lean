import AssetBroker.Proofs.History
import AssetBroker.Proofs.Lookups
import AssetBroker.TraitsData

/-! What a container tells after any history of changes. Since the last change that put new
content in place of the old, a trait is present once a change names it, and a property has the
value that was set last. Adding traits never touches a property. -/
namespace AssetBroker.TraitsData

/-- What may be done to a container. -/
inductive Change where
  /-- An empty container in place of what was there. -/
  | renew
  /-- A container of the given traits, without properties, in place of what was there. -/
  | renewWith (traitIds : List String)
  | addTrait (traitId : String)
  | addTraits (traitIds : List String)
  | setProperty (traitId key : String) (value : Value)

namespace Change

def Replaces : Change → Prop
  | renew | renewWith _ => True
  | addTrait _ | addTraits _ | setProperty .. => False

/-- The traits that a change is about. -/
def named : Change → List String
  | renew => []
  | renewWith traitIds | addTraits traitIds => traitIds
  | addTrait traitId | setProperty traitId .. => [traitId]

/-- Nothing is left of what a property was before. -/
def Overrides (traitId key : String) (change : Change) : Prop :=
  change.Replaces ∨ ∃ value, change = .setProperty traitId key value

def apply (d : TraitsData) : Change → TraitsData
  | renew => .empty
  | renewWith traitIds => .ofTraits traitIds
  | addTrait traitId => d.addTrait traitId
  | addTraits traitIds => d.addTraits traitIds
  | setProperty traitId key value => d.setProperty traitId key value

end Change

/-- A container after a history of changes. -/
def after (history : List Change) : TraitsData := history.foldl Change.apply .empty

/-- A trait that a change named, in the content that is there now. -/
def Named (history : List Change) (traitId : String) : Prop :=
  ∃ change, InForce Change.Replaces history change ∧ traitId ∈ change.named

/-- A property that was set, in the content that is there now. -/
def EverSet (history : List Change) (traitId key : String) : Prop :=
  ∃ value, InForce Change.Replaces history (.setProperty traitId key value)

/-- The value that a property was set to last, in the content that is there now. -/
def LastSet (history : List Change) (traitId key : String) (value : Value) : Prop :=
  InForce (Change.Overrides traitId key) history (.setProperty traitId key value)

section Histories

variable {history : List Change} {change : Change} {traitId key : String} {value : Value}

theorem named_concat : Named (history ++ [change]) traitId ↔
    traitId ∈ change.named ∨ ¬change.Replaces ∧ Named history traitId := by
  simp only [Named, inForce_concat, or_and_right, exists_or, exists_eq_left', and_assoc,
    exists_and_left]

theorem everSet_concat : EverSet (history ++ [change]) traitId key ↔
    (∃ value, change = .setProperty traitId key value) ∨
      ¬change.Replaces ∧ EverSet history traitId key := by
  simp only [EverSet, inForce_concat, exists_or, exists_and_left]

theorem lastSet_concat : LastSet (history ++ [change]) traitId key value ↔
    change = .setProperty traitId key value ∨
      ¬change.Overrides traitId key ∧ LastSet history traitId key value :=
  inForce_concat

theorem everSet_iff_exists_lastSet :
    EverSet history traitId key ↔ ∃ value, LastSet history traitId key value := by
  induction history using List.reverseRecOn with
  | nil => simp [EverSet, LastSet, not_inForce_nil]
  | append_singleton history change ih =>
    -- Where another value was set before, the new one takes its place.
    simp only [everSet_concat, lastSet_concat, exists_or, exists_and_left, ih, Change.Overrides,
      not_or]
    tauto

end Histories

section Steps

variable (d : TraitsData) (traitId key : String)

/-- The value of a property, if its trait is there and it is set. -/
def value? : Option Value := (d.traits.get? traitId).bind fun held => held.get? key

theorem hasTrait_iff_isSome : d.hasTrait traitId = true ↔ (d.traits.get? traitId).isSome = true :=
  Iff.rfl

theorem get?_of_not_hasTrait (absent : ¬d.hasTrait traitId = true) :
    d.traits.get? traitId = none :=
  Option.not_isSome_iff_eq_none.mp absent

theorem value?_of_not_hasTrait (absent : ¬d.hasTrait traitId = true) :
    d.value? traitId key = none := by
  rw [value?, d.get?_of_not_hasTrait traitId absent]
  rfl

theorem hasTrait_addTrait (added : String) :
    (d.addTrait added).hasTrait traitId = true ↔ traitId = added ∨ d.hasTrait traitId = true := by
  rw [addTrait]
  split
  · rename_i present
    constructor
    · exact .inr
    · rintro (rfl | held)
      · exact present
      · exact held
  · rw [hasTrait_iff_isSome, hasTrait_iff_isSome, Dictionary.get?_insert]
    split <;> simp [*]

theorem value?_addTrait (added : String) :
    (d.addTrait added).value? traitId key = d.value? traitId key := by
  rw [addTrait]
  split
  · rfl
  · rename_i absent
    rw [value?, value?, Dictionary.get?_insert]
    split
    · rename_i same
      rw [same, d.get?_of_not_hasTrait added absent]
      rfl
    · rfl

theorem hasTrait_addTraits (added : List String) :
    (d.addTraits added).hasTrait traitId = true ↔
      traitId ∈ added ∨ d.hasTrait traitId = true := by
  induction added generalizing d with
  | nil => simp [addTraits]
  | cons first rest ih =>
    have unfolded : d.addTraits (first :: rest) = (d.addTrait first).addTraits rest := rfl
    rw [unfolded, ih, hasTrait_addTrait, List.mem_cons]
    tauto

theorem value?_addTraits (added : List String) :
    (d.addTraits added).value? traitId key = d.value? traitId key := by
  induction added generalizing d with
  | nil => rfl
  | cons first rest ih =>
    have unfolded : d.addTraits (first :: rest) = (d.addTrait first).addTraits rest := rfl
    rw [unfolded, ih, value?_addTrait]

theorem hasTrait_setProperty (holder name : String) (value : Value) :
    (d.setProperty holder name value).hasTrait traitId = true ↔
      traitId = holder ∨ d.hasTrait traitId = true := by
  rw [hasTrait_iff_isSome, hasTrait_iff_isSome, setProperty, Dictionary.get?_insert]
  split <;> simp [*]

theorem value?_setProperty (holder name : String) (value : Value) :
    (d.setProperty holder name value).value? traitId key =
      if traitId = holder ∧ key = name then some value else d.value? traitId key := by
  rw [value?, value?, setProperty, Dictionary.get?_insert]
  by_cases sameTrait : traitId = holder
  · subst sameTrait
    rw [if_pos rfl, Option.bind_some, Dictionary.get?_insert]
    by_cases sameKey : key = name
    · simp [sameKey]
    · rw [if_neg sameKey, if_neg fun both => sameKey both.2]
      cases d.traits.get? traitId <;> rfl
  · rw [if_neg sameTrait, if_neg fun both => sameTrait both.1]

/-- A change leaves the traits it names, and those that were there unless it replaces them. -/
theorem hasTrait_apply (change : Change) :
    (change.apply d).hasTrait traitId = true ↔
      traitId ∈ change.named ∨ ¬change.Replaces ∧ d.hasTrait traitId = true := by
  have nothing : ¬(empty : TraitsData).hasTrait traitId = true := Bool.false_ne_true
  cases change with
  | renew => simp [Change.apply, Change.named, Change.Replaces, nothing]
  | renewWith added =>
    simp [Change.apply, Change.named, Change.Replaces, ofTraits, hasTrait_addTraits, nothing]
  | addTrait added => simp [Change.apply, Change.named, Change.Replaces, hasTrait_addTrait]
  | addTraits added => simp [Change.apply, Change.named, Change.Replaces, hasTrait_addTraits]
  | setProperty holder name value =>
    simp [Change.apply, Change.named, Change.Replaces, hasTrait_setProperty]

/-- A change leaves the value it sets, and any other value that it does not override. -/
theorem value?_apply (change : Change) (value : Value) :
    (change.apply d).value? traitId key = some value ↔
      change = .setProperty traitId key value ∨
        ¬change.Overrides traitId key ∧ d.value? traitId key = some value := by
  have nothing : (empty : TraitsData).value? traitId key = none := rfl
  cases change with
  | renew => simp [Change.apply, Change.Overrides, Change.Replaces, nothing]
  | renewWith added =>
    simp [Change.apply, Change.Overrides, Change.Replaces, ofTraits, value?_addTraits, nothing]
  | addTrait added => simp [Change.apply, Change.Overrides, Change.Replaces, value?_addTrait]
  | addTraits added => simp [Change.apply, Change.Overrides, Change.Replaces, value?_addTraits]
  | setProperty holder name set =>
    rw [Change.apply, value?_setProperty]
    by_cases here : traitId = holder ∧ key = name
    · obtain ⟨rfl, rfl⟩ := here
      simp [Change.Overrides, Change.Replaces]
    · have elsewhere : ¬(Change.setProperty holder name set).Overrides traitId key := by
        rintro (replaces | ⟨_, same⟩)
        · exact replaces
        · cases same
          exact here ⟨rfl, rfl⟩
      rw [if_neg here]
      constructor
      · exact fun held => .inr ⟨elsewhere, held⟩
      · rintro (same | ⟨_, held⟩)
        · cases same
          exact absurd ⟨rfl, rfl⟩ here
        · exact held

end Steps

section Runs

variable (history : List Change) (traitId key : String)

theorem after_concat (change : Change) :
    after (history ++ [change]) = change.apply (after history) := by
  simp [after]

theorem hasTrait_after : (after history).hasTrait traitId = true ↔ Named history traitId := by
  induction history using List.reverseRecOn with
  | nil =>
    have nothing : ¬Named [] traitId := fun ⟨_, inForce, _⟩ => not_inForce_nil inForce
    exact iff_of_false Bool.false_ne_true nothing
  | append_singleton history change ih => rw [after_concat, hasTrait_apply, named_concat, ih]

theorem value?_after (value : Value) :
    (after history).value? traitId key = some value ↔ LastSet history traitId key value := by
  induction history using List.reverseRecOn with
  | nil => exact iff_of_false (by simp [after, value?, empty]) not_inForce_nil
  | append_singleton history change ih => rw [after_concat, value?_apply, lastSet_concat, ih]

end Runs

section Reads

variable (d : TraitsData) (traitId key : String)

theorem properties_of_hasTrait (present : d.hasTrait traitId = true) :
    ∃ held, d.traits.get? traitId = some held ∧ d.properties traitId = .ok held := by
  obtain ⟨held, found⟩ := Option.isSome_iff_exists.mp present
  exact ⟨held, found, by rw [properties, found]⟩

theorem properties_of_not_hasTrait (absent : ¬d.hasTrait traitId = true) :
    d.properties traitId = .error ⟨traitId⟩ := by
  rw [properties, d.get?_of_not_hasTrait traitId absent]

theorem property_of_hasTrait (present : d.hasTrait traitId = true) :
    d.property traitId key = .ok (d.value? traitId key) := by
  obtain ⟨held, found, read⟩ := d.properties_of_hasTrait traitId present
  rw [property, read, value?, found]
  rfl

theorem property_eq_error_iff :
    d.property traitId key = .error ⟨traitId⟩ ↔ ¬d.hasTrait traitId = true := by
  constructor
  · intro refused present
    rw [d.property_of_hasTrait traitId key present] at refused
    contradiction
  · intro absent
    rw [property, d.properties_of_not_hasTrait traitId absent]
    rfl

theorem hasTrait_iff_exists_property :
    d.hasTrait traitId = true ↔ ∃ found, d.property traitId key = .ok found := by
  constructor
  · exact fun present => ⟨_, d.property_of_hasTrait traitId key present⟩
  · rintro ⟨found, read⟩
    by_contra absent
    rw [(d.property_eq_error_iff traitId key).mpr absent] at read
    contradiction

theorem property_addTraits_of_ok (added : List String) {found : Option Value}
    (read : d.property traitId key = .ok found) :
    (d.addTraits added).property traitId key = .ok found := by
  have present := (d.hasTrait_iff_exists_property traitId key).mpr ⟨found, read⟩
  have still := (d.hasTrait_addTraits traitId added).mpr (.inr present)
  rw [property_of_hasTrait _ _ _ still, value?_addTraits, ← read,
    d.property_of_hasTrait traitId key present]

theorem propertyKeys_of_hasTrait (present : d.hasTrait traitId = true) :
    ∃ keys, d.propertyKeys traitId = .ok keys ∧ keys.Pairwise (· < ·) ∧
      ∀ key, key ∈ keys ↔ ∃ value, d.value? traitId key = some value := by
  obtain ⟨held, found, read⟩ := d.properties_of_hasTrait traitId present
  refine ⟨held.keys, by rw [propertyKeys, read]; rfl, held.keys_ascending, fun key => ?_⟩
  rw [Dictionary.mem_keys_iff, Option.isSome_iff_exists, value?, found]
  rfl

theorem propertyKeys_eq_error_iff :
    d.propertyKeys traitId = .error ⟨traitId⟩ ↔ ¬d.hasTrait traitId = true := by
  constructor
  · intro refused present
    obtain ⟨keys, listed, _⟩ := d.propertyKeys_of_hasTrait traitId present
    rw [listed] at refused
    contradiction
  · intro absent
    rw [propertyKeys, d.properties_of_not_hasTrait traitId absent]
    rfl

end Reads

/-- A container after any history of changes. It knows the traits that were named since its
content was last replaced, and no others; a property of such a trait has the value it was set
to last, or none if it was never set; the keys of such a trait are those ever set on it. Adding
traits, new or old, leaves every property as it is. -/
theorem container_tells_its_history (history : List Change) (traitId key : String) :
    let d := after history
    (d.property traitId key = .error ⟨traitId⟩ ↔ ¬Named history traitId) ∧
    (Named history traitId → ∃ found, d.property traitId key = .ok found ∧
      (∀ value, found = some value ↔ LastSet history traitId key value) ∧
      (found = none ↔ ¬EverSet history traitId key)) ∧
    (d.hasTrait traitId = true ↔ ∃ found, d.property traitId key = .ok found) ∧
    (∀ name, name ∈ d.traitSet ↔ Named history name) ∧
    (d.isEmpty = true ↔ ∀ name, name ∉ d.traitSet) ∧
    (d.propertyKeys traitId = .error ⟨traitId⟩ ↔
      d.property traitId key = .error ⟨traitId⟩) ∧
    (Named history traitId → ∃ keys, d.propertyKeys traitId = .ok keys ∧
      keys.Pairwise (· < ·) ∧ ∀ name, name ∈ keys ↔ EverSet history traitId name) ∧
    (∀ added found, d.property traitId key = .ok found →
      (d.addTrait added).property traitId key = .ok found) ∧
    ∀ added found, d.property traitId key = .ok found →
      (d.addTraits added).property traitId key = .ok found := by
  intro d
  have known (name : String) : d.hasTrait name = true ↔ Named history name := hasTrait_after ..
  refine ⟨?refused, ?read, d.hasTrait_iff_exists_property traitId key, ?traits, ?empty, ?keyless,
    ?keys, ?added, fun added _ => d.property_addTraits_of_ok traitId key added⟩
  case refused => exact (d.property_eq_error_iff traitId key).trans (not_congr (known traitId))
  case read =>
    intro named
    refine ⟨_, d.property_of_hasTrait traitId key ((known traitId).mpr named), ?_, ?_⟩
    · exact fun value => value?_after ..
    · rw [everSet_iff_exists_lastSet, Option.eq_none_iff_forall_ne_some, not_exists]
      exact forall_congr' fun value => not_congr (value?_after ..)
  case traits => exact fun name => NameSet.mem_nameSet_iff.trans (known name)
  case empty =>
    refine Dictionary.isEmpty_iff_get?.trans (forall_congr' fun name => ?_)
    rw [traitSet, NameSet.mem_nameSet_iff, Bool.not_eq_true]
  case keyless => rw [propertyKeys_eq_error_iff, property_eq_error_iff]
  case keys =>
    intro named
    obtain ⟨keys, listed, ascending, set⟩ :=
      d.propertyKeys_of_hasTrait traitId ((known traitId).mpr named)
    refine ⟨keys, listed, ascending, fun name => ?_⟩
    rw [set, everSet_iff_exists_lastSet]
    exact exists_congr fun value => value?_after ..
  case added =>
    intro added found read
    -- One trait is a list of one trait.
    exact d.property_addTraits_of_ok traitId key [added] read

end AssetBroker.TraitsData
