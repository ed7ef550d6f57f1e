import AssetBroker.Dictionary
import Mathlib.Data.List.Forall2
import Mathlib.Data.List.Induction
import Mathlib.Data.List.Perm.Subperm

/-! A dictionary is known by its lookups. Two dictionaries list the same names with related
values exactly when each name finds related values in both, or nothing in both. Equality of
dictionaries is one such relation; it also comes down to a search for the entries of one side
in the other, as long as both have the same number of entries. -/
namespace AssetBroker

variable {α β : Type}

namespace Dictionary

theorem lookup_eq_none_of_below {name : String} {entries : List (String × α)}
    (below : ∀ entry ∈ entries, name < entry.1) : entries.lookup name = none := by
  apply List.lookup_eq_none_iff.mpr
  intro entry member
  have different : name ≠ entry.1 := fun same => String.lt_irrefl name (same ▸ below entry member)
  exact bne_iff_ne.mpr different

theorem not_lt_of_lookup_isSome {name : String} {first : String × α}
    {rest : List (String × α)} (above : ∀ entry ∈ rest, first.1 < entry.1)
    (found : ((first :: rest).lookup name).isSome = true) : ¬name < first.1 := by
  intro before
  have absent : (first :: rest).lookup name = none := by
    apply lookup_eq_none_of_below
    intro entry member
    rcases List.mem_cons.mp member with rfl | later
    · exact before
    · exact String.lt_trans before (above entry later)
  rw [absent] at found
  contradiction

theorem rel_iff {related : α → β → Prop} {a : Option α} {b : Option β} :
    Option.Rel related a b ↔
      a.isSome = b.isSome ∧ ∀ v w, a = some v → b = some w → related v w := by
  cases a <;> cases b <;> simp

theorem isSome_eq_of_rel {related : α → β → Prop} {a : Option α} {b : Option β}
    (matching : Option.Rel related a b) : a.isSome = b.isSome :=
  (rel_iff.mp matching).1

/-- The same names on both sides, with related values. -/
def Related (related : α → β → Prop) (d : Dictionary α) (e : Dictionary β) : Prop :=
  List.Forall₂ (fun a b => a.1 = b.1 ∧ related a.2 b.2) d.entries e.entries

theorem lookups_of_forall₂ {related : α → β → Prop} {xs : List (String × α)}
    {ys : List (String × β)}
    (listed : List.Forall₂ (fun a b => a.1 = b.1 ∧ related a.2 b.2) xs ys) (name : String) :
    Option.Rel related (xs.lookup name) (ys.lookup name) := by
  induction listed with
  | nil => exact .none
  | @cons x y xs ys first _ ih =>
    obtain ⟨held, value⟩ := x
    obtain ⟨held', value'⟩ := y
    obtain ⟨rfl, values⟩ := first
    rw [lookup_cons_eq_ite, lookup_cons_eq_ite]
    split
    · exact .some values
    · exact ih

theorem forall₂_of_lookups {related : α → β → Prop} {xs : List (String × α)}
    {ys : List (String × β)} (ascending : xs.Pairwise fun a b => a.1 < b.1)
    (ascending' : ys.Pairwise fun a b => a.1 < b.1)
    (matching : ∀ name, Option.Rel related (xs.lookup name) (ys.lookup name)) :
    List.Forall₂ (fun a b => a.1 = b.1 ∧ related a.2 b.2) xs ys := by
  induction xs generalizing ys with
  | nil =>
    cases ys with
    | nil => exact .nil
    | cons y ys =>
      have found := isSome_eq_of_rel (matching y.1)
      rw [List.lookup_cons_self] at found
      contradiction
  | cons x xs ih =>
    obtain ⟨name, value⟩ := x
    obtain ⟨above, ascending⟩ := List.pairwise_cons.mp ascending
    cases ys with
    | nil =>
      have found := isSome_eq_of_rel (matching name)
      rw [List.lookup_cons_self] at found
      contradiction
    | cons y ys =>
      obtain ⟨name', value'⟩ := y
      obtain ⟨above', later'⟩ := List.pairwise_cons.mp ascending'
      -- The smaller of two different first names would be found on one side only.
      have notBelow : ¬name < name' := by
        apply not_lt_of_lookup_isSome above'
        rw [← isSome_eq_of_rel (matching name), List.lookup_cons_self]
        rfl
      have notAbove : ¬name' < name := by
        apply not_lt_of_lookup_isSome above
        rw [isSome_eq_of_rel (matching name'), List.lookup_cons_self]
        rfl
      obtain rfl : name = name' := text_eq_of_neither_lt notBelow notAbove
      have values := matching name
      rw [List.lookup_cons_self, List.lookup_cons_self, Option.rel_some_some] at values
      refine .cons ⟨rfl, values⟩ (ih ascending later' fun other => ?_)
      by_cases same : other = name
      · -- The first name does not come again on either side.
        subst same
        rw [lookup_eq_none_of_below above, lookup_eq_none_of_below above']
        exact .none
      · have later := matching other
        rwa [lookup_cons_eq_ite, if_neg same, lookup_cons_eq_ite, if_neg same] at later

theorem related_iff_get? {related : α → β → Prop} {d : Dictionary α} {e : Dictionary β} :
    Related related d e ↔ ∀ name, Option.Rel related (d.get? name) (e.get? name) :=
  ⟨lookups_of_forall₂, forall₂_of_lookups d.ascending e.ascending⟩

theorem beq_iff_related [BEq α] {d e : Dictionary α} :
    (d == e) = true ↔ Related (fun a b => (a == b) = true) d e := by
  obtain ⟨xs, _⟩ := d
  obtain ⟨ys, _⟩ := e
  change (xs == ys) = true ↔ List.Forall₂ _ xs ys
  clear * -
  induction xs generalizing ys with
  | nil => cases ys <;> simp
  | cons x xs ih =>
    cases ys with
    | nil => simp
    | cons y ys =>
      have first : (x == y) = true ↔ x.1 = y.1 ∧ (x.2 == y.2) = true := by
        change (x.1 == y.1 && x.2 == y.2) = true ↔ _
        rw [Bool.and_eq_true, beq_iff_eq]
      rw [List.cons_beq_cons, Bool.and_eq_true, List.forall₂_cons, ih, first]

theorem keys_eq_iff_related {d : Dictionary α} {e : Dictionary β} :
    d.keys = e.keys ↔ Related (fun _ _ => True) d e := by
  rw [Related, keys, keys, ← List.forall₂_eq_eq_eq, List.forall₂_map_left_iff,
    List.forall₂_map_right_iff]
  simp only [and_true]

theorem keys_eq_iff_get? {d : Dictionary α} {e : Dictionary β} :
    d.keys = e.keys ↔ ∀ name, (d.get? name).isSome = (e.get? name).isSome := by
  rw [keys_eq_iff_related, related_iff_get?]
  refine forall_congr' fun name => ?_
  cases d.get? name <;> cases e.get? name <;> simp

theorem mem_keys_iff {d : Dictionary α} {name : String} :
    name ∈ d.keys ↔ (d.get? name).isSome = true := by
  rw [keys, get?, List.lookup_isSome_iff, List.mem_map]
  refine exists_congr fun entry => and_congr_right fun _ => ?_
  rw [beq_iff_eq, eq_comm]

theorem nodup_keys (d : Dictionary α) : d.keys.Nodup :=
  d.keys_ascending.imp String.ne_of_lt

theorem length_keys (d : Dictionary α) : d.keys.length = d.size := List.length_map ..

theorem isEmpty_iff_get? {d : Dictionary α} :
    d.isEmpty = true ↔ ∀ name, (d.get? name).isSome = false := by
  have listed : d.isEmpty = true ↔ d.keys = (empty : Dictionary α).keys := by
    rw [isEmpty, List.isEmpty_iff, keys, List.map_eq_nil_iff.symm]
    rfl
  rw [listed, keys_eq_iff_get?]
  rfl

theorem filter_ne_of_not_mem {κ : Type} [BEq κ] [LawfulBEq κ] {entries : List (κ × α)} {key : κ}
    (absent : key ∉ entries.map Prod.fst) :
    entries.filter (fun entry => entry.1 != key) = entries := by
  refine List.filter_eq_self.mpr fun entry member => bne_iff_ne.mpr ?_
  rintro rfl
  exact absent (List.mem_map.mpr ⟨entry, member, rfl⟩)

/-- A list that has an entry once is that entry and the others. -/
theorem perm_lookup_filter {κ : Type} [BEq κ] [LawfulBEq κ] {entries : List (κ × α)}
    (distinct : (entries.map Prod.fst).Nodup) (key : κ) :
    entries.Perm ((entries.lookup key).toList.map (fun value => (key, value)) ++
      entries.filter fun entry => entry.1 != key) := by
  induction entries with
  | nil => exact .refl _
  | cons first rest ih =>
    obtain ⟨held, value⟩ := first
    rw [List.map_cons, List.nodup_cons] at distinct
    by_cases same : held = key
    · subst same
      rw [List.lookup_cons_self, List.filter_cons_of_neg (by simp),
        filter_ne_of_not_mem distinct.1]
      exact .refl _
    · have other : (key == held) = false := beq_false_of_ne (Ne.symm same)
      rw [List.lookup_cons, other, List.filter_cons_of_pos (by simpa using same)]
      exact ((ih distinct.2).cons _).trans List.perm_middle.symm

theorem lookup_eq_some_iff_mem {κ : Type} [BEq κ] [LawfulBEq κ] {entries : List (κ × α)}
    (distinct : (entries.map Prod.fst).Nodup) {key : κ} {value : α} :
    entries.lookup key = some value ↔ (key, value) ∈ entries := by
  rw [(perm_lookup_filter distinct key).mem_iff]
  simp

theorem get?_eq_some_iff_mem {d : Dictionary α} {name : String} {value : α} :
    d.get? name = some value ↔ (name, value) ∈ d.entries :=
  lookup_eq_some_iff_mem d.nodup_keys

theorem eq_of_get? {d e : Dictionary α} (same : ∀ name, d.get? name = e.get? name) : d = e := by
  have related : Related Eq d e := related_iff_get?.mpr fun name => by
    rw [same name]
    cases e.get? name with
    | none => exact .none
    | some value => exact .some rfl
  have entries : List.Forall₂ Eq d.entries e.entries := related.imp fun _ _ => Prod.ext_iff.mpr
  obtain ⟨_, _⟩ := d
  obtain ⟨_, _⟩ := e
  obtain rfl := List.forall₂_eq_eq_eq ▸ entries
  rfl

theorem entries_perm_erase (d : Dictionary α) (key : String) :
    d.entries.Perm ((d.get? key).toList.map (fun value => (key, value)) ++
      (d.erase key).entries) :=
  perm_lookup_filter d.nodup_keys key

theorem entries_insert_perm (d : Dictionary α) (key : String) (value : α) :
    (d.insert key value).entries.Perm ((key, value) :: (d.erase key).entries) := by
  have rest : (d.insert key value).erase key = d.erase key :=
    eq_of_get? fun name => by
      rw [get?_erase, get?_insert, get?_erase]
      split
      · rfl
      · rfl
  have split := (d.insert key value).entries_perm_erase key
  rwa [rest, get?_insert, if_pos rfl] at split

/-- Of several entries of one name, the last one in the list counts. -/
theorem get?_ofList (entries : List (String × α)) (name : String) :
    (ofList entries).get? name = entries.reverse.lookup name := by
  induction entries using List.reverseRecOn with
  | nil => rfl
  | append_singleton earlier last ih =>
    have unfolded : ofList (earlier ++ [last]) = (ofList earlier).insert last.1 last.2 := by
      rw [ofList, List.foldl_append]
      rfl
    rw [unfolded, get?_insert, ih, List.reverse_append, List.reverse_singleton,
      List.singleton_append, lookup_cons_eq_ite]

theorem get?_ofList_eq_some_iff {entries : List (String × α)}
    (distinct : (entries.map Prod.fst).Nodup) {name : String} {value : α} :
    (ofList entries).get? name = some value ↔ (name, value) ∈ entries := by
  have reversed : (entries.reverse.map Prod.fst).Nodup :=
    ((List.reverse_perm entries).map Prod.fst).nodup_iff.mpr distinct
  rw [get?_ofList, lookup_eq_some_iff_mem reversed, List.mem_reverse]

/-- The order of entries of different names does not count. -/
theorem ofList_congr {entries others : List (String × α)}
    (distinct : (entries.map Prod.fst).Nodup) (perm : entries.Perm others) :
    ofList entries = ofList others := by
  have distinct' : (others.map Prod.fst).Nodup := (perm.map Prod.fst).nodup_iff.mp distinct
  apply eq_of_get?
  intro name
  apply Option.ext
  intro value
  rw [get?_ofList_eq_some_iff distinct, get?_ofList_eq_some_iff distinct', perm.mem_iff]

theorem ofList_entries (d : Dictionary α) : ofList d.entries = d := by
  apply eq_of_get?
  intro name
  apply Option.ext
  intro value
  rw [get?_ofList_eq_some_iff d.nodup_keys, get?_eq_some_iff_mem]

/-- Any list of the entries of a dictionary makes the dictionary. -/
theorem ofList_of_perm {d : Dictionary α} {entries : List (String × α)}
    (perm : entries.Perm d.entries) : ofList entries = d := by
  have distinct : (entries.map Prod.fst).Nodup :=
    (perm.map Prod.fst).nodup_iff.mpr d.nodup_keys
  exact (ofList_congr distinct perm).trans d.ofList_entries

/-- All values of a dictionary pass a test. -/
def all (test : α → Bool) (d : Dictionary α) : Bool := d.entries.all fun entry => test entry.2

theorem all_iff_get? {test : α → Bool} {d : Dictionary α} :
    d.all test = true ↔ ∀ name value, d.get? name = some value → test value = true := by
  simp only [all, List.all_eq_true, get?_eq_some_iff_mem, Prod.forall]

/-- The comparison of maps that have no order: as many entries on both sides, and for each
entry of the first a related one of its name in the second. -/
def FoundIn (related : α → β → Prop) (d : Dictionary α) (e : Dictionary β) : Prop :=
  d.size = e.size ∧ ∀ name value, d.get? name = some value →
    ∃ other, e.get? name = some other ∧ related value other

theorem keys_subset_of_foundIn {related : α → β → Prop} {d : Dictionary α} {e : Dictionary β}
    (found : FoundIn related d e) : d.keys ⊆ e.keys := by
  intro name member
  obtain ⟨value, held⟩ := Option.isSome_iff_exists.mp (mem_keys_iff.mp member)
  obtain ⟨other, held', _⟩ := found.2 name value held
  exact mem_keys_iff.mpr (Option.isSome_of_mem held')

theorem related_iff_foundIn {related : α → β → Prop} {d : Dictionary α} {e : Dictionary β} :
    Related related d e ↔ FoundIn related d e := by
  rw [related_iff_get?]
  constructor
  · intro matching
    constructor
    · have names : d.keys = e.keys :=
        keys_eq_iff_get?.mpr fun name => isSome_eq_of_rel (matching name)
      rw [← d.length_keys, names, e.length_keys]
    · intro name value held
      have here := matching name
      rw [held] at here
      cases held' : e.get? name with
      | none => rw [held'] at here; cases here
      | some other =>
        rw [held', Option.rel_some_some] at here
        exact ⟨other, rfl, here⟩
  · intro found name
    -- With equally many entries, the names of the first side leave no room for others.
    have names : d.keys.Perm e.keys := by
      apply (d.nodup_keys.subperm (keys_subset_of_foundIn found)).perm_of_length_le
      exact Nat.le_of_eq (e.length_keys.trans (found.1.symm.trans d.length_keys.symm))
    cases held : d.get? name with
    | some value =>
      obtain ⟨other, held', counterpart⟩ := found.2 name value held
      rw [held']
      exact .some counterpart
    | none =>
      cases held' : e.get? name with
      | none => exact .none
      | some other =>
        have member : name ∈ d.keys :=
          names.mem_iff.mpr (mem_keys_iff.mpr (Option.isSome_of_mem held'))
        rw [mem_keys_iff, held] at member
        contradiction

instance [BEq α] [PartialEquivBEq α] : PartialEquivBEq (Dictionary α) where
  symm {d e} equal := by
    rw [beq_iff_related, related_iff_get?] at equal ⊢
    intro name
    obtain ⟨sameNames, values⟩ := rel_iff.mp (equal name)
    apply rel_iff.mpr
    refine ⟨sameNames.symm, fun v w held held' => ?_⟩
    exact PartialEquivBEq.symm (values w v held' held)
  trans {d e f} first second := by
    rw [beq_iff_related, related_iff_get?] at first second ⊢
    intro name
    obtain ⟨sameNames, values⟩ := rel_iff.mp (first name)
    obtain ⟨sameNames', values'⟩ := rel_iff.mp (second name)
    apply rel_iff.mpr
    refine ⟨sameNames.trans sameNames', fun v w held held' => ?_⟩
    have present : (e.get? name).isSome = true := sameNames ▸ Option.isSome_of_mem held
    obtain ⟨middle, between⟩ := Option.isSome_iff_exists.mp present
    exact PartialEquivBEq.trans (values v middle held between) (values' middle w between held')

end Dictionary

namespace NameSet

theorem mem_nameSet_iff {d : Dictionary α} {name : String} :
    name ∈ d.nameSet ↔ (d.get? name).isSome = true :=
  Dictionary.mem_keys_iff

theorem nameSet_eq_iff {d : Dictionary α} {e : Dictionary β} :
    d.nameSet = e.nameSet ↔ ∀ name, (d.get? name).isSome = (e.get? name).isSome := by
  rw [← Dictionary.keys_eq_iff_get?]
  exact NameSet.mk.injEq .. ▸ Iff.rfl

end NameSet
end AssetBroker
