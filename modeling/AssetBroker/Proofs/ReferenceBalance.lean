import AssetBroker.Bridge.Custody
import AssetBroker.Proofs.HandleLookup
import AssetBroker.Proofs.Lookups

/-! Reference counts in balance. The count of an object is at every moment the number of
references that are held to it: one for each name under which the host owns it, one for each
entry of the table and, in the midst of a step, those in hand. -/
namespace AssetBroker.Bridge

namespace ReferenceCounts

/-- How many references are held to an object, none if there is no such object. -/
def count (c : ReferenceCounts) (identity : Nat) : Nat := (c.counts[identity]?).getD 0

variable (c : ReferenceCounts) (identity other : Nat)

theorem isAlive_iff : c.isAlive identity = true ↔ 0 < c.count identity := by
  rw [isAlive, count]
  cases c.counts[identity]? with
  | none => simp
  | some held => simp

/-- An object to which references are held is there. -/
theorem lt_fresh_of_count_pos (held : 0 < c.count identity) : identity < c.fresh := by
  by_contra absent
  rw [count, List.getElem?_eq_none (Nat.le_of_not_lt absent)] at held
  exact absurd held (Nat.lt_irrefl 0)

theorem count_grow : c.grow.count other = c.count other := by
  rw [count, count, grow, List.getElem?_append]
  split
  · rfl
  · rename_i absent
    rw [List.getElem?_eq_none (Nat.le_of_not_lt absent), List.getElem?_singleton]
    split
    · rfl
    · rfl

theorem lt_fresh_grow : c.fresh < c.grow.fresh := by
  simp [fresh, grow]

@[simp] theorem fresh_retain : (c.retain identity).fresh = c.fresh := List.length_modify ..

@[simp] theorem fresh_drop : (c.drop identity).fresh = c.fresh := List.length_modify ..

@[simp] theorem fresh_dropIfAny (held : Option Nat) : (c.dropIfAny held).fresh = c.fresh := by
  cases held with
  | none => rfl
  | some identity => exact c.fresh_drop identity

theorem count_retain (known : identity < c.fresh) :
    (c.retain identity).count other = c.count other + [identity].count other := by
  rw [count, count, retain, List.getElem?_modify, List.count_singleton]
  by_cases same : identity = other
  · subst same
    simp [List.getElem?_eq_getElem (show identity < c.counts.length from known)]
  · simp [same]

theorem count_drop : (c.drop identity).count other = c.count other - [identity].count other := by
  rw [count, count, drop, List.getElem?_modify, List.count_singleton]
  by_cases same : identity = other
  · subst same
    cases c.counts[identity]? with
    | none => simp
    | some held => simp
  · simp [same]

theorem count_dropIfAny (held : Option Nat) :
    (c.dropIfAny held).count other = c.count other - held.toList.count other := by
  cases held with
  | none => rfl
  | some identity => exact c.count_drop identity other

/-- A reference that is taken and given up again leaves no trace. -/
theorem drop_retain : (c.retain identity).drop identity = c := by
  rw [drop, retain, List.modify_modify_eq]
  have nothing : (fun n => n - 1) ∘ (fun n : Nat => n + 1) = id := by
    funext n
    exact Nat.add_sub_cancel n 1
  rw [nothing, List.modify_id]

end ReferenceCounts

namespace Custody

variable {κ : Type} [Catalogue κ]

/-- The objects that the host owns, once for every name. -/
def ownedObjects (c : Custody κ) : List Nat :=
  c.owned.entries.map fun entry => entry.2.2.identity

/-- The objects that handles stand for, once for every handle. -/
def standingObjects (c : Custody κ) : List Nat :=
  c.table.live.map fun entry => entry.2.2.identity

/-- Every count is the number of references that are held, those in hand included. -/
structure Balanced (hand : List Nat) (c : Custody κ) : Prop where
  counted : ∀ identity, c.references.count identity =
    (hand ++ c.ownedObjects ++ c.standingObjects).count identity
  distinct : (c.table.live.map Prod.fst).Nodup

variable {c : Custody κ} {hand : List Nat}

theorem balanced_empty : Balanced [] (empty : Custody κ) where
  counted _ := rfl
  distinct := .nil

theorem ownedObjects_disown (name : String) :
    c.ownedObjects.Perm (((c.owned.get? name).map (·.2.identity)).toList ++
      (c.disown name).ownedObjects) := by
  have split := (c.owned.entries_perm_erase name).map fun entry => entry.2.2.identity
  rw [List.map_append, List.map_map] at split
  cases found : c.owned.get? name with
  | none => rwa [found] at split
  | some object => rwa [found] at split

theorem ownedObjects_own (name : String) (object : AnyObject κ) :
    (c.own name object).ownedObjects.Perm
      (object.2.identity :: (c.disown name).ownedObjects) := by
  have split := (c.owned.entries_insert_perm name object).map fun entry => entry.2.2.identity
  rwa [List.map_cons] at split

theorem standingObjects_others (distinct : (c.table.live.map Prod.fst).Nodup) (handle : Handle) :
    c.standingObjects.Perm (((c.table.find? handle).map (·.2.identity)).toList ++
      (c.table.others handle).map fun entry => entry.2.2.identity) := by
  have split := (Dictionary.perm_lookup_filter distinct handle).map fun entry => entry.2.2.identity
  rw [List.map_append, List.map_map] at split
  change c.standingObjects.Perm (((c.table.find? handle).toList.map _) ++ _) at split
  cases found : c.table.find? handle with
  | none => rwa [found] at split
  | some object => rwa [found] at split

section Steps

variable (c : Custody κ)

theorem fresh_own (name : String) (object : AnyObject κ) :
    (c.own name object).references.fresh = c.references.fresh :=
  c.references.fresh_dropIfAny _

theorem value_release (handle : Handle) :
    (c.release handle).value = ((c.table.release handle).value.1, { c with
      table := (c.table.release handle).value.2
      references := c.references.dropIfAny ((c.table.find? handle).map (·.2.identity)) }) := rfl

theorem release_of_find?_eq_none {handle : Handle} (absent : c.table.find? handle = none) :
    (c.release handle).value = (.error (.unknownHandle handle), c) := by
  rw [value_release, c.table.release_of_find?_eq_none absent, absent]
  rfl

theorem release_of_find? {handle : Handle} {object : AnyObject κ}
    (found : c.table.find? handle = some object) :
    (c.release handle).value = (.ok (), { c with
      table := ⟨c.table.others handle, c.table.next⟩
      references := c.references.drop object.2.identity }) := by
  rw [value_release, c.table.release_of_find? found, found]
  rfl

/-- All that can come of taking an object back: it fails and leaves everything as it was, also
where the reference was taken before the type was seen to be another; or the host has a reference
more, if it keeps it. -/
theorem takeBack_cases [DecidableEq κ] (wanted : κ) (handle : Option Handle)
    (name : Option String) :
    (∃ fault, c.takeBack wanted handle name = (.error fault, c)) ∨
    ∃ object : Object wanted, handle.bind c.table.find? = some ⟨wanted, object⟩ ∧
      c.takeBack wanted handle name = (.ok (object, c.namesOf object.identity),
        match name with
        | none => c
        | some name => { c with references := c.references.retain object.identity }.own name
          ⟨wanted, object⟩) := by
  cases handle with
  | none => exact .inl ⟨.nullHandle, rfl⟩
  | some handle =>
    cases found : c.table.find? handle with
    | none =>
      refine .inl ⟨.unknownHandle handle, ?_⟩
      simp only [takeBack, HandleTable.fetch_of_find?_eq_none found, Option.bind_some, found]
      rfl
    | some object =>
      obtain ⟨kind, object⟩ := object
      by_cases same : kind = wanted
      · subst same
        refine .inr ⟨object, found, ?_⟩
        simp only [takeBack, HandleTable.fetch_of_find? found, Option.bind_some, found]
        cases name with
        | none =>
          simp only [Option.map_some, ReferenceCounts.drop_retain]
        | some name => rfl
      · refine .inl ⟨.typeMismatch (Catalogue.typeName wanted), ?_⟩
        simp only [takeBack, HandleTable.fetch_of_find?_other found same, Option.bind_some, found,
          Option.map_some, ReferenceCounts.dropIfAny, ReferenceCounts.drop_retain]

end Steps

namespace Balanced

/-- A reference can be held only to an object that is there. -/
theorem known (balanced : Balanced hand c) {identity : Nat}
    (held : identity ∈ hand ++ c.ownedObjects ++ c.standingObjects) :
    identity < c.references.fresh := by
  apply c.references.lt_fresh_of_count_pos
  rw [balanced.counted]
  exact List.count_pos_iff.mpr held

theorem retain (balanced : Balanced hand c) {identity : Nat}
    (known : identity < c.references.fresh) :
    Balanced (identity :: hand) { c with references := c.references.retain identity } where
  counted other := by
    have before := balanced.counted other
    have taken := c.references.count_retain identity other known
    rw [← List.singleton_append]
    simp only [List.count_append] at before ⊢
    change (c.references.retain identity).count other =
      _ + _ + c.ownedObjects.count other + c.standingObjects.count other
    omega
  distinct := balanced.distinct

theorem disown (balanced : Balanced hand c) (name : String) : Balanced hand (c.disown name) where
  counted other := by
    have before := balanced.counted other
    have owned := (ownedObjects_disown (c := c) name).count_eq other
    have given := c.references.count_dropIfAny other ((c.owned.get? name).map (·.2.identity))
    simp only [List.count_append] at before owned ⊢
    change (c.references.dropIfAny _).count other =
      _ + (c.disown name).ownedObjects.count other + c.standingObjects.count other
    omega
  distinct := balanced.distinct

/-- What is in hand goes to the host. -/
theorem own (object : AnyObject κ) (balanced : Balanced (object.2.identity :: hand) c)
    (name : String) : Balanced hand (c.own name object) where
  counted other := by
    have before := (balanced.disown name).counted other
    have owned := (ownedObjects_own (c := c) name object).count_eq other
    rw [← List.singleton_append] at before owned
    simp only [List.count_append] at before owned ⊢
    change (c.disown name).references.count other =
      _ + (c.own name object).ownedObjects.count other + (c.disown name).standingObjects.count other
    omega
  distinct := balanced.distinct

theorem create (balanced : Balanced hand c) (name : String) (kind : κ)
    (content : Catalogue.Content kind) : Balanced hand (c.create name kind content) := by
  have grown : Balanced hand { c with references := c.references.grow } :=
    ⟨fun other => (c.references.count_grow other).trans (balanced.counted other),
      balanced.distinct⟩
  have made := grown.retain c.references.lt_fresh_grow
  exact own ⟨kind, ⟨c.references.fresh, content⟩⟩ made name

theorem release (balanced : Balanced hand c) (handle : Handle) :
    Balanced hand (c.release handle).value.2 := by
  cases found : c.table.find? handle with
  | none =>
    rw [c.release_of_find?_eq_none found]
    exact balanced
  | some object =>
    rw [c.release_of_find? found]
    constructor
    · intro other
      have before := balanced.counted other
      have standing := (standingObjects_others balanced.distinct handle).count_eq other
      have given := c.references.count_drop object.2.identity other
      rw [found, Option.map_some, Option.toList_some] at standing
      simp only [List.count_append] at before standing ⊢
      change (c.references.drop object.2.identity).count other = _ + c.ownedObjects.count other +
        ((c.table.others handle).map fun entry => entry.2.2.identity).count other
      omega
    · exact balanced.distinct.sublist (List.filter_sublist.map Prod.fst)

theorem handOver (balanced : Balanced hand c) {object : AnyObject κ}
    (known : object.2.identity < c.references.fresh) :
    Balanced hand (c.handOver (some object)).value.2 where
  counted other := by
    have before := (balanced.retain known).counted other
    have standing := (standingObjects_others balanced.distinct c.table.upcoming).count_eq other
    have given := (c.references.retain object.2.identity).count_dropIfAny other
      ((c.table.find? c.table.upcoming).map (·.2.identity))
    rw [← List.singleton_append] at before
    simp only [List.count_append] at before standing ⊢
    change (ReferenceCounts.dropIfAny _ _).count other = _ + c.ownedObjects.count other +
      (object.2.identity ::
        (c.table.others c.table.upcoming).map fun entry => entry.2.2.identity).count other
    rw [← List.singleton_append, List.count_append]
    change (c.references.retain object.2.identity).count other = _ + _ +
      c.ownedObjects.count other + c.standingObjects.count other at before
    omega
  distinct := by
    change (c.table.upcoming :: (c.table.others c.table.upcoming).map Prod.fst).Nodup
    refine List.nodup_cons.mpr ⟨?_, balanced.distinct.sublist (List.filter_sublist.map Prod.fst)⟩
    intro again
    obtain ⟨entry, member, same⟩ := List.mem_map.mp again
    exact bne_iff_ne.mp (List.mem_filter.mp member).2 same

theorem takeBack [DecidableEq κ] (balanced : Balanced hand c) (wanted : κ)
    (handle : Option Handle) (name : Option String) :
    Balanced hand (c.takeBack wanted handle name).2 := by
  rcases c.takeBack_cases wanted handle name with ⟨fault, failed⟩ | ⟨object, found, taken⟩
  · rw [failed]
    exact balanced
  · rw [taken]
    cases name with
    | none => exact balanced
    | some name =>
      obtain ⟨handle, rfl, found⟩ := Option.bind_eq_some_iff.mp found
      have entry := (Dictionary.lookup_eq_some_iff_mem balanced.distinct).mp found
      have standing : object.identity ∈ c.standingObjects := List.mem_map.mpr ⟨_, entry, rfl⟩
      have known := balanced.known (List.mem_append_right _ standing)
      exact own ⟨wanted, object⟩ (balanced.retain known) name

end Balanced

/-- The host has a reference to an object. -/
def Owns (c : Custody κ) (identity : Nat) : Prop :=
  ∃ name object, c.owned.get? name = some object ∧ object.2.identity = identity

/-- While nothing is in hand, an object is alive if the host or the table holds it, and only
then. -/
theorem Balanced.isAlive_iff (balanced : Balanced [] c) (identity : Nat) :
    c.references.isAlive identity = true ↔ c.Owns identity ∨
      ∃ handle object, c.table.find? handle = some object ∧ object.2.identity = identity := by
  have owned : identity ∈ c.ownedObjects ↔ c.Owns identity := by
    simp only [ownedObjects, Owns, List.mem_map, Prod.exists, Dictionary.get?_eq_some_iff_mem]
  have standing : identity ∈ c.standingObjects ↔
      ∃ handle object, c.table.find? handle = some object ∧ object.2.identity = identity := by
    simp only [standingObjects, HandleTable.find?, List.mem_map, Prod.exists,
      Dictionary.lookup_eq_some_iff_mem balanced.distinct]
  rw [ReferenceCounts.isAlive_iff, balanced.counted, List.count_pos_iff, List.nil_append,
    List.mem_append, owned, standing]

end Custody
end AssetBroker.Bridge
