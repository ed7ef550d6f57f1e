import AssetBroker.Bridge.Kind
import AssetBroker.Proofs.CustodyHistory

/-! How long objects live. A host makes objects, hands them to a table, takes them back, gives
up its own references and releases handles, in any order. An object lives just as long as the
host holds it or a handle stands for it, whichever is longer. -/
namespace AssetBroker.Bridge.Custody

variable {κ : Type} [Catalogue κ]

/-- The host holds an object, under some name. -/
def Held (deeds : List (Deed κ)) (identity : Nat) : Prop :=
  ∃ name object, Holds deeds name object ∧ object.2.identity = identity

/-- Some handle stands for an object. -/
def Handled (deeds : List (Deed κ)) (identity : Nat) : Prop :=
  ∃ handle object, StandsFor deeds handle object ∧ object.2.identity = identity

namespace Tracks

variable {deeds : List (Deed κ)} {c : Custody κ} (tracks : Tracks deeds c) (identity : Nat)

include tracks

theorem owns_iff : c.Owns identity ↔ Held deeds identity := by
  simp only [Owns, Held, tracks.holds]

theorem isAlive_iff :
    c.references.isAlive identity = true ↔ Held deeds identity ∨ Handled deeds identity := by
  rw [tracks.balanced.isAlive_iff, tracks.owns_iff]
  simp only [Handled, StandsFor, tracks.shows _ _]

end Tracks

variable [DecidableEq κ]

section GivingUp

variable (c : Custody κ)

theorem get?_after_disown (names : List String) (name : String) :
    (c.after (names.map .disown)).owned.get? name =
      if name ∈ names then none else c.owned.get? name := by
  induction names generalizing c with
  | nil => rfl
  | cons first rest ih =>
    have here : (c.act (.disown first)).owned.get? name =
        if name = first then none else c.owned.get? name := c.get?_owned_act (.disown first) name
    rw [List.map_cons, after, List.foldl_cons, ← after, ih, here]
    by_cases same : name = first
    · simp [same]
    · simp [same]

theorem table_after_disown (names : List String) :
    (c.after (names.map .disown)).table = c.table := by
  induction names generalizing c with
  | nil => rfl
  | cons first rest ih => exact ih (c.disown first)

theorem find?_act_release (handle other : Handle) :
    (c.act (.release handle)).table.find? other =
      if other = handle then none else c.table.find? other := by
  change (c.release handle).value.2.table.find? other = _
  cases found : c.table.find? handle with
  | none =>
    rw [c.release_of_find?_eq_none found]
    split
    · rename_i same
      rw [same, found]
    · rfl
  | some object =>
    rw [c.release_of_find? found]
    exact c.table.find?_others handle other c.table.next

theorem find?_after_release (handles : List Handle) (handle : Handle) :
    (c.after (handles.map .release)).table.find? handle =
      if handle ∈ handles then none else c.table.find? handle := by
  induction handles generalizing c with
  | nil => rfl
  | cons first rest ih =>
    rw [List.map_cons, after, List.foldl_cons, ← after, ih, find?_act_release]
    by_cases same : handle = first
    · simp [same]
    · simp [same]

theorem owned_after_release (handles : List Handle) :
    (c.after (handles.map .release)).owned = c.owned := by
  induction handles generalizing c with
  | nil => rfl
  | cons first rest ih => exact ih (c.act (.release first))

end GivingUp

namespace Tracks

variable {deeds : List (Deed κ)} {c : Custody κ} (tracks : Tracks deeds c)

include tracks

/-- Once the host has given up all that it holds, handles alone keep objects alive. -/
theorem isAlive_after_disown {names : List String}
    (all : ∀ name object, Holds deeds name object → name ∈ names) (identity : Nat) :
    (c.after (names.map .disown)).references.isAlive identity = true ↔
      Handled deeds identity := by
  have none_owned (name : String) :
      (c.after (names.map .disown)).owned.get? name = none := by
    rw [get?_after_disown]
    split
    · rfl
    · rename_i spared
      refine Option.eq_none_iff_forall_ne_some.mpr fun object owned => ?_
      exact spared (all name object ((tracks.holds name object).mp owned))
  rw [(tracks.after _).balanced.isAlive_iff, table_after_disown]
  simp only [Owns, none_owned, Handled, StandsFor, tracks.shows _ _]
  simp

/-- Once all handles are released, only what the host holds is alive. -/
theorem isAlive_after_release {handles : List Handle}
    (all : ∀ handle object, StandsFor deeds handle object → handle ∈ handles) (identity : Nat) :
    (c.after (handles.map .release)).references.isAlive identity = true ↔
      Held deeds identity := by
  have none_live (handle : Handle) :
      (c.after (handles.map .release)).table.find? handle = none := by
    rw [find?_after_release]
    split
    · rfl
    · rename_i spared
      refine Option.eq_none_iff_forall_ne_some.mpr fun object found => ?_
      exact spared (all handle object ((tracks.shows handle object).mp found))
  rw [(tracks.after _).balanced.isAlive_iff, ← tracks.owns_iff]
  simp only [Owns, owned_after_release, none_live]
  simp

/-- What the host takes back and keeps outlives the handles. -/
theorem isAlive_of_kept {wanted : κ} {handle : Handle} {object : Object wanted}
    (stands : StandsFor deeds handle ⟨wanted, object⟩) (name : String) (handles : List Handle) :
    (c.after (.takeBack wanted (some handle) (some name) ::
      handles.map .release)).references.isAlive object.identity = true := by
  let step : Step κ := .takeBack wanted (some handle) (some name)
  have answer : (c.takeBack wanted (some handle) (some name)).1.map Prod.fst = .ok object :=
    (tracks.follows step object).mpr ⟨handle, rfl, stands⟩
  have owned : (c.act step).owned.get? name = some ⟨wanted, object⟩ := by
    rw [get?_owned_act]
    simp only [step, perform, answer, Deed.change?, Deed.gain?, Option.map_some, if_true]
  have kept := ((tracks.act step).after (handles.map .release)).balanced
  refine (kept.isAlive_iff _).mpr (.inl ⟨name, ⟨wanted, object⟩, ?_, rfl⟩)
  rwa [owned_after_release]

end Tracks

/-- At any point of any run, an object is alive if the host holds it or a handle stands for it
that was issued for it, and only then. What the host holds is told by the answers of the run, as
what it made or took back and neither gave up nor replaced since. So the handles keep alive what
they stand for when the host gives up all that it holds, and the host what it holds when all
handles are released; taking an object back in vain changes nothing, and what is taken back and
kept outlives all handles; and the release of the last handle for an object that the host does
not hold is the end of it. -/
theorem alive_as_long_as_owned_or_handled (steps : List (Step κ)) :
    let reached := (empty : Custody κ).after steps
    let deeds := (empty : Custody κ).deeds steps
    deeds.map Deed.step = steps ∧
    (∀ before deed later, deeds = before ++ deed :: later → deed.Follows before) ∧
    (∀ identity, reached.references.isAlive identity = true ↔
      Held deeds identity ∨ Handled deeds identity) ∧
    (∀ name, reached.isAlive name = true ↔ ∃ object, Got deeds name object ∧
      (Held deeds object.2.identity ∨ Handled deeds object.2.identity)) ∧
    (∀ names : List String, (∀ name object, Holds deeds name object → name ∈ names) → ∀ identity,
      (reached.after (names.map .disown)).references.isAlive identity = true ↔
        Handled deeds identity) ∧
    (∀ handles : List Handle, (∀ handle object, StandsFor deeds handle object →
      handle ∈ handles) → ∀ identity,
      (reached.after (handles.map .release)).references.isAlive identity = true ↔
        Held deeds identity) ∧
    (∀ wanted handle name fault, (reached.takeBack wanted handle name).1 = .error fault →
      reached.act (.takeBack wanted handle name) = reached) ∧
    (∀ wanted handle (object : Object wanted), StandsFor deeds handle ⟨wanted, object⟩ →
      ∀ (name : String) (handles : List Handle),
        (reached.after (.takeBack wanted (some handle) (some name) ::
          handles.map .release)).references.isAlive object.identity = true) ∧
    ∀ handle object, StandsFor deeds handle object →
      (∀ other held, StandsFor deeds other held →
        held.2.identity = object.2.identity → other = handle) →
      ¬Held deeds object.2.identity →
        reached.references.isAlive object.2.identity = true ∧
        (reached.act (.release handle)).references.isAlive object.2.identity = false := by
  intro reached deeds
  have tracks : Tracks deeds reached := (Tracks.empty (κ := κ)).after steps
  refine ⟨map_step_deeds empty steps, ?followed, tracks.isAlive_iff, ?named,
    fun names all => tracks.isAlive_after_disown all,
    fun handles all => tracks.isAlive_after_release all, ?vain,
    fun _ _ _ stands => tracks.isAlive_of_kept stands, ?last⟩
  case followed =>
    intro before deed later split
    exact Tracks.empty.follows_deeds split
  case named =>
    intro name
    simp only [isAlive, Option.any_eq_true, tracks.got, tracks.isAlive_iff]
    constructor
    · rintro ⟨_, ⟨object, got, rfl⟩, alive⟩
      exact ⟨object, got, alive⟩
    · rintro ⟨object, got, alive⟩
      exact ⟨_, ⟨object, got, rfl⟩, alive⟩
  case vain =>
    intro wanted handle name fault failed
    rcases reached.takeBack_cases wanted handle name with ⟨_, left⟩ | ⟨object, _, taken⟩
    · rw [act, perform, left]
    · rw [taken] at failed
      cases failed
  case last =>
    intro handle object stands last unheld
    refine ⟨(tracks.isAlive_iff _).mpr (.inr ⟨handle, object, stands, rfl⟩), ?_⟩
    rw [Bool.eq_false_iff, ne_eq, (tracks.act _).balanced.isAlive_iff]
    rintro (owned | ⟨other, held, found, same⟩)
    · exact unheld ((tracks.owns_iff _).mp owned)
    · rw [find?_act_release] at found
      split at found
      · cases found
      · rename_i spared
        exact spared (last other held ((tracks.shows other held).mp found) same)

/-- Two objects, of which the host has given up the first, which it had taken back once it had
failed to take it for another type. Its handle keeps it alive just as long as it is live, unless
the host takes it back once more, while the other outlives its handle. -/
theorem given_up_object_lives_by_its_handle :
    let steps : List (Step Kind) := [.create "a" .text "kept", .handOver (some "a"),
      .create "b" .integer (5 : Int64), .handOver (some "b"),
      .takeBack .integer (some ⟨1⟩) (some "c"), .takeBack .text (some ⟨1⟩) (some "c"),
      .disown "a", .disown "c"]
    let reached := (empty : Custody Kind).after steps
    ¬Held ((empty : Custody Kind).deeds steps) 0 ∧ reached.references.isAlive 0 = true ∧
    (reached.act (.release ⟨1⟩)).references.isAlive 0 = false ∧
    (reached.after [.release ⟨2⟩, .release ⟨1⟩]).references.isAlive 1 = true ∧
    reached.act (.takeBack .integer (some ⟨1⟩) (some "c")) = reached ∧
    (reached.after [.takeBack .text (some ⟨1⟩) (some "d"),
      .release ⟨1⟩]).references.isAlive 0 = true := by
  intro steps reached
  let text : AnyObject Kind := ⟨.text, ⟨0, "kept"⟩⟩
  let number : AnyObject Kind := ⟨.integer, ⟨1, (5 : Int64)⟩⟩
  let deeds : List (Deed Kind) := [.create "a" text, .handOver (some "a") (some text) (.ok ⟨1⟩),
    .create "b" number, .handOver (some "b") (some number) (.ok ⟨2⟩),
    .takeBack .integer (some ⟨1⟩) (some "c") (.error (.typeMismatch "i64")),
    .takeBack .text (some ⟨1⟩) (some "c") (.ok ⟨0, "kept"⟩), .disown "a", .disown "c"]
  have told : (empty : Custody Kind).deeds steps = deeds := rfl
  have tracks : Tracks deeds reached := Tracks.empty.after steps
  obtain ⟨_, _, _, _, _, recalled, vain, kept, ends⟩ := alive_as_long_as_owned_or_handled steps
  rw [told] at recalled kept ends ⊢
  have owned : reached.owned.entries = [("b", number)] := rfl
  have unheld : ¬Held deeds 0 := by
    rw [← tracks.owns_iff]
    rintro ⟨name, object, found, same⟩
    have entry := Dictionary.get?_eq_some_iff_mem.mp found
    rw [owned] at entry
    cases List.mem_singleton.mp entry
    contradiction
  have stands : StandsFor deeds ⟨1⟩ text :=
    ⟨[], [.issue (some number) (.ok ⟨2⟩), .fetch .integer (some ⟨1⟩) (.error (.typeMismatch "i64")),
      .fetch .text (some ⟨1⟩) (.ok ⟨0, "kept"⟩)], rfl, by
      simp [HandleTable.Exchange.issued?, HandleTable.Exchange.released?]⟩
  have issued (handle : Handle) (object : AnyObject Kind)
      (standing : StandsFor deeds handle object) :
      (object = text ∧ handle = ⟨1⟩) ∨ (object = number ∧ handle = ⟨2⟩) := by
    have member := InForce.mem standing
    simpa [deeds, Deed.exchange?, eq_comm] using member
  have all (handle : Handle) (object : AnyObject Kind) (standing : StandsFor deeds handle object) :
      handle ∈ [⟨2⟩, ⟨1⟩] := by
    rcases issued handle object standing with ⟨-, rfl⟩ | ⟨-, rfl⟩ <;> simp
  have last (other : Handle) (held : AnyObject Kind) (standing : StandsFor deeds other held)
      (same : held.2.identity = 0) : other = ⟨1⟩ := by
    rcases issued other held standing with ⟨-, first⟩ | ⟨rfl, -⟩
    · exact first
    · contradiction
  obtain ⟨alive, ended⟩ := ends ⟨1⟩ text stands last unheld
  exact ⟨unheld, alive, ended,
    (recalled _ all 1).mpr ⟨"b", number, (tracks.holds "b" number).mp rfl, rfl⟩,
    vain .integer (some ⟨1⟩) (some "c") _ rfl, kept .text ⟨1⟩ ⟨0, "kept"⟩ stands "d" [⟨1⟩]⟩

end AssetBroker.Bridge.Custody
