import AssetBroker.Proofs.ReferenceBalance

/-! What happens between a host and a handle table. The host makes objects, hands them over,
takes them back, gives up its own references and releases handles, in any order, and every step
has its answer. From the steps and their answers alone it can be told what the host holds and
what the handles stand for. -/
namespace AssetBroker.Bridge

variable {κ : Type} [Catalogue κ]

namespace HandleTable

/-- A handle that was issued for an object and neither released nor issued again since. -/
def Denotes (history : List (Exchange κ)) (handle : Handle) (object : AnyObject κ) : Prop :=
  InForce (fun next : Exchange κ => next.issued? = some handle ∨ next.released? = some handle)
    history (.issue (some object) (.ok handle))

/-- A table that knows every handle for the object it was issued for last, however often the
numbers have come round. -/
def Shows (table : HandleTable κ) (history : List (Exchange κ)) : Prop :=
  ∀ handle object, table.find? handle = some object ↔ Denotes history handle object

theorem shows_empty : (empty : HandleTable κ).Shows [] :=
  fun _ _ => iff_of_false nofun not_inForce_nil

theorem Shows.ask [DecidableEq κ] {table : HandleTable κ} {history : List (Exchange κ)}
    (shows : table.Shows history) (call : Call κ) :
    (table.ask call).2.Shows (history ++ [(table.ask call).1]) := by
  intro handle object
  rw [Denotes, inForce_concat]
  rcases table.ask_cases call with ⟨new, _, answer⟩ | ⟨old, held, _, _, answer⟩ | ⟨idle, same⟩
  · rw [answer, find?_entered]
    by_cases issued : handle = table.upcoming
    · subst issued
      simp [Exchange.issued?, eq_comm]
    · simp [Exchange.issued?, Exchange.released?, issued, Ne.symm issued, shows handle object,
        Denotes]
  · rw [answer, find?_others]
    by_cases released : handle = old
    · simp [released, Exchange.released?]
    · simp [Exchange.issued?, Exchange.released?, released, Ne.symm released, shows handle object,
        Denotes]
  · obtain ⟨noIssue, noRelease⟩ := Exchange.takesEffect_eq_false_iff.mp idle
    have other : (table.ask call).1 ≠ .issue (some object) (.ok handle) := by
      intro issue
      rw [issue] at noIssue
      cases noIssue
    simp [same, noIssue, noRelease, other, shows handle object, Denotes]

/-- What is fetched is what a live handle stands for, if that is of the wanted type. -/
theorem fetch_eq_ok_iff [DecidableEq κ] {table : HandleTable κ} {wanted : κ}
    {handle : Option Handle} {object : Object wanted} :
    table.fetch wanted handle = .ok object ↔
      ∃ live, handle = some live ∧ table.find? live = some ⟨wanted, object⟩ := by
  cases handle with
  | none => exact iff_of_false nofun nofun
  | some handle =>
    cases found : table.find? handle with
    | none => simp [fetch_of_find?_eq_none found, found]
    | some held =>
      obtain ⟨kind, held⟩ := held
      by_cases same : kind = wanted
      · subst same
        simp [fetch_of_find? found, found]
      · simp [fetch_of_find?_other found same, found, same]

end HandleTable

namespace Custody

/-- What a host may do. -/
inductive Step (κ : Type) [Catalogue κ] where
  | create (name : String) (kind : κ) (content : Catalogue.Content kind)
  /-- Hands over what the host holds under a name, or a null object. -/
  | handOver (name : Option String)
  /-- Takes an object back and keeps it under a name, or gives it up again. -/
  | takeBack (wanted : κ) (handle : Option Handle) (name : Option String)
  | disown (name : String)
  | release (handle : Handle)

/-- A step with what came of it. -/
inductive Deed (κ : Type) [Catalogue κ] where
  | create (name : String) (object : AnyObject κ)
  | handOver (name : Option String) (object : Option (AnyObject κ))
      (answer : Except BridgeError Handle)
  | takeBack (wanted : κ) (handle : Option Handle) (name : Option String)
      (answer : Except BridgeError (Object wanted))
  | disown (name : String)
  | release (handle : Handle) (answer : Except BridgeError Unit)

namespace Deed

def step : Deed κ → Step κ
  | create name object => .create name object.1 object.2.content
  | handOver name _ _ => .handOver name
  | takeBack wanted handle name _ => .takeBack wanted handle name
  | disown name => .disown name
  | release handle _ => .release handle

/-- The object that the host gets, and the name under which it has it. -/
def gain? : Deed κ → Option (String × AnyObject κ)
  | create name object => some (name, object)
  | takeBack wanted _ (some name) (.ok object) => some (name, ⟨wanted, object⟩)
  | takeBack .. | handOver .. | disown _ | release .. => none

/-- The name under which the host no longer has what it had, and what it has there now. -/
def change? : Deed κ → Option (String × Option (AnyObject κ))
  | disown name => some (name, none)
  | deed => deed.gain?.map fun gained => (gained.1, some gained.2)

/-- What passes between host and table. -/
def exchange? : Deed κ → Option (HandleTable.Exchange κ)
  | create .. | disown _ => none
  | handOver _ object answer => some (.issue object answer)
  | takeBack wanted handle _ answer => some (.fetch wanted handle answer)
  | release handle answer => some (.release handle answer)

end Deed

/-- The host got an object under a name, and nothing else under that name since. -/
def Got (deeds : List (Deed κ)) (name : String) (object : AnyObject κ) : Prop :=
  InForce (fun gained : String × AnyObject κ => gained.1 = name) (deeds.filterMap Deed.gain?)
    (name, object)

/-- The host holds an object under a name: it got it, and has neither given it up nor put
another in its place since. -/
def Holds (deeds : List (Deed κ)) (name : String) (object : AnyObject κ) : Prop :=
  InForce (fun changed : String × Option (AnyObject κ) => changed.1 = name)
    (deeds.filterMap Deed.change?) (name, some object)

/-- A handle stands for the object that it was issued for last, until it is released. -/
def StandsFor (deeds : List (Deed κ)) (handle : Handle) (object : AnyObject κ) : Prop :=
  HandleTable.Denotes (deeds.filterMap Deed.exchange?) handle object

/-- What a deed may be after others. An object is new when it is made, the host hands over what
it holds, and the table gives back and releases what handles stand for, and nothing else. -/
def Deed.Follows (before : List (Deed κ)) : Deed κ → Prop
  | create _ object =>
    ∀ name other, .create name other ∈ before → other.2.identity ≠ object.2.identity
  | handOver name object answer =>
    (∀ given, object = some given ↔ ∃ held, name = some held ∧ Holds before held given) ∧
      (object.isSome = true ↔ ∃ handle, answer = .ok handle)
  | takeBack wanted handle _ answer =>
    ∀ object, answer = .ok object ↔
      ∃ live, handle = some live ∧ StandsFor before live ⟨wanted, object⟩
  | disown _ => True
  | release handle answer => answer = .ok () ↔ ∃ object, StandsFor before handle object

/-- A custody that is what deeds make of it. -/
structure Tracks (deeds : List (Deed κ)) (c : Custody κ) : Prop where
  balanced : Balanced [] c
  shows : c.table.Shows (deeds.filterMap Deed.exchange?)
  holds : ∀ name object, c.owned.get? name = some object ↔ Holds deeds name object
  got : ∀ name identity, c.given.lookup name = some identity ↔
    ∃ object, Got deeds name object ∧ object.2.identity = identity
  made : ∀ name object, .create name object ∈ deeds → object.2.identity < c.references.fresh

theorem Tracks.empty : Tracks [] (Custody.empty : Custody κ) where
  balanced := balanced_empty
  shows := HandleTable.shows_empty
  holds _ _ := iff_of_false nofun not_inForce_nil
  got _ _ := iff_of_false nofun fun ⟨_, got, _⟩ => not_inForce_nil got
  made _ _ member := absurd member List.not_mem_nil

section Runs

variable [DecidableEq κ]

/-- One step: what comes of it, and the custody that is left. -/
def perform (c : Custody κ) : Step κ → Deed κ × Custody κ
  | .create name kind content =>
    (.create name ⟨kind, ⟨c.references.fresh, content⟩⟩, c.create name kind content)
  | .handOver name =>
    let object := name.bind c.owned.get?
    let answer := (c.handOver object).value
    (.handOver name object answer.1, answer.2)
  | .takeBack wanted handle name =>
    let answer := c.takeBack wanted handle name
    (.takeBack wanted handle name (answer.1.map Prod.fst), answer.2)
  | .disown name => (.disown name, c.disown name)
  | .release handle =>
    let answer := (c.release handle).value
    (.release handle answer.1, answer.2)

def act (c : Custody κ) (step : Step κ) : Custody κ := (c.perform step).2

/-- The custody that a run of steps leaves. -/
def after (c : Custody κ) (steps : List (Step κ)) : Custody κ := steps.foldl act c

/-- What comes of a run of steps. -/
def deeds (c : Custody κ) : List (Step κ) → List (Deed κ)
  | [] => []
  | step :: rest => (c.perform step).1 :: (c.act step).deeds rest

variable (c : Custody κ)

theorem step_perform (step : Step κ) : (c.perform step).1.step = step := by
  cases step <;> rfl

theorem map_step_deeds (steps : List (Step κ)) : (c.deeds steps).map Deed.step = steps := by
  induction steps generalizing c with
  | nil => rfl
  | cons step rest ih => rw [deeds, List.map_cons, step_perform, ih]

/-- All that can come of taking an object back, as a step. -/
theorem perform_takeBack_cases (wanted : κ) (handle : Option Handle) (name : Option String) :
    (∃ fault, c.perform (.takeBack wanted handle name) =
      (.takeBack wanted handle name (.error fault), c)) ∨
    ∃ object : Object wanted, handle.bind c.table.find? = some ⟨wanted, object⟩ ∧
      c.perform (.takeBack wanted handle name) = (.takeBack wanted handle name (.ok object),
        match name with
        | none => c
        | some name => { c with references := c.references.retain object.identity }.own name
          ⟨wanted, object⟩) := by
  rcases c.takeBack_cases wanted handle name with ⟨fault, failed⟩ | ⟨object, found, taken⟩
  · exact .inl ⟨fault, by rw [perform, failed]; rfl⟩
  · exact .inr ⟨object, found, by rw [perform, taken]; rfl⟩

theorem answer_takeBack (wanted : κ) (handle : Option Handle) (name : Option String) :
    (c.takeBack wanted handle name).1.map Prod.fst = c.table.fetch wanted handle := by
  unfold takeBack
  cases c.table.fetch wanted handle with
  | error fault => rfl
  | ok object => cases name <;> rfl

/-- A step changes the table by what passes between the two, if anything does. -/
theorem table_act (step : Step κ) :
    match (c.perform step).1.exchange? with
    | none => (c.act step).table = c.table
    | some exchange => ∃ call, c.table.ask call = (exchange, (c.act step).table) := by
  cases step with
  | create name kind content => rfl
  | disown name => rfl
  | handOver name => exact ⟨.issue (name.bind c.owned.get?), rfl⟩
  | release handle => exact ⟨.release handle, rfl⟩
  | takeBack wanted handle name =>
    have same : (c.act (.takeBack wanted handle name)).table = c.table := by
      rcases c.perform_takeBack_cases wanted handle name with ⟨_, failed⟩ | ⟨_, _, taken⟩
      · rw [act, failed]
      · rw [act, taken]
        cases name <;> rfl
    refine ⟨.fetch wanted handle, Prod.ext ?_ same.symm⟩
    exact congrArg (HandleTable.Exchange.fetch wanted handle)
      (c.answer_takeBack wanted handle name).symm

/-- A step changes what the host owns as its deed tells. -/
theorem get?_owned_act (step : Step κ) (name : String) :
    (c.act step).owned.get? name = match (c.perform step).1.change? with
      | none => c.owned.get? name
      | some (changed, held) => if name = changed then held else c.owned.get? name := by
  cases step with
  | create given kind content => exact Dictionary.get?_insert ..
  | disown given => exact c.owned.get?_erase given name
  | handOver _ | release _ => rfl
  | takeBack wanted handle kept =>
    rcases c.perform_takeBack_cases wanted handle kept with ⟨_, failed⟩ | ⟨object, _, taken⟩
    · rw [act, failed]
      cases kept <;> rfl
    · rw [act, taken]
      cases kept with
      | none => rfl
      | some given => exact Dictionary.get?_insert ..

theorem given_act (step : Step κ) :
    (c.act step).given = match (c.perform step).1.gain? with
      | none => c.given
      | some (name, object) => (name, object.2.identity) :: c.given := by
  cases step with
  | create _ _ _ | disown _ | handOver _ | release _ => rfl
  | takeBack wanted handle kept =>
    rcases c.perform_takeBack_cases wanted handle kept with ⟨_, failed⟩ | ⟨object, _, taken⟩
    · rw [act, failed]
      cases kept <;> rfl
    · rw [act, taken]
      cases kept <;> rfl

/-- Identities are never given out again. -/
theorem fresh_le_act (step : Step κ) : c.references.fresh ≤ (c.act step).references.fresh := by
  cases step with
  | create name kind content =>
    change _ ≤ (Custody.own _ name _).references.fresh
    rw [fresh_own, ReferenceCounts.fresh_retain]
    exact Nat.le_of_lt c.references.lt_fresh_grow
  | disown name => exact Nat.le_of_eq (c.references.fresh_dropIfAny _).symm
  | handOver name =>
    change _ ≤ (c.handOver (name.bind c.owned.get?)).value.2.references.fresh
    cases name.bind c.owned.get? with
    | none => exact Nat.le_refl _
    | some object =>
      refine Nat.le_of_eq ?_
      exact ((ReferenceCounts.fresh_dropIfAny _ _).trans (c.references.fresh_retain _)).symm
  | release handle => exact Nat.le_of_eq (c.references.fresh_dropIfAny _).symm
  | takeBack wanted handle kept =>
    rcases c.perform_takeBack_cases wanted handle kept with ⟨_, failed⟩ | ⟨object, _, taken⟩
    · rw [act, failed]
    · rw [act, taken]
      cases kept with
      | none => exact Nat.le_refl _
      | some given =>
        rw [fresh_own, ReferenceCounts.fresh_retain]

theorem Balanced.act {c : Custody κ} (balanced : Balanced [] c) (step : Step κ) :
    Balanced [] (c.act step) := by
  cases step with
  | create name kind content => exact balanced.create name kind content
  | handOver name =>
    change Balanced [] (c.handOver (name.bind c.owned.get?)).value.2
    cases handed : name.bind c.owned.get? with
    | none => exact balanced
    | some object =>
      obtain ⟨name, rfl, owned⟩ := Option.bind_eq_some_iff.mp handed
      have entry := Dictionary.get?_eq_some_iff_mem.mp owned
      have held : object.2.identity ∈ c.ownedObjects := List.mem_map.mpr ⟨_, entry, rfl⟩
      exact balanced.handOver (balanced.known (List.mem_append_left _ held))
  | takeBack wanted handle name => exact balanced.takeBack wanted handle name
  | disown name => exact balanced.disown name
  | release handle => exact balanced.release handle

namespace Tracks

variable {c : Custody κ} {before : List (Deed κ)}

theorem shows_act (tracks : Tracks before c) (step : Step κ) :
    (c.act step).table.Shows ((before ++ [(c.perform step).1]).filterMap Deed.exchange?) := by
  have changed := c.table_act step
  rw [List.filterMap_append]
  cases passed : (c.perform step).1.exchange? with
  | none =>
    rw [passed] at changed
    rw [List.filterMap_cons_none passed, List.filterMap_nil, List.append_nil, changed]
    exact tracks.shows
  | some exchange =>
    rw [passed] at changed
    obtain ⟨call, asked⟩ := changed
    rw [List.filterMap_cons_some passed, List.filterMap_nil]
    have shows := tracks.shows.ask call
    rwa [asked] at shows

theorem holds_act (tracks : Tracks before c) (step : Step κ) (name : String)
    (object : AnyObject κ) :
    (c.act step).owned.get? name = some object ↔
      Holds (before ++ [(c.perform step).1]) name object := by
  rw [get?_owned_act, Holds, inForce_filterMap_concat]
  cases (c.perform step).1.change? with
  | none => exact tracks.holds name object
  | some change =>
    obtain ⟨changed, held⟩ := change
    by_cases same : name = changed
    · simp [same]
    · simp [same, Ne.symm same, tracks.holds name object, Holds]

theorem got_act (tracks : Tracks before c) (step : Step κ) (name : String) (identity : Nat) :
    (c.act step).given.lookup name = some identity ↔
      ∃ object, Got (before ++ [(c.perform step).1]) name object ∧
        object.2.identity = identity := by
  rw [given_act]
  simp only [Got, inForce_filterMap_concat]
  cases (c.perform step).1.gain? with
  | none => exact tracks.got name identity
  | some gain =>
    obtain ⟨gained, object⟩ := gain
    dsimp only
    rw [Dictionary.lookup_cons_eq_ite]
    by_cases same : name = gained
    · simp [same]
    · simp [same, Ne.symm same, tracks.got name identity, Got]

theorem made_act (tracks : Tracks before c) (step : Step κ) (name : String)
    (object : AnyObject κ) (member : .create name object ∈ before ++ [(c.perform step).1]) :
    object.2.identity < (c.act step).references.fresh := by
  rcases List.mem_append.mp member with earlier | last
  · exact Nat.lt_of_lt_of_le (tracks.made name object earlier) (c.fresh_le_act step)
  · cases step with
    | create given kind content =>
      cases List.mem_singleton.mp last
      change _ < (Custody.own _ _ _).references.fresh
      rw [fresh_own, ReferenceCounts.fresh_retain]
      exact c.references.lt_fresh_grow
    | _ => cases List.mem_singleton.mp last

theorem act (tracks : Tracks before c) (step : Step κ) :
    Tracks (before ++ [(c.perform step).1]) (c.act step) where
  balanced := tracks.balanced.act step
  shows := tracks.shows_act step
  holds := tracks.holds_act step
  got := tracks.got_act step
  made := tracks.made_act step

theorem after (tracks : Tracks before c) (steps : List (Step κ)) :
    Tracks (before ++ c.deeds steps) (c.after steps) := by
  induction steps generalizing c before with
  | nil => rwa [deeds, List.append_nil]
  | cons step rest ih =>
    have later := ih (tracks.act step)
    rwa [List.append_assoc] at later

/-- A step has the answer that the deeds before it call for. -/
theorem follows (tracks : Tracks before c) (step : Step κ) :
    (c.perform step).1.Follows before := by
  cases step with
  | create given kind content =>
    intro name other made
    exact Nat.ne_of_lt (tracks.made name other made)
  | disown name => trivial
  | handOver name =>
    refine ⟨fun given => ?_, ?_⟩
    · simp only [← tracks.holds]
      exact Option.bind_eq_some_iff
    · cases name.bind c.owned.get? with
      | none => exact iff_of_false nofun nofun
      | some object => exact iff_of_true rfl ⟨_, rfl⟩
  | takeBack wanted handle name =>
    intro object
    rw [c.answer_takeBack, HandleTable.fetch_eq_ok_iff]
    simp only [tracks.shows _ _, StandsFor]
  | release handle =>
    change (c.release handle).value.1 = .ok () ↔ ∃ object, StandsFor before handle object
    simp only [StandsFor, ← tracks.shows _ _]
    cases found : c.table.find? handle with
    | none =>
      rw [c.release_of_find?_eq_none found]
      exact iff_of_false nofun nofun
    | some object =>
      rw [c.release_of_find? found]
      exact iff_of_true rfl ⟨object, rfl⟩

/-- Every deed of a run follows on those before it. -/
theorem follows_deeds (tracks : Tracks before c) {steps : List (Step κ)}
    {earlier later : List (Deed κ)} {deed : Deed κ}
    (split : c.deeds steps = earlier ++ deed :: later) : deed.Follows (before ++ earlier) := by
  induction steps generalizing c before earlier with
  | nil => simp [deeds] at split
  | cons step rest ih =>
    rw [deeds] at split
    cases earlier with
    | nil =>
      obtain ⟨rfl, -⟩ := List.cons.inj split
      rw [List.append_nil]
      exact tracks.follows step
    | cons first between =>
      obtain ⟨rfl, onward⟩ := List.cons.inj split
      have later := ih (tracks.act step) onward
      rwa [List.append_assoc] at later

end Tracks

end Runs

end Custody
end AssetBroker.Bridge
