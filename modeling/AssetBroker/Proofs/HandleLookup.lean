import AssetBroker.Bridge.Kind
import AssetBroker.Proofs.HandleHistory

/-! What comes back for a handle. The history alone decides: a handle that does not stand is
unknown, whatever type is wanted; one that does gives the very object it was issued for, to
those who want its type. What becomes of one handle is of no concern to the others, whether or
not they stand for the same object. -/
namespace AssetBroker.Bridge.HandleTable

variable {κ : Type} [Catalogue κ]

namespace Tracks

variable {table : HandleTable κ} {history : List (Exchange κ)}

theorem find?_eq_none (tracks : Tracks history table) {handle : Handle}
    (dead : ¬Live history handle) : table.find? handle = none := by
  by_contra present
  obtain ⟨object, found⟩ := Option.ne_none_iff_exists'.mp present
  exact dead ⟨object, (tracks.found handle object).mp found⟩

theorem issued_apart (tracks : Tracks history table)
    (few : (issued history).length ≤ 2 ^ 64 - 1) {earlier between later : List (Exchange κ)}
    {object object' : Option (AnyObject κ)} {first second : Handle}
    (split : history = earlier ++ .issue object (.ok first) ::
      (between ++ .issue object' (.ok second) :: later)) : first ≠ second := by
  have once := tracks.nodup_issued few
  have listed : issued history = issued earlier ++ first ::
      (issued between ++ second :: issued later) := by
    rw [split]
    simp only [issued, List.filterMap_append, List.filterMap_cons, Exchange.issued?]
  rw [listed, List.nodup_append, List.nodup_cons] at once
  rintro rfl
  exact once.2.1.1 (List.mem_append_right _ List.mem_cons_self)

end Tracks

/-- The handle that a call is about. -/
def Call.handle? : Call κ → Option Handle
  | .issue _ => none
  | .fetch _ handle => handle
  | .release handle => some handle

/-- Two tables that go on alike, but for one handle. -/
structure AgreeBut (handle : Handle) (first second : HandleTable κ) : Prop where
  next : first.next = second.next
  found : ∀ other, other ≠ handle → first.find? other = second.find? other

theorem agreeBut_release (table : HandleTable κ) (handle : Handle) :
    AgreeBut handle (table.release handle).value.2 table := by
  cases found : table.find? handle with
  | none =>
    rw [table.release_of_find?_eq_none found]
    exact ⟨rfl, fun _ _ => rfl⟩
  | some object =>
    rw [table.release_of_find? found]
    exact ⟨rfl, fun other spared => (table.find?_others handle other _).trans (if_neg spared)⟩

variable [DecidableEq κ]

section Fetching

variable {table : HandleTable κ} {handle : Handle} {wanted kind : κ}

theorem fetch_of_find?_eq_none (absent : table.find? handle = none) :
    table.fetch wanted (some handle) = .error (.unknownHandle handle) := by
  rw [fetch, absent]

theorem fetch_of_find? {object : Object wanted}
    (found : table.find? handle = some ⟨wanted, object⟩) :
    table.fetch wanted (some handle) = .ok object := by
  rw [fetch, found]
  exact dif_pos rfl

theorem fetch_of_find?_other {object : Object kind}
    (found : table.find? handle = some ⟨kind, object⟩) (other : kind ≠ wanted) :
    table.fetch wanted (some handle) = .error (.typeMismatch (Catalogue.typeName wanted)) := by
  rw [fetch, found]
  exact dif_neg other

end Fetching

namespace AgreeBut

variable {handle : Handle} {first second : HandleTable κ}

/-- A call that is not about the handle is answered alike, and agreement remains. -/
theorem ask (agree : AgreeBut handle first second) {call : Call κ}
    (spared : call.handle? ≠ some handle) :
    (first.ask call).1 = (second.ask call).1 ∧
      AgreeBut handle (first.ask call).2 (second.ask call).2 := by
  cases call with
  | issue object =>
    cases object with
    | none => exact ⟨rfl, agree⟩
    | some object =>
      have number : first.upcoming = second.upcoming := congrArg Handle.mk agree.next
      refine ⟨congrArg (fun new => Exchange.issue (some object) (.ok new)) number, ?_, ?_⟩
      · exact congrArg (· + 1) agree.next
      · intro other spared
        change find? ⟨(first.upcoming, object) :: first.others first.upcoming, _⟩ other =
          find? ⟨(second.upcoming, object) :: second.others second.upcoming, _⟩ other
        rw [find?_entered, find?_entered, number, agree.found other spared]
  | fetch wanted asked =>
    cases asked with
    | none => exact ⟨rfl, agree⟩
    | some asked =>
      have here := agree.found asked fun same => spared (congrArg some same)
      refine ⟨congrArg (Exchange.fetch wanted (some asked)) ?_, agree⟩
      rw [fetch, fetch, here]
  | release asked =>
    have here := agree.found asked fun same => spared (congrArg some same)
    cases found : first.find? asked with
    | none =>
      simp only [HandleTable.ask, first.release_of_find?_eq_none found,
        second.release_of_find?_eq_none (here ▸ found)]
      exact ⟨trivial, agree⟩
    | some object =>
      simp only [HandleTable.ask, first.release_of_find? found,
        second.release_of_find? (here ▸ found)]
      refine ⟨trivial, agree.next, fun other spared => ?_⟩
      rw [find?_others, find?_others, agree.found other spared]

theorem exchanges (agree : AgreeBut handle first second) {calls : List (Call κ)}
    (spared : ∀ call ∈ calls, call.handle? ≠ some handle) :
    first.exchanges calls = second.exchanges calls := by
  induction calls generalizing first second with
  | nil => rfl
  | cons call rest ih =>
    obtain ⟨same, agree⟩ := agree.ask (spared call List.mem_cons_self)
    have later := ih agree fun next member => spared next (List.mem_cons_of_mem call member)
    rw [HandleTable.exchanges, HandleTable.exchanges, same, later]

end AgreeBut

/-- After a run of any length on a new table, as long as no more handles are issued than there
are words other than null: what each handle gives, that handles of one object are as different
as those of several, and that the release of one of them is nothing to the calls about others. -/
theorem fetch_is_typed_lookup (calls : List (Call κ))
    (few : (issued ((empty : HandleTable κ).exchanges calls)).length ≤ 2 ^ 64 - 1) :
    let history := (empty : HandleTable κ).exchanges calls
    let table := (empty : HandleTable κ).afterAll calls
    (∀ wanted, table.fetch wanted none = .error .nullHandle) ∧
    (∀ wanted handle, ¬Live history handle →
      table.fetch wanted (some handle) = .error (.unknownHandle handle)) ∧
    (∀ wanted handle kind (object : Object kind), Stands history handle ⟨kind, object⟩ →
      kind ≠ wanted →
        table.fetch wanted (some handle) = .error (.typeMismatch (Catalogue.typeName wanted))) ∧
    (∀ wanted handle (object : Object wanted), Stands history handle ⟨wanted, object⟩ →
      table.fetch wanted (some handle) = .ok object) ∧
    (∀ object, (issued history).length < 2 ^ 64 - 1 →
      ∃ handle, (table.issue (some object)).value.1 = .ok handle ∧ handle ∉ issued history) ∧
    (∀ object first second earlier between later,
      history = earlier ++ .issue (some object) (.ok first) ::
        (between ++ .issue (some object) (.ok second) :: later) → first ≠ second) ∧
    (∀ handle more, (∀ call ∈ more, call.handle? ≠ some handle) →
      (table.release handle).value.2.exchanges more = table.exchanges more) := by
  intro history table
  have tracks : Tracks history table := Tracks.nil.afterAll calls few
  refine ⟨fun _ => rfl, ?dead, ?mismatch, ?same, ?fresh, ?apart, ?independent⟩
  case dead =>
    intro wanted handle dead
    exact fetch_of_find?_eq_none (tracks.find?_eq_none dead)
  case mismatch =>
    intro wanted handle kind object stands other
    exact fetch_of_find?_other ((tracks.found handle _).mpr stands) other
  case same =>
    intro wanted handle object stands
    exact fetch_of_find? ((tracks.found handle _).mpr stands)
  case fresh =>
    intro object room
    exact ⟨table.upcoming, rfl, tracks.upcoming_not_issued room⟩
  case apart =>
    intro object first second earlier between later split
    exact tracks.issued_apart few split
  case independent =>
    intro handle more spared
    exact (table.agreeBut_release handle).exchanges spared

/-- One text under two handles, and an equal one under a third. Released, the first handle is
unknown; the others go on giving the text they were issued for, and no text but that. -/
theorem twice_issued_text_survives_release :
    let text : Object Kind.text := ⟨0, "kept"⟩
    let twin : Object Kind.text := ⟨1, "kept"⟩
    let calls : List (Call Kind) :=
      [.issue (some ⟨.text, text⟩), .issue (some ⟨.text, twin⟩), .issue (some ⟨.text, text⟩),
        .release ⟨1⟩]
    let table := (empty : HandleTable Kind).afterAll calls
    table.fetch .text none = .error .nullHandle ∧
    table.fetch .text (some ⟨1⟩) = .error (.unknownHandle ⟨1⟩) ∧
    table.fetch .integer (some ⟨3⟩) = .error (.typeMismatch "i64") ∧
    table.fetch .text (some ⟨3⟩) = .ok text ∧ text ≠ twin ∧
    (table.release ⟨2⟩).value.2.exchanges [.fetch .text (some ⟨3⟩), .release ⟨3⟩] =
      table.exchanges [.fetch .text (some ⟨3⟩), .release ⟨3⟩] := by
  intro text twin calls table
  have few : (issued ((empty : HandleTable Kind).exchanges calls)).length ≤ 2 ^ 64 - 1 := by
    decide
  obtain ⟨null, dead, mismatch, same, _, _, independent⟩ := fetch_is_typed_lookup calls few
  let issues : List (Exchange Kind) :=
    [.issue (some ⟨.text, text⟩) (.ok ⟨1⟩), .issue (some ⟨.text, twin⟩) (.ok ⟨2⟩),
      .issue (some ⟨.text, text⟩) (.ok ⟨3⟩)]
  have history : (empty : HandleTable Kind).exchanges calls =
      issues ++ [.release ⟨1⟩ (.ok ())] := rfl
  rw [history] at dead mismatch same
  have stands : Stands (issues ++ [.release ⟨1⟩ (.ok ())]) ⟨3⟩ ⟨.text, text⟩ :=
    stands_concat_release.mpr ⟨by decide, [_, _], [], rfl, nofun⟩
  have released : ¬Live (issues ++ [.release ⟨1⟩ (.ok ())]) ⟨1⟩ := by
    rintro ⟨object, standing⟩
    exact (stands_concat_release.mp standing).1 rfl
  refine ⟨null .text, dead .text ⟨1⟩ released, mismatch .integer ⟨3⟩ .text text stands nofun,
    same .text ⟨3⟩ text stands, ?_, independent ⟨2⟩ _ ?_⟩
  · exact fun equal => Nat.zero_ne_one (congrArg Object.identity equal)
  · simp [Call.handle?]

end AssetBroker.Bridge.HandleTable
