import AssetBroker.Bridge.Kind
import AssetBroker.Proofs.HandleHistory

/-! The books of a handle table. No handle is issued twice and none is null, release works on
live handles only, and the size of the table is the number of handles issued less the number
of handles released. Calls that fail or only look leave no trace. -/
namespace AssetBroker.Bridge.HandleTable

variable {κ : Type} [Catalogue κ]

namespace Tracks

variable {table : HandleTable κ} {history : List (Exchange κ)}

theorem release_eq_ok_iff (tracks : Tracks history table) (handle : Handle) :
    (table.release handle).value.1 = .ok () ↔ Live history handle := by
  have live : Live history handle ↔ ∃ object, table.find? handle = some object :=
    exists_congr fun object => (tracks.found handle object).symm
  rw [live]
  constructor
  · intro accepted
    by_contra dead
    have absent : table.find? handle = none := by
      simpa [← Option.ne_none_iff_exists'] using dead
    rw [table.release_of_find?_eq_none absent] at accepted
    contradiction
  · rintro ⟨object, found⟩
    rw [table.release_of_find? found]

theorem isEmpty_iff (tracks : Tracks history table) :
    table.isEmpty = true ↔ (issued history).length = (released history).length := by
  have counted := tracks.counted
  have nothing : table.isEmpty = true ↔ table.size = 0 := by
    rw [isEmpty, size, List.isEmpty_iff, List.length_eq_zero_iff]
  rw [nothing]
  omega

theorem ofRaw?_of_issued (tracks : Tracks history table)
    (few : (issued history).length ≤ 2 ^ 64 - 1) {handle : Handle}
    (given : handle ∈ issued history) : Handle.ofRaw? handle.raw = some handle := by
  rw [tracks.inOrder] at given
  obtain ⟨count, before, rfl⟩ := List.mem_map.mp given
  have bound := List.mem_range.mp before
  exact ofRaw?_numbered (by omega)

theorem upcoming_null_iff (tracks : Tracks history table)
    (few : (issued history).length ≤ 2 ^ 64 - 1) :
    table.upcoming.raw = 0 ↔ (issued history).length = 2 ^ 64 - 1 := by
  rw [tracks.upcoming, numbered, ← UInt64.toNat_inj, UInt64.toNat_ofNat', UInt64.toNat_zero]
  -- The count comes round to null with the last word, and not before.
  omega

end Tracks

theorem issue_eq_ok_iff (table : HandleTable κ) (object : Option (AnyObject κ)) :
    (∃ handle, (table.issue object).value.1 = .ok handle) ↔ object.isSome = true := by
  cases object with
  | none =>
    refine iff_of_false ?_ Bool.false_ne_true
    rintro ⟨handle, issued⟩
    contradiction
  | some object => exact iff_of_true ⟨_, rfl⟩ rfl

variable [DecidableEq κ]

theorem table_ask_of_no_effect (table : HandleTable κ) (call : Call κ)
    (idle : (table.ask call).1.takesEffect = false) : (table.ask call).2 = table := by
  rcases table.ask_cases call with ⟨object, _, answer⟩ | ⟨handle, object, _, _, answer⟩ |
    ⟨_, same⟩
  · rw [answer] at idle; contradiction
  · rw [answer] at idle; contradiction
  · exact same

theorem run_without_idle_calls (table : HandleTable κ) (calls : List (Call κ)) :
    let effective := (table.exchanges calls).filter Exchange.takesEffect
    table.exchanges (effective.map Exchange.call) = effective ∧
      table.afterAll (effective.map Exchange.call) = table.afterAll calls := by
  induction calls generalizing table with
  | nil => exact ⟨rfl, rfl⟩
  | cons call rest ih =>
    intro effective
    obtain ⟨sameExchanges, sameTable⟩ := ih (table.ask call).2
    cases effect : (table.ask call).1.takesEffect with
    | true =>
      have first : effective = (table.ask call).1 ::
          ((table.ask call).2.exchanges rest).filter Exchange.takesEffect :=
        List.filter_cons_of_pos effect
      rw [first, List.map_cons, call_ask]
      exact ⟨congrArg ((table.ask call).1 :: ·) sameExchanges, sameTable⟩
    | false =>
      have skipped : effective =
          ((table.ask call).2.exchanges rest).filter Exchange.takesEffect :=
        List.filter_cons_of_neg (by rw [effect]; exact Bool.false_ne_true)
      -- The calls that follow find the table as this one found it.
      have unmoved := table.table_ask_of_no_effect call effect
      rw [unmoved] at skipped sameExchanges sameTable
      have left : table.afterAll (call :: rest) = table.afterAll rest :=
        congrArg (fun table : HandleTable κ => table.afterAll rest) unmoved
      rw [skipped, left]
      exact ⟨sameExchanges, sameTable⟩

/-- A run of any length on a new table, as long as no more handles are issued than there are
words other than null. -/
theorem handle_table_keeps_its_books (calls : List (Call κ))
    (few : (issued ((empty : HandleTable κ).exchanges calls)).length ≤ 2 ^ 64 - 1) :
    let history := (empty : HandleTable κ).exchanges calls
    let table := (empty : HandleTable κ).afterAll calls
    (issued history).Nodup ∧
    (∀ handle ∈ issued history, Handle.ofRaw? handle.raw = some handle) ∧
    (table.upcoming.raw = 0 ↔ (issued history).length = 2 ^ 64 - 1) ∧
    (∀ object, (∃ handle, (table.issue object).value.1 = .ok handle) ↔ object.isSome = true) ∧
    (∀ handle, (table.release handle).value.1 = .ok () ↔ Live history handle) ∧
    table.size + (released history).length = (issued history).length ∧
    (table.isEmpty = true ↔ (issued history).length = (released history).length) ∧
    (∀ call, (table.ask call).1.takesEffect = false → (table.ask call).2 = table) ∧
    (let effective := history.filter Exchange.takesEffect
     empty.exchanges (effective.map Exchange.call) = effective ∧
      empty.afterAll (effective.map Exchange.call) = table) := by
  intro history table
  have tracks : Tracks history table := Tracks.nil.afterAll calls few
  exact ⟨tracks.nodup_issued few, fun _ => tracks.ofRaw?_of_issued few,
    tracks.upcoming_null_iff few, table.issue_eq_ok_iff, tracks.release_eq_ok_iff,
    tracks.counted, tracks.isEmpty_iff,
    table.table_ask_of_no_effect, empty.run_without_idle_calls calls⟩

def keptText : AnyObject Kind := ⟨.text, ⟨0, "kept"⟩⟩

/-- One text handed over again and again, with failing calls between. -/
def contestedCalls : List (Call Kind) :=
  [.issue none, .issue (some keptText), .fetch .integer (some ⟨1⟩), .issue (some keptText),
    .release ⟨1⟩, .release ⟨1⟩, .issue (some keptText)]

/-- The released number is not issued again, and the failing calls might as well be left out. -/
theorem released_number_not_issued_again :
    let history := (empty : HandleTable Kind).exchanges contestedCalls
    let table := (empty : HandleTable Kind).afterAll contestedCalls
    issued history = [⟨1⟩, ⟨2⟩, ⟨3⟩] ∧ (issued history).Nodup ∧ released history = [⟨1⟩] ∧
    table.size + 1 = 3 ∧ Live history ⟨2⟩ ∧ ¬Live history ⟨1⟩ ∧
    (empty : HandleTable Kind).exchanges [.issue (some keptText), .issue (some keptText),
      .release ⟨1⟩, .issue (some keptText)] = history.filter Exchange.takesEffect := by
  intro history table
  have few : (issued history).length ≤ 2 ^ 64 - 1 := by decide
  obtain ⟨once, _, _, _, live, counted, _, _, rerun, _⟩ :=
    handle_table_keeps_its_books contestedCalls few
  refine ⟨rfl, once, rfl, counted, (live ⟨2⟩).mp rfl, ?_, rerun⟩
  intro again
  have accepted := (live ⟨1⟩).mpr again
  contradiction

end AssetBroker.Bridge.HandleTable
