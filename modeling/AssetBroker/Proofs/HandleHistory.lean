import AssetBroker.Bridge.HandleTable
import AssetBroker.Proofs.History
import AssetBroker.Proofs.Lookups
import Mathlib.Algebra.Group.Nat.Defs
import Mathlib.Data.List.Nodup
import Mathlib.Data.List.Range

/-! Runs of calls on one handle table. The table is at every moment what its history makes it:
handles are numbered in the order they are issued, and those that were issued and not released
since are live, each for the object it was issued for. Numbers are words, so that this holds
for as long as the count of issued handles is below the number of words. -/
namespace AssetBroker.Bridge.HandleTable

/-- What may be asked of a table. -/
inductive Call (κ : Type) [Catalogue κ] where
  | issue (object : Option (AnyObject κ))
  | fetch (wanted : κ) (handle : Option Handle)
  | release (handle : Handle)

/-- A call together with its answer. -/
inductive Exchange (κ : Type) [Catalogue κ] where
  | issue (object : Option (AnyObject κ)) (answer : Except BridgeError Handle)
  | fetch (wanted : κ) (handle : Option Handle) (answer : Except BridgeError (Object wanted))
  | release (handle : Handle) (answer : Except BridgeError Unit)

variable {κ : Type} [Catalogue κ]

namespace Exchange

def call : Exchange κ → Call κ
  | issue object _ => .issue object
  | fetch wanted handle _ => .fetch wanted handle
  | release handle _ => .release handle

def issued? : Exchange κ → Option Handle
  | issue _ (.ok handle) => some handle
  | _ => none

def released? : Exchange κ → Option Handle
  | release handle (.ok _) => some handle
  | _ => none

/-- A handle was issued or released. All other calls failed or only looked. -/
def takesEffect (exchange : Exchange κ) : Bool :=
  exchange.issued?.isSome || exchange.released?.isSome

theorem takesEffect_eq_false_iff {exchange : Exchange κ} :
    exchange.takesEffect = false ↔ exchange.issued? = none ∧ exchange.released? = none := by
  rw [takesEffect, Bool.or_eq_false_iff, Option.isSome_eq_false_iff, Option.isSome_eq_false_iff,
    Option.isNone_iff_eq_none, Option.isNone_iff_eq_none]

end Exchange

/-- The handles issued in a history, in order. -/
def issued (history : List (Exchange κ)) : List Handle := history.filterMap Exchange.issued?

/-- The handles released in a history, in order. -/
def released (history : List (Exchange κ)) : List Handle := history.filterMap Exchange.released?

/-- A handle that was issued for an object and not released since. -/
def Stands (history : List (Exchange κ)) (handle : Handle) (object : AnyObject κ) : Prop :=
  InForce (· = .release handle (.ok ())) history (.issue (some object) (.ok handle))

def Live (history : List (Exchange κ)) (handle : Handle) : Prop :=
  ∃ object, Stands history handle object

/-- The handle that is issued after `count` others. -/
def numbered (count : Nat) : Handle := ⟨UInt64.ofNat (count + 1)⟩

section Numbers

theorem raw_numbered {count : Nat} (few : count < 2 ^ 64 - 1) :
    (numbered count).raw.toNat = count + 1 := by
  rw [numbered, UInt64.toNat_ofNat']
  exact Nat.mod_eq_of_lt (by omega)

theorem numbered_inj {first second : Nat} (few : first < 2 ^ 64 - 1) (few' : second < 2 ^ 64 - 1)
    (same : numbered first = numbered second) : first = second := by
  have words := congrArg (fun handle : Handle => handle.raw.toNat) same
  simp only [raw_numbered few, raw_numbered few'] at words
  omega

theorem ofRaw?_numbered {count : Nat} (few : count < 2 ^ 64 - 1) :
    Handle.ofRaw? (numbered count).raw = some (numbered count) := by
  have positive : (numbered count).raw ≠ 0 := by
    intro null
    have word := raw_numbered few
    rw [null] at word
    exact absurd word (by simp)
  rw [Handle.ofRaw?, if_neg positive]

end Numbers

section Histories

variable {history : List (Exchange κ)} {last : Exchange κ} {handle : Handle}
  {object : AnyObject κ}

theorem issued_concat : issued (history ++ [last]) = issued history ++ last.issued?.toList := by
  rw [issued, List.filterMap_append]
  cases h : last.issued? <;> simp [issued, h]

theorem released_concat :
    released (history ++ [last]) = released history ++ last.released?.toList := by
  rw [released, List.filterMap_append]
  cases h : last.released? <;> simp [released, h]

theorem Stands.mem_issued (stands : Stands history handle object) : handle ∈ issued history :=
  List.mem_filterMap.mpr ⟨_, InForce.mem stands, rfl⟩

theorem stands_concat_of_no_effect (idle : last.takesEffect = false) :
    Stands (history ++ [last]) handle object ↔ Stands history handle object := by
  rw [Stands, inForce_concat]
  constructor
  · rintro (rfl | ⟨_, before⟩)
    · cases idle
    · exact before
  · intro before
    refine .inr ⟨?_, before⟩
    rintro rfl
    cases idle

theorem stands_concat_issue {new : Handle} {held : AnyObject κ} :
    Stands (history ++ [.issue (some held) (.ok new)]) handle object ↔
      (handle = new ∧ object = held) ∨ Stands history handle object := by
  rw [Stands, inForce_concat]
  constructor
  · rintro (same | ⟨_, before⟩)
    · cases same
      exact .inl ⟨rfl, rfl⟩
    · exact .inr before
  · rintro (⟨rfl, rfl⟩ | before)
    · exact .inl rfl
    · exact .inr ⟨nofun, before⟩

theorem stands_concat_release {given : Handle} :
    Stands (history ++ [.release given (.ok ())]) handle object ↔
      handle ≠ given ∧ Stands history handle object := by
  rw [Stands, inForce_concat]
  constructor
  · rintro (same | ⟨spared, before⟩)
    · cases same
    · refine ⟨?_, before⟩
      rintro rfl
      exact spared rfl
  · rintro ⟨other, before⟩
    refine .inr ⟨?_, before⟩
    intro same
    cases same
    exact other rfl

end Histories

section Lookups

variable (table : HandleTable κ) (handle : Handle)

theorem find?_eq_none_iff : table.find? handle = none ↔ handle ∉ table.live.map Prod.fst := by
  rw [find?, List.lookup_eq_none_iff, List.mem_map, not_exists]
  refine forall_congr' fun entry => ?_
  rw [not_and, bne_iff_ne]
  exact imp_congr_right fun _ => ⟨Ne.symm, Ne.symm⟩

theorem others_of_find?_eq_none (absent : table.find? handle = none) :
    table.others handle = table.live :=
  Dictionary.filter_ne_of_not_mem ((table.find?_eq_none_iff handle).mp absent)

theorem find?_others (other : Handle) (next : UInt64) :
    find? ⟨table.others handle, next⟩ other =
      if other = handle then none else table.find? other :=
  Dictionary.lookup_erased handle table.live other

theorem find?_entered (object : AnyObject κ) (other : Handle) (next : UInt64) :
    find? ⟨(handle, object) :: table.others handle, next⟩ other =
      if other = handle then some object else table.find? other := by
  rw [find?, Dictionary.lookup_cons_eq_ite]
  by_cases same : other = handle
  · rw [if_pos same, if_pos same]
  · rw [if_neg same, if_neg same]
    exact (Dictionary.lookup_erased handle table.live other).trans (if_neg same)

theorem length_others {object : AnyObject κ} (distinct : (table.live.map Prod.fst).Nodup)
    (found : table.find? handle = some object) :
    (table.others handle).length + 1 = table.live.length := by
  have split := Dictionary.perm_lookup_filter distinct handle
  have found : table.live.lookup handle = some object := found
  rw [found] at split
  exact split.length_eq.symm

end Lookups

/-- The table is what its history makes it. -/
structure Tracks (history : List (Exchange κ)) (table : HandleTable κ) : Prop where
  inOrder : issued history = (List.range (issued history).length).map numbered
  upcoming : table.upcoming = numbered (issued history).length
  found : ∀ handle object, table.find? handle = some object ↔ Stands history handle object
  distinct : (table.live.map Prod.fst).Nodup
  counted : table.size + (released history).length = (issued history).length

namespace Tracks

variable {table : HandleTable κ} {history : List (Exchange κ)}

theorem nil : Tracks [] (empty : HandleTable κ) where
  inOrder := rfl
  upcoming := rfl
  found _ _ := iff_of_false nofun not_inForce_nil
  distinct := .nil
  counted := rfl

theorem nodup_issued (tracks : Tracks history table)
    (few : (issued history).length ≤ 2 ^ 64 - 1) : (issued history).Nodup := by
  rw [tracks.inOrder]
  refine List.Nodup.map_on ?_ List.nodup_range
  intro first earlier second later same
  have bound := List.mem_range.mp earlier
  have bound' := List.mem_range.mp later
  exact numbered_inj (by omega) (by omega) same

theorem upcoming_not_issued (tracks : Tracks history table)
    (few : (issued history).length < 2 ^ 64 - 1) : table.upcoming ∉ issued history := by
  intro member
  rw [tracks.upcoming, tracks.inOrder] at member
  obtain ⟨earlier, before, same⟩ := List.mem_map.mp member
  have bound := List.mem_range.mp before
  rw [List.length_map, List.length_range] at same
  have repeated := numbered_inj (by omega) few same
  omega

theorem idle (tracks : Tracks history table) {last : Exchange κ}
    (idle : last.takesEffect = false) : Tracks (history ++ [last]) table := by
  obtain ⟨noIssue, noRelease⟩ := Exchange.takesEffect_eq_false_iff.mp idle
  have sameIssued : issued (history ++ [last]) = issued history := by
    rw [issued_concat, noIssue, Option.toList_none, List.append_nil]
  have sameReleased : released (history ++ [last]) = released history := by
    rw [released_concat, noRelease, Option.toList_none, List.append_nil]
  constructor
  · rw [sameIssued]; exact tracks.inOrder
  · rw [sameIssued]; exact tracks.upcoming
  · exact fun handle object =>
      (tracks.found handle object).trans (stands_concat_of_no_effect idle).symm
  · exact tracks.distinct
  · rw [sameIssued, sameReleased]; exact tracks.counted

theorem issue (tracks : Tracks history table) (few : (issued history).length < 2 ^ 64 - 1)
    (object : AnyObject κ) :
    Tracks (history ++ [.issue (some object) (.ok table.upcoming)])
      ⟨(table.upcoming, object) :: table.others table.upcoming, table.next + 1⟩ := by
  have fresh := tracks.upcoming_not_issued few
  have absent : table.find? table.upcoming = none := by
    by_contra present
    obtain ⟨held, found⟩ := Option.ne_none_iff_exists'.mp present
    exact fresh ((tracks.found _ held).mp found).mem_issued
  -- The number was never given out, so no entry makes way for the new one.
  have kept : table.others table.upcoming = table.live := table.others_of_find?_eq_none _ absent
  have nowIssued : issued (history ++ [.issue (some object) (.ok table.upcoming)]) =
      issued history ++ [table.upcoming] := issued_concat
  have sameReleased : released (history ++ [.issue (some object) (.ok table.upcoming)]) =
      released history := released_concat.trans (List.append_nil _)
  constructor
  · rw [nowIssued, List.length_append, List.length_singleton, List.range_succ, List.map_append,
      ← tracks.inOrder, List.map_singleton, ← tracks.upcoming]
  · have next : table.next = UInt64.ofNat ((issued history).length + 1) :=
      congrArg Handle.raw tracks.upcoming
    rw [nowIssued, List.length_append, List.length_singleton, numbered, UInt64.ofNat_add, ← next]
    rfl
  · intro handle held
    rw [stands_concat_issue, ← tracks.found handle held, find?_entered]
    by_cases same : handle = table.upcoming
    · simp [same, absent, eq_comm]
    · simp [same]
  · rw [kept]
    exact List.nodup_cons.mpr ⟨(table.find?_eq_none_iff _).mp absent, tracks.distinct⟩
  · have counted := tracks.counted
    rw [nowIssued, sameReleased, List.length_append, List.length_singleton, ← counted, kept]
    simp only [size, List.length_cons]
    omega

theorem release (tracks : Tracks history table) {handle : Handle} {object : AnyObject κ}
    (present : table.find? handle = some object) :
    Tracks (history ++ [.release handle (.ok ())]) ⟨table.others handle, table.next⟩ := by
  have sameIssued : issued (history ++ [.release handle (.ok ())]) = issued history :=
    issued_concat.trans (List.append_nil _)
  have nowReleased : released (history ++ [.release handle (.ok ())]) =
      released history ++ [handle] := released_concat
  constructor
  · rw [sameIssued]; exact tracks.inOrder
  · rw [sameIssued]; exact tracks.upcoming
  · intro other held
    rw [stands_concat_release, ← tracks.found other held, find?_others]
    by_cases same : other = handle
    · simp [same]
    · simp [same]
  · exact tracks.distinct.sublist (List.filter_sublist.map Prod.fst)
  · have counted := tracks.counted
    have one := table.length_others handle tracks.distinct present
    rw [sameIssued, nowReleased, List.length_append, List.length_singleton, ← counted]
    simp only [size]
    omega

end Tracks

theorem release_of_find? (table : HandleTable κ) {handle : Handle} {object : AnyObject κ}
    (found : table.find? handle = some object) :
    (table.release handle).value = (.ok (), ⟨table.others handle, table.next⟩) := by
  rw [release, found]

theorem release_of_find?_eq_none (table : HandleTable κ) {handle : Handle}
    (absent : table.find? handle = none) :
    (table.release handle).value = (.error (.unknownHandle handle), table) := by
  rw [release, absent]

section Runs

variable [DecidableEq κ]

/-- One call: what comes of it, and the table that is left. -/
def ask (table : HandleTable κ) : Call κ → Exchange κ × HandleTable κ
  | .issue object =>
    let answer := (table.issue object).value
    (.issue object answer.1, answer.2)
  | .fetch wanted handle => (.fetch wanted handle (table.fetch wanted handle), table)
  | .release handle =>
    let answer := (table.release handle).value
    (.release handle answer.1, answer.2)

/-- What comes of a run of calls. -/
def exchanges (table : HandleTable κ) : List (Call κ) → List (Exchange κ)
  | [] => []
  | call :: rest => (table.ask call).1 :: (table.ask call).2.exchanges rest

/-- The table that a run of calls leaves. -/
def afterAll (table : HandleTable κ) (calls : List (Call κ)) : HandleTable κ :=
  calls.foldl (fun table call => (table.ask call).2) table

variable (table : HandleTable κ)

theorem call_ask (call : Call κ) : (table.ask call).1.call = call := by cases call <;> rfl

/-- All that a call can do: issue a handle, release a live one, or nothing. -/
theorem ask_cases (call : Call κ) :
    (∃ object, call = .issue (some object) ∧ table.ask call =
      (.issue (some object) (.ok table.upcoming),
        ⟨(table.upcoming, object) :: table.others table.upcoming, table.next + 1⟩)) ∨
    (∃ handle object, call = .release handle ∧ table.find? handle = some object ∧
      table.ask call = (.release handle (.ok ()), ⟨table.others handle, table.next⟩)) ∨
    ((table.ask call).1.takesEffect = false ∧ (table.ask call).2 = table) := by
  cases call with
  | issue object =>
    cases object with
    | none => exact .inr (.inr ⟨rfl, rfl⟩)
    | some object => exact .inl ⟨object, rfl, rfl⟩
  | fetch wanted handle => exact .inr (.inr ⟨rfl, rfl⟩)
  | release handle =>
    cases found : table.find? handle with
    | none =>
      have answer := table.release_of_find?_eq_none found
      refine .inr (.inr ⟨?_, ?_⟩)
      · rw [ask, answer]; rfl
      · rw [ask, answer]
    | some object =>
      have answer := table.release_of_find? found
      exact .inr (.inl ⟨handle, object, rfl, found, by rw [ask, answer]⟩)

theorem Tracks.ask {history : List (Exchange κ)} {table : HandleTable κ}
    (tracks : Tracks history table) (call : Call κ)
    (few : (issued (history ++ [(table.ask call).1])).length ≤ 2 ^ 64 - 1) :
    Tracks (history ++ [(table.ask call).1]) (table.ask call).2 := by
  rcases table.ask_cases call with ⟨object, _, answer⟩ | ⟨handle, object, _, found, answer⟩ |
    ⟨idle, same⟩
  · rw [answer] at few ⊢
    have room : (issued history).length < 2 ^ 64 - 1 := by
      rw [issued_concat, List.length_append] at few
      exact Nat.lt_of_succ_le few
    exact tracks.issue room object
  · rw [answer]
    exact tracks.release found
  · rw [same]
    exact tracks.idle idle

theorem Tracks.afterAll {history : List (Exchange κ)} {table : HandleTable κ}
    (tracks : Tracks history table) (calls : List (Call κ))
    (few : (issued (history ++ table.exchanges calls)).length ≤ 2 ^ 64 - 1) :
    Tracks (history ++ table.exchanges calls) (table.afterAll calls) := by
  -- The history before the calls grows with each step.
  induction calls generalizing history table with
  | nil => rwa [exchanges, List.append_nil]
  | cons call rest ih =>
    have split : history ++ table.exchanges (call :: rest) =
        (history ++ [(table.ask call).1]) ++ (table.ask call).2.exchanges rest := by
      rw [exchanges, List.append_assoc, List.singleton_append]
    rw [split] at few ⊢
    have room : (issued (history ++ [(table.ask call).1])).length ≤ 2 ^ 64 - 1 := by
      refine Nat.le_trans ?_ few
      rw [issued, issued, List.filterMap_append]
      simp only [List.filterMap_append, List.length_append]
      omega
    exact ih (tracks.ask call room) few

end Runs

end AssetBroker.Bridge.HandleTable
