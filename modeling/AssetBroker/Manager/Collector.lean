import AssetBroker.Backend.Call

/-! Collecting the reports on a batch. There is a slot for every element, filled by the
first report on it. Reports on elements that the batch does not have, or that have
their outcome already, are dropped with a warning. -/
namespace AssetBroker

structure Collector (α : Type) where
  slots : List (Option (Outcome α))

namespace Collector

variable {α : Type}

def empty (size : Nat) : Collector α := ⟨List.replicate size none⟩

/-- Why a report on an element cannot be stored. -/
def objection? (c : Collector α) (index : Nat) : Option Event :=
  match c.slots[index]? with
  | none => some (.strayReport index c.slots.length)
  | some (some _) => some (.repeatedReport index)
  | some none => none

def record (c : Collector α) (report : Report α) : Logged (Collector α) :=
  match c.objection? report.index with
  | none => ⟨⟨c.slots.set report.index (some report.outcome)⟩, []⟩
  | some warning => ⟨c, [warning]⟩

/-- The outcome that is dropped when a report is recorded, if it is not stored. -/
def dropped? (c : Collector α) (report : Report α) : Option (Outcome α) :=
  (c.objection? report.index).map fun _ => report.outcome

/-- Records reports in the order they come, after the events of making each. -/
def recordAll (c : Collector α) (reports : List (Logged (Report α))) : Logged (Collector α) :=
  reports.foldlM (fun c report => do c.record (← report)) c

/-- The outcomes that fill slots, in the order of the batch. -/
def stored (c : Collector α) : List (Outcome α) := c.slots.filterMap id

end Collector
end AssetBroker
