import AssetBroker.Manager.Collector

/-! The two ways in which a caller may have the errors of single elements: the first
one raised as the error of the whole call, or each in the place of its element. Errors
of the whole call are errors under both. -/
namespace AssetBroker

inductive ErrorPolicy where
  | raised
  | inPlace
deriving DecidableEq

namespace ErrorPolicy

/-- What a successful call yields for one element. -/
abbrev Output (α : Type) : ErrorPolicy → Type
  | raised => α
  | inPlace => Outcome α

variable {α : Type}

/-- The output for a reported element. -/
def settle (policy : ErrorPolicy) (index : Nat) (outcome : Outcome α) (context : ErrorContext) :
    Except Error (policy.Output α) :=
  match policy with
  | raised => outcome.mapError fun error => .batchElement (.of index error context)
  | inPlace => .ok outcome

/-- The output for an element that nothing was reported on. -/
def unreported (policy : ErrorPolicy) (message : String) : Except Error (policy.Output α) :=
  match policy with
  | raised => .error (.unhandled message)
  | inPlace => .ok (.error ⟨.unknown, message⟩)

def unreportedMessage (identifier : String) (index : Nat) : String :=
  "Manager '" ++ identifier ++ "' did not report a result for batch element " ++
    toString index ++ "."

def settleSlot (policy : ErrorPolicy) (identifier : String) (context : Nat → ErrorContext)
    (index : Nat) : Option (Outcome α) → Except Error (policy.Output α)
  | some outcome => policy.settle index outcome (context index)
  | none => policy.unreported (unreportedMessage identifier index)

/-- The outcome that an output stands for. -/
def outcome : (policy : ErrorPolicy) → policy.Output α → Outcome α
  | raised, value => .ok value
  | inPlace, outcome => outcome

/-- How far slots were settled. -/
structure Settlement (policy : ErrorPolicy) (α : Type) where
  outputs : List (policy.Output α)
  /-- The error that settling stopped with, and the slots that it did not come to. -/
  stop? : Option (Error × List (Option (Outcome α)))

/-- The outputs, if settling came to the end. -/
def Settlement.result {policy : ErrorPolicy} (settlement : Settlement policy α) :
    Except Error (List (policy.Output α)) :=
  match settlement.stop? with
  | some (fault, _) => .error fault
  | none => .ok settlement.outputs

/-- Settles slots from the given index on, up to the first error. -/
def settleUntil (policy : ErrorPolicy) (identifier : String) (context : Nat → ErrorContext)
    (index : Nat) : List (Option (Outcome α)) → Settlement policy α
  | [] => ⟨[], none⟩
  | slot :: rest =>
    match policy.settleSlot identifier context index slot with
    | .error fault => ⟨[], some (fault, rest)⟩
    | .ok output =>
      let later := policy.settleUntil identifier context (index + 1) rest
      { later with outputs := output :: later.outputs }

def settleAll (policy : ErrorPolicy) (identifier : String) (context : Nat → ErrorContext)
    (slots : List (Option (Outcome α))) : Settlement policy α :=
  policy.settleUntil identifier context 0 slots

end ErrorPolicy
end AssetBroker
