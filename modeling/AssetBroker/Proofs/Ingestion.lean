import AssetBroker.Proofs.DocumentReading

/-! Element errors that are sent by number. A number of the closed set stands for its code. A
number beyond the set is taken in as the unknown code, but only if it has 32 bits: a negative or
a larger number is refused, and its message with it. -/
namespace AssetBroker

open Json (Document Holds IngestedAs ingestedAs_of_eq)

namespace ErrorCode

theorem mem_all (code : ErrorCode) : code ∈ (Named.all : List ErrorCode) := by
  cases code <;> decide

theorem ofNumber?_number (code : ErrorCode) : ofNumber? code.number = some code := by
  cases code <;> rfl

theorem toNat_number_le (code : ErrorCode) : code.number.toNat ≤ 7 := by
  cases code <;> decide

/-- The codes are numbered from zero without gaps. -/
theorem exists_number_eq_iff {number : UInt32} :
    (∃ code : ErrorCode, code.number = number) ↔ number.toNat ≤ 7 := by
  constructor
  · rintro ⟨code, rfl⟩
    exact code.toNat_number_le
  · intro small
    have position : number.toNat < (Named.all : List ErrorCode).length := Nat.lt_succ_of_le small
    refine ⟨Named.all[number.toNat], UInt32.toNat_inj.mp ?_⟩
    generalize number.toNat = n at *
    match n, small with
    | 0, _ | 1, _ | 2, _ | 3, _ | 4, _ | 5, _ | 6, _ | 7, _ => rfl

theorem ofNumber?_eq_none_iff {number : UInt32} : ofNumber? number = none ↔ 7 < number.toNat := by
  rw [← Nat.not_le, ← exists_number_eq_iff, ofNumber?, List.find?_eq_none]
  simp [mem_all]

end ErrorCode

namespace ElementError

/-- The fields of an error that is sent by number, with or without a message. -/
def members (number : Int) (message? : Option String) : List (Option String × Document) :=
  (some "code", .ofInt number) ::
    (message?.map fun message => (some "message", Document.ofString message)).toList

/-- The fields may be sent in any order. -/
def SentAs (number : Int) (message? : Option String) (document : Document) : Prop :=
  ∃ sent, sent.Perm (members number message?) ∧ document = .object sent

theorem fields?_of_sentAs {number : Int} {message? : Option String} {document : Document}
    (sent : SentAs number message? document) :
    document.fields? ["code", "message"] =
      some [some (.ofInt number), message?.map Document.ofString] := by
  obtain ⟨sent, perm, rfl⟩ := sent
  rw [Document.fields?_object_perm perm]
  cases message? <;> rfl

theorem ofDocument?_of_sentAs {number : Int} {message? : Option String} {document : Document}
    (sent : SentAs number message? document) :
    ofDocument? document =
      if 0 ≤ number ∧ number < UInt32.size then
        some (ofNumber (UInt32.ofNat number.toNat) (message?.getD ""))
      else none := by
  rw [ofDocument?, fields?_of_sentAs sent]
  -- Only the number can be refused now.
  change (if _ then some (UInt32.ofNat number.toNat) else none).bind _ = _
  split
  · cases message? <;> rfl
  · rfl

theorem ofNumber_number (code : ErrorCode) (message : String) :
    ofNumber code.number message = .pure ⟨code, message⟩ := by
  rw [ofNumber, ErrorCode.ofNumber?_number]
  rfl

theorem ofNumber_of_lt {number : UInt32} (beyond : 7 < number.toNat) (message : String) :
    ofNumber number message =
      ⟨⟨.unknown, unrecognisedMessage number message⟩, [.unrecognisedCode number]⟩ := by
  rw [ofNumber, ErrorCode.ofNumber?_eq_none_iff.mpr beyond]

theorem toNat_ofNat_of_fits {number : Int} (fits : 0 ≤ number ∧ number < UInt32.size) :
    ((UInt32.ofNat number.toNat).toNat : Int) = number := by
  have small : number.toNat < UInt32.size := by omega
  rw [UInt32.toNat_ofNat_of_lt' small]
  omega

theorem unrecognisedMessage_of_fits {number : Int} (fits : 0 ≤ number ∧ number < UInt32.size)
    (message : String) :
    unrecognisedMessage (UInt32.ofNat number.toNat) message =
      if message = "" then "Unrecognised error code " ++ toString number
      else "Unrecognised error code " ++ toString number ++ ": " ++ message := by
  have digits : toString (UInt32.ofNat number.toNat) = toString number := by
    conv_rhs => rw [← toNat_ofNat_of_fits fits]
    rfl
  rw [unrecognisedMessage, digits]
  simp only [String.isEmpty_iff]

/-- An error that is sent by number is refused, whatever its message, if the number is negative
or does not fit into 32 bits. All other errors are taken in: with a number of the closed set as
the code of that number, with the message as it was sent and nothing reported, and with any other
number as the unknown code, with the number recorded in the message and in a warning. -/
theorem sent_error_taken_in_iff_fits {number : Int} {message? : Option String}
    {document : Document} (sent : SentAs number message? document) :
    let message := message?.getD ""
    (0 ≤ number → number ≤ 7 → ∃ code : ErrorCode, code.number.toNat = number ∧
      IngestedAs ofDocument? document (some ⟨⟨code, message⟩, []⟩)) ∧
    (7 < number → number < 2 ^ 32 →
      IngestedAs ofDocument? document (some
        ⟨⟨.unknown, if message = "" then "Unrecognised error code " ++ toString number
            else "Unrecognised error code " ++ toString number ++ ": " ++ message⟩,
          [.unrecognisedCode (UInt32.ofNat number.toNat)]⟩)) ∧
    (number < 0 ∨ 2 ^ 32 ≤ number → IngestedAs ofDocument? document none) := by
  intro message
  refine ⟨?_, ?_, ?_⟩
  · intro nonneg small
    have fits : 0 ≤ number ∧ number < UInt32.size := ⟨nonneg, Int.lt_of_le_of_lt small (by decide)⟩
    have same := toNat_ofNat_of_fits fits
    obtain ⟨code, held⟩ := ErrorCode.exists_number_eq_iff.mpr
      (show (UInt32.ofNat number.toNat).toNat ≤ 7 by omega)
    refine ⟨code, held ▸ same, ingestedAs_of_eq ?_⟩
    rw [ofDocument?_of_sentAs sent, if_pos fits, ← held, ofNumber_number]
    rfl
  · intro beyond bound
    have fits : 0 ≤ number ∧ number < UInt32.size := ⟨by omega, bound⟩
    have same := toNat_ofNat_of_fits fits
    apply ingestedAs_of_eq
    rw [ofDocument?_of_sentAs sent, if_pos fits, ofNumber_of_lt (by omega),
      unrecognisedMessage_of_fits fits]
  · intro outside
    have misfit : ¬(0 ≤ number ∧ number < UInt32.size) := by
      rintro ⟨nonneg, bound⟩
      exact outside.elim (Int.not_lt.mpr nonneg) (Int.not_le.mpr bound)
    apply ingestedAs_of_eq
    rw [ofDocument?_of_sentAs sent, if_neg misfit]

/-- The message may come before the number. -/
theorem odd_error_taken_in_from_text :
    Json.ofText ofDocument? "\x7b\"message\": \"odd\", \"code\": 77\x7d" =
      ⟨some ⟨.unknown, "Unrecognised error code 77: odd"⟩, [.unrecognisedCode 77]⟩ := by
  have sent : SentAs 77 (some "odd")
      (.object [(some "message", .ofString "odd"), (some "code", .ofInt 77)]) :=
    ⟨_, .swap _ _ _, rfl⟩
  obtain ⟨_, read⟩ := (sent_error_taken_in_iff_fits sent).2.1 (by decide) (by decide)
  have answer := read "\x7b\"message\": \"odd\", \"code\": 77\x7d" ⟨[], by cbv, rfl⟩
  rw [answer]
  decide

/-- A negative number is refused though its text holds it, and so is one that is too large by
one. -/
theorem sent_errors_refused_for_number :
    Holds "\x7b\"code\": -1, \"message\": \"odd\"\x7d" (.object (members (-1) (some "odd"))) ∧
    Json.ofText ofDocument? "\x7b\"code\": -1, \"message\": \"odd\"\x7d" = ⟨none, []⟩ ∧
    Holds "\x7b\"code\": 4294967296\x7d" (.object (members 4294967296 none)) ∧
    Json.ofText ofDocument? "\x7b\"code\": 4294967296\x7d" = ⟨none, []⟩ := by
  refine ⟨⟨[], by cbv, rfl⟩, by cbv, ⟨[], by cbv, rfl⟩, by cbv⟩

end ElementError

end AssetBroker
