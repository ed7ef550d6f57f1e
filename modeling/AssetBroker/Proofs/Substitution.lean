import AssetBroker.Proofs.Delimiters
import AssetBroker.Proofs.Ingestion

/-! What becomes of an error with a number from outside the closed set. The substitute is an error
like any other: it is written with its own code and read back as it is, so nothing is substituted
or reported a second time. Its message tells the number and the message that it stands for. -/
namespace AssetBroker

open Json (Document IngestedAs ingestedAs_of_eq)
open Text

namespace ElementError

theorem toDocument_sentAs (error : ElementError) :
    SentAs error.code.number.toNat (some error.message) error.toDocument :=
  ⟨_, .refl _, rfl⟩

/-- Every error is read back from its document, without a report. -/
theorem ofDocument?_toDocument (error : ElementError) :
    ofDocument? error.toDocument = some (.pure error) := by
  have fits : 0 ≤ (error.code.number.toNat : Int) ∧
      (error.code.number.toNat : Int) < UInt32.size :=
    ⟨Int.natCast_nonneg _, Int.ofNat_lt.mpr error.code.number.toNat_lt_size⟩
  rw [ofDocument?_of_sentAs error.toDocument_sentAs, if_pos fits, Int.toNat_natCast,
    UInt32.ofNat_toNat, Option.getD_some, ofNumber_number]

theorem unrecognisedMessage_eq (number : UInt32) (message : String) :
    unrecognisedMessage number message =
      "Unrecognised error code " ++ (toString number.toNat ++ led ": " message) := by
  have digits : toString number = toString number.toNat := rfl
  by_cases given : message = ""
  · rw [unrecognisedMessage, if_pos (String.isEmpty_iff.mpr given), given, led_empty,
      String.append_empty, digits]
  · rw [unrecognisedMessage, if_neg (mt String.isEmpty_iff.mp given), led_of_ne given, digits,
      String.append_assoc, String.append_assoc]

/-- The number ends where the first colon stands, if the message is there at all. -/
theorem unrecognisedMessage_inj {number number' : UInt32} {message message' : String}
    (same : unrecognisedMessage number message = unrecognisedMessage number' message') :
    number = number' ∧ message = message' := by
  rw [unrecognisedMessage_eq, unrecognisedMessage_eq, String.append_right_inj] at same
  have free (n : Nat) : ¬Within ": " (toString n) :=
    not_within_of_not_mem rfl (not_mem_toString rfl)
  obtain ⟨digits, messages⟩ :=
    eq_of_led rfl (by decide) (free number.toNat) (free number'.toNat) same
  exact ⟨UInt32.toNat_inj.mp (toString_inj digits), messages⟩

theorem events_ofNumber (number : UInt32) (message : String) :
    (ofNumber number message).events =
      if number.toNat ≤ 7 then [] else [.unrecognisedCode number] := by
  split
  · rename_i known
    obtain ⟨code, rfl⟩ := ErrorCode.exists_number_eq_iff.mpr known
    rw [ofNumber_number]
    rfl
  · rename_i unknown
    rw [ofNumber_of_lt (Nat.not_le.mp unknown)]

/-- An error that was taken in by number is read back from its document as it is, and the second
time nothing is reported. The first time there is a warning, with the number, for just the numbers
from outside the closed set. For these numbers the error tells which number and which message it
was made from. -/
theorem number_substituted_once (number : UInt32) (message : String) :
    let taken := ofNumber number message
    IngestedAs ofDocument? taken.value.toDocument (some ⟨taken.value, []⟩) ∧
    taken.events = (if number.toNat ≤ 7 then [] else [.unrecognisedCode number]) ∧
    ∀ (other : UInt32) (message' : String), 7 < number.toNat → 7 < other.toNat →
      (ofNumber other message').value = taken.value → other = number ∧ message' = message := by
  intro taken
  refine ⟨ingestedAs_of_eq taken.value.ofDocument?_toDocument, events_ofNumber number message, ?_⟩
  intro other message' unknown unknown' same
  simp only [taken, ofNumber_of_lt unknown, ofNumber_of_lt unknown', ElementError.mk.injEq,
    true_and] at same
  exact unrecognisedMessage_inj same

-- An error of the unknown code may be sent with the words of a substitute as its message.
example : (ofNumber 0 "Unrecognised error code 9: odd").value = (ofNumber 9 "odd").value := by
  decide

end ElementError
end AssetBroker
