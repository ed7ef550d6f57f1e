import AssetBroker.Exception
import AssetBroker.Proofs.Delimiters
import AssetBroker.Proofs.Ingestion
import Mathlib.Data.List.Nodup

/-! What the message of an exception tells. The error's own message ends where the bracket of the
index begins, if that is not part of it already. Index and access mode end with the first closing
bracket, and the entity reference comes last, so it may be any text. Then every part that went
into the message can be told from it. -/
namespace AssetBroker

open Text

namespace ErrorCode

theorem name_inj {code code' : ErrorCode} (same : code.name = code'.name) : code = code' := by
  have distinct : ((Named.all : List ErrorCode).map Named.name).Nodup := by decide
  exact List.inj_on_of_nodup_map distinct code.mem_all code'.mem_all same

theorem not_mem_name (code : ErrorCode) : ' ' ∉ code.name.toList := by
  cases code <;> decide

end ErrorCode

namespace Access

theorem mem_all (access : Access) : access ∈ (Named.all : List Access) := by
  cases access <;> decide

theorem name_inj {access access' : Access} (same : access.name = access'.name) :
    access = access' := by
  have distinct : ((Named.all : List Access).map Named.name).Nodup := by decide
  exact List.inj_on_of_nodup_map distinct access.mem_all access'.mem_all same

theorem not_mem_name (access : Access) : ']' ∉ access.name.toList := by
  cases access <;> decide

end Access

theorem EntityReference.text_injective : Function.Injective EntityReference.text := by
  rintro ⟨a⟩ ⟨b⟩ same
  exact congrArg EntityReference.mk same

namespace ElementException

section Brackets

variable {label : String}

theorem bracketed_some (content : String) :
    bracketed label (some content) = " [" ++ label ++ "=" ++ (content ++ "]") := by
  rw [bracketed, String.append_assoc]

theorem bracketed_some_ne (content : String) : bracketed label (some content) ≠ "" := by
  intro empty
  have length := congrArg (fun text => text.toList.length) empty
  simp [bracketed, String.toList_append] at length

theorem bracketed_inj {a b : Option String} (same : bracketed label a = bracketed label b) :
    a = b := by
  cases a <;> cases b
  case none.none => rfl
  case none.some content => exact absurd same.symm (bracketed_some_ne content)
  case some.none content => exact absurd same (bracketed_some_ne content)
  case some.some content content' =>
    simp only [bracketed_some, String.append_right_inj, String.append_left_inj] at same
    rw [same]

end Brackets

/-- What a message says of access mode and entity reference. -/
def trailer (access : Option Access) (entityReference : Option EntityReference) : String :=
  bracketed "access" (access.map Access.name) ++
    bracketed "entity" (entityReference.map EntityReference.text)

/-- A message with an access mode goes on in another way than one without. -/
theorem trailer_none_ne_some {reference reference' : Option EntityReference} {access : Access} :
    trailer none reference ≠ trailer (some access) reference' := by
  intro same
  cases reference with
  | none =>
    have length := congrArg (fun text => text.toList.length) same
    simp [trailer, bracketed, String.toList_append] at length
  | some reference =>
    -- The labels of the two brackets differ in their first letter.
    have letter := congrArg (fun text => text.toList[2]?) same
    simp [trailer, bracketed, String.toList_append] at letter

theorem trailer_inj {access access' : Option Access} {reference reference' : Option EntityReference}
    (same : trailer access reference = trailer access' reference') :
    access = access' ∧ reference = reference' := by
  have entity_inj {a b : Option EntityReference}
      (same : bracketed "entity" (a.map EntityReference.text) =
        bracketed "entity" (b.map EntityReference.text)) : a = b :=
    Option.map_injective EntityReference.text_injective (bracketed_inj same)
  cases access <;> cases access'
  case none.none => exact ⟨rfl, entity_inj ((String.append_right_inj _).mp same)⟩
  case none.some => exact absurd same trailer_none_ne_some
  case some.none => exact absurd same.symm trailer_none_ne_some
  case some.some access access' =>
    simp only [trailer, Option.map_some, bracketed_some, String.append_assoc,
      String.append_right_inj] at same
    have closed (access : Access) : ¬Within "]" access.name :=
      not_within_of_not_mem rfl access.not_mem_name
    obtain ⟨names, entities⟩ :=
      eq_of_cut rfl List.not_mem_nil (closed access) (closed access') same
    exact ⟨congrArg some (Access.name_inj names), entity_inj entities⟩

/-- What a message says of the error. -/
def headline (error : ElementError) : String :=
  error.code.name ++ ":" ++ led " " error.message

theorem headline_inj {error error' : ElementError} (same : headline error = headline error') :
    error = error' := by
  have free (code : ErrorCode) : ¬Within " " (code.name ++ ":") :=
    not_within_append rfl code.not_mem_name (by decide)
  obtain ⟨names, messages⟩ :=
    eq_of_led rfl List.not_mem_nil (free error.code) (free error'.code) same
  have codes := ErrorCode.name_inj ((String.append_left_inj ":").mp names)
  cases error
  cases error'
  exact congrArg₂ ElementError.mk codes messages

/-- The bracket of the index does not stand in what is said of the error, unless it stands in the
error's own message behind its lead. -/
theorem not_within_headline {error : ElementError}
    (plain : ¬Within " [index=" (" " ++ error.message)) : ¬Within " [index=" (headline error) := by
  rw [headline, String.append_assoc]
  apply not_within_append rfl error.code.not_mem_name
  apply not_within_append rfl (by decide)
  by_cases given : error.message = ""
  · rw [given, led_empty]
    decide
  · rwa [led_of_ne given]

theorem compose_eq (index : Nat) (error : ElementError) (access : Option Access)
    (entityReference : Option EntityReference) :
    compose index error access entityReference =
      headline error ++ (" [index=" ++ (toString index ++ ("]" ++
        trailer access entityReference))) := by
  rw [compose, bracketed_some]
  simp only [headline, led, trailer, String.append_assoc]
  rfl

/-- For one element and error, a message tells access mode and entity reference, whatever text the
error's own message is. -/
theorem compose_eq_compose_iff {index : Nat} {error : ElementError}
    {access access' : Option Access} {reference reference' : Option EntityReference} :
    compose index error access reference = compose index error access' reference' ↔
      access = access' ∧ reference = reference' := by
  constructor
  · intro same
    simp only [compose_eq, String.append_right_inj] at same
    exact trailer_inj same
  · rintro ⟨rfl, rfl⟩
    rfl

/-- Two exceptions with the same message have the same error, index, access mode and entity
reference, provided that no error's own message, behind the space that leads it, holds the bracket
of an index. The entity references may be any texts. -/
theorem message_tells_what_it_is_composed_of {index index' : Nat} {error error' : ElementError}
    {context context' : ErrorContext}
    (plain : ¬Within " [index=" (" " ++ error.message))
    (plain' : ¬Within " [index=" (" " ++ error'.message))
    (same : (of index error context).message = (of index' error' context').message) :
    error.code = error'.code ∧ error.message = error'.message ∧ index = index' ∧
      context.access = context'.access ∧ context.entityReference = context'.entityReference := by
  change compose index error context.access context.entityReference =
    compose index' error' context'.access context'.entityReference at same
  rw [compose_eq, compose_eq] at same
  have opens : " [index=".toList = ' ' :: "[index=".toList := rfl
  obtain ⟨headlines, rest⟩ := eq_of_cut opens (by decide) (not_within_headline plain)
    (not_within_headline plain') same
  have closed (n : Nat) : ¬Within "]" (toString n) :=
    not_within_of_not_mem rfl (not_mem_toString rfl)
  obtain ⟨digits, trailers⟩ := eq_of_cut rfl List.not_mem_nil (closed index) (closed index') rest
  obtain ⟨accesses, references⟩ := trailer_inj trailers
  obtain rfl := headline_inj headlines
  exact ⟨rfl, rfl, toString_inj digits, accesses, references⟩

/-- The start of a bracket at the end of the error's message does no harm, and brackets in the
reference do none either. -/
theorem bracketed_reference_told_by_message :
    let error : ElementError := ⟨.entityAccessError, "[index"⟩
    let context : ErrorContext :=
      { entityReference := some ⟨"a] [index=7] [access=read"⟩, access := some .write }
    let other : ErrorContext := { context with traitSet := some .empty }
    ¬Within " [index=" (" " ++ error.message) ∧
    (of 3 error context).message = (of 3 error other).message ∧
    (of 3 error context).message =
      "entityAccessError: [index [index=3] [access=write] [entity=a] [index=7] [access=read]" ∧
    context.access = other.access ∧ context.entityReference = other.entityReference := by
  intro error context other
  have plain : ¬Within " [index=" (" " ++ error.message) := by decide
  have same : (of 3 error context).message = (of 3 error other).message := rfl
  obtain ⟨_, _, _, accesses, references⟩ := message_tells_what_it_is_composed_of plain plain same
  exact ⟨plain, same, rfl, accesses, references⟩

-- With the bracket in the error's message, the same text has two readings.
example : (of 2 ⟨.unknown, "a [index=1] [entity=r]"⟩ {}).message =
    (of 1 ⟨.unknown, "a"⟩ { entityReference := some ⟨"r] [index=2"⟩ }).message := by decide

end ElementException
end AssetBroker
