import AssetBroker.Proofs.ContainerEquality
import AssetBroker.Proofs.ExceptionMessages

/-! When two exceptions are equal. What a context says comes into an exception in two ways: the
kind of the exception keeps some parts of it, and the message shows access mode and entity
reference whether the kind keeps them or not. Nothing else of a context counts. Data that is kept
is compared as containers are, so an exception that keeps a NaN differs from its own copy. -/
namespace AssetBroker

namespace TraitsData

variable {a b : Option TraitsData}

/-- Data that is known on both sides and equal there, or on neither side. -/
abbrev EqualWhereKnown (a b : Option TraitsData) : Prop :=
  Option.Rel (fun data data' => (data == data') = true) a b

theorem option_beq_iff : (a == b) = true ↔ EqualWhereKnown a b := by
  cases a <;> cases b <;> simp

theorem equalWhereKnown_self_iff : EqualWhereKnown a a ↔
    ∀ data, a = some data → ∀ traitId key x,
      data.property traitId key = .ok (some (.float x)) → x.isNaN = false := by
  simp only [← beq_self_iff]
  cases a <;> simp

end TraitsData

namespace Evidence

/-- Evidence of one code is equal if the contexts agree in the parts that the code keeps. -/
theorem of_beq_of_iff {code : ErrorCode} {first second : ErrorContext}
    (access : first.access = second.access)
    (reference : first.entityReference = second.entityReference) :
    (Evidence.of code first == Evidence.of code second) = true ↔
      (code = .invalidTraitsData ∨ code = .invalidPreflightHint →
        TraitsData.EqualWhereKnown first.traitsData second.traitsData) ∧
      (code = .invalidTraitSet → first.traitSet = second.traitSet) := by
  change agrees _ _ = true ↔ _
  cases code <;> simp [of, agrees, access, reference, TraitsData.option_beq_iff]

/-- Only data can keep evidence from being equal to itself. -/
theorem beq_self_iff {evidence : Evidence} : (evidence == evidence) = true ↔
    TraitsData.EqualWhereKnown evidence.traitsData? evidence.traitsData? := by
  change agrees evidence evidence = true ↔ _
  cases evidence <;> simp [agrees, traitsData?, TraitsData.option_beq_iff]

section Dropped

variable {code : ErrorCode} {context : ErrorContext}

theorem of_of_no_data (noData : code ≠ .invalidTraitsData) (noHint : code ≠ .invalidPreflightHint)
    (data : Option TraitsData) :
    Evidence.of code { context with traitsData := data } = Evidence.of code context := by
  cases code with
  | invalidTraitsData => exact absurd rfl noData
  | invalidPreflightHint => exact absurd rfl noHint
  | _ => rfl

theorem of_of_no_traits (noTraits : code ≠ .invalidTraitSet) (traits : Option TraitSet) :
    Evidence.of code { context with traitSet := traits } = Evidence.of code context := by
  cases code with
  | invalidTraitSet => exact absurd rfl noTraits
  | _ => rfl

end Dropped

end Evidence

namespace ElementException

theorem beq_iff {a b : ElementException} : (a == b) = true ↔
    a.index = b.index ∧ a.error = b.error ∧ a.message = b.message ∧
      (a.evidence == b.evidence) = true := by
  change (a.index == b.index && a.error == b.error && a.message == b.message &&
    a.evidence == b.evidence) = true ↔ _
  simp only [Bool.and_eq_true, beq_iff_eq, and_assoc]

theorem of_beq_of_iff {index : Nat} {error : ElementError} {first second : ErrorContext} :
    (of index error first == of index error second) = true ↔
      first.access = second.access ∧ first.entityReference = second.entityReference ∧
      (error.code = .invalidTraitsData ∨ error.code = .invalidPreflightHint →
        TraitsData.EqualWhereKnown first.traitsData second.traitsData) ∧
      (error.code = .invalidTraitSet → first.traitSet = second.traitSet) := by
  have composed : (of index error first).message = (of index error second).message ↔
      first.access = second.access ∧ first.entityReference = second.entityReference :=
    compose_eq_compose_iff
  rw [beq_iff, composed]
  constructor
  · rintro ⟨_, _, ⟨access, reference⟩, kept⟩
    exact ⟨access, reference, (Evidence.of_beq_of_iff access reference).mp kept⟩
  · rintro ⟨access, reference, kept⟩
    exact ⟨rfl, rfl, ⟨access, reference⟩, (Evidence.of_beq_of_iff access reference).mpr kept⟩

theorem beq_self_iff {exception : ElementException} : (exception == exception) = true ↔
    ∀ data, exception.evidence.traitsData? = some data → ∀ traitId key x,
      data.property traitId key = .ok (some (.float x)) → x.isNaN = false := by
  rw [beq_iff, Evidence.beq_self_iff, TraitsData.equalWhereKnown_self_iff]
  simp only [true_and]

/-- Two exceptions for the same error of the same element are equal just when their contexts have
the same access mode and entity reference, equal data if the code keeps data, and the same trait
set if it keeps one. Data or a trait set that the code does not keep leaves no trace at all. An
exception is equal to its copy just when there is no NaN in the data that it keeps. -/
theorem exception_sees_what_it_keeps_or_shows (index : Nat) (error : ElementError)
    (first second : ErrorContext) :
    ((of index error first == of index error second) = true ↔
      first.access = second.access ∧ first.entityReference = second.entityReference ∧
      (error.code = .invalidTraitsData ∨ error.code = .invalidPreflightHint →
        TraitsData.EqualWhereKnown first.traitsData second.traitsData) ∧
      (error.code = .invalidTraitSet → first.traitSet = second.traitSet)) ∧
    (error.code ≠ .invalidTraitsData → error.code ≠ .invalidPreflightHint → ∀ data,
      of index error { first with traitsData := data } = of index error first) ∧
    (error.code ≠ .invalidTraitSet → ∀ traits,
      of index error { first with traitSet := traits } = of index error first) ∧
    ∀ exception : ElementException, (exception == exception) = true ↔
      ∀ data, exception.evidence.traitsData? = some data → ∀ traitId key x,
        data.property traitId key = .ok (some (.float x)) → x.isNaN = false := by
  refine ⟨of_beq_of_iff, ?_, ?_, fun _ => beq_self_iff⟩
  · intro noData noHint data
    simp only [of, Evidence.of_of_no_data noData noHint]
  · intro noTraits traits
    simp only [of, Evidence.of_of_no_traits noTraits]

end ElementException
end AssetBroker
