import Mathlib.Data.List.Infix

/-! Texts that are put together with delimiters, and how they come apart again. The first place
where a delimiter stands cuts a text in one way only, provided that the delimiter cannot overlap
itself: its first character does not come again in it. -/
namespace AssetBroker.Text

section Lists

variable {α : Type} {mark : α} {word a b s t : List α}

/-- No part without the delimiter goes before a place where it stands and begins there itself. -/
theorem eq_nil_of_overlap (fresh : mark ∉ word) (absent : ¬mark :: word <:+: a)
    (same : mark :: word ++ s = a ++ (mark :: word ++ t)) : a = [] := by
  cases a with
  | nil => rfl
  | cons first rest =>
    exfalso
    rcases List.append_eq_append_iff.mp same with ⟨more, split, _⟩ | ⟨more, split, behind⟩
    · exact absent ⟨[], more, split.symm⟩
    · cases more with
      | nil =>
        rw [List.append_nil] at split
        exact absent (split ▸ List.infix_rfl)
      | cons next more =>
        obtain ⟨rfl, _⟩ := List.cons.inj behind
        obtain ⟨_, split⟩ := List.cons.inj split
        exact fresh (split ▸ List.mem_append_right rest List.mem_cons_self)

theorem eq_of_cut_lists (fresh : mark ∉ word) (absent : ¬mark :: word <:+: a)
    (absent' : ¬mark :: word <:+: b)
    (same : a ++ (mark :: word ++ s) = b ++ (mark :: word ++ t)) : a = b ∧ s = t := by
  have parts : a = b := by
    -- The longer of the two parts goes on for nothing where the shorter one ends.
    rcases List.append_eq_append_iff.mp same with ⟨more, rfl, overlap⟩ | ⟨more, rfl, overlap⟩
    · have free : ¬mark :: word <:+: more := fun here =>
        absent' (here.trans (List.suffix_append a more).isInfix)
      rw [eq_nil_of_overlap fresh free overlap, List.append_nil]
    · have free : ¬mark :: word <:+: more := fun here =>
        absent (here.trans (List.suffix_append b more).isInfix)
      rw [eq_nil_of_overlap fresh free overlap, List.append_nil]
  rw [parts, List.append_cancel_left_eq, List.append_cancel_left_eq] at same
  exact ⟨parts, same⟩

/-- The delimiter stands behind all that does not have its first character. -/
theorem infix_of_infix_append (free : mark ∉ a) (here : mark :: word <:+: a ++ b) :
    mark :: word <:+: b := by
  rcases List.infix_append_iff.mp here with within | within | ⟨front, back, split, ends, starts⟩
  · exact absurd (within.subset List.mem_cons_self) free
  · exact within
  · cases front with
    | nil =>
      rw [List.nil_append] at split
      exact (split ▸ starts).isInfix
    | cons first front =>
      obtain ⟨rfl, _⟩ := List.cons.inj split
      exact absurd (ends.subset List.mem_cons_self) free

end Lists

/-- One text stands somewhere in another. -/
def Within (part text : String) : Prop := ∃ before after, text = before ++ part ++ after

theorem within_iff {part text : String} : Within part text ↔ part.toList <:+: text.toList := by
  constructor
  · rintro ⟨before, after, rfl⟩
    exact ⟨before.toList, after.toList, by simp only [String.toList_append]⟩
  · rintro ⟨before, after, same⟩
    refine ⟨.ofList before, .ofList after, String.toList_injective ?_⟩
    simp only [String.toList_append, String.toList_ofList, same]

instance (part text : String) : Decidable (Within part text) :=
  decidable_of_iff _ within_iff.symm

section Delimiters

variable {delimiter : String} {mark : Char} {word : List Char} {a b s t : String}

theorem not_within_of_not_mem (opens : delimiter.toList = mark :: word)
    (free : mark ∉ a.toList) : ¬Within delimiter a := by
  rw [within_iff, opens]
  exact fun here => free (here.subset List.mem_cons_self)

theorem not_within_append (opens : delimiter.toList = mark :: word) (free : mark ∉ a.toList)
    (absent : ¬Within delimiter b) : ¬Within delimiter (a ++ b) := by
  rw [within_iff, opens] at absent ⊢
  rw [String.toList_append]
  exact fun here => absent (infix_of_infix_append free here)

/-- Where the delimiter stands first, a text comes apart in one way. -/
theorem eq_of_cut (opens : delimiter.toList = mark :: word) (fresh : mark ∉ word)
    (absent : ¬Within delimiter a) (absent' : ¬Within delimiter b)
    (same : a ++ (delimiter ++ s) = b ++ (delimiter ++ t)) : a = b ∧ s = t := by
  rw [within_iff, opens] at absent absent'
  have lists := congrArg String.toList same
  simp only [String.toList_append, opens] at lists
  obtain ⟨parts, rest⟩ := eq_of_cut_lists fresh absent absent' lists
  exact ⟨String.toList_injective parts, String.toList_injective rest⟩

end Delimiters

section Digits

variable {m n : Nat}

theorem toString_inj (same : toString m = toString n) : m = n := by
  have digits : Nat.toDigits 10 m = Nat.toDigits 10 n := by
    rw [← Nat.toList_repr, ← Nat.toList_repr]
    exact congrArg String.toList same
  calc m = Nat.ofDigitChars 10 (Nat.toDigits 10 m) 0 := Nat.ofDigitChars_ten_toDigits.symm
    _ = Nat.ofDigitChars 10 (Nat.toDigits 10 n) 0 := by rw [digits]
    _ = n := Nat.ofDigitChars_ten_toDigits

theorem not_mem_toString {c : Char} (other : c.isDigit = false) : c ∉ (toString n).toList := by
  intro here
  rw [Nat.toString_eq_repr, Nat.toList_repr] at here
  have digit := Nat.isDigit_of_mem_toDigits (by decide) (by decide) here
  rw [other] at digit
  contradiction

end Digits

/-- A text with a lead before it, unless there is no text. -/
def led (lead text : String) : String := if text.isEmpty then "" else lead ++ text

@[simp] theorem led_empty (lead : String) : led lead "" = "" := rfl

theorem led_of_ne {lead text : String} (given : text ≠ "") : led lead text = lead ++ text :=
  if_neg (mt String.isEmpty_iff.mp given)

/-- A led text comes off the text before it, if that is free of the lead. -/
theorem eq_of_led {lead a b s t : String} {mark : Char} {word : List Char}
    (opens : lead.toList = mark :: word) (fresh : mark ∉ word) (absent : ¬Within lead a)
    (absent' : ¬Within lead b) (same : a ++ led lead s = b ++ led lead t) : a = b ∧ s = t := by
  by_cases given : s = "" <;> by_cases given' : t = ""
  · rw [given, given', led_empty, String.append_left_inj] at same
    exact ⟨same, given.trans given'.symm⟩
  · rw [given, led_empty, String.append_empty, led_of_ne given', ← String.append_assoc] at same
    exact absurd ⟨b, t, same⟩ absent
  · rw [given', led_empty, String.append_empty, led_of_ne given, ← String.append_assoc] at same
    exact absurd ⟨a, s, same.symm⟩ absent'
  · rw [led_of_ne given, led_of_ne given'] at same
    exact eq_of_cut opens fresh absent absent' same

end AssetBroker.Text
