import Mathlib.Data.List.Induction

/-! Histories: what happened to one thing, the earliest first. An entry of a history is in
force as long as nothing has happened since that ends it. -/
namespace AssetBroker

variable {α β : Type}

/-- An entry of a history, with nothing after it that ends it. -/
def InForce (ends : α → Prop) (history : List α) (entry : α) : Prop :=
  ∃ earlier later, history = earlier ++ entry :: later ∧ ∀ next ∈ later, ¬ends next

theorem not_inForce_nil {ends : α → Prop} {entry : α} : ¬InForce ends [] entry := by
  rintro ⟨earlier, later, split, _⟩
  simp at split

/-- What happens last is in force, and it leaves in force what it does not end. -/
theorem inForce_concat {ends : α → Prop} {history : List α} {last entry : α} :
    InForce ends (history ++ [last]) entry ↔
      last = entry ∨ ¬ends last ∧ InForce ends history entry := by
  constructor
  · rintro ⟨earlier, later, split, unended⟩
    rcases List.eq_nil_or_concat later with rfl | ⟨between, final, rfl⟩
    · have same := (List.append_inj' split rfl).2
      exact .inl (List.singleton_inj.mp same)
    · have split : history ++ [last] = (earlier ++ entry :: between) ++ [final] := by
        simpa using split
      obtain ⟨rfl, same⟩ := List.append_inj' split rfl
      obtain rfl : last = final := List.singleton_inj.mp same
      refine .inr ⟨unended last (by simp), earlier, between, rfl, ?_⟩
      intro next member
      exact unended next (by simp [member])
  · rintro (rfl | ⟨spared, earlier, later, rfl, unended⟩)
    · exact ⟨history, [], rfl, by simp⟩
    · refine ⟨earlier, later ++ [last], by simp, ?_⟩
      intro next member
      rcases List.mem_append.mp member with before | final
      · exact unended next before
      · exact List.mem_singleton.mp final ▸ spared

/-- What is read off a history goes on with what is read off its last entry. -/
theorem inForce_filterMap_concat {ends : α → Prop} {read? : β → Option α} {history : List β}
    {last : β} {entry : α} :
    InForce ends ((history ++ [last]).filterMap read?) entry ↔
      match read? last with
      | none => InForce ends (history.filterMap read?) entry
      | some told => told = entry ∨ ¬ends told ∧ InForce ends (history.filterMap read?) entry := by
  rw [List.filterMap_append]
  cases read : read? last with
  | none => rw [List.filterMap_cons_none read, List.filterMap_nil, List.append_nil]
  | some told => rw [List.filterMap_cons_some read, List.filterMap_nil, inForce_concat]

theorem InForce.mem {ends : α → Prop} {history : List α} {entry : α}
    (inForce : InForce ends history entry) : entry ∈ history := by
  obtain ⟨earlier, later, rfl, _⟩ := inForce
  exact List.mem_append_right _ List.mem_cons_self

end AssetBroker
