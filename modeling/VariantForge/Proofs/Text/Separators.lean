/-!
# Texts with separators

The parts that a text is cut into at a character hold what the text holds, but not that character
(`mem_of_mem_splitOn`, `notMem_of_mem_splitOn`). Joining parts puts in the separator and nothing else
(`mem_intercalate`). Paths are texts with slashes between their parts, slugs have hyphens there, and files line breaks.
-/

namespace VariantForge.Text

variable {α : Type} {a x : α} {w cs sep : List α} {ws : List (List α)}

theorem mem_and_ne_of_mem_splitOn [BEq α] [LawfulBEq α] (hw : w ∈ cs.splitOn a) (hx : x ∈ w) : x ∈ cs ∧ x ≠ a := by
  induction cs generalizing w with
  | nil =>
    rw [List.splitOn_nil, List.mem_singleton] at hw
    rw [hw] at hx
    cases hx
  | cons c cs ih =>
    rw [List.splitOn_cons_eq_if_modifyHead] at hw
    by_cases hc : c = a
    · rw [if_pos (beq_iff_eq.2 hc), List.mem_cons] at hw
      rcases hw with rfl | hw
      · cases hx
      · exact (ih hw hx).imp_left (List.mem_cons_of_mem _)
    · rw [if_neg (by simpa using hc)] at hw
      cases hs : cs.splitOn a with
      | nil => exact absurd hs (List.splitOn_ne_nil a cs)
      | cons v vs =>
        rw [hs, List.modifyHead_cons, List.mem_cons] at hw
        rcases hw with rfl | hw
        · rcases List.mem_cons.1 hx with rfl | hx
          · exact ⟨List.mem_cons_self, hc⟩
          · exact (ih (hs ▸ List.mem_cons_self) hx).imp_left (List.mem_cons_of_mem _)
        · exact (ih (hs ▸ List.mem_cons_of_mem _ hw) hx).imp_left (List.mem_cons_of_mem _)

theorem mem_of_mem_splitOn [BEq α] [LawfulBEq α] (hw : w ∈ cs.splitOn a) (hx : x ∈ w) : x ∈ cs :=
  (mem_and_ne_of_mem_splitOn hw hx).1

theorem notMem_of_mem_splitOn [BEq α] [LawfulBEq α] (hw : w ∈ cs.splitOn a) : a ∉ w := fun ha =>
  (mem_and_ne_of_mem_splitOn hw ha).2 rfl

theorem mem_intercalate (h : x ∈ List.intercalate sep ws) : x ∈ sep ∨ ∃ w ∈ ws, x ∈ w := by
  induction ws with
  | nil => cases h
  | cons w ws ih =>
    cases ws with
    | nil =>
      rw [List.intercalate_singleton] at h
      exact .inr ⟨w, List.mem_cons_self, h⟩
    | cons v vs =>
      rw [List.intercalate_cons_cons, List.mem_append, List.mem_append] at h
      rcases h with (h | h) | h
      · exact .inr ⟨w, List.mem_cons_self, h⟩
      · exact .inl h
      · rcases ih h with h | ⟨u, hu, hx⟩
        · exact .inl h
        · exact .inr ⟨u, List.mem_cons_of_mem _ hu, hx⟩

end VariantForge.Text
