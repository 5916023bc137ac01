import VariantForge.Proofs.Text.Separators
import VariantForge.Text.LowerCase
import VariantForge.Text.Units

/-!
# Strings as they can be shown

Only halves of pairs are shown as something else, and nothing is shown as a slash or a point but a
slash and a point. So the parts of a path are shown one by one, and none turns into one that climbs.
A slug holds nothing but what can stand in the name of a file: no slash, and nothing beyond ASCII.
-/

namespace VariantForge.Text

/-- The characters that some characters are shown as, from the first on. -/
def shownChars : List Char → List Char
  | [] => []
  | [c] => [if isHalf c then replacementChar else c]
  | c :: d :: rest =>
    if isHalf c then
      if isHalf d && isLead (halfUnit c) && isTrail (halfUnit d) then
        Char.ofNat (pairPoint (halfUnit c) (halfUnit d)) :: shownChars rest
      else replacementChar :: shownChars (d :: rest)
    else c :: shownChars (d :: rest)

theorem shownAfter_eq (before cs : List Char) :
    shownAfter before cs = before.reverse ++ shownChars cs := by
  fun_induction shownAfter before cs with
  | case1 before => simp [shownChars]
  | case2 before c => simp [shownChars]
  | case3 before c d rest hc hpair ih => simp [shownChars, hc, hpair, ih]
  | case4 before c d rest hc hpair ih => simp [shownChars, hc, hpair, ih]
  | case5 before c d rest hc ih => simp [shownChars, hc, ih]

theorem shownChars_of_plain {cs : List Char} (h : ∀ c ∈ cs, isHalf c = false) :
    shownChars cs = cs := by
  fun_induction shownChars cs with
  | case1 => rfl
  | case2 c => simp [h c (by simp)]
  | case3 c d rest hc => simp [h c (by simp)] at hc
  | case4 c d rest hc => simp [h c (by simp)] at hc
  | case5 c d rest hc ih => rw [ih fun x hx => h x (by simp [List.mem_cons.1 hx])]

theorem toList_shown (s : String) : (shown s).toList = shownChars s.toList := by
  rw [shown]
  split
  · rw [String.toList_ofList, shownAfter_eq, List.reverse_nil, List.nil_append]
  · rename_i h
    rw [shownChars_of_plain]
    simpa using h

/-- A character that only half a pair, or a pair put together, is shown as. -/
def IsStandIn (c : Char) : Prop := c = replacementChar ∨ 0x10000 ≤ c.toNat

instance : DecidablePred IsStandIn := fun c =>
  inferInstanceAs (Decidable (c = replacementChar ∨ 0x10000 ≤ c.toNat))

theorem toNat_ofNat {n : Nat} (h : n.isValidChar) : (Char.ofNat n).toNat = n := by
  rw [Char.ofNat, dif_pos h]
  rfl

theorem isStandIn_pair {u v : UInt16} (hu : isLead u = true) (hv : isTrail v = true) :
    IsStandIn (Char.ofNat (pairPoint u v)) := by
  have hu' : u.toNat ≤ 0xDBFF := by
    simp only [isLead, Bool.and_eq_true, decide_eq_true_eq, UInt16.le_iff_toNat_le] at hu
    exact hu.2
  have hv' : v.toNat ≤ 0xDFFF := by
    simp only [isTrail, Bool.and_eq_true, decide_eq_true_eq, UInt16.le_iff_toNat_le] at hv
    exact hv.2
  have hpoint : 0x10000 ≤ pairPoint u v ∧ pairPoint u v < 0x110000 := by
    unfold pairPoint
    omega
  have hvalid : (pairPoint u v).isValidChar := .inr ⟨by omega, hpoint.2⟩
  refine .inr ?_
  rw [toNat_ofNat hvalid]
  exact hpoint.1

/-- What is shown is either there or stands in for halves of pairs. -/
theorem mem_shownChars {cs : List Char} {x : Char} (h : x ∈ shownChars cs) :
    x ∈ cs ∨ IsStandIn x := by
  fun_induction shownChars cs with
  | case1 => simp at h
  | case2 c =>
    rw [List.mem_singleton] at h
    split at h
    · exact .inr (.inl h)
    · exact .inl (by simp [h])
  | case3 c d rest hc hpair ih =>
    simp only [Bool.and_eq_true] at hpair
    rcases List.mem_cons.1 h with hx | h
    · right
      rw [hx]
      exact isStandIn_pair hpair.1.2 hpair.2
    · exact (ih h).imp_left fun h => by simp [h]
  | case4 c d rest hc hpair ih =>
    rcases List.mem_cons.1 h with rfl | h
    · exact .inr (.inl rfl)
    · exact (ih h).imp_left fun h => by simp [List.mem_cons.1 h]
  | case5 c d rest hc ih =>
    rcases List.mem_cons.1 h with rfl | h
    · exact .inl (by simp)
    · exact (ih h).imp_left fun h => by simp [List.mem_cons.1 h]

theorem head?_shownChars {cs : List Char} {x : Char} (h : (shownChars cs).head? = some x) :
    cs.head? = some x ∨ IsStandIn x := by
  fun_cases shownChars cs with
  | case1 => simp [shownChars] at h
  | case2 c =>
    rw [shownChars, List.head?_cons, Option.some.injEq] at h
    split at h
    · exact .inr (.inl h.symm)
    · exact .inl (by simp [h])
  | case3 c d rest hc hpair =>
    rw [shownChars, if_pos hc, if_pos hpair, List.head?_cons, Option.some.injEq] at h
    simp only [Bool.and_eq_true] at hpair
    right
    rw [← h]
    exact isStandIn_pair hpair.1.2 hpair.2
  | case4 c d rest hc hpair =>
    rw [shownChars, if_pos hc, if_neg hpair, List.head?_cons, Option.some.injEq] at h
    exact .inr (.inl h.symm)
  | case5 c d rest hc =>
    rw [shownChars, if_neg hc, List.head?_cons, Option.some.injEq] at h
    exact .inl (by simp [h])

/-- What is shown without anything that stands in for halves is shown as it is. -/
theorem eq_of_shownChars {cs : List Char} (h : ∀ x ∈ shownChars cs, ¬ IsStandIn x) :
    shownChars cs = cs := by
  fun_induction shownChars cs with
  | case1 => rfl
  | case2 c =>
    by_cases hc : isHalf c = true
    · exact absurd (.inl rfl) (h replacementChar (by simp [hc]))
    · simp [hc]
  | case3 c d rest hc hpair ih =>
    simp only [Bool.and_eq_true] at hpair
    exact absurd (isStandIn_pair hpair.1.2 hpair.2) (h _ (by simp))
  | case4 c d rest hc hpair ih => exact absurd (.inl rfl) (h replacementChar (by simp))
  | case5 c d rest hc ih => rw [ih fun x hx => h x (by simp [hx])]

theorem isHalf_slash : isHalf '/' = false := by decide

/-- What is no half of a pair keeps apart what is before and after it. -/
theorem shownChars_append_cons {c : Char} (hc : isHalf c = false) (a b : List Char) :
    shownChars (a ++ c :: b) = shownChars a ++ c :: shownChars b := by
  fun_induction shownChars a with
  | case1 => cases b <;> simp [shownChars, hc]
  | case2 d =>
    by_cases hd : isHalf d = true <;> cases b <;> simp [shownChars, hc, hd]
  | case3 d e rest hd hpair ih => simp [shownChars, hd, hpair, ih]
  | case4 d e rest hd hpair ih => simpa [shownChars, hd, hpair] using ih
  | case5 d e rest hd ih => simpa [shownChars, hd] using ih

theorem shownChars_append_slash (a b : List Char) :
    shownChars (a ++ '/' :: b) = shownChars a ++ '/' :: shownChars b :=
  shownChars_append_cons isHalf_slash a b

/-! ## Slugs as names -/

/-- A slug holds hyphens and the characters that slugs keep. -/
theorem mem_slug {name : String} {c : Char} (h : c ∈ (slug name).toList) :
    isSlugChar c = true ∨ c = '-' := by
  rw [slug] at h
  split at h
  · have hall : "variant".toList.all isSlugChar = true := by decide
    exact .inl (List.all_eq_true.1 hall c h)
  · rw [String.toList_ofList] at h
    rcases mem_intercalate h with h | ⟨w, hw, hx⟩
    · exact .inr (List.mem_singleton.1 h)
    · have hmem := mem_of_mem_splitOn (List.mem_filter.1 hw).1 hx
      obtain ⟨d, -, rfl⟩ := List.mem_map.1 hmem
      split
      · exact .inl ‹_›
      · exact .inr rfl

theorem ne_slash_of_mem_slug {name : String} : '/' ∉ (slug name).toList := by
  intro h
  rcases mem_slug h with h | h <;> exact absurd h (by decide)

theorem toNat_lt_of_mem_slug {name : String} {c : Char} (h : c ∈ (slug name).toList) : c.toNat < 128 := by
  rcases mem_slug h with h | rfl
  · simp only [isSlugChar, Bool.or_eq_true, Bool.and_eq_true, decide_eq_true_eq, beq_iff_eq] at h
    rcases h with (h | h) | rfl
    · exact Nat.lt_of_le_of_lt h.2 (by decide)
    · exact Nat.lt_of_le_of_lt h.2 (by decide)
    · decide
  · decide

end VariantForge.Text
