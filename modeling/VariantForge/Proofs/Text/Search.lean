import Mathlib.Data.List.Infix
import Mathlib.Tactic.Tauto
import VariantForge.Proofs.Text.Units

/-!
# Search — one text in another, from left to right

What a search finds is said by positions: `firstPlace?` is the first position that passes a test, and
`indexOf?` the first one at which a text stands. A text is cut at all places where another occurs, from
left to right without overlaps, into `pieces`; `occurrences` counts the places, overlaps and all. A run of
units that pass a test goes from where it begins to its `runEnd`.
-/

namespace VariantForge.Text

variable {part us vs : List UInt16} {u sep : UInt16} {test : Nat → Bool} {fits : UInt16 → Bool} {i j : Nat}

/-! ## First places -/

/-- The first position of some units that passes a test. The end is a position too. -/
def firstPlace? (us : List UInt16) (test : Nat → Bool) : Option Nat := (List.range (us.length + 1)).find? test

theorem firstPlace?_eq_some : firstPlace? us test = some i ↔
    i ≤ us.length ∧ test i = true ∧ ∀ j < i, test j = false := by
  rw [firstPlace?, List.find?_range_eq_some, List.mem_range, Nat.lt_succ_iff]
  simp only [Bool.not_eq_true']
  tauto

theorem firstPlace?_eq_none : firstPlace? us test = none ↔ ∀ i ≤ us.length, test i = false := by
  simp only [firstPlace?, List.find?_range_eq_none, Nat.lt_succ_iff, Bool.not_eq_true']

/-! ## Where a text stands -/

/-- Whether `part` stands at a position. -/
def standsAt (part us : List UInt16) (i : Nat) : Bool := part.isPrefixOf (us.drop i)

theorem standsAt_iff : standsAt part us i = true ↔ part <+: us.drop i := List.isPrefixOf_iff_prefix

theorem standsAt_nil : standsAt [] us i = true := rfl

theorem standsAt_cons : standsAt (u :: part) us i = ((us[i]? == some u) && standsAt part us (i + 1)) := by
  rw [standsAt, standsAt]
  cases h : us[i]? with
  | none =>
    rw [List.drop_eq_nil_of_le (List.getElem?_eq_none_iff.1 h)]
    rfl
  | some v =>
    obtain ⟨hi, hv⟩ := List.getElem?_eq_some_iff.1 h
    rw [List.drop_eq_getElem_cons hi, hv, List.isPrefixOf]
    rw [Option.some_beq_some, Bool.beq_comm]

theorem standsAt_drop : standsAt part (us.drop i) j = standsAt part us (i + j) := by
  rw [standsAt, standsAt, List.drop_drop]

/-- What stands somewhere has its units there. -/
theorem getElem?_of_standsAt (h : standsAt part us i = true) (hj : j < part.length) : us[i + j]? = part[j]? := by
  obtain ⟨rest, hrest⟩ := standsAt_iff.1 h
  rw [← List.getElem?_drop, ← hrest, List.getElem?_append_left hj]

/-- A text stands where there is room for it. -/
theorem add_length_le_of_standsAt (h : standsAt part us i = true) (hi : i ≤ us.length) : i + part.length ≤ us.length := by
  have := (standsAt_iff.1 h).length_le
  rw [List.length_drop] at this
  omega

/-- The position at which `part` stands first. -/
def indexOf? (part us : List UInt16) : Option Nat := firstPlace? us (standsAt part us)

theorem indexOf?_eq_some : indexOf? part us = some i ↔
    i ≤ us.length ∧ standsAt part us i = true ∧ ∀ j < i, standsAt part us j = false :=
  firstPlace?_eq_some

theorem occursIn_iff_standsAt : occursIn part us = true ↔ ∃ i ≤ us.length, standsAt part us i = true := by
  rw [occursIn_iff, List.infix_iff_prefix_suffix]
  constructor
  · rintro ⟨vs, hpart, hvs⟩
    refine ⟨us.length - vs.length, Nat.sub_le .., ?_⟩
    rwa [standsAt_iff, ← List.suffix_iff_eq_drop.1 hvs]
  · rintro ⟨i, -, hi⟩
    exact ⟨us.drop i, standsAt_iff.1 hi, List.drop_suffix ..⟩

theorem indexOf?_eq_none : indexOf? part us = none ↔ occursIn part us = false := by
  rw [indexOf?, firstPlace?_eq_none, ← Bool.not_eq_true, occursIn_iff_standsAt]
  simp

theorem isSome_indexOf? : (indexOf? part us).isSome = occursIn part us := by
  rw [Bool.eq_iff_iff, ← Bool.not_eq_false, ← Bool.not_eq_false (occursIn part us), ← indexOf?_eq_none]
  simp

/-! ## Runs -/

/-- Where a run of units that pass a test ends, if it begins at a position. -/
def runEnd (us : List UInt16) (fits : UInt16 → Bool) (i : Nat) : Nat := i + ((us.drop i).takeWhile fits).length

theorem runEnd_of_fits (h : us[i]? = some u) (hu : fits u = true) :
    runEnd us fits i = runEnd us fits (i + 1) := by
  obtain ⟨hi, rfl⟩ := List.getElem?_eq_some_iff.1 h
  rw [runEnd, runEnd, List.drop_eq_getElem_cons hi, List.takeWhile_cons_of_pos hu, List.length_cons]
  omega

theorem runEnd_of_not_fits (h : ∀ u, us[i]? = some u → fits u = false) :
    runEnd us fits i = i := by
  cases hi : us[i]? with
  | none =>
    rw [runEnd, List.drop_eq_nil_of_le (List.getElem?_eq_none_iff.1 hi)]
    rfl
  | some u =>
    obtain ⟨hlt, rfl⟩ := List.getElem?_eq_some_iff.1 hi
    rw [runEnd, List.drop_eq_getElem_cons hlt, List.takeWhile_cons_of_neg (by simp [h _ hi])]
    rfl

theorem le_runEnd : i ≤ runEnd us fits i := Nat.le_add_right ..

/-- A run does not go over a unit that fails the test. -/
theorem runEnd_le (hij : i ≤ j) (h : us[j]? = some u) (hu : fits u = false) : runEnd us fits i ≤ j := by
  obtain ⟨hj, rfl⟩ := List.getElem?_eq_some_iff.1 h
  by_contra hlt
  rw [runEnd] at hlt
  have hin : j - i < ((us.drop i).takeWhile fits).length := by omega
  have hunit : ((us.drop i).takeWhile fits)[j - i] = us[j] := by
    rw [List.IsPrefix.getElem (List.takeWhile_prefix fits) hin, List.getElem_drop]
    congr 1
    omega
  have hfits := List.all_eq_true.1 (List.all_takeWhile (p := fits) (l := us.drop i)) _ (List.getElem_mem hin)
  rw [hunit, hu] at hfits
  cases hfits

/-- A run ends at a unit that fails the test, or with the text. -/
theorem not_fits_runEnd (h : us[runEnd us fits i]? = some u) : fits u = false := by
  rw [runEnd, ← List.getElem?_drop] at h
  generalize us.drop i = vs at h
  induction vs with
  | nil => simp at h
  | cons v vs ih =>
    cases hv : fits v with
    | true =>
      rw [List.takeWhile_cons_of_pos hv] at h
      exact ih h
    | false =>
      rw [List.takeWhile_cons_of_neg (by simp [hv])] at h
      cases h
      exact hv

/-! ## Pieces -/

/-- What lies before, between and after the occurrences of `part`, which are taken from left to right and do
not overlap. -/
def pieces (part us : List UInt16) : List (List UInt16) :=
  match _h : indexOf? part us with
  | none => [us]
  | some i => if _hpart : part = [] then [us] else us.take i :: pieces part (us.drop (i + part.length))
  termination_by us.length
  decreasing_by
    have hlen : 0 < part.length := List.length_pos_iff.2 _hpart
    obtain ⟨hi, hstands, -⟩ := firstPlace?_eq_some.1 _h
    have hroom := add_length_le_of_standsAt hstands hi
    rw [List.length_drop]
    omega

theorem pieces_of_none (h : indexOf? part us = none) : pieces part us = [us] := by
  rw [pieces]
  split
  · rfl
  · simp_all

theorem pieces_of_some (hpart : part ≠ []) (h : indexOf? part us = some i) :
    pieces part us = us.take i :: pieces part (us.drop (i + part.length)) := by
  rw [pieces]
  split
  · simp_all
  · simp_all

theorem pieces_ne_nil : pieces part us ≠ [] := by
  rw [pieces]
  split
  · simp
  · split <;> simp

/-! ## Counting -/

/-- At how many positions `part` stands. -/
def occurrences (part : List UInt16) : List UInt16 → Nat
  | [] => if part.isEmpty then 1 else 0
  | u :: rest => (if part.isPrefixOf (u :: rest) then 1 else 0) + occurrences part rest

theorem occurrences_eq_zero : occurrences part us = 0 ↔ occursIn part us = false := by
  induction us with
  | nil => simp [occurrences, occursIn]
  | cons u us ih =>
    rw [occurrences, occursIn]
    cases part.isPrefixOf (u :: us) with
    | true => simp
    | false => simpa using ih

theorem prefix_append_cons (hsep : sep ∉ part) : part <+: us ++ sep :: vs ↔ part <+: us := by
  induction us generalizing part with
  | nil =>
    cases part with
    | nil => simp
    | cons u part =>
      have hne : u ≠ sep := fun h => hsep (by simp [h])
      simp [hne]
  | cons v us ih =>
    cases part with
    | nil => simp
    | cons u part => simp [ih fun h => hsep (List.mem_cons_of_mem u h)]

/-- A text does not stand across a unit that it has not. -/
theorem occurrences_append_cons (hpart : part ≠ []) (hsep : sep ∉ part) :
    occurrences part (us ++ sep :: vs) = occurrences part us + occurrences part vs := by
  induction us with
  | nil =>
    have hnot : part.isPrefixOf (sep :: vs) = false := by
      rw [← Bool.not_eq_true, List.isPrefixOf_iff_prefix, ← List.nil_append (sep :: vs), prefix_append_cons hsep]
      simpa using hpart
    simp [occurrences, hnot, hpart]
  | cons u us ih =>
    have hsame : part.isPrefixOf (u :: us ++ sep :: vs) = part.isPrefixOf (u :: us) := by
      rw [Bool.eq_iff_iff, List.isPrefixOf_iff_prefix, List.isPrefixOf_iff_prefix, prefix_append_cons hsep]
    rw [List.cons_append, occurrences, occurrences, ih, ← List.cons_append, hsame, Nat.add_assoc]

theorem occurrences_eq_zero_of_length_lt (h : us.length < part.length) : occurrences part us = 0 := by
  rw [occurrences_eq_zero, ← Bool.not_eq_true, occursIn_iff]
  exact fun hinfix => Nat.not_le_of_lt h hinfix.length_le

theorem occurrences_self (hpart : part ≠ []) : occurrences part part = 1 := by
  cases part with
  | nil => exact absurd rfl hpart
  | cons u part =>
    have hself : (u :: part).isPrefixOf (u :: part) = true := List.isPrefixOf_iff_prefix.2 List.prefix_rfl
    rw [occurrences, hself, if_pos rfl, occurrences_eq_zero_of_length_lt (by simp)]

/-! ## Putting text in -/

/-- A text with another put in at a position. -/
def insertedAt (content text : Text) (i : Nat) : Text := content.take i ++ text ++ content.drop i

end VariantForge.Text
