import VariantForge.Proofs.Text.Shown

/-!
# Units — a text and the string that holds it

A string holds a half that stands alone as a character for private use, and is shown with U+FFFD in
its place. So a text comes back from what it is shown as with its lone halves mended (`mended`) and
is otherwise the same; a well-formed part of it stays where it is (`occursIn_mended`). The units of characters
hold these characters (`unitsOfChars_injective`), so a text that is cut where no pair is cut in two is written as its
parts are (`writtenChars_append`).
-/

namespace VariantForge.Text

/-- Whether a unit is half a pair. -/
def isHalfUnit (u : UInt16) : Bool := isLead u || isTrail u

/-- U+FFFD for half a pair. -/
def mendedUnit (u : UInt16) : UInt16 := if isHalfUnit u then 0xFFFD else u

/-- The units with U+FFFD in the place of each half that stands alone. -/
def mended : List UInt16 → List UInt16
  | [] => []
  | [u] => [mendedUnit u]
  | u :: v :: rest =>
    if isLead u && isTrail v then u :: v :: mended rest else mendedUnit u :: mended (v :: rest)

/-- Whether no half stands alone. -/
def isWellFormed : List UInt16 → Bool
  | [] => true
  | [u] => !isHalfUnit u
  | u :: v :: rest =>
    if isLead u && isTrail v then isWellFormed rest else !isHalfUnit u && isWellFormed (v :: rest)

variable {u v : UInt16} {us vs : List UInt16} {p : Nat}

/-! ## Code points -/

theorem isLead_iff : isLead u = true ↔ 0xD800 ≤ u.toNat ∧ u.toNat ≤ 0xDBFF := by
  simp [isLead, UInt16.le_iff_toNat_le]

theorem isTrail_iff : isTrail u = true ↔ 0xDC00 ≤ u.toNat ∧ u.toNat ≤ 0xDFFF := by
  simp [isTrail, UInt16.le_iff_toNat_le]

theorem isHalfUnit_iff : isHalfUnit u = true ↔ 0xD800 ≤ u.toNat ∧ u.toNat ≤ 0xDFFF := by
  rw [isHalfUnit, Bool.or_eq_true, isLead_iff, isTrail_iff]
  omega

theorem not_isTrail_of_isLead (h : isLead u = true) : isTrail u = false := by
  rw [← Bool.not_eq_true, isTrail_iff]
  have := isLead_iff.1 h
  omega

theorem isHalfPoint_iff : isHalfPoint p = true ↔ 0x10F000 ≤ p ∧ p < 0x10F800 := by
  rw [isHalfPoint, Bool.and_eq_true, decide_eq_true_eq, decide_eq_true_eq]
  rfl

theorem unitsOfPoint_toNat (u : UInt16) : unitsOfPoint u.toNat = [u] := by
  rw [unitsOfPoint, if_pos u.toNat_lt]
  simp

theorem unitsOfPoint_pairPoint (hu : isLead u = true) (hv : isTrail v = true) :
    unitsOfPoint (pairPoint u v) = [u, v] := by
  rw [isLead_iff] at hu
  rw [isTrail_iff] at hv
  have hpoint : pairPoint u v =
      0x10000 + (u.toNat - 0xD800) * 0x400 + (v.toNat - 0xDC00) := rfl
  have hlead : 0xD800 + (pairPoint u v - 0x10000) / 0x400 = u.toNat := by omega
  have htrail : 0xDC00 + (pairPoint u v - 0x10000) % 0x400 = v.toNat := by omega
  rw [unitsOfPoint, if_neg (by omega), hlead, htrail]
  simp

theorem pairPoint_valid (hu : isLead u = true) (hv : isTrail v = true) :
    (pairPoint u v).isValidChar := by
  rw [isLead_iff] at hu
  rw [isTrail_iff] at hv
  have hpoint : pairPoint u v =
      0x10000 + (u.toNat - 0xD800) * 0x400 + (v.toNat - 0xDC00) := rfl
  exact .inr ⟨by omega, by omega⟩

theorem toNat_halfChar (hu : isHalfUnit u = true) :
    (halfChar u).toNat = 0x10F000 + (u.toNat - 0xD800) := by
  rw [isHalfUnit_iff] at hu
  exact toNat_ofNat (.inr ⟨by simp only [halfBase]; omega, by simp only [halfBase]; omega⟩)

theorem isHalf_halfChar (hu : isHalfUnit u = true) : isHalf (halfChar u) = true := by
  rw [isHalf, isHalfPoint_iff, toNat_halfChar hu]
  rw [isHalfUnit_iff] at hu
  omega

theorem halfUnit_halfChar (hu : isHalfUnit u = true) : halfUnit (halfChar u) = u := by
  have h := isHalfUnit_iff.1 hu
  have hunit : 0xD800 + ((halfChar u).toNat - halfBase) = u.toNat := by
    rw [toNat_halfChar hu, halfBase]
    omega
  rw [halfUnit, hunit]
  simp

theorem isHalf_ofNat (hp : p.isValidChar) : isHalf (Char.ofNat p) = isHalfPoint p := by
  rw [isHalf, toNat_ofNat hp]

/-- The halves that a code point for private use is held as are those of its pair. -/
theorem exists_pair_of_isHalfPoint (hp : isHalfPoint p = true) :
    ∃ u v, isLead u = true ∧ isTrail v = true ∧ unitsOfPoint p = [u, v] := by
  rw [isHalfPoint_iff] at hp
  have hunits : unitsOfPoint p =
      [(0xD800 + (p - 0x10000) / 0x400).toUInt16, (0xDC00 + (p - 0x10000) % 0x400).toUInt16] := by
    rw [unitsOfPoint, if_neg (by omega)]
  have hsize : UInt16.size = 0x10000 := rfl
  refine ⟨_, _, ?_, ?_, hunits⟩
  · rw [isLead_iff, UInt16.toNat_ofNat_of_lt' (by omega)]
    omega
  · rw [isTrail_iff, UInt16.toNat_ofNat_of_lt' (by omega)]
    omega

/-- The characters that a string holds for a code point have the units of the point. -/
theorem unitsOfChar_charsOfPoint (hp : p.isValidChar) :
    (charsOfPoint p).flatMap unitsOfChar = unitsOfPoint p := by
  rw [charsOfPoint]
  by_cases hhalf : isHalfPoint p = true
  · obtain ⟨u, v, hu, hv, hunits⟩ := exists_pair_of_isHalfPoint hhalf
    have hu' : isHalfUnit u = true := by simp [isHalfUnit, hu]
    have hv' : isHalfUnit v = true := by simp [isHalfUnit, hv]
    rw [if_pos hhalf, hunits]
    simp [unitsOfChar, isHalf_halfChar, halfUnit_halfChar, hu', hv']
  · rw [if_neg hhalf, List.flatMap_singleton, unitsOfChar, isHalf_ofNat hp, if_neg hhalf,
      toNat_ofNat hp]

/-! ## The string of a text -/

/-- The characters that a string holds for some units, from the first on. -/
def heldChars : List UInt16 → List Char
  | [] => []
  | [u] => [loneChar u]
  | u :: v :: rest =>
    if isLead u && isTrail v then charsOfPoint (pairPoint u v) ++ heldChars rest
    else loneChar u :: heldChars (v :: rest)

theorem charsAfter_eq (before : List Char) (us : List UInt16) :
    charsAfter before us = before.reverse ++ heldChars us := by
  fun_induction charsAfter before us with
  | case1 before => simp [heldChars]
  | case2 before u => simp [heldChars]
  | case3 before u v rest hpair ih => simp [heldChars, hpair, ih]
  | case4 before u v rest hpair ih => simp [heldChars, hpair, ih]

theorem toList_toString (t : Text) : t.toString.toList = heldChars t.units := by
  rw [toString, String.toList_ofList, chars, charsAfter_eq]
  rfl

theorem toNat_valid (hu : isHalfUnit u = false) : u.toNat.isValidChar := by
  rw [← Bool.not_eq_true, isHalfUnit_iff] at hu
  have := u.toNat_lt
  by_cases h : u.toNat < 0xD800
  · exact .inl h
  · exact .inr ⟨by omega, by omega⟩

theorem loneChar_of_not_half (hu : isHalfUnit u = false) : loneChar u = Char.ofNat u.toNat := by
  rw [loneChar, if_neg]
  simpa [isHalfUnit] using hu

theorem isHalf_loneChar (hu : isHalfUnit u = false) : isHalf (loneChar u) = false := by
  rw [loneChar_of_not_half hu, isHalf_ofNat (toNat_valid hu), ← Bool.not_eq_true, isHalfPoint_iff]
  have := u.toNat_lt
  omega

theorem unitsOfChar_loneChar (u : UInt16) : unitsOfChar (loneChar u) = [u] := by
  by_cases hu : isHalfUnit u = true
  · rw [loneChar, if_pos (by simpa [isHalfUnit] using hu), unitsOfChar, isHalf_halfChar hu, if_pos rfl,
      halfUnit_halfChar hu]
  · rw [Bool.not_eq_true] at hu
    rw [unitsOfChar, isHalf_loneChar hu, loneChar_of_not_half hu, toNat_ofNat (toNat_valid hu), unitsOfPoint_toNat]
    rfl

theorem flatMap_heldChars (us : List UInt16) : (heldChars us).flatMap unitsOfChar = us := by
  fun_induction heldChars us with
  | case1 => rfl
  | case2 u => rw [List.flatMap_singleton, unitsOfChar_loneChar]
  | case3 u v rest hpair ih =>
    rw [Bool.and_eq_true] at hpair
    rw [List.flatMap_append, ih, unitsOfChar_charsOfPoint (pairPoint_valid hpair.1 hpair.2),
      unitsOfPoint_pairPoint hpair.1 hpair.2]
    rfl
  | case4 u v rest hpair ih =>
    rw [List.flatMap_cons, ih, unitsOfChar_loneChar]
    rfl

/-- Every text comes back from its string. -/
theorem ofString_toString (t : Text) : ofString t.toString = t := by
  rw [ofString, toList_toString, flatMap_heldChars]

theorem toString_ofString_ne_empty {s : String} (h : s ≠ "") : (ofString s).toString ≠ "" := by
  intro hempty
  have hunits : (ofString s).units = [] := by
    rw [← ofString_toString (ofString s), hempty]
    rfl
  cases hs : s.toList with
  | nil => exact h (String.toList_inj.1 hs)
  | cons c cs =>
    rw [ofString, hs, List.flatMap_cons, List.append_eq_nil_iff] at hunits
    rw [unitsOfChar, unitsOfPoint] at hunits
    split at hunits
    · simp at hunits
    · split at hunits <;> simp at hunits

/-- A half at the beginning of what a string holds is the first unit. -/
theorem head?_heldChars {c : Char} (h : (heldChars (u :: us)).head? = some c) (hc : isHalf c = true) :
    halfUnit c = u := by
  have hlone : loneChar u = c → halfUnit c = u := by
    intro hu
    by_cases hhalf : isHalfUnit u = true
    · have hlone : loneChar u = halfChar u := if_pos hhalf
      rw [← hu, hlone, halfUnit_halfChar hhalf]
    · rw [← hu, isHalf_loneChar (by simpa using hhalf)] at hc
      cases hc
  cases us with
  | nil => exact hlone (Option.some.inj h)
  | cons v rest =>
    rw [heldChars] at h
    split at h
    · rename_i hpair
      rw [Bool.and_eq_true] at hpair
      have hunits := unitsOfPoint_pairPoint hpair.1 hpair.2
      rw [charsOfPoint] at h
      split at h
      · rw [hunits] at h
        have hu : halfChar u = c := Option.some.inj h
        rw [← hu, halfUnit_halfChar (by simp [isHalfUnit, hpair.1])]
      · rename_i hhalf
        have hp : Char.ofNat (pairPoint u v) = c := Option.some.inj h
        rw [← hp, isHalf_ofNat (pairPoint_valid hpair.1 hpair.2)] at hc
        exact absurd hc hhalf
    · exact hlone (Option.some.inj h)

theorem shownChars_cons {c : Char} {cs : List Char} (hc : isHalf c = false) :
    shownChars (c :: cs) = c :: shownChars cs := by
  cases cs with
  | nil => simp [shownChars, hc]
  | cons d rest => simp [shownChars, hc]

/-- A half is shown as U+FFFD unless it begins a pair with what comes next. -/
theorem shownChars_half {c : Char} {cs : List Char} (hc : isHalf c = true)
    (hnext : ∀ d, cs.head? = some d → isHalf d = true →
      (isLead (halfUnit c) && isTrail (halfUnit d)) = false) :
    shownChars (c :: cs) = replacementChar :: shownChars cs := by
  cases cs with
  | nil => simp [shownChars, hc]
  | cons d rest =>
    have hpair : (isHalf d && isLead (halfUnit c) && isTrail (halfUnit d)) = false := by
      by_cases hd : isHalf d = true
      · rw [hd, Bool.true_and]
        exact hnext d rfl hd
      · simp [hd]
    rw [shownChars, if_pos hc, hpair]
    rfl

/-- The units of the characters that some are shown as. -/
def shownUnits (cs : List Char) : List UInt16 := (shownChars cs).flatMap fun c => unitsOfPoint c.toNat

/-- A pair is shown as the character that it stands for, also one for private use. -/
theorem shownUnits_pair {cs : List Char} (hu : isLead u = true) (hv : isTrail v = true) :
    shownUnits (charsOfPoint (pairPoint u v) ++ cs) = u :: v :: shownUnits cs := by
  have hvalid := pairPoint_valid hu hv
  have hunits := unitsOfPoint_pairPoint hu hv
  have hpoint : unitsOfPoint (Char.ofNat (pairPoint u v)).toNat = [u, v] := by
    rw [toNat_ofNat hvalid, hunits]
  rw [charsOfPoint]
  by_cases hhalf : isHalfPoint (pairPoint u v) = true
  · have hu' : isHalfUnit u = true := by simp [isHalfUnit, hu]
    have hv' : isHalfUnit v = true := by simp [isHalfUnit, hv]
    rw [if_pos hhalf, hunits]
    simp [shownUnits, shownChars, isHalf_halfChar, halfUnit_halfChar, hu, hv, hu', hv', hpoint]
  · have hplain : isHalf (Char.ofNat (pairPoint u v)) = false := by
      rw [isHalf_ofNat hvalid]
      simpa using hhalf
    rw [if_neg hhalf, List.singleton_append, shownUnits, shownChars_cons hplain, List.flatMap_cons,
      hpoint]
    rfl

theorem shownUnits_lone {cs : List Char}
    (hnext : ∀ d, cs.head? = some d → isHalf d = true → (isLead u && isTrail (halfUnit d)) = false) :
    shownUnits (loneChar u :: cs) = mendedUnit u :: shownUnits cs := by
  by_cases hu : isHalfUnit u = true
  · have hlone : loneChar u = halfChar u := if_pos hu
    rw [mendedUnit, if_pos hu, hlone, shownUnits, shownChars_half (isHalf_halfChar hu)]
    · rfl
    · rwa [halfUnit_halfChar hu]
  · have hu' : isHalfUnit u = false := by simpa using hu
    rw [mendedUnit, if_neg hu, shownUnits, shownChars_cons (isHalf_loneChar hu'), List.flatMap_cons,
      loneChar_of_not_half hu', toNat_ofNat (toNat_valid hu'), unitsOfPoint_toNat]
    rfl

/-- What the string of a text is shown as is the text with its lone halves mended. -/
theorem shownUnits_heldChars (us : List UInt16) : shownUnits (heldChars us) = mended us := by
  fun_induction mended us with
  | case1 => rfl
  | case2 u => exact shownUnits_lone fun d hd => by simp at hd
  | case3 u v rest hpair ih =>
    rw [heldChars, if_pos hpair]
    rw [Bool.and_eq_true] at hpair
    rw [shownUnits_pair hpair.1 hpair.2, ih]
  | case4 u v rest hpair ih =>
    rw [heldChars, if_neg hpair, shownUnits_lone, ih]
    intro d hd hhalf
    rw [head?_heldChars hd hhalf]
    simpa using hpair

/-! ## Parts of a text -/

theorem mended_of_isWellFormed (h : isWellFormed us = true) : mended us = us := by
  fun_induction isWellFormed us with
  | case1 => rfl
  | case2 u =>
    have hu : isHalfUnit u = false := by simpa using h
    simp [mended, mendedUnit, hu]
  | case3 u v rest hpair ih => rw [mended, if_pos hpair, ih h]
  | case4 u v rest hpair ih =>
    rw [Bool.and_eq_true, Bool.not_eq_true'] at h
    rw [mended, if_neg hpair, ih h.2, mendedUnit, h.1]
    rfl

/-- Halves that meet where two texts do are the only ones that are mended in one and not in both. -/
theorem mended_append (h : us.getLast?.any isLead = true → vs.head?.any isTrail = false) :
    mended (us ++ vs) = mended us ++ mended vs := by
  fun_induction mended us with
  | case1 => rfl
  | case2 u =>
    cases vs with
    | nil => rfl
    | cons v vs =>
      have hpair : (isLead u && isTrail v) = false := by
        by_cases hu : isLead u = true
        · have hv : isTrail v = false := h hu
          simp [hv]
        · simp [hu]
      rw [List.singleton_append, mended, hpair]
      rfl
  | case3 u v rest hpair ih =>
    have hrest : rest.getLast?.any isLead = true → vs.head?.any isTrail = false := by
      intro hlead
      apply h
      cases rest with
      | nil => simp at hlead
      | cons x xs => simpa using hlead
    rw [List.cons_append, List.cons_append, mended, if_pos hpair, ih hrest]
    rfl
  | case4 u v rest hpair ih =>
    have hrest : (v :: rest).getLast?.any isLead = true → vs.head?.any isTrail = false := by
      intro hlead
      apply h
      simpa using hlead
    rw [List.cons_append, List.cons_append, mended, if_neg hpair, ← List.cons_append, ih hrest]
    rfl

theorem head?_of_isWellFormed (h : isWellFormed us = true) : us.head?.any isTrail = false := by
  fun_cases isWellFormed us with
  | case1 => rfl
  | case2 u =>
    rw [isWellFormed, Bool.not_eq_true', isHalfUnit, Bool.or_eq_false_iff] at h
    exact h.2
  | case3 u v rest hpair =>
    rw [Bool.and_eq_true] at hpair
    exact not_isTrail_of_isLead hpair.1
  | case4 u v rest hpair =>
    rw [isWellFormed, if_neg hpair, Bool.and_eq_true, Bool.not_eq_true', isHalfUnit,
      Bool.or_eq_false_iff] at h
    exact h.1.2

theorem getLast?_of_isWellFormed (h : isWellFormed us = true) : us.getLast?.any isLead = false := by
  fun_induction isWellFormed us with
  | case1 => rfl
  | case2 u =>
    rw [Bool.not_eq_true', isHalfUnit, Bool.or_eq_false_iff] at h
    exact h.1
  | case3 u v rest hpair ih =>
    rw [Bool.and_eq_true] at hpair
    cases rest with
    | nil =>
      cases hv : isLead v with
      | false => simpa using hv
      | true => simp [not_isTrail_of_isLead hv] at hpair
    | cons x xs => simpa using ih h
  | case4 u v rest hpair ih =>
    rw [Bool.and_eq_true] at h
    simpa using ih h.2

theorem occursIn_iff : occursIn us vs = true ↔ us <:+: vs := by
  induction vs with
  | nil => simp [occursIn]
  | cons v vs ih =>
    rw [occursIn, Bool.or_eq_true, ih, List.isPrefixOf_iff_prefix, List.infix_cons_iff]

/-- A well-formed part of a text is a part of it still when its lone halves are mended. -/
theorem occursIn_mended (hwell : isWellFormed us = true) (h : occursIn us vs = true) :
    occursIn us (mended vs) = true := by
  obtain ⟨before, after, rfl⟩ := occursIn_iff.1 h
  cases us with
  | nil => exact occursIn_iff.2 List.nil_infix
  | cons u us =>
    have hafter : mended (u :: us ++ after) = u :: us ++ mended after := by
      rw [mended_append, mended_of_isWellFormed hwell]
      intro hlead
      rw [getLast?_of_isWellFormed hwell] at hlead
      cases hlead
    have hbefore : mended (before ++ (u :: us ++ after)) = mended before ++ mended (u :: us ++ after) := by
      apply mended_append
      intro _
      exact (head?_of_isWellFormed hwell : (u :: us).head?.any isTrail = false)
    rw [List.append_assoc, hbefore, hafter]
    exact occursIn_iff.2 ⟨mended before, mended after, by simp⟩

/-! ## The units of characters -/

variable {c d : Char} {cs ds : List Char}

/-- The units of some characters. -/
def unitsOfChars (cs : List Char) : List UInt16 := cs.flatMap fun c => unitsOfPoint c.toNat

/-- A character is one unit that is no half of a pair, or the pair of its halves. -/
theorem unitsOfPoint_cases (c : Char) :
    (∃ u, isHalfUnit u = false ∧ unitsOfPoint c.toNat = [u] ∧ u.toNat = c.toNat) ∨
      ∃ u v, isLead u = true ∧ isTrail v = true ∧ unitsOfPoint c.toNat = [u, v] ∧ pairPoint u v = c.toNat := by
  have hvalid : c.toNat < 0xD800 ∨ 0xDFFF < c.toNat ∧ c.toNat < 0x110000 := c.valid
  have hsize : UInt16.size = 0x10000 := rfl
  rw [unitsOfPoint]
  split
  case isTrue hsmall =>
    have hunit : c.toNat.toUInt16.toNat = c.toNat := UInt16.toNat_ofNat_of_lt' hsmall
    refine .inl ⟨_, ?_, rfl, hunit⟩
    rw [← Bool.not_eq_true, isHalfUnit_iff, hunit]
    omega
  case isFalse hlarge =>
    have hlead : (0xD800 + (c.toNat - 0x10000) / 0x400).toUInt16.toNat = 0xD800 + (c.toNat - 0x10000) / 0x400 :=
      UInt16.toNat_ofNat_of_lt' (by omega)
    have htrail : (0xDC00 + (c.toNat - 0x10000) % 0x400).toUInt16.toNat = 0xDC00 + (c.toNat - 0x10000) % 0x400 :=
      UInt16.toNat_ofNat_of_lt' (by omega)
    refine .inr ⟨_, _, ?_, ?_, rfl, ?_⟩
    · rw [isLead_iff, hlead]
      omega
    · rw [isTrail_iff, htrail]
      omega
    · have hpoint (u v : UInt16) : pairPoint u v = 0x10000 + (u.toNat - 0xD800) * 0x400 + (v.toNat - 0xDC00) := rfl
      rw [hpoint, hlead, htrail]
      omega

/-- Units begin with those of one character at most. -/
theorem unitsOfPoint_append_inj (h : unitsOfPoint c.toNat ++ us = unitsOfPoint d.toNat ++ vs) : c = d ∧ us = vs := by
  rcases unitsOfPoint_cases c with ⟨u, hu, hc, hcu⟩ | ⟨u, u', hu, -, hc, hcu⟩ <;>
    rcases unitsOfPoint_cases d with ⟨v, hv, hd, hdv⟩ | ⟨v, v', hv, -, hd, hdv⟩ <;>
    rw [hc, hd] at h
  · obtain ⟨rfl, rfl⟩ := List.cons.inj h
    exact ⟨Char.toNat_inj.1 (hcu.symm.trans hdv), rfl⟩
  · obtain ⟨rfl, -⟩ := List.cons.inj h
    simp [isHalfUnit, hv] at hu
  · obtain ⟨rfl, -⟩ := List.cons.inj h
    simp [isHalfUnit, hu] at hv
  · obtain ⟨rfl, rest⟩ := List.cons.inj h
    obtain ⟨rfl, rfl⟩ := List.cons.inj rest
    exact ⟨Char.toNat_inj.1 (hcu.symm.trans hdv), rfl⟩

theorem unitsOfPoint_ne_nil (c : Char) : unitsOfPoint c.toNat ≠ [] := by
  rcases unitsOfPoint_cases c with ⟨u, -, hc, -⟩ | ⟨u, u', -, -, hc, -⟩ <;> simp [hc]

theorem unitsOfChars_injective : Function.Injective unitsOfChars := by
  intro cs
  induction cs with
  | nil =>
    intro ds h
    cases ds with
    | nil => rfl
    | cons d ds =>
      rw [unitsOfChars, unitsOfChars, List.flatMap_nil, List.flatMap_cons] at h
      exact absurd (List.append_eq_nil_iff.1 h.symm).1 (unitsOfPoint_ne_nil d)
  | cons c cs ih =>
    intro ds h
    cases ds with
    | nil =>
      rw [unitsOfChars, unitsOfChars, List.flatMap_nil, List.flatMap_cons] at h
      exact absurd (List.append_eq_nil_iff.1 h).1 (unitsOfPoint_ne_nil c)
    | cons d ds =>
      rw [unitsOfChars, unitsOfChars, List.flatMap_cons, List.flatMap_cons] at h
      obtain ⟨rfl, rest⟩ := unitsOfPoint_append_inj h
      rw [ih rest]

theorem isWellFormed_unitsOfChars (cs : List Char) : isWellFormed (unitsOfChars cs) = true := by
  induction cs with
  | nil => rfl
  | cons c cs ih =>
    have hcons : unitsOfChars (c :: cs) = unitsOfPoint c.toNat ++ unitsOfChars cs := List.flatMap_cons
    rw [hcons]
    rcases unitsOfPoint_cases c with ⟨u, hu, hc, -⟩ | ⟨u, v, hu, hv, hc, -⟩
    · rw [hc, List.singleton_append]
      cases hcs : unitsOfChars cs with
      | nil => simp [isWellFormed, hu]
      | cons v vs =>
        have hlead : isLead u = false := by
          rw [isHalfUnit, Bool.or_eq_false_iff] at hu
          exact hu.1
        rw [isWellFormed, hlead, Bool.false_and, if_neg Bool.false_ne_true, hu, ← hcs, ih]
        rfl
    · rw [hc, List.cons_append, List.singleton_append, isWellFormed, hu, hv, Bool.and_self, if_pos rfl, ih]

/-! ## The characters of a text -/

/-- The characters that a text is written as. -/
def writtenChars (us : List UInt16) : List Char := shownChars (heldChars us)

theorem unitsOfChars_writtenChars (us : List UInt16) : unitsOfChars (writtenChars us) = mended us :=
  shownUnits_heldChars us

/-- Whether no half of a pair ends one text with the other half at the beginning of the next. -/
def WholeCut (us vs : List UInt16) : Prop := us.getLast?.any isLead = true → vs.head?.any isTrail = false

theorem writtenChars_append (h : WholeCut us vs) : writtenChars (us ++ vs) = writtenChars us ++ writtenChars vs := by
  apply unitsOfChars_injective
  have happend : unitsOfChars (writtenChars us ++ writtenChars vs) =
      unitsOfChars (writtenChars us) ++ unitsOfChars (writtenChars vs) := List.flatMap_append
  rw [happend, unitsOfChars_writtenChars, unitsOfChars_writtenChars, unitsOfChars_writtenChars, mended_append h]

/-- Characters are written as they are. -/
theorem writtenChars_unitsOfChars (cs : List Char) : writtenChars (unitsOfChars cs) = cs := by
  apply unitsOfChars_injective
  rw [unitsOfChars_writtenChars, mended_of_isWellFormed (isWellFormed_unitsOfChars cs)]

end VariantForge.Text
