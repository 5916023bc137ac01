import Mathlib.Data.List.Basic
import Mathlib.Tactic.ByContra
import VariantForge.Proofs.Text.Shown
import VariantForge.Text.Basic
import VariantForge.Text.LowerCase
import VariantForge.Variant.Registry

/-!
# Small letters stay

Small letters of small letters are the same again (`lower_lower`), and no letter becomes a blank. That
rests on one check of the table (`lowerRuns_settle`): no run takes a code point into a run, to a
blank or to one of the two letters with rules of their own. So a name that was brought into its normal
form is in its normal form (`normalName_normalName`).
-/

namespace VariantForge

namespace Unicode

/-! ## The table -/

/-- How far a run leads upwards. -/
def CaseRun.rise (r : CaseRun) : Nat := r.shift.toNat

/-- How far a run leads downwards. -/
def CaseRun.fall (r : CaseRun) : Nat := (-r.shift).toNat

/-- Whether a run takes no code point into the run `s`. Bounds tell it, or that `s` has every second code
point and the run leads to those between. -/
def CaseRun.avoids (r s : CaseRun) : Bool :=
  (r.last + r.rise).blt (s.first + r.fall) || (s.last + r.fall).blt (r.first + r.rise) ||
    ((r.step == 2 || r.first == r.last) && s.step == 2 && (r.first + r.rise + s.first + r.fall) % 2 == 1)

/-- Code points that no small letter may be, as pairs of bounds: blanks, a capital I with a dot, a capital
sigma, and what is no character. -/
def unsettled : List (Nat × Nat) :=
  [(9, 13), (0x20, 0x20), (0xA0, 0xA0), (0x130, 0x130), (0x3A3, 0x3A3), (0x1680, 0x1680), (0x2000, 0x200A),
    (0x2028, 0x2029), (0x202F, 0x202F), (0x205F, 0x205F), (0x3000, 0x3000), (0xD800, 0xDFFF), (0xFEFF, 0xFEFF)]

/-- Whether a run leads to code points that the runs leave as they are, and to none that is unsettled. -/
def CaseRun.settles (r : CaseRun) : Bool :=
  lowerRuns.all r.avoids && decide (r.fall ≤ r.first + r.rise) && decide (r.last + r.rise < 0x110000 + r.fall) &&
    unsettled.all fun b => decide (r.last + r.rise < b.1 + r.fall) || decide (b.2 + r.fall < r.first + r.rise)

theorem lowerRuns_settle : lowerRuns.all CaseRun.settles = true := by decide +kernel

theorem CaseRun.covers_iff {r : CaseRun} {p : Nat} :
    r.covers p = true ↔ r.first ≤ p ∧ p ≤ r.last ∧ (p - r.first) % r.step = 0 := by
  simp [covers, and_assoc]

theorem CaseRun.not_covers {r s : CaseRun} (h : r.avoids s = true) {p q : Nat} (hp : r.covers p = true)
    (hq : q + r.fall = p + r.rise) : s.covers q = false := by
  obtain ⟨hfirst, hlast, hstep⟩ := covers_iff.1 hp
  by_contra hs
  obtain ⟨hfirst', hlast', hstep'⟩ := covers_iff.1 (Bool.not_eq_false _ ▸ hs)
  simp only [avoids, Bool.or_eq_true, Bool.and_eq_true, Nat.blt_eq, beq_iff_eq] at h
  rcases h with (h | h) | ⟨⟨h | h, htwo⟩, hodd⟩
  · omega
  · omega
  · rw [h] at hstep
    rw [htwo] at hstep'
    omega
  · rw [htwo] at hstep'
    omega

theorem CaseRun.mapped_eq {r : CaseRun} (hr : r ∈ lowerRuns) {p : Nat} (hp : r.covers p = true) {q : Nat}
    (hq : q + r.fall = p + r.rise) : mapped lowerRuns q = q := by
  have hsettle := List.all_eq_true.1 lowerRuns_settle r hr
  simp only [settles, Bool.and_eq_true] at hsettle
  have hnone : lowerRuns.find? (·.covers q) = none :=
    List.find?_eq_none.2 fun s hs => by
      simp [not_covers (List.all_eq_true.1 hsettle.1.1.1 s hs) hp hq]
  rw [mapped, hnone]

/-- A code point is left as it is or taken to one that is, and that is not unsettled. -/
theorem mapped_cases (p : Nat) :
    mapped lowerRuns p = p ∨ mapped lowerRuns (mapped lowerRuns p) = mapped lowerRuns p ∧
      mapped lowerRuns p < 0x110000 ∧
      ∀ b ∈ unsettled, mapped lowerRuns p < b.1 ∨ b.2 < mapped lowerRuns p := by
  cases hfind : lowerRuns.find? (·.covers p) with
  | none => exact .inl (by rw [mapped, hfind])
  | some r =>
    right
    have hr := List.mem_of_find?_eq_some hfind
    have hp : r.covers p = true := List.find?_some (p := fun r : CaseRun => r.covers p) hfind
    have hmapped : mapped lowerRuns p = ((p : Int) + r.shift).toNat := by rw [mapped, hfind]
    have hsettle := List.all_eq_true.1 lowerRuns_settle r hr
    simp only [CaseRun.settles, Bool.and_eq_true, decide_eq_true_eq, List.all_eq_true, Bool.or_eq_true] at hsettle
    obtain ⟨⟨⟨-, hlow⟩, hhigh⟩, hbounds⟩ := hsettle
    obtain ⟨hfirst, hlast, -⟩ := CaseRun.covers_iff.1 hp
    have hcast : mapped lowerRuns p + r.fall = p + r.rise := by
      rw [CaseRun.rise, CaseRun.fall] at hlow ⊢
      omega
    refine ⟨CaseRun.mapped_eq hr hp hcast, by omega, fun b hb => ?_⟩
    have := hbounds b hb
    omega

end Unicode

namespace Text

open Unicode

/-! ## Small letters of one character -/

/-- Whether a character is a small letter or none at all: it stays as it is. -/
def IsSmall (c : Char) : Prop := c.toNat ≠ 0x3A3 ∧ c.toNat ≠ 0x130 ∧ lowerPoint c.toNat = c.toNat

instance : DecidablePred IsSmall := fun c =>
  inferInstanceAs (Decidable (c.toNat ≠ 0x3A3 ∧ c.toNat ≠ 0x130 ∧ lowerPoint c.toNat = c.toNat))

theorem lowerPoint_eq {p : Nat} (h : mapped lowerRuns p = p) : lowerPoint p = p := by
  rw [lowerPoint]
  split
  · rename_i hsmall
    split
    · rename_i hcapital
      have hcapitals : ∀ i < 26, mapped lowerRuns (65 + i) ≠ 65 + i := by decide +kernel
      obtain ⟨i, rfl⟩ := Nat.exists_eq_add_of_le hcapital.1
      exact absurd h (hcapitals i (by omega))
    · rfl
  · exact h

/-- A code point is no capital, or its small letter is settled. -/
theorem lowerPoint_cases (p : Nat) :
    lowerPoint p = p ∨ lowerPoint (lowerPoint p) = lowerPoint p ∧ (lowerPoint p).isValidChar ∧
      lowerPoint p ≠ 0x3A3 ∧ lowerPoint p ≠ 0x130 ∧ isBlankPoint (lowerPoint p) = false := by
  by_cases hsmall : p < 128
  · by_cases hcapital : 65 ≤ p ∧ p ≤ 90
    · have hlower : lowerPoint p = p + 32 := by rw [lowerPoint, if_pos hsmall, if_pos hcapital]
      have hagain : lowerPoint (p + 32) = p + 32 := by
        rw [lowerPoint, if_pos (by omega), if_neg (by omega)]
      rw [hlower]
      refine .inr ⟨hagain, .inl (by omega), by omega, by omega, ?_⟩
      simp only [isBlankPoint, Bool.or_eq_false_iff, Bool.and_eq_false_iff, decide_eq_false_iff_not, beq_eq_false_iff_ne]
      omega
    · exact .inl (by rw [lowerPoint, if_pos hsmall, if_neg hcapital])
  · have hlower : lowerPoint p = mapped lowerRuns p := by rw [lowerPoint, if_neg hsmall]
    rw [hlower]
    refine (mapped_cases p).imp_right fun ⟨hagain, hlimit, hsettled⟩ => ⟨lowerPoint_eq hagain, ?_⟩
    simp only [unsettled, List.forall_mem_cons] at hsettled
    refine ⟨?_, by omega, by omega, ?_⟩
    · rw [Nat.isValidChar]
      omega
    · simp only [isBlankPoint, Bool.or_eq_false_iff, Bool.and_eq_false_iff, decide_eq_false_iff_not, beq_eq_false_iff_ne]
      omega

theorem lowerChar_small {before after : List Char} {c x : Char} (h : x ∈ lowerChar before c after) :
    IsSmall x := by
  rw [lowerChar] at h
  split at h
  · rw [List.mem_singleton] at h
    subst h
    split <;> decide +kernel
  · split at h
    · rcases List.mem_pair.1 h with rfl | rfl <;> decide +kernel
    · rename_i hsigma hdot
      rw [List.mem_singleton] at h
      subst h
      rcases lowerPoint_cases c.toNat with heq | ⟨hagain, hvalid, hsigma', hdot', -⟩
      · rw [heq, Char.ofNat_toNat]
        exact ⟨hsigma, hdot, heq⟩
      · rw [IsSmall, toNat_ofNat hvalid]
        exact ⟨hsigma', hdot', hagain⟩

/-- No letter becomes a blank. -/
theorem lowerChar_blank {before after : List Char} {c x : Char} (h : x ∈ lowerChar before c after)
    (hx : isBlank x = true) : isBlank c = true := by
  rw [lowerChar] at h
  split at h
  · rw [List.mem_singleton] at h
    subst h
    split at hx <;> exact absurd hx (by decide)
  · split at h
    · rcases List.mem_pair.1 h with rfl | rfl <;> exact absurd hx (by decide)
    · rw [List.mem_singleton] at h
      subst h
      rcases lowerPoint_cases c.toNat with heq | ⟨-, hvalid, -, -, hnone⟩
      · rwa [heq, Char.ofNat_toNat] at hx
      · rw [isBlank, toNat_ofNat hvalid, hnone] at hx
        cases hx

theorem lowerChar_of_small {before after : List Char} {c : Char} (h : IsSmall c) : lowerChar before c after = [c] := by
  rw [lowerChar, if_neg h.1, if_neg h.2.1, h.2.2, Char.ofNat_toNat]

theorem lowerChar_ne_nil {before after : List Char} {c : Char} : lowerChar before c after ≠ [] := by
  rw [lowerChar]
  split
  · exact List.cons_ne_nil _ _
  · split <;> exact List.cons_ne_nil _ _

/-! ## Small letters of a text -/

/-- The small letters of some characters in turn, after those in `before`. -/
def lowerEach (before : List Char) : List Char → List Char
  | [] => []
  | c :: rest => lowerChar before c rest ++ lowerEach (c :: before) rest

theorem lowerAfter_eq (before done cs : List Char) : lowerAfter before done cs = done.reverse ++ lowerEach before cs := by
  induction cs generalizing before done with
  | nil => rw [lowerAfter, lowerEach, List.append_nil]
  | cons c rest ih => rw [lowerAfter, lowerEach, ih, List.reverse_append, List.reverse_reverse, List.append_assoc]

theorem lowerChars_eq (cs : List Char) : lowerChars cs = lowerEach [] cs := by
  rw [lowerChars, lowerAfter_eq, List.reverse_nil, List.nil_append]

theorem lowerEach_small {before cs : List Char} : ∀ x ∈ lowerEach before cs, IsSmall x := by
  induction cs generalizing before with
  | nil => exact fun _ hx => by cases hx
  | cons c rest ih =>
    intro x hx
    rcases List.mem_append.1 hx with hx | hx
    · exact lowerChar_small hx
    · exact ih x hx

theorem lowerEach_of_small {before cs : List Char} (h : ∀ c ∈ cs, IsSmall c) : lowerEach before cs = cs := by
  induction cs generalizing before with
  | nil => rfl
  | cons c rest ih =>
    rw [lowerEach, lowerChar_of_small (h c (List.mem_cons_self ..)), ih fun d hd => h d (List.mem_cons_of_mem _ hd)]
    rfl

theorem lower_lower (s : String) : lower (lower s) = lower s := by
  rw [lower, lower, String.toList_ofList, lowerChars_eq, lowerChars_eq, lowerEach_of_small lowerEach_small]

/-! ## Blanks at the ends -/

/-- Whether a text neither begins nor ends with a blank. -/
structure IsTrimmed (cs : List Char) : Prop where
  head : ∀ c ∈ cs.head?, isBlank c = false
  last : ∀ c ∈ cs.getLast?, isBlank c = false

theorem dropWhile_of_head {cs : List Char} (h : ∀ c ∈ cs.head?, isBlank c = false) : cs.dropWhile isBlank = cs := by
  cases cs with
  | nil => rfl
  | cons c rest => rw [List.dropWhile_cons_of_neg (by simp [h c rfl])]

theorem trimChars_of_isTrimmed {cs : List Char} (h : IsTrimmed cs) : trimChars cs = cs := by
  have hlast : ∀ c ∈ cs.reverse.head?, isBlank c = false := by
    rw [List.head?_reverse]
    exact h.last
  rw [trimChars, dropWhile_of_head h.head, dropWhile_of_head hlast, List.reverse_reverse]

theorem isTrimmed_trimChars (cs : List Char) : IsTrimmed (trimChars cs) := by
  have hdropped (cs : List Char) : ∀ c ∈ (cs.dropWhile isBlank).head?, isBlank c = false := by
    intro c hc
    have hhead := List.head?_dropWhile_not isBlank cs
    rw [hc] at hhead
    simpa using hhead
  refine ⟨fun c hc => ?_, fun c hc => ?_⟩
  · rw [trimChars, List.head?_reverse] at hc
    -- what is left at the front was at the front before the end was trimmed
    obtain ⟨before, hbefore⟩ := List.dropWhile_suffix isBlank (l := (cs.dropWhile isBlank).reverse)
    have hlast : c ∈ (cs.dropWhile isBlank).head? := by
      rw [← List.getLast?_reverse, ← hbefore, List.getLast?_append, hc]
      rfl
    exact hdropped cs c hlast
  · rw [trimChars, List.getLast?_reverse] at hc
    exact hdropped _ c hc

theorem head?_lowerEach {before cs : List Char} {x : Char} (h : x ∈ (lowerEach before cs).head?) :
    ∃ c ∈ cs.head?, isBlank x = true → isBlank c = true := by
  cases cs with
  | nil => cases h
  | cons c rest =>
    rw [lowerEach, List.head?_append_of_ne_nil _ lowerChar_ne_nil] at h
    exact ⟨c, rfl, lowerChar_blank (List.mem_of_mem_head? h)⟩

theorem getLast?_lowerEach {before cs : List Char} {x : Char} (h : x ∈ (lowerEach before cs).getLast?) :
    ∃ c ∈ cs.getLast?, isBlank x = true → isBlank c = true := by
  induction cs generalizing before with
  | nil => cases h
  | cons c rest ih =>
    rw [lowerEach] at h
    cases rest with
    | nil =>
      rw [lowerEach, List.append_nil] at h
      exact ⟨c, rfl, lowerChar_blank (List.mem_of_getLast? h)⟩
    | cons d rest =>
      have hne : lowerEach (c :: before) (d :: rest) ≠ [] := by
        rw [lowerEach]
        exact List.append_ne_nil_of_left_ne_nil lowerChar_ne_nil _
      rw [List.getLast?_append_of_ne_nil _ hne] at h
      rw [List.getLast?_cons_cons]
      exact ih h

theorem IsTrimmed.lowerEach {before cs : List Char} (h : IsTrimmed cs) : IsTrimmed (lowerEach before cs) := by
  refine ⟨fun x hx => Bool.eq_false_iff.2 fun hblank => ?_, fun x hx => Bool.eq_false_iff.2 fun hblank => ?_⟩
  · obtain ⟨c, hc, himp⟩ := head?_lowerEach hx
    exact absurd (himp hblank) (by simp [h.head c hc])
  · obtain ⟨c, hc, himp⟩ := getLast?_lowerEach hx
    exact absurd (himp hblank) (by simp [h.last c hc])

end Text

namespace Variant

open Text

/-- The characters of a name in its normal form: small letters, of which none is a low line. -/
def normalChars (cs : List Char) : List Char := (lowerEach [] (trimChars cs)).map fun c => if c = '_' then '-' else c

theorem normalName_eq (name : String) : normalName name = String.ofList (normalChars name.toList) := by
  rw [normalName, replaceChar, lower, trim, String.toList_ofList, String.toList_ofList, lowerChars_eq, normalChars]

theorem isTrimmed_normalChars (cs : List Char) : IsTrimmed (normalChars cs) := by
  have h : IsTrimmed (lowerEach [] (trimChars cs)) := (isTrimmed_trimChars cs).lowerEach
  have hyphen (c : Char) (hc : isBlank c = false) : isBlank (if c = '_' then '-' else c) = false := by
    split
    · decide
    · exact hc
  constructor
  · intro x hx
    rw [normalChars, List.head?_map] at hx
    obtain ⟨c, hc, rfl⟩ := Option.map_eq_some_iff.1 hx
    exact hyphen c (h.head c hc)
  · intro x hx
    rw [normalChars, List.getLast?_map] at hx
    obtain ⟨c, hc, rfl⟩ := Option.map_eq_some_iff.1 hx
    exact hyphen c (h.last c hc)

theorem normalChars_small (cs : List Char) : ∀ x ∈ normalChars cs, IsSmall x ∧ x ≠ '_' := by
  intro x hx
  obtain ⟨c, hc, rfl⟩ := List.mem_map.1 hx
  split
  · decide +kernel
  · rename_i hne
    exact ⟨lowerEach_small c hc, hne⟩

/-- A name in its normal form has no other one. -/
theorem normalName_normalName (name : String) : normalName (normalName name) = normalName name := by
  rw [normalName_eq, normalName_eq, String.toList_ofList]
  refine congrArg String.ofList ?_
  have hsmall := normalChars_small name.toList
  rw [normalChars, trimChars_of_isTrimmed (isTrimmed_normalChars _), lowerEach_of_small fun c hc => (hsmall c hc).1]
  refine (List.map_congr_left fun c hc => ?_).trans (List.map_id _)
  exact if_neg (hsmall c hc).2

end Variant

end VariantForge
