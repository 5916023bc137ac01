import VariantForge.Proofs.Disk.Walk
import VariantForge.Proofs.Path.Inside
import VariantForge.Proofs.Text.Shown

/-!
# Names — what a normal path is walked along

A path in its normal form is walked along its parts as they are shown, after one blank name if it is
absolute. None of these is blank or goes nowhere or up, so a walk along them never climbs.
-/

namespace VariantForge.Disk

open Path Text

/-- The name that a part of a path is walked along. -/
def shownPart (p : Part) : String := String.ofList (shownChars p)

theorem names_eq (path : String) :
    names path = (parts (shownChars path.toList)).map String.ofList := by
  rw [names, toList_shown, parts]

theorem names_append_slash (a b : List Char) :
    names (String.ofList (a ++ '/' :: b)) = names (String.ofList a) ++ names (String.ofList b) := by
  simp only [names_eq, String.toList_ofList, shownChars_append_slash, parts_append_slash,
    List.map_append]

theorem slash_notMem_shownChars {p : Part} (h : '/' ∉ p) : '/' ∉ shownChars p := by
  intro hm
  rcases mem_shownChars hm with hm | hm | hm
  · exact h hm
  · exact absurd hm (by decide)
  · exact absurd hm (by decide)

theorem names_part {p : Part} (h : '/' ∉ p) : names (String.ofList p) = [shownPart p] := by
  have hone : parts (joinParts [shownChars p]) = [shownChars p] :=
    parts_joinParts (by simpa using slash_notMem_shownChars h) (by simp)
  rw [joinParts_singleton] at hone
  rw [names_eq, String.toList_ofList, hone]
  rfl

theorem names_joinParts {ps : List Part} (h : ∀ p ∈ ps, '/' ∉ p) (hne : ps ≠ []) :
    names (String.ofList (joinParts ps)) = ps.map shownPart := by
  induction ps with
  | nil => exact absurd rfl hne
  | cons p ps ih =>
    cases ps with
    | nil =>
      rw [joinParts_singleton, names_part (h p (by simp))]
      rfl
    | cons q ps =>
      rw [joinParts_cons_cons, names_append_slash, names_part (h p (by simp)),
        ih (fun r hr => h r (List.mem_cons_of_mem _ hr)) (by simp)]
      rfl

theorem names_nil : names (String.ofList []) = [""] := by decide

theorem names_absolute {ps : List Part} (h : ∀ p ∈ ps, '/' ∉ p) (hne : ps ≠ []) :
    names (absolute ps) = "" :: ps.map shownPart := by
  have := names_append_slash [] (joinParts ps)
  rw [List.nil_append] at this
  rw [absolute, this, names_nil, names_joinParts h hne]
  rfl

/-- The names of a path end in one that is not blank, but for blank ones. -/
theorem names_split {path last : String} {before : List String}
    (h : (names path).reverse.dropWhile (·.isEmpty) = last :: before) :
    ∃ blanks, names path = before.reverse ++ last :: blanks ∧ (∀ b ∈ blanks, b = "") ∧ last ≠ "" := by
  refine ⟨((names path).reverse.takeWhile (·.isEmpty)).reverse, ?_, fun b hb => ?_, fun he => ?_⟩
  · have := congrArg List.reverse
      (List.takeWhile_append_dropWhile (p := (·.isEmpty)) (l := (names path).reverse))
    rw [h] at this
    simpa using this.symm
  · have hall : ((names path).reverse.takeWhile (·.isEmpty)).all (·.isEmpty) = true :=
      List.all_takeWhile
    simpa using List.all_eq_true.1 hall b (List.mem_reverse.1 hb)
  · have := List.head?_dropWhile_not (·.isEmpty) (names path).reverse
    simp [h, he] at this

/-- Whether characters are shown as themselves, and nothing else is shown as them. -/
def IsPlain (s : List Char) : Prop := ∀ x ∈ s, isHalf x = false ∧ ¬ IsStandIn x

theorem shownPart_eq_iff {p s : Part} (hs : IsPlain s) : shownPart p = String.ofList s ↔ p = s := by
  rw [shownPart, String.ofList_inj]
  constructor
  · intro h
    rw [← h, eq_of_shownChars]
    rw [h]
    exact fun x hx => (hs x hx).2
  · rintro rfl
    exact shownChars_of_plain fun x hx => (hs x hx).1

theorem isPlain_nil : IsPlain [] := by simp [IsPlain]

theorem isPlain_here : IsPlain ['.'] := by
  intro x hx
  rw [List.mem_singleton.1 hx]
  decide

theorem isPlain_up : IsPlain up := by
  intro x hx
  obtain rfl : x = '.' := by simpa [up] using hx
  decide

theorem isStep_shownPart {p : Part} (h : IsName p) : IsStep (shownPart p) :=
  ⟨fun he => h.ne_nil ((shownPart_eq_iff isPlain_nil).1 he),
    fun he => h.ne_here ((shownPart_eq_iff isPlain_here).1 he),
    fun he => h.ne_up ((shownPart_eq_iff isPlain_up).1 he)⟩

/-! ## Targets of links -/

theorem parts_shownChars (cs : List Char) : parts (shownChars cs) = (parts cs).map shownChars := by
  have h : ∀ p ∈ parts cs, '/' ∉ p := fun _ => slash_notMem_of_mem_parts
  have hne : parts cs ≠ [] := by simp [parts]
  have := names_joinParts h hne
  rw [joinParts, parts, List.intercalate_splitOn, names_eq, String.toList_ofList] at this
  have := congrArg (List.map String.toList) this
  simpa [shownPart, List.map_map, Function.comp_def, parts] using this

theorem descends_map {depth : Nat} {ps : List Part} {f g : Part → String}
    (hfg : ∀ p, ∀ s ∈ [[], ['.'], up], f p = String.ofList s ↔ g p = String.ofList s)
    (h : Descends depth (ps.map f)) : Descends depth (ps.map g) := by
  have hblank (p : Part) : (f p = "" ∨ f p = ".") ↔ (g p = "" ∨ g p = ".") :=
    or_congr (hfg p [] (by simp)) (hfg p ['.'] (by simp))
  have hup (p : Part) : f p = ".." ↔ g p = ".." := hfg p up (by simp)
  induction ps generalizing depth with
  | nil => trivial
  | cons p ps ih =>
    rw [List.map_cons, Descends] at h ⊢
    simp only [hblank, hup] at h
    split at h
    · rename_i hb
      rw [if_pos hb]
      exact ih h
    · rename_i hb
      rw [if_neg hb]
      split at h
      · rename_i hu
        rw [if_pos hu]
        exact ⟨h.1, ih h.2⟩
      · rename_i hu
        rw [if_neg hu]
        intro hm
        obtain ⟨q, hq, he⟩ := List.mem_map.1 hm
        exact h (List.mem_map.2 ⟨q, hq, (hup q).2 he⟩)

/-- A target that climbs only at its front does so as it is shown. -/
theorem Descends.shown {depth : Nat} {target : String} (h : Descends depth (names target)) :
    Descends depth (names (Text.shown target)) := by
  have hnames (path : String) : names path = (parts path.toList).map shownPart := by
    rw [names_eq, parts_shownChars, List.map_map]
    rfl
  rw [hnames, toList_shown, parts_shownChars, List.map_map]
  rw [hnames] at h
  refine descends_map (fun p s hs => ?_) h
  have hplain : IsPlain s := by
    simp only [List.mem_cons, List.not_mem_nil, or_false] at hs
    rcases hs with rfl | rfl | rfl
    · exact isPlain_nil
    · exact isPlain_here
    · exact isPlain_up
  rw [Function.comp_apply, shownPart_eq_iff (p := shownChars p) hplain, shownPart, String.ofList_inj]

theorem fromRoot_shown {target : String} (h : fromRoot target = false) :
    fromRoot (shown target) = false := by
  by_contra hc
  rw [Bool.not_eq_false, fromRoot, toList_shown, beq_iff_eq] at hc
  rcases head?_shownChars hc with hc | hc
  · rw [fromRoot, hc] at h
    cases h
  · exact absurd hc (by decide)

end VariantForge.Disk
