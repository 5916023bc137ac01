import Mathlib.Data.List.Chain
import VariantForge.Proofs.Package.Site
import VariantForge.Proofs.Text.Lowered

/-!
# Slugs — labels as names of files

A slug is words with single hyphens between them (`exists_words`), and what is such words is its own slug
(`slug_intercalate`). So whatever a variant is labelled, the logs of its build and the directory that its package is
put together in, which is removed with all that is in it, are entries of the chamber (`slug_names`).

The words are those that are left by rewriting a name four times over: runs of other characters become
hyphens, runs of hyphens single ones, the hyphens at the ends are dropped, and a word stands in for nothing
(`slug_eq_rewritten`).
-/

namespace VariantForge

namespace Text

variable {cs w : List Char} {ws : List (List Char)} {b g : Bool}

/-! ## Words -/

/-- A word of a slug: some characters that a slug keeps. -/
structure IsWord (w : List Char) : Prop where
  ne_nil : w ≠ []
  kept : ∀ c ∈ w, isSlugChar c = true

theorem isSlugChar_iff {c : Char} :
    isSlugChar c = true ↔ ('a' ≤ c ∧ c ≤ 'z') ∨ ('0' ≤ c ∧ c ≤ '9') ∨ c = '.' := by
  simp only [isSlugChar, Bool.or_eq_true, Bool.and_eq_true, decide_eq_true_eq, beq_iff_eq, or_assoc]

theorem isSlugChar_ne_hyphen {c : Char} (h : isSlugChar c = true) : c ≠ '-' := by
  rintro rfl
  exact absurd h (by decide)

theorem IsWord.hyphen_notMem (h : IsWord w) : '-' ∉ w := fun hc => isSlugChar_ne_hyphen (h.kept _ hc) rfl

theorem IsWord.head (h : IsWord w) : w.head? ≠ some '-' := fun hc => h.hyphen_notMem (List.mem_of_head? hc)

theorem IsWord.last (h : IsWord w) : w.getLast? ≠ some '-' := fun hc => h.hyphen_notMem (List.mem_of_getLast? hc)

theorem isWord_of_mem_slugWords (h : w ∈ slugWords cs) : IsWord w := by
  obtain ⟨hmem, hne⟩ := List.mem_filter.1 h
  refine ⟨by simpa using hne, fun c hc => ?_⟩
  obtain ⟨d, -, rfl⟩ := List.mem_map.1 (mem_of_mem_splitOn hmem hc)
  split
  · assumption
  · rename_i hd
    exact absurd (by simpa [hd] using hc) (notMem_of_mem_splitOn hmem)

/-- A slug is words with single hyphens between them. -/
theorem exists_words (name : String) :
    ∃ ws, ws ≠ [] ∧ (∀ w ∈ ws, IsWord w) ∧ slug name = String.ofList (List.intercalate ['-'] ws) := by
  rw [slug]
  by_cases h : slugWords (lowerChars (trimChars name.toList)) = []
  · refine ⟨["variant".toList], by simp, ?_, ?_⟩
    · have hkept : "variant".toList.all isSlugChar = true := by decide
      exact List.forall_mem_singleton.2 ⟨by decide, List.all_eq_true.1 hkept⟩
    · rw [if_pos (by simp [h]), List.intercalate_singleton]
      rfl
  · exact ⟨_, h, fun w => isWord_of_mem_slugWords, by rw [if_neg (by simpa using h)]⟩

/-! ## Words with hyphens between them -/

theorem intercalate_ne_nil (hne : ws ≠ []) (h : ∀ w ∈ ws, IsWord w) : List.intercalate ['-'] ws ≠ [] := by
  cases ws with
  | nil => exact absurd rfl hne
  | cons w ws =>
    have hw : w ≠ [] := (h w List.mem_cons_self).ne_nil
    cases ws with
    | nil => rwa [List.intercalate_singleton]
    | cons v ws =>
      rw [List.intercalate_cons_cons, List.append_assoc]
      exact List.append_ne_nil_of_left_ne_nil hw _

theorem head?_intercalate (h : ∀ w ∈ ws, IsWord w) : (List.intercalate ['-'] ws).head? ≠ some '-' := by
  cases ws with
  | nil => simp
  | cons w ws =>
    have hw : IsWord w := h w List.mem_cons_self
    cases ws with
    | nil =>
      rw [List.intercalate_singleton]
      exact hw.head
    | cons v ws =>
      rw [List.intercalate_cons_cons, List.append_assoc, List.head?_append_of_ne_nil _ hw.ne_nil]
      exact hw.head

theorem getLast?_intercalate (h : ∀ w ∈ ws, IsWord w) : (List.intercalate ['-'] ws).getLast? ≠ some '-' := by
  induction ws with
  | nil => simp
  | cons w ws ih =>
    rw [List.forall_mem_cons] at h
    cases ws with
    | nil =>
      rw [List.intercalate_singleton]
      exact h.1.last
    | cons v ws =>
      rw [List.intercalate_cons_cons, List.getLast?_append_of_ne_nil _ (intercalate_ne_nil (by simp) h.2)]
      exact ih h.2

/-- Of two characters next to each other one is no hyphen. -/
theorem isChain_intercalate (h : ∀ w ∈ ws, IsWord w) :
    (List.intercalate ['-'] ws).IsChain fun c d => ¬ (c = '-' ∧ d = '-') := by
  have hword {w : List Char} (hw : IsWord w) : w.IsChain fun c d => ¬ (c = '-' ∧ d = '-') :=
    (List.pairwise_of_forall_mem_list fun c hc d _ (hcd : c = '-' ∧ d = '-') => hw.hyphen_notMem (hcd.1 ▸ hc)).isChain
  induction ws with
  | nil => exact .nil
  | cons w ws ih =>
    rw [List.forall_mem_cons] at h
    cases ws with
    | nil =>
      rw [List.intercalate_singleton]
      exact hword h.1
    | cons v ws =>
      rw [List.intercalate_cons_cons, List.append_assoc, List.singleton_append]
      refine (hword h.1).append (List.isChain_cons.2 ⟨fun c hc hcd => ?_, ih h.2⟩) fun c hc _ _ hcd => ?_
      · exact head?_intercalate h.2 (hcd.2 ▸ hc)
      · exact h.1.last (hcd.1 ▸ hc)

/-! ## What a slug is -/

/-- Whether characters can be the end of any file's name: they are not empty, small letters of ASCII, digits, points and
hyphens, and the hyphens stand alone and between others. -/
structure IsSlug (cs : List Char) : Prop where
  ne_nil : cs ≠ []
  chars : ∀ c ∈ cs, ('a' ≤ c ∧ c ≤ 'z') ∨ ('0' ≤ c ∧ c ≤ '9') ∨ c = '.' ∨ c = '-'
  single : ¬ ['-', '-'] <:+: cs
  head : cs.head? ≠ some '-'
  last : cs.getLast? ≠ some '-'

theorem isSlug_slug (name : String) : IsSlug (slug name).toList := by
  obtain ⟨ws, hne, hws, hslug⟩ := exists_words name
  have hchars : ∀ c ∈ (slug name).toList, ('a' ≤ c ∧ c ≤ 'z') ∨ ('0' ≤ c ∧ c ≤ '9') ∨ c = '.' ∨ c = '-' := by
    intro c hc
    rcases mem_slug hc with hkept | hhyphen
    · rcases isSlugChar_iff.1 hkept with hletter | hdigit | hpoint
      · exact .inl hletter
      · exact .inr (.inl hdigit)
      · exact .inr (.inr (.inl hpoint))
    · exact .inr (.inr (.inr hhyphen))
  rw [hslug, String.toList_ofList] at hchars ⊢
  refine ⟨intercalate_ne_nil hne hws, hchars, fun hdouble => ?_, head?_intercalate hws, getLast?_intercalate hws⟩
  obtain ⟨before, after, hsplit⟩ := hdouble
  have hchain := isChain_intercalate hws
  rw [← hsplit] at hchain
  exact List.isChain_pair.1 hchain.left_of_append.right_of_append ⟨rfl, rfl⟩

/-! ## Slugs of slugs -/

/-- What a slug holds is neither a capital nor a blank. -/
theorem isSmall_of_slugChar {c : Char} (h : isSlugChar c = true ∨ c = '-') : IsSmall c ∧ isBlank c = false := by
  have hbounds : (97 ≤ c.toNat ∧ c.toNat ≤ 122) ∨ (48 ≤ c.toNat ∧ c.toNat ≤ 57) ∨ c.toNat = 46 ∨ c.toNat = 45 := by
    rcases h with hkept | rfl
    · rcases isSlugChar_iff.1 hkept with hletter | hdigit | rfl
      · exact .inl hletter
      · exact .inr (.inl hdigit)
      · exact .inr (.inr (.inl rfl))
    · exact .inr (.inr (.inr rfl))
  refine ⟨⟨by omega, by omega, ?_⟩, ?_⟩
  · rw [lowerPoint, if_pos (by omega), if_neg (by omega)]
  · simp only [isBlank, isBlankPoint, Bool.or_eq_false_iff, Bool.and_eq_false_iff, decide_eq_false_iff_not,
      beq_eq_false_iff_ne]
    omega

/-- Words with hyphens between them are their own slug. -/
theorem slug_intercalate (hne : ws ≠ []) (h : ∀ w ∈ ws, IsWord w) :
    slug (String.ofList (List.intercalate ['-'] ws)) = String.ofList (List.intercalate ['-'] ws) := by
  have hchars : ∀ c ∈ List.intercalate ['-'] ws, isSlugChar c = true ∨ c = '-' := fun c hc => by
    rcases mem_intercalate hc with hc | ⟨w, hw, hc⟩
    · exact .inr (List.mem_singleton.1 hc)
    · exact .inl ((h w hw).kept c hc)
  have htrimmed : IsTrimmed (List.intercalate ['-'] ws) :=
    ⟨fun c hc => (isSmall_of_slugChar (hchars c (List.mem_of_mem_head? hc))).2,
      fun c hc => (isSmall_of_slugChar (hchars c (List.mem_of_getLast? hc))).2⟩
  have hlower : lowerChars (trimChars (List.intercalate ['-'] ws)) = List.intercalate ['-'] ws := by
    rw [trimChars_of_isTrimmed htrimmed, lowerChars_eq, lowerEach_of_small fun c hc => (isSmall_of_slugChar (hchars c hc)).1]
  have hwords : slugWords (List.intercalate ['-'] ws) = ws := by
    have hmap : ((List.intercalate ['-'] ws).map fun c => if isSlugChar c then c else '-') = List.intercalate ['-'] ws := by
      refine (List.map_congr_left fun c hc => ?_).trans (List.map_id _)
      rcases hchars c hc with hc | rfl
      · rw [if_pos hc]
        rfl
      · rfl
    rw [slugWords, hmap, List.splitOn_intercalate '-' (fun w hw => (h w hw).hyphen_notMem) hne]
    exact List.filter_eq_self.2 fun w hw => by simpa using (h w hw).ne_nil
  rw [slug, String.toList_ofList, hlower, hwords, if_neg (by simpa using hne)]

theorem slug_slug (name : String) : slug (slug name) = slug name := by
  obtain ⟨ws, hne, hws, hslug⟩ := exists_words name
  rw [hslug, slug_intercalate hne hws]

/-! ## Slugs by rewriting -/

/-- The characters with one hyphen for each run of those that are neither kept nor hyphens. `gap` says that such a run
is under way. -/
def hyphenated (gap : Bool) : List Char → List Char
  | [] => []
  | c :: rest =>
    if isSlugChar c ∨ c = '-' then c :: hyphenated false rest
    else if gap then hyphenated true rest
    else '-' :: hyphenated true rest

/-- The characters with one hyphen for each run of hyphens. `gap` says that such a run is under way. -/
def squeezed (gap : Bool) : List Char → List Char
  | [] => []
  | c :: rest =>
    if c = '-' then if gap then squeezed true rest else '-' :: squeezed true rest
    else c :: squeezed false rest

/-- The characters without the hyphens at both ends. -/
def stripped (cs : List Char) : List Char :=
  ((cs.dropWhile (· == '-')).reverse.dropWhile (· == '-')).reverse

/-- A slug as it is written by rewriting a name. -/
def rewritten (name : String) : String :=
  let left := stripped (squeezed false (hyphenated false (lowerChars (trimChars name.toList))))
  if left.isEmpty then "variant" else String.ofList left

/-- After squeezing it does not count whether a run became one hyphen or several. -/
theorem squeezed_hyphenated (hgap : g = true → b = true) (cs : List Char) :
    squeezed b (hyphenated g cs) = squeezed b (cs.map fun c => if isSlugChar c then c else '-') := by
  induction cs generalizing b g with
  | nil => rfl
  | cons c cs ih =>
    rw [hyphenated, List.map_cons]
    by_cases hkept : isSlugChar c = true
    · rw [if_pos (.inl hkept), if_pos hkept, squeezed, squeezed, if_neg (isSlugChar_ne_hyphen hkept),
        if_neg (isSlugChar_ne_hyphen hkept), ih (b := false) (g := false) nofun]
    · -- a hyphen of the name ends a run of other characters, but not the run of hyphens
      rw [if_neg hkept]
      by_cases hhyphen : c = '-'
      · rw [if_pos (.inr hhyphen), hhyphen, squeezed, squeezed,
          ih (b := true) (g := false) nofun, ih (b := false) (g := false) nofun]
      · rw [if_neg (not_or.2 ⟨hkept, hhyphen⟩), squeezed.eq_2 b '-', if_pos rfl]
        cases g with
        | true =>
          rw [if_pos rfl, hgap rfl, if_pos rfl]
          exact ih fun _ => rfl
        | false =>
          rw [if_neg Bool.false_ne_true, squeezed, if_pos rfl, ih fun _ => rfl]

/-- The parts between hyphens that are not empty. -/
def filled (cs : List Char) : List (List Char) := (cs.splitOn '-').filter (!·.isEmpty)

theorem filled_hyphen (cs : List Char) : filled ('-' :: cs) = filled cs := by
  rw [filled, List.splitOn_cons_eq_if_modifyHead, if_pos (by decide)]
  rfl

theorem filled_before_hyphen {c : Char} (hc : c ≠ '-') (cs : List Char) : filled (c :: '-' :: cs) = [c] :: filled cs := by
  have hsplit : (c :: '-' :: cs).splitOn '-' = [c] :: cs.splitOn '-' := by
    rw [show c :: '-' :: cs = [c] ++ '-' :: cs from rfl, List.splitOn_append_cons_self,
      List.splitOn_eq_singleton (by simpa using hc.symm)]
    rfl
  rw [filled, hsplit]
  rfl

theorem filled_cons {c d : Char} (hc : c ≠ '-') (hd : d ≠ '-') (cs : List Char) :
    ∃ w ws, filled (d :: cs) = w :: ws ∧ filled (c :: d :: cs) = (c :: w) :: ws := by
  have hsplit : ∃ w ws, (d :: cs).splitOn '-' = (d :: w) :: ws := by
    rw [List.splitOn_cons_eq_if_modifyHead, if_neg (by simpa using hd)]
    cases hcs : cs.splitOn '-' with
    | nil => exact absurd hcs (List.splitOn_ne_nil _ _)
    | cons w ws => exact ⟨w, ws, rfl⟩
  obtain ⟨w, ws, hw⟩ := hsplit
  refine ⟨d :: w, ws.filter (!·.isEmpty), ?_, ?_⟩
  · rw [filled, hw]
    rfl
  · rw [filled, List.splitOn_cons_eq_if_modifyHead, if_neg (by simpa using hc), hw]
    rfl

/-- Squeezing leaves the filled parts with hyphens between them, and hyphens at the ends. -/
theorem squeezed_eq (b : Bool) (cs : List Char) :
    ∃ after, (∀ c ∈ after, c = '-') ∧ squeezed b cs =
      (if b = false ∧ cs.head? = some '-' then ['-'] else []) ++ (List.intercalate ['-'] (filled cs) ++ after) := by
  induction cs generalizing b with
  | nil => exact ⟨[], nofun, by cases b <;> rfl⟩
  | cons c cs ih =>
    by_cases hc : c = '-'
    · obtain ⟨after, hafter, hsqueezed⟩ := ih true
      refine ⟨after, hafter, ?_⟩
      rw [squeezed, if_pos hc, hsqueezed, hc, filled_hyphen]
      cases b <;> simp
    · obtain ⟨after, hafter, hsqueezed⟩ := ih false
      have hhead : ¬ (b = false ∧ (c :: cs).head? = some '-') := by simp [hc]
      rw [squeezed, if_neg hc, hsqueezed, if_neg hhead]
      -- the word goes on, or it ends here; then the hyphen after it comes before another word or is the last of them
      cases cs with
      | nil => exact ⟨after, hafter, by simp [filled, List.splitOn_eq_singleton, Ne.symm hc]⟩
      | cons d cs =>
        by_cases hd : d = '-'
        · subst hd
          rw [if_pos ⟨rfl, rfl⟩, filled_before_hyphen hc, filled_hyphen]
          cases hfilled : filled cs with
          | nil => exact ⟨'-' :: after, List.forall_mem_cons.2 ⟨rfl, hafter⟩, by simp⟩
          | cons w ws =>
            refine ⟨after, hafter, ?_⟩
            rw [List.intercalate_cons_cons]
            rfl
        · obtain ⟨w, ws, hw, hcw⟩ := filled_cons hc hd cs
          refine ⟨after, hafter, ?_⟩
          rw [if_neg (by simp [hd]), hw, hcw]
          cases ws with
          | nil => simp
          | cons v ws => simp [List.intercalate_cons_cons]

theorem dropWhile_hyphens {before : List Char} (h : ∀ c ∈ before, c = '-') (cs : List Char) :
    (before ++ cs).dropWhile (· == '-') = cs.dropWhile (· == '-') :=
  List.dropWhile_append_of_pos fun c hc => by simpa using h c hc

theorem dropWhile_of_head_ne (h : cs.head? ≠ some '-') : cs.dropWhile (· == '-') = cs := by
  cases cs with
  | nil => rfl
  | cons c cs => rw [List.dropWhile_cons_of_neg (by simpa using h)]

theorem stripped_append {before after : List Char} (hbefore : ∀ c ∈ before, c = '-') (hafter : ∀ c ∈ after, c = '-')
    (hhead : cs.head? ≠ some '-') (hlast : cs.getLast? ≠ some '-') : stripped (before ++ (cs ++ after)) = cs := by
  have hback : (cs ++ after).reverse.dropWhile (· == '-') = cs.reverse := by
    rw [List.reverse_append, dropWhile_hyphens (by simpa using hafter),
      dropWhile_of_head_ne (by rwa [List.head?_reverse])]
  rw [stripped, dropWhile_hyphens hbefore]
  cases cs with
  | nil =>
    have hnone : after.dropWhile (· == '-') = [] := by simpa using dropWhile_hyphens hafter []
    rw [List.nil_append, hnone]
    rfl
  | cons c cs =>
    have hfront : (c :: cs ++ after).dropWhile (· == '-') = c :: cs ++ after := dropWhile_of_head_ne hhead
    rw [hfront, hback, List.reverse_reverse]

theorem slug_eq_rewritten (name : String) : slug name = rewritten name := by
  have hleft (cs : List Char) : stripped (squeezed false (hyphenated false cs)) = List.intercalate ['-'] (slugWords cs) := by
    obtain ⟨after, hafter, hsqueezed⟩ := squeezed_eq false (cs.map fun c => if isSlugChar c then c else '-')
    rw [squeezed_hyphenated id, hsqueezed]
    refine stripped_append (fun c hc => ?_) hafter (head?_intercalate fun w => isWord_of_mem_slugWords)
      (getLast?_intercalate fun w => isWord_of_mem_slugWords)
    split at hc
    · exact List.mem_singleton.1 hc
    · cases hc
  rw [slug, rewritten, hleft]
  by_cases h : slugWords (lowerChars (trimChars name.toList)) = []
  · rw [h]
    rfl
  · have hne := intercalate_ne_nil h fun w => isWord_of_mem_slugWords
    rw [if_neg (by simpa using h), if_neg (by simpa using hne)]

end Text

/-! ## What is named after a label -/

/-- A slug is what is left of a name by rewriting it. It is no name but a simple one, and its own slug; and what is
named after the slug of a label is an entry of the chamber of that name, wherever the chamber is. -/
theorem Text.slug_names (label : String) :
    slug label = rewritten label ∧ IsSlug (slug label).toList ∧ slug (slug label) = slug label ∧
      (∀ (opts : BuildOptions) (step : BuildStep) (here : String),
        Path.EntryOf (Path.resolve here [opts.chamber]) s!"{Build.program step}_{slug label}.log"
          (Path.resolve here [Build.logPath opts step label])) ∧
      ∀ (opts : PackageOptions) (here : String),
        Path.EntryOf (Path.resolve here [opts.chamber]) ("staging-" ++ slug label)
          (Path.resolve here [Package.stagingDir opts label]) :=
  ⟨slug_eq_rewritten label, isSlug_slug label, slug_slug label,
    fun _ step _ => Path.entryOf_join (Run.Sited.isName_log step label),
    fun _ _ => Path.entryOf_join (Run.Sited.isName_staging label)⟩

end VariantForge
