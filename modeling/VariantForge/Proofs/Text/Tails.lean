import Mathlib.Data.List.DropRight
import VariantForge.Proofs.Text.Separators
import VariantForge.Text.Basic

/-!
# Tails — the end of a log

When a step of a build fails, the last lines of its log are all that is kept of it. They are the end of the log as it
is counted in lines (`logText`): from the beginning of a line on, and as many lines as are asked for, or all of them if
there are not more (`isTail_tailLines`). Two ends of a text with as many lines are the same (`IsTail.unique`), and the end
of an end is an end of the whole (`IsTail.trans`). So taking last lines twice is taking the fewer of them at once.
-/

namespace VariantForge.Text

variable {cs whole tail tail' : List Char} {ls : List (List Char)} {s t : String} {a b k n : Nat}

/-! ## The text of a log -/

/-- The characters with one line feed in the place of each carriage return and the line feed after it. -/
def unixLineEnds : List Char → List Char
  | '\r' :: '\n' :: rest => '\n' :: unixLineEnds rest
  | c :: rest => c :: unixLineEnds rest
  | [] => []

/-- The text of a log as it is counted in lines: the line feeds at its end count for nothing. -/
def logText (s : String) : List Char := (unixLineEnds s.toList).rdropWhile (· == '\n')

theorem unixLineEndsAfter_eq (before cs : List Char) : unixLineEndsAfter before cs = before.reverse ++ unixLineEnds cs := by
  fun_induction unixLineEnds cs generalizing before with
  | case1 rest ih =>
    -- the carriage return is dropped in one step, and the line feed stays in the next
    rw [unixLineEndsAfter, if_pos ⟨rfl, rfl⟩, unixLineEndsAfter, if_neg (by simp), ih]
    simp
  | case2 c rest hpair ih =>
    have hstays : ¬ (c = '\r' ∧ rest.head? = some '\n') := by
      rintro ⟨rfl, hhead⟩
      obtain ⟨rest', rfl⟩ := List.head?_eq_some_iff.1 hhead
      exact hpair rest' rfl rfl
    rw [unixLineEndsAfter, if_neg hstays, ih]
    simp
  | case3 => simp [unixLineEndsAfter]

theorem logLines_eq (s : String) : logLines s = (logText s).splitOn '\n' := by
  rw [logLines, unixLineEndsAfter_eq]
  rfl

theorem unixLineEnds_of_notMem (h : '\r' ∉ cs) : unixLineEnds cs = cs := by
  fun_induction unixLineEnds cs with
  | case1 rest ih => simp at h
  | case2 c rest hpair ih =>
    rw [ih]
    intro hrest
    exact h (List.mem_cons_of_mem c hrest)
  | case3 => rfl

theorem getLast?_logText (s : String) : (logText s).getLast? ≠ some '\n' := by
  intro h
  rw [logText] at h
  have hne : (unixLineEnds s.toList).rdropWhile (· == '\n') ≠ [] := by
    intro hnil
    simp [hnil] at h
  rw [List.getLast?_eq_some_getLast hne, Option.some.injEq] at h
  exact List.rdropWhile_last_not _ _ hne (by simpa using h)

/-- What has neither carriage returns nor line feeds at its end is counted in lines as it is. -/
theorem logText_of_plain (hreturn : '\r' ∉ s.toList) (hlast : s.toList.getLast? ≠ some '\n') : logText s = s.toList := by
  rw [logText, unixLineEnds_of_notMem hreturn, List.rdropWhile_eq_self_iff]
  intro hne hfeed
  apply hlast
  rw [List.getLast?_eq_some_getLast hne, Option.some.injEq]
  simpa using hfeed

/-! ## Ends of texts -/

/-- The number of lines of a text: one more than the line feeds in it. -/
def lineCount (cs : List Char) : Nat := cs.count '\n' + 1

/-- Whether a text ends in another that begins where a line does. -/
def EndsInLines (whole tail : List Char) : Prop :=
  ∃ before, whole = before ++ tail ∧ (before = [] ∨ before.getLast? = some '\n')

/-- Whether a text consists of the last `n` lines of another, or of all its lines if there are not more. -/
structure IsTail (n : Nat) (whole tail : List Char) : Prop where
  ends : EndsInLines whole tail
  lines : lineCount tail = min n (lineCount whole)

theorem lineCount_append (cs tail : List Char) : lineCount (cs ++ tail) = cs.count '\n' + lineCount tail := by
  simp [lineCount]
  omega

theorem EndsInLines.refl (cs : List Char) : EndsInLines cs cs := ⟨[], rfl, .inl rfl⟩

theorem EndsInLines.trans (h : EndsInLines whole tail) (h' : EndsInLines tail tail') : EndsInLines whole tail' := by
  obtain ⟨before, rfl, hbefore⟩ := h
  obtain ⟨mid, rfl, hmid⟩ := h'
  refine ⟨before ++ mid, by simp, ?_⟩
  rcases hmid with rfl | hmid
  · simpa using hbefore
  · right
    simp [hmid]

theorem EndsInLines.suffix (h : EndsInLines whole tail) : tail <:+ whole := by
  obtain ⟨before, rfl, -⟩ := h
  exact List.suffix_append before tail

/-- Of two ends of a text the longer one has more lines. -/
theorem EndsInLines.eq_of_suffix (h : EndsInLines whole tail) (h' : EndsInLines whole tail') (hsuffix : tail' <:+ tail)
    (hlines : lineCount tail = lineCount tail') : tail = tail' := by
  obtain ⟨before, hbefore, -⟩ := h
  obtain ⟨before', hbefore', hstart⟩ := h'
  obtain ⟨mid, rfl⟩ := hsuffix
  have hnone : '\n' ∉ mid := by
    rw [lineCount_append] at hlines
    exact List.count_eq_zero.1 (by omega)
  have hsame : before' = before ++ mid := by
    rw [hbefore, ← List.append_assoc] at hbefore'
    exact (List.append_cancel_right hbefore').symm
  -- what is between where they begin would end with a line feed
  cases hmid : mid.getLast? with
  | none => rw [List.getLast?_eq_none_iff.1 hmid, List.nil_append]
  | some c =>
    have hmem : c ∈ mid := List.mem_of_getLast? hmid
    rcases hstart with rfl | hlast
    · obtain ⟨-, rfl⟩ := List.append_eq_nil_iff.1 hsame.symm
      cases hmem
    · rw [hsame, List.getLast?_append, hmid, Option.some_or, Option.some.injEq] at hlast
      exact absurd (hlast ▸ hmem) hnone

theorem IsTail.unique (h : IsTail n whole tail) (h' : IsTail n whole tail') : tail = tail' := by
  have hlines : lineCount tail = lineCount tail' := h.lines.trans h'.lines.symm
  rcases List.suffix_or_suffix_of_suffix h.ends.suffix h'.ends.suffix with hsuffix | hsuffix
  · exact (h'.ends.eq_of_suffix h.ends hsuffix hlines.symm).symm
  · exact h.ends.eq_of_suffix h'.ends hsuffix hlines

theorem isTail_self (h : lineCount whole ≤ n) : IsTail n whole whole := ⟨.refl whole, by omega⟩

theorem IsTail.trans (h : IsTail a whole tail) (h' : IsTail b tail tail') : IsTail (min a b) whole tail' := by
  refine ⟨h.ends.trans h'.ends, ?_⟩
  rw [h'.lines, h.lines]
  omega

/-! ## The last lines -/

theorem lineCount_intercalate (hne : ls ≠ []) (h : ∀ l ∈ ls, '\n' ∉ l) :
    lineCount (List.intercalate ['\n'] ls) = ls.length := by
  induction ls with
  | nil => exact absurd rfl hne
  | cons l ls ih =>
    rw [List.forall_mem_cons] at h
    have hl : l.count '\n' = 0 := List.count_eq_zero.2 h.1
    cases ls with
    | nil => simp [lineCount, hl]
    | cons m ls =>
      have hfeed : lineCount ('\n' :: List.intercalate ['\n'] (m :: ls)) =
          1 + lineCount (List.intercalate ['\n'] (m :: ls)) := lineCount_append ['\n'] _
      rw [List.intercalate_cons_cons, List.append_assoc, lineCount_append, List.singleton_append, hl, hfeed,
        ih (by simp) h.2]
      simp
      omega

/-- Lines that are left when some before them are dropped are an end of the text. -/
theorem endsInLines_drop (hk : k < ls.length) :
    EndsInLines (List.intercalate ['\n'] ls) (List.intercalate ['\n'] (ls.drop k)) := by
  induction k generalizing ls with
  | zero => exact .refl _
  | succ k ih =>
    match ls, hk with
    | l :: m :: ls, hk =>
      have hrest : EndsInLines (List.intercalate ['\n'] (m :: ls)) (List.intercalate ['\n'] ((m :: ls).drop k)) :=
        ih (by simpa using hk)
      have hline : EndsInLines (List.intercalate ['\n'] (l :: m :: ls)) (List.intercalate ['\n'] (m :: ls)) :=
        ⟨l ++ ['\n'], by rw [List.intercalate_cons_cons], .inr (by simp)⟩
      exact hline.trans hrest

theorem toList_tailLines (s : String) (hn : 0 < n) :
    (tailLines s (.ofNat n)).toList = List.intercalate ['\n'] ((logLines s).drop ((logLines s).length - n)) := by
  have hpositive : ¬ (Number.ofNat n ≤ 0) := by
    intro hle
    have hle : decide ((n : Rat) ≤ ((0 : Nat) : Rat)) = true := hle
    simp only [decide_eq_true_eq, Rat.natCast_le_natCast] at hle
    omega
  have hstart (m : Nat) : tailStart m (.ofNat n) = m - n := by
    have hone : ¬ ((n : Rat) < 1) := by
      rw [Rat.not_lt]
      exact_mod_cast hn
    have hfloor : (n : Rat).floor.toNat = n := by
      have : (n : Rat).floor = (n : Int) := Rat.floor_intCast n
      rw [this, Int.toNat_natCast]
    rw [Number.ofNat, tailStart, if_neg hone, hfloor]
  rw [tailLines, if_neg hpositive, String.toList_ofList, hstart]

/-- The last lines of a log are an end of it. -/
theorem isTail_tailLines (s : String) (hn : 0 < n) : IsTail n (logText s) (tailLines s (.ofNat n)).toList := by
  have hne : logLines s ≠ [] := by
    rw [logLines_eq]
    exact List.splitOn_ne_nil _ _
  have hplain : ∀ l ∈ logLines s, '\n' ∉ l := by
    intro l hl
    rw [logLines_eq] at hl
    exact notMem_of_mem_splitOn hl
  have hwhole : List.intercalate ['\n'] (logLines s) = logText s := by
    rw [logLines_eq, List.intercalate_splitOn]
  have hpos : 0 < (logLines s).length := List.length_pos_iff.2 hne
  have hk : (logLines s).length - n < (logLines s).length := by omega
  rw [toList_tailLines s hn]
  constructor
  · have hends := endsInLines_drop hk
    rwa [hwhole] at hends
  · have hleft : (logLines s).drop ((logLines s).length - n) ≠ [] := by
      rw [Ne, List.drop_eq_nil_iff]
      omega
    rw [lineCount_intercalate hleft fun l hl => hplain l (List.mem_of_mem_drop hl), ← hwhole,
      lineCount_intercalate hne hplain, List.length_drop]
    omega

/-- An end of a log without carriage returns is counted in lines as it is. -/
theorem logText_of_isTail (hreturn : '\r' ∉ s.toList) (h : IsTail n (logText s) t.toList) : logText t = t.toList := by
  have hsub : t.toList ⊆ s.toList := by
    have hprefix : logText s <+: s.toList := by
      rw [logText, unixLineEnds_of_notMem hreturn]
      exact List.rdropWhile_prefix _ _
    exact List.Subset.trans h.ends.suffix.subset hprefix.subset
  -- it ends as the text of the log does, so not in a line feed
  refine logText_of_plain (fun hmem => hreturn (hsub hmem)) fun hlast => getLast?_logText s ?_
  obtain ⟨before, hbefore, -⟩ := h.ends
  rw [hbefore, List.getLast?_append, hlast, Option.some_or]

/-- For every text and every positive number, the last lines of the text are an end of the text with plain line ends and
without the line feeds at its end: they begin where a line does, are as many as the number says or as there are, and are
all of it if there are not more. Of a text without carriage returns, the last lines of the last lines are the last lines,
as many as the smaller number says. -/
theorem tailLines_keep_end (s : String) :
    (∀ n, 0 < n →
      EndsInLines (logText s) (tailLines s (.ofNat n)).toList ∧
      lineCount (tailLines s (.ofNat n)).toList = min n (lineCount (logText s)) ∧
      (lineCount (logText s) ≤ n → (tailLines s (.ofNat n)).toList = logText s)) ∧
    ('\r' ∉ s.toList → ∀ a b, 0 < a → 0 < b →
      tailLines (tailLines s (.ofNat a)) (.ofNat b) = tailLines s (.ofNat (min a b))) := by
  constructor
  · intro n hn
    have htail : IsTail n (logText s) (tailLines s (.ofNat n)).toList := isTail_tailLines s hn
    exact ⟨htail.ends, htail.lines, fun hall => htail.unique (isTail_self hall)⟩
  · -- both are ends of the log, and as long
    intro hreturn a b ha hb
    have hfirst : IsTail a (logText s) (tailLines s (.ofNat a)).toList := isTail_tailLines s ha
    have hsecond : IsTail b (tailLines s (.ofNat a)).toList (tailLines (tailLines s (.ofNat a)) (.ofNat b)).toList := by
      have htail := isTail_tailLines (tailLines s (.ofNat a)) hb
      rwa [logText_of_isTail hreturn hfirst] at htail
    have hboth : IsTail (min a b) (logText s) (tailLines s (.ofNat (min a b))).toList :=
      isTail_tailLines s (by omega)
    exact String.toList_inj.1 ((hfirst.trans hsecond).unique hboth)

/-- A line may be empty, and counts where something comes after it. -/
theorem tailLines_keep_empty_line :
    0 < 2 ∧ 0 < 1 ∧ '\r' ∉ "a\n\nb\n\n".toList ∧ logText "a\n\nb\n\n" = "a\n\nb".toList ∧
      tailLines "a\n\nb\n\n" (.ofNat 2) = "\nb" ∧
      EndsInLines (logText "a\n\nb\n\n") (tailLines "a\n\nb\n\n" (.ofNat 2)).toList ∧
      lineCount (tailLines "a\n\nb\n\n" (.ofNat 2)).toList = min 2 (lineCount (logText "a\n\nb\n\n")) ∧
      tailLines (tailLines "a\n\nb\n\n" (.ofNat 2)) (.ofNat 1) = tailLines "a\n\nb\n\n" (.ofNat (min 2 1)) :=
  have hreturn : '\r' ∉ "a\n\nb\n\n".toList := by decide
  have hkeep := tailLines_keep_end "a\n\nb\n\n"
  ⟨by decide, by decide, hreturn, by decide +kernel, by decide +kernel, (hkeep.1 2 (by decide)).1,
    (hkeep.1 2 (by decide)).2.1, hkeep.2 hreturn 2 1 (by decide) (by decide)⟩

-- of two carriage returns before a line feed only one is dropped at a time
example : tailLines (tailLines "a\r\r\nb" 2) 2 ≠ tailLines "a\r\r\nb" 2 := by
  decide +kernel

end VariantForge.Text
