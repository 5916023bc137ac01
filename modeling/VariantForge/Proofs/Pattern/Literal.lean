import VariantForge.Proofs.Pattern.Moves
import VariantForge.Spell.Rule

/-!
# Literal patterns — a text that is escaped fits itself

A text becomes a pattern by putting a backslash before each sign. The reader takes such a pattern for the
characters of the text one after the other, whatever they are (`compile_literal`), and these fit where the
text stands. So the first match is the first occurrence (`search?_literal`), and putting something in the
place of all matches is cutting the text at the occurrences (`replaceFrom_matchesFrom`).
-/

namespace VariantForge.Pattern

open Text

variable {ctx : Context} {s : Progress} {inside : Enclosing} {u : UInt16} {rest us part : List UInt16} {p : Nat}
  {ps : List Nat}

/-! ## Reading signs -/

/-- The code points of the signs, in the order in which `isSign` lists them. -/
def signPoints : List Nat := [46, 42, 43, 63, 94, 36, 123, 125, 40, 41, 124, 91, 93, 92]

theorem isSign_iff : isSign u = true ↔ u.toNat ∈ signPoints := by
  have hsigns : ".*+?^$\x7b\x7d()|[]\\".toList.map unit = [46, 42, 43, 63, 94, 36, 123, 125, 40, 41, 124, 91, 93, 92] := by
    decide +kernel
  rw [isSign, hsigns, List.contains_iff_mem]
  simp [signPoints, ← UInt16.toNat_inj]

/-- What is read first stands for itself in what is read after it. -/
theorem bind_run {α β : Type} {m : Read α} {f : α → Read β} {a : α} {s' : Progress} (h : m s = .ok (a, s')) :
    (m >>= f) s = f a s' := by
  rw [bind, Monad.toBind, StateT.instMonad]
  dsimp only [StateT.bind]
  rw [h]
  rfl

theorem next_run (s : Progress) : next s = .ok (s.rest.head?, s) := rfl

theorem second_run (s : Progress) : second s = .ok (s.rest.tail.head?, s) := rfl

theorem skip_run (n : Nat) (s : Progress) : skip n s = .ok ((), { s with rest := s.rest.drop n }) := rfl

theorem map_run {α β : Type} {m : Read α} {f : α → β} {a : α} {s' : Progress} (h : m s = .ok (a, s')) :
    (f <$> m) s = .ok (f a, s') := by
  rw [map_eq_pure_bind, bind_run h]
  rfl

theorem skip_one (hrest : s.rest = p :: ps) : skip 1 s = .ok ((), { s with rest := ps }) := by
  rw [skip_run, hrest]
  rfl

/-- A sign is neither a digit nor one of the letters that an escape gives a meaning to. -/
theorem not_meant_of_sign (hp : p ∈ signPoints) :
    ¬ (48 ≤ p ∧ p ≤ 57) ∧ p ∉ "bBkfnrtvcxudDsSwW".toList.map sign := by
  have hsigns : ∀ p ∈ signPoints, ¬ (48 ≤ p ∧ p ≤ 57) ∧ p ∉ "bBkfnrtvcxudDsSwW".toList.map sign := by
    decide +kernel
  exact hsigns p hp

theorem readCharEscape_sign (hctx : ctx.unicode = false) (hp : p ∈ signPoints) (hrest : s.rest = p :: ps) :
    readCharEscape ctx false s = .ok (p, { s with rest := ps }) := by
  obtain ⟨hdigit, hletter⟩ := not_meant_of_sign hp
  simp [sign] at hletter
  have hzero : p ≠ 48 := by omega
  have hoctal : ¬ (48 ≤ p ∧ p ≤ 55) := by omega
  rw [readCharEscape, bind_run (next_run s), hrest]
  simp only [List.head?_cons, sign, hctx]
  simp [hletter, hzero, hoctal]
  rw [bind_run (second_run s)]
  exact map_run (skip_one hrest)

/-- A sign after a backslash stands for itself. -/
theorem readEscape_sign (hctx : ctx.unicode = false) (hp : p ∈ signPoints) (hrest : s.rest = p :: ps) :
    readEscape ctx inside s = .ok (.atom (.char p), { s with rest := ps }) := by
  obtain ⟨hdigit, hletter⟩ := not_meant_of_sign hp
  simp [sign] at hletter
  have hzero : p ≠ 48 := by omega
  have hnumber : ¬ (49 ≤ p ∧ p ≤ 57) := by omega
  have hclass : namedClass? p = none := by simp [namedClass?, sign, hletter]
  rw [readEscape, bind_run (next_run s), hrest]
  simp only [List.head?_cons, sign, hctx, hclass]
  simp [hletter, hzero, hnumber]
  exact map_run (readCharEscape_sign hctx hp hrest)

/-- A character that is no sign stands for itself. -/
theorem readTerm_char {fuel : Nat} (hctx : ctx.unicode = false) (hp : p ∉ signPoints) (hrest : s.rest = p :: ps) :
    readTerm ctx (fuel + 1) inside p s = .ok (.atom (.char p), { s with rest := ps }) := by
  simp only [signPoints, List.mem_cons, List.not_mem_nil, or_false, not_or] at hp
  rw [readTerm]
  simp [sign, hctx, hp]
  exact map_run (skip_one hrest)

/-- A term has no quantifier after it if none of the signs that begin one follows. -/
theorem readQuantifier_none {first : Nat} {t : Term} (h : ∀ p, s.rest.head? = some p → p ∉ signPoints ∨ p = sign '\\') :
    readQuantifier ctx first t s = .ok (t.node, s) := by
  rw [readQuantifier, bind_run (next_run s)]
  cases hhead : s.rest.head? with
  | none => rfl
  | some p =>
    have hp := h p hhead
    simp [signPoints, sign] at hp
    have h1 : p ≠ 42 := by omega
    have h2 : p ≠ 43 := by omega
    have h3 : p ≠ 63 := by omega
    have h4 : p ≠ 123 := by omega
    simp [h1, h2, h3, h4, sign]
    rfl

/-- The code points of a text that was escaped. -/
def escaped (us : List UInt16) : List Nat := (literal ⟨us⟩).units.map (·.toNat)

theorem escaped_cons : escaped (u :: us) =
    if u.toNat ∈ signPoints then sign '\\' :: u.toNat :: escaped us else u.toNat :: escaped us := by
  rw [escaped, literal, List.flatMap_cons, List.map_append]
  by_cases hu : isSign u = true
  · rw [if_pos hu, if_pos (isSign_iff.1 hu)]
    rfl
  · rw [if_neg hu, if_neg (mt isSign_iff.2 hu)]
    rfl

/-- Nothing that was escaped begins with a sign that is not the backslash. -/
theorem head?_escaped (h : (escaped us).head? = some p) : p ∉ signPoints ∨ p = sign '\\' := by
  cases us with
  | nil => cases h
  | cons u us =>
    rw [escaped_cons] at h
    split at h
    · cases h
      exact .inr rfl
    · cases h
      exact .inl ‹_›

theorem length_le_escaped (us : List UInt16) : us.length ≤ (escaped us).length := by
  induction us with
  | nil => exact Nat.le_refl _
  | cons u us ih =>
    rw [escaped_cons]
    split <;> simp only [List.length_cons] <;> omega

/-- One character that was escaped is read as that character. -/
theorem readTerm_escaped (inside : Enclosing) (fuel : Nat) (hctx : ctx.unicode = false) (hrest : s.rest = escaped (u :: us)) :
    ∃ c, s.rest.head? = some c ∧ c ≠ sign '|' ∧ c ≠ sign ')' ∧
      readTerm ctx (fuel + 1) inside c s = .ok (.atom (.char u.toNat), { s with rest := escaped us }) := by
  rw [escaped_cons] at hrest
  split at hrest
  case isTrue hu =>
    refine ⟨sign '\\', by rw [hrest]; rfl, by decide, by decide, ?_⟩
    have hread : readTerm ctx (fuel + 1) inside (sign '\\') s = readEscape ctx inside { s with rest := u.toNat :: escaped us } := by
      rw [readTerm]
      simp [sign]
      exact bind_run (skip_one hrest)
    rw [hread, readEscape_sign hctx hu rfl]
  case isFalse hu =>
    refine ⟨u.toNat, by rw [hrest]; rfl, ?_, ?_, readTerm_char hctx hu hrest⟩
    · rintro heq
      exact hu (heq ▸ by decide)
    · rintro heq
      exact hu (heq ▸ by decide)

/-- A text that was escaped is read as its characters one after the other. -/
theorem readSequence_escaped {fuel : Nat} {before : Node} (hctx : ctx.unicode = false) (hfuel : us.length + 2 ≤ fuel)
    (hrest : s.rest = escaped us) :
    readSequence ctx fuel inside before s = .ok (before.thenChars (us.map (·.toNat)), { s with rest := [] }) := by
  induction us generalizing fuel before s with
  | nil =>
    obtain ⟨fuel, rfl⟩ : ∃ n, fuel = n + 1 := ⟨fuel - 1, by omega⟩
    have hs : s = { s with rest := [] } := by
      cases s
      cases hrest
      rfl
    rw [readSequence, bind_run (next_run s), hrest, ← hs]
    rfl
  | cons u us ih =>
    obtain ⟨fuel, rfl⟩ : ∃ n, fuel = n + 1 + 1 := ⟨fuel - 2, by simp only [List.length_cons] at hfuel; omega⟩
    obtain ⟨c, hhead, hbar, hclose, hterm⟩ := readTerm_escaped inside fuel hctx hrest
    have hget : (get : Read Progress) s = .ok (s, s) := rfl
    have hquantifier : readQuantifier ctx s.opened (.atom (.char u.toNat)) { s with rest := escaped us } =
        .ok (.char u.toNat, { s with rest := escaped us }) := readQuantifier_none fun p hp => head?_escaped hp
    rw [readSequence, bind_run (next_run s), hhead]
    simp only [hbar, hclose, or_self, if_false, pure_bind]
    rw [bind_run hget, bind_run hterm]
    dsimp only
    rw [bind_run hquantifier]
    exact ih (by simp only [List.length_cons] at hfuel; omega) rfl

theorem referredNames_thenChars (a : Node) (ps : List Nat) : (a.thenChars ps).referredNames = a.referredNames := by
  induction ps generalizing a with
  | nil => rfl
  | cons p ps ih =>
    rw [Node.thenChars, List.foldl_cons]
    exact (ih _).trans (List.append_nil _)

/-- The pattern of a text that was escaped: its characters, and no groups. -/
def literalTree (us : List UInt16) : Node := Node.empty.thenChars (us.map (·.toNat))

theorem readAll_escaped {f : Flags} (hf : f.Plain) (us : List UInt16) :
    readAll f (escaped us) = .ok ⟨f, literalTree us, 0, []⟩ := by
  have hlength := length_le_escaped us
  generalize hcount : countGroups 0 false (escaped us) = count
  obtain ⟨groups, named⟩ := count
  have hsequence : readSequence ⟨f, groups, named⟩ (4 * (escaped us).length + 7) [] .empty { rest := escaped us } =
      .ok (literalTree us, { rest := [] }) := readSequence_escaped hf.byPoint (by omega) rfl
  have hbar : nextIs '|' { rest := [] } = .ok (false, { rest := [] }) := rfl
  have heither : readEither ⟨f, groups, named⟩ (4 * (escaped us).length + 8) [] { rest := escaped us } =
      .ok (literalTree us, { rest := [] }) := by
    rw [readEither, bind_run hsequence, bind_run hbar]
    rfl
  have hnames : (literalTree us).referredNames = [] := referredNames_thenChars ..
  rw [readAll, hcount]
  dsimp only
  simp only [StateT.run, heither]
  dsimp only [bind, Except.bind]
  rw [hnames]
  rfl

/-- The pattern of a text that is looked for itself. -/
def literalPattern (f : Flags) (part : Text) : Compiled := ⟨f, literalTree part.units, 0, []⟩

/-- Escaping a text always gives a pattern that can be used. -/
theorem compile_literal {f : Flags} {flags : String} (hflags : Flags.read? flags = some f) (hf : f.Plain) (part : Text) :
    compile (literal part) flags = .ok (literalPattern f part) := by
  have htext : (literal part).units.map (·.toNat) = escaped part.units := rfl
  rw [compile, hflags]
  simp only [hf.unicode, hf.sets, Bool.or_self, Bool.false_eq_true, if_false, htext, readAll_escaped hf]
  rfl

/-! ## Flags -/

/-- Whether flags change neither which units are read nor what is told apart nor where a match may begin. -/
def PlainLetters (flags : String) : Prop := flags.toList.Nodup ∧ ∀ c ∈ flags.toList, c ∈ ['d', 'g', 'm', 's']

theorem plainLetters_of_all {flags : String} (hnodup : flags.toList.Nodup)
    (hall : flags.toList.all (['d', 'g', 'm', 's'].contains ·) = true) : PlainLetters flags :=
  ⟨hnodup, fun c hc => List.contains_iff_mem.1 (List.all_eq_true.1 hall c hc)⟩

theorem Flags.add?_plain {f : Flags} {c : Char} (hc : c ∈ ['d', 'g', 'm', 's']) (hf : f.Plain)
    (hnew : (f.add? c).isSome) :
    ∃ f', f.add? c = some f' ∧ f'.Plain ∧
      ∀ d ∈ ['d', 'g', 'm', 's'], d ≠ c → (f'.add? d).isSome = (f.add? d).isSome := by
  simp only [List.mem_cons, List.not_mem_nil, or_false] at hc
  rcases hc with rfl | rfl | rfl | rfl <;>
  · simp only [add?] at hnew ⊢
    split at hnew
    · cases hnew
    · refine ⟨_, if_neg ‹_›, ⟨hf.ignoreCase, hf.unicode, hf.sets, hf.sticky⟩, fun d hd hne => ?_⟩
      simp only [List.mem_cons, List.not_mem_nil, or_false] at hd
      rcases hd with rfl | rfl | rfl | rfl <;> first | exact absurd rfl hne | simp [apply_ite Option.isSome]

theorem Flags.foldlM_add?_plain {f : Flags} {cs : List Char} (hcs : ∀ c ∈ cs, c ∈ ['d', 'g', 'm', 's'])
    (hnodup : cs.Nodup) (hf : f.Plain) (hnew : ∀ c ∈ cs, (f.add? c).isSome) :
    ∃ f', cs.foldlM Flags.add? f = some f' ∧ f'.Plain := by
  induction cs generalizing f with
  | nil => exact ⟨f, rfl, hf⟩
  | cons c cs ih =>
    rw [List.nodup_cons] at hnodup
    obtain ⟨f₁, hadd, hf₁, hothers⟩ := add?_plain (hcs c (by simp)) hf (hnew c (by simp))
    have hnew₁ (d : Char) (hd : d ∈ cs) : (f₁.add? d).isSome := by
      rw [hothers d (hcs d (by simp [hd])) fun heq => hnodup.1 (heq ▸ hd)]
      exact hnew d (by simp [hd])
    obtain ⟨f', hread, hf'⟩ := ih (fun d hd => hcs d (by simp [hd])) hnodup.2 hf₁ hnew₁
    refine ⟨f', ?_, hf'⟩
    rw [List.foldlM_cons, hadd]
    exact hread

theorem PlainLetters.read? {flags : String} (h : PlainLetters flags) :
    ∃ f, Flags.read? flags = some f ∧ f.Plain := by
  refine Flags.foldlM_add?_plain h.2 h.1 ⟨rfl, rfl, rfl, rfl⟩ fun c hc => ?_
  have hall : ['d', 'g', 'm', 's'].all fun c => (Flags.add? {} c).isSome := by decide
  exact List.all_eq_true.1 hall c (h.2 c hc)

theorem toList_withFlag {flags : String} {c : Char} :
    (Rule.withFlag flags c).toList = if c ∈ flags.toList then flags.toList else flags.toList ++ [c] := by
  rw [Rule.withFlag]
  simp only [List.contains_iff_mem]
  split
  · rfl
  · rw [String.toList_push]

theorem PlainLetters.withFlag {flags : String} (h : PlainLetters flags) : PlainLetters (Rule.withFlag flags 'g') := by
  rw [PlainLetters, toList_withFlag]
  split
  case isTrue => exact h
  case isFalse hnew =>
    refine ⟨?_, ?_⟩
    · exact List.nodup_append.2 ⟨h.1, by simp, fun c hc d hd heq => hnew (List.mem_singleton.1 hd ▸ heq ▸ hc)⟩
    · intro c hc
      rcases List.mem_append.1 hc with hc | hc
      · exact h.2 c hc
      · rw [List.mem_singleton.1 hc]
        decide

/-! ## Matches -/

section

variable {f : Flags} {t part : Text} {start i : Nat}

theorem reads_subject (hf : f.Plain) : ((literalPattern f part).subject t).Reads t.units := ⟨hf, rfl⟩

/-- A text that is looked for itself fits where it stands. -/
theorem matchAt?_literal (hf : f.Plain) : (literalPattern f part).matchAt? ((literalPattern f part).subject t) i =
    if standsAt part.units t.units i then some ⟨i, i + part.length, [none]⟩ else none := by
  rw [Compiled.matchAt?_of_moves (Node.Moves.empty.thenChars (reads_subject hf)), Option.bind_some]
  split <;> rfl

theorem searchFrom_literal (hf : f.Plain) (hstart : start ≤ t.units.length) :
    (literalPattern f part).searchFrom ((literalPattern f part).subject t) (t.units.length + 1) start =
      (indexOf? part.units (t.units.drop start)).map fun i => ⟨start + i, start + i + part.length, [none]⟩ := by
  have hsize : ((literalPattern f part).subject t).input.size = t.units.length := (reads_subject hf).size
  have hat (j : Nat) (hj : start ≤ j) :
      (literalPattern f part).matchAt? ((literalPattern f part).subject t) j =
        if standsAt part.units (t.units.drop start) (j - start) then some ⟨j, j + part.length, [none]⟩ else none := by
    rw [matchAt?_literal hf, standsAt_drop, Nat.add_sub_cancel' hj]
  cases hi : indexOf? part.units (t.units.drop start) with
  | none =>
    refine Compiled.searchFrom_eq_none fun j hj hj' => ?_
    rw [hat j hj, firstPlace?_eq_none.1 hi (j - start) (by rw [List.length_drop]; omega)]
    rfl
  | some i =>
    obtain ⟨hle, hstands, hbefore⟩ := indexOf?_eq_some.1 hi
    rw [List.length_drop] at hle
    refine Compiled.searchFrom_eq_some hf.sticky (i := start + i) (by omega) (by omega) (Nat.le_add_right ..) ?_
      fun j hj hj' => ?_
    · rw [hat _ (Nat.le_add_right ..), Nat.add_sub_cancel_left, hstands]
      rfl
    · rw [hat j hj, hbefore (j - start) (by omega)]
      rfl

/-- The first match is the first occurrence. -/
theorem search?_literal (hf : f.Plain) (t part : Text) : (literalPattern f part).search? t =
    (indexOf? part.units t.units).map fun i => ⟨i, i + part.length, [none]⟩ := by
  have h : (literalPattern f part).searchFrom ((literalPattern f part).subject t) (t.units.length + 1) 0 = _ :=
    searchFrom_literal hf (Nat.zero_le _)
  simp only [Nat.zero_add, List.drop_zero] at h
  exact h

theorem matchesFrom_literal {bound : Nat} (hf : f.Plain) (hpart : part.units ≠ []) (hstart : start ≤ t.units.length) :
    (literalPattern f part).matchesFrom ((literalPattern f part).subject t) (bound + 1) start =
      match indexOf? part.units (t.units.drop start) with
      | none => []
      | some i => ⟨start + i, start + i + part.length, [none]⟩ ::
          (literalPattern f part).matchesFrom ((literalPattern f part).subject t) bound (start + i + part.length) := by
  have hsize : ((literalPattern f part).subject t).input.size = t.units.length := (reads_subject hf).size
  have hlen : 0 < part.length := List.length_pos_iff.2 hpart
  rw [Compiled.matchesFrom, hsize, searchFrom_literal hf hstart]
  cases indexOf? part.units (t.units.drop start) with
  | none => rfl
  | some i =>
    dsimp only [Option.map_some]
    rw [if_neg (by omega)]

/-- Putting something in the place of all matches is cutting the text at the occurrences. -/
theorem replaceFrom_matchesFrom {bound : Nat} (hf : f.Plain) (hpart : part.units ≠ []) (replacement : List UInt16)
    (hstart : start ≤ t.units.length) (hbound : t.units.length - start < bound) :
    replaceFrom (fun _ => replacement) start (t.units.drop start)
        ((literalPattern f part).matchesFrom ((literalPattern f part).subject t) bound start) =
      replacement.intercalate (pieces part.units (t.units.drop start)) := by
  induction bound generalizing start with
  | zero => exact absurd hbound (Nat.not_lt_zero _)
  | succ bound ih =>
    rw [matchesFrom_literal hf hpart hstart]
    cases hi : indexOf? part.units (t.units.drop start) with
    | none =>
      rw [pieces_of_none hi, List.intercalate_singleton]
      rfl
    | some i =>
      obtain ⟨hle, hstands, -⟩ := indexOf?_eq_some.1 hi
      have hroom : i + part.length ≤ (t.units.drop start).length := add_length_le_of_standsAt hstands hle
      have hlen : 0 < part.length := List.length_pos_iff.2 hpart
      rw [List.length_drop] at hroom
      have hrest := @ih (start + i + part.length) (by omega) (by omega)
      have hskip : start + i + part.length - start = i + part.length := by omega
      rw [pieces_of_some hpart hi, List.intercalate_cons_of_ne_nil pieces_ne_nil, List.drop_drop]
      dsimp only
      rw [replaceFrom, Nat.add_sub_cancel_left, hskip, List.drop_drop, ← Nat.add_assoc, hrest]
      rw [List.append_assoc, ← Nat.add_assoc]
      rfl

end

end VariantForge.Pattern
