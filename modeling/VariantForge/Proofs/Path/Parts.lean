import Mathlib.Data.List.Induction
import VariantForge.Path
import VariantForge.Proofs.Text.Separators

/-!
# Parts of paths

Normalising is a fold over the parts of a path. Its result is told by two things: how far the path
climbs above the directory it starts from, and the names it then goes down (`foldl_addPart`). From
this follow the normal forms of joined and of resolved paths.
-/

namespace VariantForge.Path

/-- A part that is a plain name: it is not blank, goes neither nowhere nor up, and holds no slash. -/
structure IsName (p : Part) : Prop where
  ne_nil : p ≠ []
  ne_here : p ≠ ['.']
  ne_up : p ≠ up
  no_slash : '/' ∉ p

instance : DecidablePred IsName := fun p =>
  decidable_of_iff (p ≠ [] ∧ p ≠ ['.'] ∧ p ≠ up ∧ '/' ∉ p)
    ⟨fun h => ⟨h.1, h.2.1, h.2.2.1, h.2.2.2⟩, fun h => ⟨h.ne_nil, h.ne_here, h.ne_up, h.no_slash⟩⟩

/-- What begins with something else than a point is a name if it holds no slash. -/
theorem isName_append {a b : Part} (hne : a ≠ []) (hhead : a.head? ≠ some '.') (ha : '/' ∉ a)
    (hb : '/' ∉ b) : IsName (a ++ b) := by
  cases a with
  | nil => exact absurd rfl hne
  | cons x xs =>
    have hx : x ≠ '.' := by simpa using hhead
    refine ⟨by simp, by simp [hx], by simp [up, hx], ?_⟩
    rw [List.mem_append, not_or]
    exact ⟨ha, hb⟩

/-! ## Splitting and joining -/

theorem slash_notMem_of_mem_parts {cs : List Char} {p : Part} (h : p ∈ parts cs) : '/' ∉ p :=
  Text.notMem_of_mem_splitOn h

theorem parts_append_slash (a b : List Char) : parts (a ++ '/' :: b) = parts a ++ parts b :=
  List.splitOn_append_cons_self a b

theorem parts_slash (b : List Char) : parts ('/' :: b) = [] :: parts b := parts_append_slash [] b

theorem mem_parts_append_slash {q : Part} (hq : '/' ∉ q) (rest : List Char) : q ∈ parts (q ++ '/' :: rest) := by
  rw [parts_append_slash, parts, List.splitOn_eq_singleton hq]
  exact List.mem_append_left _ (List.mem_singleton_self q)

theorem joinParts_singleton (p : Part) : joinParts [p] = p := by
  simp [joinParts, List.intercalate]

theorem joinParts_cons_cons (p q : Part) (ps : List Part) :
    joinParts (p :: q :: ps) = p ++ '/' :: joinParts (q :: ps) := by
  simp [joinParts, List.intercalate]

theorem joinParts_append {ps qs : List Part} (hps : ps ≠ []) (hqs : qs ≠ []) :
    joinParts (ps ++ qs) = joinParts ps ++ '/' :: joinParts qs := by
  obtain ⟨q, qs, rfl⟩ := List.exists_cons_of_ne_nil hqs
  induction ps with
  | nil => exact absurd rfl hps
  | cons p ps ih =>
    cases ps with
    | nil => rw [List.singleton_append, joinParts_cons_cons, joinParts_singleton]
    | cons r ps =>
      rw [List.cons_append, List.cons_append, joinParts_cons_cons, joinParts_cons_cons,
        ← List.cons_append, ih (by simp), List.append_assoc, List.cons_append]

theorem joinParts_append_singleton {ps : List Part} (hne : ps ≠ []) (p : Part) :
    joinParts (ps ++ [p]) = joinParts ps ++ '/' :: p := by
  rw [joinParts_append hne (by simp), joinParts_singleton]

theorem parts_joinParts {ps : List Part} (h : ∀ p ∈ ps, '/' ∉ p) (hne : ps ≠ []) :
    parts (joinParts ps) = ps :=
  List.splitOn_intercalate '/' h hne

/-- A part stays a part when characters are put in the place of others, if it holds none of these. -/
theorem mem_parts_map {cs : List Char} {p : Part} {f : Char → Char} (hslash : f '/' = '/') (hp : p.map f = p)
    (h : p ∈ parts cs) : p ∈ parts (cs.map f) := by
  have hnone : '/' ∉ p := slash_notMem_of_mem_parts h
  have hjoin : joinParts (parts cs) = cs := List.intercalate_splitOn '/'
  rw [← hjoin]
  generalize parts cs = ps at h
  induction ps with
  | nil => cases h
  | cons q ps ih =>
    have hhead : p = q → p ∈ parts (q.map f) := by
      rintro rfl
      rw [hp, parts, List.splitOn_eq_singleton hnone]
      exact List.mem_singleton_self _
    cases ps with
    | nil =>
      rw [joinParts_singleton]
      exact hhead (List.mem_singleton.1 h)
    | cons r ps =>
      rw [joinParts_cons_cons, List.map_append, List.map_cons, hslash, parts_append_slash, List.mem_append]
      exact (List.mem_cons.1 h).imp hhead ih

/-- The text of the absolute path with some parts. -/
def absolute (ps : List Part) : String := String.ofList ('/' :: joinParts ps)

@[simp] theorem isAbsolute_absolute (ps : List Part) : isAbsolute (absolute ps) = true := by
  simp [isAbsolute, isAbsoluteChars, absolute]

/-! ## The fold -/

@[simp] theorem addPart_nil (c : Bool) (before : List Part) : addPart c before [] = before := by
  simp [addPart]

theorem addPart_name {c : Bool} {before : List Part} {p : Part} (h : IsName p) :
    addPart c before p = p :: before := by
  simp [addPart, h.ne_nil, h.ne_here, h.ne_up]

theorem addPart_up {c : Bool} {top : Part} {rest : List Part} (h : top ≠ up) :
    addPart c (top :: rest) up = rest := by
  have hne : ¬(up = [] ∨ up = ['.']) := by decide
  simp only [addPart, hne, h, if_true, if_false]

theorem addPart_up_up {c : Bool} {rest : List Part} :
    addPart c (up :: rest) up = up :: up :: rest := by
  simp only [addPart, show ¬(up = [] ∨ up = ['.']) by decide, if_true, if_false]

theorem foldl_addPart_names {c : Bool} {ps before : List Part} (h : ∀ p ∈ ps, IsName p) :
    ps.foldl (addPart c) before = ps.reverse ++ before := by
  induction ps generalizing before with
  | nil => rfl
  | cons p ps ih =>
    rw [List.foldl_cons, addPart_name (h p (by simp)), ih fun q hq => h q (by simp [hq])]
    simp

theorem foldl_addPart_up {k : Nat} {before : List Part} (h : ∀ p ∈ before, p ≠ up) :
    (List.replicate k up).foldl (addPart false) before = before.drop k := by
  induction k generalizing before with
  | zero => rfl
  | succ k ih =>
    rw [List.replicate_succ, List.foldl_cons]
    cases before with
    | nil =>
      have hroot : addPart false [] up = [] := by decide
      rw [hroot, ih h, List.drop_nil, List.drop_nil]
    | cons top rest =>
      rw [addPart_up (h top (by simp)), List.drop_succ_cons]
      exact ih fun p hp => h p (by simp [hp])

theorem mem_foldl_addPart {c : Bool} {ps before : List Part} {p : Part}
    (h : p ∈ ps.foldl (addPart c) before) (hs : ∀ q ∈ ps, '/' ∉ q) :
    p ∈ before ∨ IsName p ∨ (c = true ∧ p = up) := by
  induction ps generalizing before with
  | nil => exact .inl h
  | cons q ps ih =>
    rw [List.foldl_cons] at h
    rcases ih h fun r hr => hs r (by simp [hr]) with h | h
    · by_cases hq : IsName q
      · rw [addPart_name hq, List.mem_cons] at h
        rcases h with rfl | h
        · exact .inr (.inl hq)
        · exact .inl h
      · simp only [addPart] at h
        split at h
        · exact .inl h
        · rename_i hne
          split at h
          · split at h
            · cases c <;> simp_all
            · split at h
              · simp_all
              · exact .inl (by simp [h])
          · rename_i hup
            have hne := not_or.1 hne
            exact absurd ⟨hne.1, hne.2, hup, hs q (by simp)⟩ hq
    · exact .inr h

/-- What a list of parts does to any directory is told by how far it climbs from no directory at
all, and by the names that it goes down from there. -/
theorem foldl_addPart (ps : List Part) :
    ∃ k ns, (∀ p ∈ ns, p ≠ up) ∧ ps.foldl (addPart true) [] = ns ++ List.replicate k up ∧
      ∀ before : List Part, (∀ p ∈ before, p ≠ up) →
        ps.foldl (addPart false) before = ns ++ before.drop k := by
  -- the last part comes last, so the induction adds parts at the end
  induction ps using List.reverseRecOn with
  | nil => exact ⟨0, [], by simp, rfl, fun before _ => by simp⟩
  | append_singleton ps p ih =>
    obtain ⟨k, ns, hns, htrue, hfalse⟩ := ih
    simp only [List.foldl_append, List.foldl_cons, List.foldl_nil, htrue]
    by_cases hblank : p = [] ∨ p = ['.']
    · refine ⟨k, ns, hns, by simp [addPart, hblank], fun before hb => ?_⟩
      rw [hfalse before hb]
      simp [addPart, hblank]
    · by_cases hup : p = up
      · subst hup
        cases ns with
        | nil =>
          refine ⟨k + 1, [], by simp, ?_, fun before hb => ?_⟩
          · cases k with
            | zero => rfl
            | succ k => simp [List.replicate_succ, addPart_up_up]
          · rw [hfalse before hb, List.nil_append, List.nil_append, ← List.drop_drop]
            have htop : ∀ q ∈ before.drop k, q ≠ up := fun q hq => hb q (List.mem_of_mem_drop hq)
            cases hd : before.drop k with
            | nil => rfl
            | cons top rest => exact addPart_up (htop top (by simp [hd]))
        | cons n ns =>
          have hn : n ≠ up := hns n (by simp)
          refine ⟨k, ns, fun q hq => hns q (by simp [hq]), addPart_up hn, fun before hb => ?_⟩
          rw [hfalse before hb]
          exact addPart_up hn
      · refine ⟨k, p :: ns, ?_, by simp [addPart, hblank, hup], fun before hb => ?_⟩
        · intro q hq
          rcases List.mem_cons.1 hq with rfl | hq
          · exact hup
          · exact hns q hq
        · rw [hfalse before hb]
          simp [addPart, hblank, hup]

/-! ## Normal forms -/

theorem isName_of_mem_normalParts {cs : List Char} {p : Part} (h : p ∈ normalParts false cs) :
    IsName p := by
  rw [normalParts, List.mem_reverse] at h
  rcases mem_foldl_addPart h fun q hq => slash_notMem_of_mem_parts hq with h | h | h
  · simp at h
  · exact h
  · simp at h

theorem isName_of_mem_of_up_notMem {c : Bool} {cs : List Char} {p : Part} (h : p ∈ normalParts c cs)
    (hup : up ∉ normalParts c cs) : IsName p := by
  have hne : p ≠ up := fun he => hup (he ▸ h)
  rw [normalParts, List.mem_reverse] at h
  rcases mem_foldl_addPart h fun q hq => slash_notMem_of_mem_parts hq with h | h | h
  · simp at h
  · exact h
  · exact absurd h.2 hne

/-- The parts of a path that does not climb, without those that lead nowhere. -/
theorem normalParts_eq_filter {c : Bool} {cs : List Char} (h : up ∉ parts cs) :
    normalParts c cs = (parts cs).filter fun p => ¬ (p = [] ∨ p = ['.']) := by
  have hfold (ps before : List Part) (hps : up ∉ ps) :
      ps.foldl (addPart c) before = (ps.filter fun p => ¬ (p = [] ∨ p = ['.'])).reverse ++ before := by
    induction ps generalizing before with
    | nil => rfl
    | cons p ps ih =>
      rw [List.mem_cons, not_or] at hps
      rw [List.foldl_cons, ih _ hps.2]
      by_cases hblank : p = [] ∨ p = ['.']
      · rw [List.filter_cons_of_neg (by rw [decide_eq_true_eq, not_not]; exact hblank)]
        simp only [addPart, if_pos hblank]
      · rw [List.filter_cons_of_pos (by simpa using hblank), List.reverse_cons, List.append_assoc]
        simp only [addPart, if_neg hblank, if_neg (Ne.symm hps.1), List.singleton_append]
  rw [normalParts, hfold _ _ h, List.append_nil, List.reverse_reverse]

theorem up_notMem_normalParts {climbs : Bool} {cs : List Char} (h : up ∉ parts cs) :
    up ∉ normalParts climbs cs := by
  rw [normalParts_eq_filter h]
  exact fun hc => h (List.mem_filter.1 hc).1

theorem normalParts_append_slash (c : Bool) (a b : List Char) :
    normalParts c (a ++ '/' :: b) =
      ((parts b).foldl (addPart c) (normalParts c a).reverse).reverse := by
  simp [normalParts, parts_append_slash]

@[simp] theorem normalParts_slash (c : Bool) (b : List Char) :
    normalParts c ('/' :: b) = normalParts c b := by
  simp [normalParts, parts_slash]

/-- A slash at the end counts for nothing. -/
theorem normalParts_append_trailing (c : Bool) (a : List Char) :
    normalParts c (a ++ ['/']) = normalParts c a := by
  rw [normalParts_append_slash]
  simp [parts, normalParts]

theorem normalParts_joinParts {c : Bool} {ps : List Part} (h : ∀ p ∈ ps, IsName p) :
    normalParts c (joinParts ps) = ps := by
  cases ps with
  | nil => simp [normalParts, joinParts, parts]
  | cons p ps =>
    rw [normalParts, parts_joinParts (fun q hq => (h q hq).no_slash) (by simp),
      foldl_addPart_names h]
    simp

theorem joinParts_ne_nil {ps : List Part} (h : ∀ p ∈ ps, p ≠ [] ∧ '/' ∉ p) (hne : ps ≠ []) :
    joinParts ps ≠ [] := by
  intro hc
  have hparts := parts_joinParts (fun p hp => (h p hp).2) hne
  rw [hc] at hparts
  exact (h [] (by simp [← hparts, parts])).1 rfl

theorem isAbsoluteChars_joinParts {ps : List Part} (h : ∀ p ∈ ps, p ≠ [] ∧ '/' ∉ p) :
    isAbsoluteChars (joinParts ps) = false := by
  cases ps with
  | nil => rfl
  | cons p ps =>
    obtain ⟨hne, hslash⟩ := h p (by simp)
    obtain ⟨rest, hrest⟩ : ∃ rest, joinParts (p :: ps) = p ++ rest := by
      cases ps with
      | nil => exact ⟨[], by rw [joinParts_singleton, List.append_nil]⟩
      | cons q ps => exact ⟨_, joinParts_cons_cons p q ps⟩
    cases p with
    | nil => exact absurd rfl hne
    | cons c cs =>
      have hc : c ≠ '/' := fun he => hslash (by simp [he])
      simpa [isAbsoluteChars, hrest] using hc

/-- What joined parts hold besides slashes is what the parts hold. -/
theorem mem_joinParts {ps : List Part} {c : Char} (hc : c ≠ '/') :
    c ∈ joinParts ps ↔ ∃ p ∈ ps, c ∈ p := by
  induction ps with
  | nil => simp [joinParts]
  | cons p ps ih =>
    cases ps with
    | nil => rw [joinParts_singleton]; simp
    | cons q ps =>
      rw [joinParts_cons_cons, List.mem_append, List.mem_cons, ih]
      simp [hc]

end VariantForge.Path
