import VariantForge.Proofs.Path.Parts
import VariantForge.Text.Basic

/-!
# Paths inside a directory

`Inside` compares the places that two absolute paths go through. A relative path leads out of no
directory exactly if its normal form has no part that climbs (`forall_prefix_descend_iff`); joining
it to a directory and resolving it from there give the same place.
-/

namespace VariantForge.Path

/-- Whether an absolute path names a directory or a place below it. -/
def Inside (dir path : String) : Prop := components dir <+: components path

instance (dir path : String) : Decidable (Inside dir path) :=
  inferInstanceAs (Decidable (components dir <+: components path))

/-- Whether no part of a path leads above the directory that it is read from. -/
def StaysBelow (path : String) : Prop := up ∉ normalParts true path.toList

instance (path : String) : Decidable (StaysBelow path) :=
  inferInstanceAs (Decidable (up ∉ normalParts true path.toList))

/-- The parts that lead to a path from the root, given those that lead to the directory that it is
read from. -/
def descend (dir : List Part) (cs : List Char) : List Part :=
  ((parts cs).foldl (addPart false) dir.reverse).reverse

/-! ## Where joined and resolved paths lead -/

@[simp] theorem descend_nil (dir : List Part) : descend dir [] = dir := by
  simp [descend, parts]

/-- What is not a name leads from a directory to itself or to what is above it. -/
theorem descend_unnamed {ns : List Part} {q : Part} {cs : List Char} (hq : q ≠ up) (hslash : '/' ∉ cs)
    (hcs : ¬ IsName cs) : descend (ns ++ [q]) cs <+: ns ++ [q] := by
  have hcases : cs = [] ∨ cs = ['.'] ∨ cs = up := by
    by_contra hne
    rw [not_or, not_or] at hne
    exact hcs ⟨hne.1, hne.2.1, hne.2.2, hslash⟩
  rw [descend, show parts cs = [cs] from List.splitOn_eq_singleton hslash, List.reverse_concat, List.foldl_cons,
    List.foldl_nil]
  rcases hcases with rfl | rfl | rfl
  · simp
  · simp [addPart]
  · rw [addPart_up hq, List.reverse_reverse]
    exact List.prefix_append _ _

theorem isName_of_mem_descend {dir : List Part} (hd : ∀ p ∈ dir, IsName p) {cs : List Char}
    {p : Part} (h : p ∈ descend dir cs) : IsName p := by
  rw [descend, List.mem_reverse] at h
  rcases mem_foldl_addPart h fun q hq => slash_notMem_of_mem_parts hq with h | h | h
  · exact hd p (List.mem_reverse.1 h)
  · exact h
  · cases h.1

theorem normalParts_append_descend (a b : List Char) :
    normalParts false (a ++ '/' :: b) = descend (normalParts false a) b :=
  normalParts_append_slash false a b

theorem normalParts_absolute {ps : List Part} (h : ∀ p ∈ ps, IsName p) :
    normalParts false ('/' :: joinParts ps) = ps := by
  rw [normalParts_slash, normalParts_joinParts h]

theorem toList_absolute (ps : List Part) : (absolute ps).toList = '/' :: joinParts ps := by
  rw [absolute, String.toList_ofList]

theorem isAbsoluteChars_normalizeChars {cs : List Char} (h : isAbsoluteChars cs = true) :
    isAbsoluteChars (normalizeChars cs) = true := by
  simp only [normalizeChars, h, if_true]
  split <;> simp [isAbsoluteChars]

theorem isAbsolute_normalize {path : String} (h : isAbsolute path = true) :
    isAbsolute (normalize path) = true := by
  rw [isAbsolute, normalize, String.toList_ofList]
  exact isAbsoluteChars_normalizeChars h

theorem normalParts_normalizeChars {cs : List Char} (h : isAbsoluteChars cs = true) :
    normalParts false (normalizeChars cs) = normalParts false cs := by
  have hn : ∀ p ∈ normalParts false cs, IsName p := fun p => isName_of_mem_normalParts
  have hroot : normalParts false ['/'] = [] := by decide
  simp only [normalizeChars, h, Bool.not_true, if_true]
  split
  · rename_i hb
    have := normalParts_absolute hn
    rw [hb] at this
    rw [hroot, ← this, hroot]
  · split
    · rw [normalParts_append_trailing, normalParts_absolute hn]
    · rw [List.append_nil, normalParts_absolute hn]

/-- Joining to an absolute path is normalising an absolute text. -/
theorem join_eq {root : String} (file : String) (h : isAbsolute root = true) :
    ∃ cs, isAbsoluteChars cs = true ∧ join [root, file] = String.ofList (normalizeChars cs) ∧
      normalParts false cs = descend (normalParts false root.toList) file.toList := by
  have hr : root.toList ≠ [] := by
    intro hr
    simp [isAbsolute, isAbsoluteChars, hr] at h
  by_cases hf : file.toList = []
  · refine ⟨root.toList, h, ?_, by rw [hf, descend_nil]⟩
    simp [join, hr, hf, joinParts, List.intercalate]
  · refine ⟨root.toList ++ '/' :: file.toList, ?_, ?_, normalParts_append_descend _ _⟩
    · cases hc : root.toList with
      | nil => exact absurd hc hr
      | cons c cs => simpa [isAbsolute, isAbsoluteChars, hc] using h
    · simp [join, hr, hf, joinParts, List.intercalate]

theorem normalParts_join {root file : String} (h : isAbsolute root = true) :
    normalParts false (join [root, file]).toList =
      descend (normalParts false root.toList) file.toList := by
  obtain ⟨cs, habs, hjoin, hparts⟩ := join_eq file h
  rw [hjoin, String.toList_ofList, normalParts_normalizeChars habs, hparts]

theorem isAbsolute_join {root file : String} (h : isAbsolute root = true) :
    isAbsolute (join [root, file]) = true := by
  obtain ⟨cs, habs, hjoin, -⟩ := join_eq file h
  rw [hjoin, isAbsolute, String.toList_ofList, isAbsoluteChars_normalizeChars habs]

/-- The path that is resolved from an absolute directory has the parts that lead to it from there. -/
theorem resolve_eq_absolute (cwd : String) {dir file : String} (h : isAbsolute dir = true)
    (hf : isAbsolute file = false) :
    resolve cwd [dir, file] = absolute (descend (normalParts false dir.toList) file.toList) := by
  have hne : dir.toList ≠ [] := by
    intro hr
    simp [isAbsolute, isAbsoluteChars, hr] at h
  simp only [isAbsolute] at h hf
  simp only [resolve, List.foldl_cons, List.foldl_nil, absolute]
  by_cases hfile : file.toList = []
  · simp [stepInto, hne, h, hfile]
  · simp only [stepInto, hne, h, hfile, hf, if_true, if_false, Bool.false_eq_true]
    rw [normalParts_append_descend]

theorem resolve_absolute (cwd : String) {path : String} (h : isAbsolute path = true) :
    resolve cwd [path] = absolute (normalParts false path.toList) := by
  have hne : path.toList ≠ [] := by
    intro hr
    simp [isAbsolute, isAbsoluteChars, hr] at h
  simp only [isAbsolute] at h
  simp only [resolve, List.foldl_cons, List.foldl_nil, absolute, stepInto, hne, h, if_true, if_false]

theorem exists_resolve (cwd : String) (paths : List String) :
    ∃ ns, (∀ p ∈ ns, IsName p) ∧ resolve cwd paths = absolute ns :=
  ⟨_, fun _ hp => isName_of_mem_normalParts hp, rfl⟩

theorem normalParts_resolve (cwd : String) {dir file : String} (h : isAbsolute dir = true)
    (hf : isAbsolute file = false) :
    normalParts false (resolve cwd [dir, file]).toList =
      descend (normalParts false dir.toList) file.toList := by
  rw [resolve_eq_absolute cwd h hf, toList_absolute]
  refine normalParts_absolute fun p hp => ?_
  exact isName_of_mem_descend (fun q hq => isName_of_mem_normalParts hq) hp

/-! ## What leads out of no directory -/

/-- A path that climbs nowhere adds its own parts to those of the directory. -/
theorem descend_eq_append {cs : List Char} (h : up ∉ normalParts true cs) {dir : List Part}
    (hd : ∀ p ∈ dir, p ≠ up) : descend dir cs = dir ++ normalParts true cs := by
  obtain ⟨k, ns, -, htrue, hfalse⟩ := foldl_addPart (parts cs)
  have hk : k = 0 := by
    cases k with
    | zero => rfl
    | succ k => simp [normalParts, htrue, List.replicate_succ] at h
  rw [descend, hfalse dir.reverse (by simpa using hd), normalParts, htrue, hk]
  simp

/-- A path that climbs at all climbs first, and to any directory it does what it does to none. -/
theorem foldl_addPart_of_climbs {cs : List Char} (h : up ∈ normalParts true cs) :
    ∃ k ns, normalParts true cs = up :: (List.replicate k up ++ ns.reverse) ∧
      ∀ before : List Part, (∀ p ∈ before, p ≠ up) →
        (parts cs).foldl (addPart false) before = ns ++ before.drop (k + 1) := by
  obtain ⟨k, ns, hns, htrue, hfalse⟩ := foldl_addPart (parts cs)
  rw [normalParts, htrue] at h ⊢
  cases k with
  | zero => exact absurd rfl (hns up (by simpa using h))
  | succ k =>
    refine ⟨k, ns, ?_, hfalse⟩
    rw [List.reverse_append, List.reverse_replicate, List.replicate_succ, List.cons_append]

/-- From two directories at the root under different names, a climbing path leads to one place, so
it leaves one of them. -/
theorem descend_top_eq {cs : List Char} (h : up ∈ normalParts true cs) {a b : Part} (ha : a ≠ up)
    (hb : b ≠ up) : descend [a] cs = descend [b] cs := by
  obtain ⟨k, ns, -, hfalse⟩ := foldl_addPart_of_climbs h
  rw [descend, descend, hfalse _ (by simpa using ha), hfalse _ (by simpa using hb)]
  simp

/-- The normal form of a path that climbs begins with the part that does. -/
theorem normalizeChars_climbing {cs : List Char} (hrel : isAbsoluteChars cs = false)
    (h : up ∈ normalParts true cs) :
    normalizeChars cs = up ∨ (up ++ ['/']) <+: normalizeChars cs := by
  obtain ⟨rest, hrest⟩ : ∃ rest, normalParts true cs = up :: rest := by
    obtain ⟨k, ns, hk, -⟩ := foldl_addPart_of_climbs h
    exact ⟨_, hk⟩
  simp only [normalizeChars, hrel, Bool.not_false, hrest, Bool.false_eq_true, if_false]
  cases rest with
  | nil =>
    have hone : joinParts [up] = up := by decide
    have hne : up ≠ [] := by decide
    rw [hone, if_neg hne]
    split
    · exact .inr (List.prefix_refl _)
    · exact .inl (List.append_nil up)
  | cons p ps =>
    have hbody : joinParts (up :: p :: ps) = up ++ '/' :: joinParts (p :: ps) := by
      simp [joinParts, List.intercalate]
    rw [hbody, if_neg (by simp), List.append_assoc, List.cons_append]
    exact .inr (List.prefix_append_right_inj up |>.2 (List.prefix_append ['/'] _))

theorem normalize_climbing {path : String} (hrel : isAbsolute path = false)
    (h : up ∈ normalParts true path.toList) :
    normalize path = ".." ∨ Text.startsWith (normalize path) "../" = true := by
  rcases normalizeChars_climbing hrel h with hc | hc
  · left
    rw [normalize, hc]
    rfl
  · right
    rw [Text.startsWith, normalize, String.toList_ofList, String.toList_ofList]
    exact List.isPrefixOf_iff_prefix.2 hc

theorem forall_prefix_descend_iff (cs : List Char) :
    (∀ dir : List Part, (∀ p ∈ dir, IsName p) → dir <+: descend dir cs) ↔
      up ∉ normalParts true cs := by
  constructor
  · intro hall hup
    have hname : ∀ c : Char, c = 'a' ∨ c = 'b' → ∀ p ∈ [[c]], IsName p := by
      rintro c hc p hp
      obtain rfl := List.mem_singleton.1 hp
      rcases hc with rfl | rfl <;> exact ⟨by decide, by decide, by decide, by decide⟩
    have ha := hall [['a']] (hname 'a' (.inl rfl))
    have hb := hall [['b']] (hname 'b' (.inr rfl))
    rw [descend_top_eq hup (a := ['a']) (b := ['b']) (by decide) (by decide)] at ha
    -- both names would stand first in the one place
    have := List.prefix_of_prefix_length_le ha hb (by simp)
    simp at this
  · intro h dir hd
    rw [descend_eq_append h fun p hp => (hd p hp).ne_up]
    exact List.prefix_append _ _

/-! ## The directory above -/

/-- The text of the path with some parts without the slash at the root. -/
def bareAbsolute (ns : List Part) : List Char := if ns = [] then [] else '/' :: joinParts ns

theorem toList_absolute_append (ns : List Part) (q : Part) :
    (absolute (ns ++ [q])).toList = bareAbsolute ns ++ '/' :: q := by
  rw [toList_absolute, bareAbsolute]
  split
  · rename_i hns
    rw [hns, List.nil_append, joinParts_singleton, List.nil_append]
  · rename_i hns
    rw [joinParts_append_singleton hns, List.cons_append]

/-- Read from its end, an absolute path gives its last part and then a slash. -/
theorem absolute_append (ns : List Part) (q : Part) (s : String) :
    absolute (ns ++ [q]) ++ s = absolute (ns ++ [q ++ s.toList]) := by
  rw [← String.toList_inj, String.toList_append, toList_absolute_append, toList_absolute_append, List.append_assoc,
    List.cons_append]

theorem dropWhile_absolute_append (ns : List Part) {q : Part} (hq : '/' ∉ q) :
    (absolute (ns ++ [q])).toList.reverse.dropWhile (· != '/') = '/' :: (bareAbsolute ns).reverse := by
  have hall : ∀ c ∈ q.reverse, (c != '/') = true := by
    intro c hc
    have : c ≠ '/' := fun he => hq (he ▸ List.mem_reverse.1 hc)
    simpa using this
  rw [toList_absolute_append, List.reverse_append, List.reverse_cons, List.append_assoc,
    List.dropWhile_append_of_pos hall]
  rfl

/-- An absolute path that ends in a name has no slashes at its end. -/
theorem reversedBare_absolute (ns : List Part) {q : Part} (hq : IsName q) :
    reversedBare (absolute (ns ++ [q])).toList = (absolute (ns ++ [q])).toList.reverse := by
  obtain ⟨c, cs, hc⟩ : ∃ c cs, q.reverse = c :: cs :=
    List.exists_cons_of_ne_nil (by simpa using hq.ne_nil)
  have hslash : (c == '/') = false := by
    have hmem : c ∈ q := List.mem_reverse.1 (by simp [hc])
    simpa using fun he : c = '/' => hq.no_slash (he ▸ hmem)
  rw [reversedBare, toList_absolute_append, List.reverse_append, List.reverse_cons, hc]
  simp [hslash]

theorem dirname_absolute {ns : List Part} {q : Part} (hns : ∀ p ∈ ns, IsName p) (hq : IsName q) :
    dirname (absolute (ns ++ [q])) = absolute ns := by
  simp only [dirname, reversedBare_absolute ns hq, dropWhile_absolute_append ns hq.no_slash]
  cases ns with
  | nil => rfl
  | cons p ns =>
    have hlong : bareAbsolute (p :: ns) = '/' :: joinParts (p :: ns) := if_neg (by simp)
    obtain ⟨c, cs, hc⟩ : ∃ c cs, p = c :: cs := List.exists_cons_of_ne_nil (hns p (by simp)).ne_nil
    obtain ⟨x, y, rest, hrev⟩ : ∃ x y rest, (bareAbsolute (p :: ns)).reverse = x :: y :: rest := by
      have hlen : 2 ≤ (bareAbsolute (p :: ns)).reverse.length := by
        rw [List.length_reverse, hlong, List.length_cons, hc]
        cases ns with
        | nil => simp [joinParts_singleton]
        | cons q ns => simp [joinParts_cons_cons]
      match hr : (bareAbsolute (p :: ns)).reverse, hlen with
      | x :: y :: rest, _ => exact ⟨x, y, rest, rfl⟩
    rw [hrev]
    simp only
    rw [← hrev, List.reverse_reverse, hlong, absolute]

/-! ## Paths of a directory -/

theorem inside_iff {dir path : String} :
    Inside dir path ↔ normalParts false dir.toList <+: normalParts false path.toList := by
  rw [Inside, components, components]
  constructor
  · intro h
    simpa [List.map_map, Function.comp_def] using h.map String.toList
  · exact fun h => h.map String.ofList

/-- Going by the text alone tells the places of a directory other than the root. -/
theorem isInside_absolute_iff {ns ms : List Part} (hns : ∀ p ∈ ns, IsName p) (hms : ∀ p ∈ ms, IsName p)
    (hne : ns ≠ []) : isInside (absolute ns) (absolute ms) = true ↔ ns <+: ms := by
  rw [isInside, Bool.or_eq_true, beq_iff_eq, List.isPrefixOf_iff_prefix, toList_absolute, toList_absolute,
    List.cons_append, List.cons_prefix_cons]
  constructor
  · rintro (heq | ⟨-, rest, hrest⟩)
    · have hparts := congrArg (fun p => normalParts false p.toList) heq
      simp only [toList_absolute, normalParts_absolute hns, normalParts_absolute hms] at hparts
      exact hparts ▸ List.prefix_refl _
    · -- the slash after the directory ends its last part, so the parts of the path begin with its parts
      have hjoin : joinParts ns ++ '/' :: rest = joinParts ms := by simpa using hrest
      have hms' : ms ≠ [] := by
        rintro rfl
        simp [joinParts] at hjoin
      have hparts := congrArg parts hjoin
      rw [parts_append_slash, parts_joinParts (fun p hp => (hns p hp).no_slash) hne,
        parts_joinParts (fun p hp => (hms p hp).no_slash) hms'] at hparts
      exact ⟨_, hparts⟩
  · rintro ⟨rest, rfl⟩
    cases rest with
    | nil => exact .inl (by rw [List.append_nil])
    | cons q rest =>
      refine .inr ⟨rfl, joinParts (q :: rest), ?_⟩
      rw [joinParts_append hne (by simp), List.append_assoc, List.singleton_append]

theorem inside_join_iff (file : String) :
    (∀ root, isAbsolute root = true → Inside root (join [root, file])) ↔ StaysBelow file := by
  rw [StaysBelow, ← forall_prefix_descend_iff]
  constructor
  · intro hall dir hd
    have h := hall (absolute dir) (isAbsolute_absolute dir)
    rwa [inside_iff, normalParts_join (isAbsolute_absolute dir), toList_absolute,
      normalParts_absolute hd] at h
  · intro hall root hroot
    rw [inside_iff, normalParts_join hroot]
    exact hall _ fun p => isName_of_mem_normalParts

theorem inside_resolve_iff (cwd : String) {file : String} (hf : isAbsolute file = false) :
    (∀ dir, isAbsolute dir = true → Inside dir (resolve cwd [dir, file])) ↔ StaysBelow file := by
  rw [StaysBelow, ← forall_prefix_descend_iff]
  constructor
  · intro hall dir hd
    have h := hall (absolute dir) (isAbsolute_absolute dir)
    rwa [inside_iff, normalParts_resolve cwd (isAbsolute_absolute dir) hf, toList_absolute,
      normalParts_absolute hd] at h
  · intro hall dir hdir
    rw [inside_iff, normalParts_resolve cwd hdir hf]
    exact hall _ fun p => isName_of_mem_normalParts

end VariantForge.Path
