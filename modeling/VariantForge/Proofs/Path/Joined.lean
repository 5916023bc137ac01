import VariantForge.Proofs.Path.Through

/-!
# Joined and resolved paths

A relative path leads to the same place whether it is joined to a directory or resolved from there
(`wayTo_join_relative`). An absolute one does not: joined it is read below the directory, resolved it
is read from the root. So a path stands for one place below any directory exactly if it is relative,
climbs nowhere and goes anywhere at all (`leadsBelow_iff`).
-/

namespace VariantForge.Path

variable {cwd dir path : String} {base : List Part} {cs : List Char}

/-! ## Normal forms of relative paths -/

theorem normalizeChars_relative (hrel : isAbsoluteChars cs = false) :
    normalizeChars cs =
      (if normalParts true cs = [] then ['.'] else joinParts (normalParts true cs)) ++
        if cs.getLast? == some '/' then ['/'] else [] := by
  obtain ⟨k, ms, hms, hclimb, -⟩ := normalParts_climb cs
  have hplain := plain_of_climb (k := k) hms
  rw [← hclimb] at hplain
  simp only [normalizeChars, hrel, Bool.not_false, Bool.false_eq_true, if_false]
  by_cases hnil : normalParts true cs = []
  · rw [hnil, if_pos (by decide), if_pos rfl]
    split <;> rfl
  · rw [if_neg (joinParts_ne_nil hplain hnil), if_neg hnil]

theorem isAbsoluteChars_append {ds : List Char} (hne : ds ≠ []) :
    isAbsoluteChars (ds ++ cs) = isAbsoluteChars ds := by
  cases ds with
  | nil => exact absurd rfl hne
  | cons d ds => rfl

theorem isAbsoluteChars_normalizeChars_relative (hrel : isAbsoluteChars cs = false) :
    isAbsoluteChars (normalizeChars cs) = false := by
  obtain ⟨k, ms, hms, hclimb, -⟩ := normalParts_climb cs
  have hplain := plain_of_climb (k := k) hms
  rw [← hclimb] at hplain
  rw [normalizeChars_relative hrel]
  by_cases hnil : normalParts true cs = []
  · rw [if_pos hnil]
    rfl
  · rw [if_neg hnil, isAbsoluteChars_append (joinParts_ne_nil hplain hnil), isAbsoluteChars_joinParts hplain]

/-- The parts of a relative path in its normal form: those that are left of it, or a point if none are, and a blank
one after a slash at the end. -/
theorem parts_normalizeChars (hrel : isAbsoluteChars cs = false) :
    parts (normalizeChars cs) =
      (if normalParts true cs = [] then [['.']] else normalParts true cs) ++
        if cs.getLast? == some '/' then [[]] else [] := by
  obtain ⟨k, ms, hms, hclimb, -⟩ := normalParts_climb cs
  have hplain := plain_of_climb (k := k) hms
  rw [← hclimb] at hplain
  have hbody : parts (if normalParts true cs = [] then ['.'] else joinParts (normalParts true cs)) =
      if normalParts true cs = [] then [['.']] else normalParts true cs := by
    by_cases hnil : normalParts true cs = []
    · rw [if_pos hnil, if_pos hnil]
      decide
    · rw [if_neg hnil, if_neg hnil, parts_joinParts (fun p hp => (hplain p hp).2) hnil]
  rw [normalizeChars_relative hrel]
  cases cs.getLast? == some '/' with
  | true => rw [if_pos rfl, if_pos rfl, parts_append_slash, hbody, parts, List.splitOn_nil]
  | false => simpa using hbody

theorem up_mem_parts_normalizeChars (hrel : isAbsoluteChars cs = false) :
    up ∈ parts (normalizeChars cs) ↔ up ∈ normalParts true cs := by
  -- neither the point of a path that goes nowhere nor the blank part behind a last slash climbs
  have hdot : up ∉ [['.']] := by decide
  have hblank : up ∉ (if cs.getLast? == some '/' then [[]] else [] : List Part) := by
    split <;> decide
  rw [parts_normalizeChars hrel, List.mem_append, or_iff_left hblank]
  by_cases hnil : normalParts true cs = []
  · rw [if_pos hnil, hnil]
    exact iff_of_false hdot (by simp)
  · rw [if_neg hnil]

/-- A relative path in its normal form climbs at all only if it climbs first. -/
theorem head?_parts_normalizeChars (hrel : isAbsoluteChars cs = false) :
    (parts (normalizeChars cs)).head? = some up ↔ up ∈ normalParts true cs := by
  constructor
  · intro h
    exact (up_mem_parts_normalizeChars hrel).1 (List.mem_of_mem_head? h)
  · intro h
    obtain ⟨k, ns, hk, -⟩ := foldl_addPart_of_climbs h
    rw [parts_normalizeChars hrel, if_neg (List.ne_nil_of_mem h), hk]
    rfl

theorem descend_append_slash (base : List Part) (a b : List Char) :
    descend base (a ++ '/' :: b) = descend (descend base a) b := by
  rw [descend, parts_append_slash, List.foldl_append, descend, descend, List.reverse_reverse]

theorem descend_append_trailing (base : List Part) (ds : List Char) :
    descend base (ds ++ ['/']) = descend base ds := by
  rw [descend_append_slash, descend_nil]

/-- Normalising a relative path does not change where it leads. -/
theorem descend_normalizeChars (hrel : isAbsoluteChars cs = false) (hbase : ∀ q ∈ base, q ≠ up) :
    descend base (normalizeChars cs) = descend base cs := by
  obtain ⟨k, ms, hms, hclimb, hdescend⟩ := normalParts_climb cs
  have hplain := plain_of_climb (k := k) hms
  have hbody : descend base (if normalParts true cs = [] then ['.'] else joinParts (normalParts true cs)) =
      descend base cs := by
    rw [hdescend base hbase]
    by_cases hnil : normalParts true cs = []
    · rw [if_pos hnil]
      rw [hnil, eq_comm, List.append_eq_nil_iff, List.replicate_eq_nil_iff] at hclimb
      obtain ⟨rfl, rfl⟩ := hclimb
      rw [List.append_nil, Nat.sub_zero, List.take_length]
      exact List.reverse_reverse base
    · rw [if_neg hnil, hclimb, descend, parts_joinParts (fun p hp => (hplain p hp).2) (hclimb ▸ hnil),
        List.foldl_append, foldl_addPart_up (by simpa using hbase), foldl_addPart_names hms,
        List.drop_reverse]
      simp
  rw [normalizeChars_relative hrel]
  cases cs.getLast? == some '/' with
  | true => rw [if_pos rfl, descend_append_trailing, hbody]
  | false => simpa using hbody

/-! ## Where they lead -/

/-- A relative path that is joined to a directory leads where it leads from there. -/
theorem wayTo_join_relative (cwd dir : String) (h : isAbsolute path = false) :
    wayTo cwd (join [dir, path]) = descend (wayTo cwd dir) path.toList := by
  cases hdir : isAbsolute dir with
  | true =>
    rw [wayTo_of_isAbsolute cwd (isAbsolute_join hdir), wayTo_of_isAbsolute cwd hdir, normalParts_join hdir]
  | false =>
    have hcwd : ∀ q ∈ normalParts false cwd.toList, q ≠ up := fun q hq => (isName_of_mem_normalParts hq).ne_up
    -- a relative text is normalised, and leads where it led
    have hnormal {ds : List Char} (hds : isAbsoluteChars ds = false) :
        wayTo cwd (String.ofList (normalizeChars ds)) = descend (normalParts false cwd.toList) ds := by
      have hrel : isAbsolute (String.ofList (normalizeChars ds)) = false := by
        rw [isAbsolute, String.toList_ofList, isAbsoluteChars_normalizeChars_relative hds]
      rw [wayTo_of_relative cwd hrel, String.toList_ofList, descend_normalizeChars hds hcwd]
    rw [wayTo_of_relative cwd hdir]
    rw [isAbsolute] at h hdir
    by_cases hd : dir.toList = [] <;> by_cases hp : path.toList = []
    · have hjoin : join [dir, path] = String.ofList (normalizeChars []) := by simp [join, hd, hp]; rfl
      rw [hjoin, hnormal rfl, hd, hp, descend_nil, descend_nil]
    · have hjoin : join [dir, path] = String.ofList (normalizeChars path.toList) := by
        simp [join, hd, hp, joinParts, List.intercalate]
      rw [hjoin, hnormal h, hd, descend_nil]
    · have hjoin : join [dir, path] = String.ofList (normalizeChars dir.toList) := by
        simp [join, hd, hp, joinParts, List.intercalate]
      rw [hjoin, hnormal hdir, hp, descend_nil]
    · have hjoin : join [dir, path] = String.ofList (normalizeChars (dir.toList ++ '/' :: path.toList)) := by
        simp [join, hd, hp, joinParts, List.intercalate]
      rw [hjoin, hnormal ((isAbsoluteChars_append hd).trans hdir), descend_append_slash]

/-- A path that is resolved from a directory is resolved from there if it is relative, and from the root
if it is not. -/
theorem resolve_two (cwd dir path : String) :
    resolve cwd [dir, path] =
      absolute (if isAbsolute path then normalParts false path.toList else descend (wayTo cwd dir) path.toList) := by
  have hwhole : resolve cwd [dir, path] =
      absolute (normalParts false (stepInto (stepInto cwd.toList dir.toList) path.toList)) := rfl
  rw [hwhole]
  congr 1
  cases h : isAbsolute path with
  | true =>
    have hne : path.toList ≠ [] := by
      intro hr
      simp [isAbsolute, isAbsoluteChars, hr] at h
    have habs : isAbsoluteChars path.toList = true := h
    rw [stepInto, if_neg hne, if_pos habs]
    rfl
  | false =>
    rw [stepInto]
    split
    · rename_i hp
      rw [hp, descend_nil]
      rfl
    · have hrel : ¬ isAbsoluteChars path.toList = true := by simpa [isAbsolute] using h
      rw [if_neg hrel, normalParts_append_descend]
      rfl

theorem components_absolute {ns : List Part} (h : ∀ q ∈ ns, IsName q) :
    components (absolute ns) = ns.map String.ofList := by
  rw [components, (through_absolute h).normalParts]

theorem components_absolute_inj {ns ms : List Part} (hns : ∀ q ∈ ns, IsName q) (hms : ∀ q ∈ ms, IsName q) :
    components (absolute ns) = components (absolute ms) ↔ ns = ms := by
  rw [components_absolute hns, components_absolute hms]
  exact List.map_inj_right fun a b h => by simpa using congrArg String.toList h

/-! ## Below any directory -/

/-- Whether a path names a place below a directory. -/
def Below (dir path : String) : Prop := Inside dir path ∧ components path ≠ components dir

/-- Whether a path goes somewhere below the directory that it is read from. -/
structure LeadsBelow (path : String) : Prop where
  relative : isAbsolute path = false
  stays : StaysBelow path
  moves : normalParts true path.toList ≠ []

instance : DecidablePred LeadsBelow := fun path =>
  decidable_of_iff (isAbsolute path = false ∧ StaysBelow path ∧ normalParts true path.toList ≠ [])
    ⟨fun h => ⟨h.1, h.2.1, h.2.2⟩, fun h => ⟨h.relative, h.stays, h.moves⟩⟩

/-- A path names one place below every directory, whether it is joined to it or resolved from there,
exactly if it goes somewhere below the directory that it is read from. -/
theorem leadsBelow_iff (path : String) :
    (∀ cwd dir, components (resolve cwd [join [dir, path]]) = components (resolve cwd [dir, path]) ∧
      Below (resolve cwd [dir]) (resolve cwd [join [dir, path]])) ↔ LeadsBelow path := by
  have hname {base : List Part} (hbase : ∀ q ∈ base, IsName q) : ∀ q ∈ descend base path.toList, IsName q :=
    fun q => isName_of_mem_descend hbase
  constructor
  · intro hall
    have hjoin {d : List Part} (hd : ∀ q ∈ d, IsName q) :
        resolve "/" [join [absolute d, path]] = absolute (descend d path.toList) := by
      rw [resolve_absolute _ (isAbsolute_join (isAbsolute_absolute d)), normalParts_join (isAbsolute_absolute d),
        (through_absolute hd).normalParts]
    have hstays : StaysBelow path := by
      refine (forall_prefix_descend_iff path.toList).1 fun d hd => ?_
      have hinside := (hall "/" (absolute d)).2.1
      rwa [hjoin hd, resolve_through "/" (through_absolute hd), inside_iff, (through_absolute hd).normalParts,
        (through_absolute (hname hd)).normalParts] at hinside
    have hgo {d : List Part} (hd : ∀ q ∈ d, IsName q) : descend d path.toList = d ++ normalParts true path.toList :=
      descend_eq_append hstays fun q hq => (hd q hq).ne_up
    refine ⟨?_, hstays, fun hnil => ?_⟩
    · -- an absolute path is one place, and it would be below two directories
      by_contra habs
      have hone {d : List Part} (hd : ∀ q ∈ d, IsName q) :
          d ++ normalParts true path.toList = normalParts false path.toList := by
        have hsame := (hall "/" (absolute d)).1
        rw [hjoin hd, resolve_two, if_pos (by simpa using habs),
          components_absolute_inj (hname hd) fun q => isName_of_mem_normalParts, hgo hd] at hsame
        exact hsame
      have ha := hone (d := [['a']]) (by decide)
      have hb := hone (d := [['b']]) (by decide)
      simpa using ha.trans hb.symm
    · have hne := (hall "/" (absolute [])).2.2
      rw [hjoin (by simp), resolve_through "/" (through_absolute (by simp)), hgo (by simp), hnil] at hne
      exact hne rfl
  · rintro ⟨hrel, hstays, hmoves⟩ cwd dir
    have hway : ∀ q ∈ wayTo cwd dir, IsName q := fun q => isName_of_mem_wayTo
    have hgo : descend (wayTo cwd dir) path.toList = wayTo cwd dir ++ normalParts true path.toList :=
      descend_eq_append hstays fun q hq => (hway q hq).ne_up
    have hall : ∀ q ∈ wayTo cwd dir ++ normalParts true path.toList, IsName q := hgo ▸ hname hway
    rw [resolve_two, hrel, if_neg (by simp), resolve_eq, resolve_eq, wayTo_join_relative cwd dir hrel, hgo]
    refine ⟨rfl, ?_, fun hc => ?_⟩
    · rw [Inside, components_absolute hway, components_absolute hall, List.map_append]
      exact List.prefix_append _ _
    · rw [components_absolute_inj hall hway, List.append_right_eq_self] at hc
      exact hmoves hc

end VariantForge.Path
