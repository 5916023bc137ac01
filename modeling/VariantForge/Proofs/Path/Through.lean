import VariantForge.Proofs.Path.Inside

/-!
# Paths in normal form

A path that was joined to an absolute one, or resolved, goes from the root through some names and
has no other parts (`Through`). Joining a path that climbs nowhere goes on from there.
-/

namespace VariantForge.Path

/-- Whether a path goes from the root through some names alone. A slash may follow the last one. -/
structure Through (path : String) (ns : List Part) : Prop where
  names : ∀ q ∈ ns, IsName q
  text : path = absolute ns ∨ ns ≠ [] ∧ path.toList = (absolute ns).toList ++ ['/']

variable {dir file path : String} {ns : List Part} {q : Part}

theorem through_absolute (h : ∀ q ∈ ns, IsName q) : Through (absolute ns) ns := ⟨h, .inl rfl⟩

theorem Through.isAbsolute (h : Through path ns) : isAbsolute path = true := by
  rcases h.text with rfl | ⟨-, htext⟩
  · exact isAbsolute_absolute ns
  · rw [Path.isAbsolute, htext, toList_absolute]
    rfl

theorem Through.normalParts (h : Through path ns) : normalParts false path.toList = ns := by
  rcases h.text with rfl | ⟨-, htext⟩
  · rw [toList_absolute, normalParts_absolute h.names]
  · rw [htext, toList_absolute, normalParts_append_trailing, normalParts_absolute h.names]

/-- A path in its normal form goes through its parts. -/
theorem through_normalizeChars {cs : List Char} (h : isAbsoluteChars cs = true) :
    Through (String.ofList (normalizeChars cs)) (normalParts false cs) := by
  refine ⟨fun q hq => isName_of_mem_normalParts hq, ?_⟩
  simp only [normalizeChars, h, Bool.not_true, if_true]
  split
  · rename_i hbody
    have hnil := normalParts_absolute fun q (hq : q ∈ Path.normalParts false cs) =>
      isName_of_mem_normalParts hq
    have hroot : Path.normalParts false ['/'] = [] := by decide
    rw [hbody, hroot] at hnil
    rw [← hnil]
    exact .inl rfl
  · rename_i hbody
    split
    · refine .inr ⟨fun hnil => ?_, ?_⟩
      · rw [hnil] at hbody
        exact hbody (by decide)
      · rw [String.toList_ofList, toList_absolute]
    · left
      rw [List.append_nil]
      rfl

theorem through_join (file : String) (h : isAbsolute dir = true) :
    Through (join [dir, file]) (descend (Path.normalParts false dir.toList) file.toList) := by
  obtain ⟨cs, habs, hjoin, hparts⟩ := join_eq file h
  rw [hjoin, ← hparts]
  exact through_normalizeChars habs

/-- A path that climbs nowhere goes on from the directory that it is joined to. -/
theorem Through.join (h : Through dir ns) (hf : StaysBelow file) :
    Through (join [dir, file]) (ns ++ Path.normalParts true file.toList) := by
  have hjoin := through_join file h.isAbsolute
  rwa [h.normalParts, descend_eq_append hf fun q hq => (h.names q hq).ne_up] at hjoin

theorem normalParts_name (hq : IsName q) (c : Bool) : Path.normalParts c q = [q] := by
  have hone : Path.normalParts c (joinParts [q]) = [q] :=
    normalParts_joinParts fun r hr => List.mem_singleton.1 hr ▸ hq
  rwa [joinParts_singleton] at hone

theorem staysBelow_name (hq : IsName file.toList) : StaysBelow file := by
  rw [StaysBelow, normalParts_name hq, List.mem_singleton]
  exact hq.ne_up.symm

theorem getLast?_append_name (cs : List Char) (hq : IsName q) :
    ((cs ++ '/' :: q).getLast? == some '/') = false := by
  obtain ⟨before, c, rfl⟩ : ∃ before c, q = before ++ [c] :=
    ⟨_, _, (List.dropLast_concat_getLast hq.ne_nil).symm⟩
  have hc : c ≠ '/' := fun he => hq.no_slash (by simp [he])
  rw [← List.cons_append, ← List.append_assoc, List.getLast?_concat]
  simpa using hc

/-- A path joined to a name, before it is normalised. -/
theorem join_name (dir : String) (hq : IsName file.toList) :
    join [dir, file] =
      String.ofList (normalizeChars
        (if dir.toList = [] then file.toList else dir.toList ++ '/' :: file.toList)) := by
  by_cases hdir : dir.toList = [] <;> simp [join, hdir, hq.ne_nil, joinParts, List.intercalate]

/-- A text that ends in a name is normalised to one that ends in that name. -/
theorem normalizeChars_append_name {cs : List Char} (h : isAbsoluteChars cs = true) (hq : IsName q) :
    String.ofList (normalizeChars (cs ++ '/' :: q)) = absolute (Path.normalParts false cs ++ [q]) := by
  have hns : ∀ q ∈ Path.normalParts false cs, IsName q := fun q => isName_of_mem_normalParts
  have hall : ∀ r ∈ Path.normalParts false cs ++ [q], IsName r := List.forall_mem_append.2 ⟨hns, by simpa using hq⟩
  have hname : StaysBelow (String.ofList q) := staysBelow_name (by rwa [String.toList_ofList])
  rw [StaysBelow, String.toList_ofList] at hname
  have hparts : Path.normalParts false (cs ++ '/' :: q) = Path.normalParts false cs ++ [q] := by
    rw [normalParts_append_descend, descend_eq_append hname fun q hq => (hns q hq).ne_up, normalParts_name hq]
  have habs : isAbsoluteChars (cs ++ '/' :: q) = true := by
    cases cs with
    | nil => rfl
    | cons c cs => simpa [isAbsoluteChars] using h
  rw [normalizeChars, habs, Bool.not_true, hparts,
    if_neg (joinParts_ne_nil (fun q hq => ⟨(hall q hq).ne_nil, (hall q hq).no_slash⟩) (by simp)), getLast?_append_name _ hq]
  simp [absolute]

/-- Joining a name puts no slash at the end. -/
theorem join_name_of_isAbsolute (h : isAbsolute dir = true) (hq : IsName file.toList) :
    join [dir, file] = absolute (Path.normalParts false dir.toList ++ [file.toList]) := by
  have hne : dir.toList ≠ [] := by
    intro hr
    simp [isAbsolute, isAbsoluteChars, hr] at h
  rw [join_name dir hq, if_neg hne, normalizeChars_append_name h hq]

/-- Nor does joining a path that ends in a name. -/
theorem join_last {before : List Char} (h : isAbsolute dir = true) (hq : IsName q)
    (hfile : file.toList = before ++ '/' :: q) :
    join [dir, file] = absolute (Path.normalParts false (dir.toList ++ '/' :: before) ++ [q]) := by
  have hne : dir.toList ≠ [] := by
    intro hr
    simp [isAbsolute, isAbsoluteChars, hr] at h
  have habs : isAbsoluteChars (dir.toList ++ '/' :: before) = true := by
    cases hc : dir.toList with
    | nil => exact absurd hc hne
    | cons c cs => simpa [isAbsolute, isAbsoluteChars, hc] using h
  rw [← normalizeChars_append_name habs hq]
  simp [join, hne, hfile, joinParts, List.intercalate]

theorem join_absolute (hns : ∀ q ∈ ns, IsName q) (hq : IsName file.toList) :
    join [absolute ns, file] = absolute (ns ++ [file.toList]) := by
  rw [join_name_of_isAbsolute (isAbsolute_absolute ns) hq, (through_absolute hns).normalParts]

/-- What a path does to any directory is told by how far it climbs, and by the names that it then goes
down. -/
theorem normalParts_climb (cs : List Char) :
    ∃ k ms, (∀ q ∈ ms, IsName q) ∧ Path.normalParts true cs = List.replicate k up ++ ms ∧
      ∀ base : List Part, (∀ q ∈ base, q ≠ up) → descend base cs = base.take (base.length - k) ++ ms := by
  obtain ⟨k, rs, hrs, htrue, hfalse⟩ := foldl_addPart (parts cs)
  refine ⟨k, rs.reverse, fun q hq => ?_, by simp [Path.normalParts, htrue], fun base hbase => ?_⟩
  · have hmem : q ∈ (parts cs).foldl (addPart true) [] := by
      rw [htrue]
      exact List.mem_append_left _ (List.mem_reverse.1 hq)
    rcases mem_foldl_addPart hmem fun r hr => slash_notMem_of_mem_parts hr with hc | hc | ⟨-, hc⟩
    · cases hc
    · exact hc
    · exact absurd hc (hrs q (List.mem_reverse.1 hq))
  · rw [descend, hfalse _ (by simpa using hbase), List.drop_reverse]
    simp

/-- Parts that climb and then go down names can be joined and split again. -/
theorem plain_of_climb {k : Nat} {ms : List Part} (hms : ∀ q ∈ ms, IsName q) :
    ∀ p ∈ List.replicate k up ++ ms, p ≠ [] ∧ '/' ∉ p := by
  intro p hp
  rcases List.mem_append.1 hp with hp | hp
  · rw [List.eq_of_mem_replicate hp]
    decide
  · exact ⟨(hms p hp).ne_nil, (hms p hp).no_slash⟩

/-- A relative path joined to a name climbs some directories and goes down some names, as the path
does. -/
theorem join_name_of_relative (h : isAbsolute dir = false) (hq : IsName file.toList) :
    ∃ k ms, (∀ q ∈ ms, IsName q) ∧
      join [dir, file] = String.ofList (joinParts (List.replicate k up ++ (ms ++ [file.toList]))) ∧
      (∀ p ∈ List.replicate k up ++ (ms ++ [file.toList]), p ≠ [] ∧ '/' ∉ p) ∧
      ∀ base : List Part, (∀ q ∈ base, q ≠ up) →
        descend base dir.toList = base.take (base.length - k) ++ ms := by
  obtain ⟨k, ms, hms, hclimb, hdescend⟩ := normalParts_climb dir.toList
  have hparts : Path.normalParts true
      (if dir.toList = [] then file.toList else dir.toList ++ '/' :: file.toList) =
      List.replicate k up ++ (ms ++ [file.toList]) := by
    have hname : parts file.toList = [file.toList] := by
      have : parts (joinParts [file.toList]) = [file.toList] :=
        parts_joinParts (by simpa using hq.no_slash) (by simp)
      rwa [joinParts_singleton] at this
    have hgo : Path.normalParts true (dir.toList ++ '/' :: file.toList) =
        List.replicate k up ++ (ms ++ [file.toList]) := by
      rw [normalParts_append_slash, hclimb, hname, List.foldl_cons, addPart_name hq]
      simp
    split
    · rename_i hdir
      rw [← hgo, hdir, List.nil_append, normalParts_slash]
    · exact hgo
  have hrel : isAbsoluteChars
      (if dir.toList = [] then file.toList else dir.toList ++ '/' :: file.toList) = false := by
    split
    · have hhead : file.toList.head? ≠ some '/' := by
        intro hc
        exact hq.no_slash (List.mem_of_head? hc)
      simpa [isAbsoluteChars] using hhead
    · rename_i hdir
      cases hc : dir.toList with
      | nil => exact absurd hc hdir
      | cons c cs => simpa [isAbsolute, isAbsoluteChars, hc] using h
  have hlast : ((if dir.toList = [] then file.toList else dir.toList ++ '/' :: file.toList).getLast? ==
      some '/') = false := by
    split
    · simpa using fun hc => hq.no_slash (List.mem_of_getLast? hc)
    · exact getLast?_append_name _ hq
  have hnames : ∀ p ∈ ms ++ [file.toList], IsName p := List.forall_mem_append.2 ⟨hms, by simpa using hq⟩
  have hall := plain_of_climb (k := k) hnames
  refine ⟨k, ms, hms, ?_, hall, hdescend⟩
  rw [join_name dir hq, normalizeChars, hrel, Bool.not_false, hparts, hlast,
    if_neg (joinParts_ne_nil hall (by simp))]
  simp

/-- The parts that lead to a path seen from a directory. -/
def wayTo (cwd path : String) : List Part := Path.normalParts false (stepInto cwd.toList path.toList)

theorem resolve_eq (cwd path : String) : resolve cwd [path] = absolute (wayTo cwd path) := rfl

theorem isName_of_mem_wayTo {cwd path : String} (h : q ∈ wayTo cwd path) : IsName q :=
  isName_of_mem_normalParts h

theorem wayTo_of_isAbsolute (cwd : String) (h : isAbsolute dir = true) :
    wayTo cwd dir = Path.normalParts false dir.toList := by
  have hne : dir.toList ≠ [] := by
    intro hr
    simp [isAbsolute, isAbsoluteChars, hr] at h
  have habs : isAbsoluteChars dir.toList = true := h
  rw [wayTo, stepInto, if_neg hne, if_pos habs]

theorem wayTo_of_relative (cwd : String) (h : isAbsolute dir = false) :
    wayTo cwd dir = descend (Path.normalParts false cwd.toList) dir.toList := by
  rw [wayTo, stepInto]
  split
  · rename_i hdir
    rw [hdir, descend_nil]
  · rw [if_neg (by simpa [isAbsolute] using h), normalParts_append_descend]

theorem wayTo_join (cwd dir : String) (hq : IsName file.toList) :
    wayTo cwd (join [dir, file]) = wayTo cwd dir ++ [file.toList] := by
  cases h : isAbsolute dir with
  | true =>
    have hns : ∀ q ∈ Path.normalParts false dir.toList ++ [file.toList], IsName q :=
      List.forall_mem_append.2 ⟨fun q => isName_of_mem_normalParts, by simpa using hq⟩
    rw [join_name_of_isAbsolute h hq, wayTo_of_isAbsolute cwd (isAbsolute_absolute _),
      wayTo_of_isAbsolute cwd h, (through_absolute hns).normalParts]
  | false =>
    obtain ⟨k, ms, hms, hjoin, hplain, hdescend⟩ := join_name_of_relative h hq
    have hnames : ∀ q ∈ ms ++ [file.toList], IsName q := List.forall_mem_append.2 ⟨hms, by simpa using hq⟩
    have hbase : ∀ q ∈ Path.normalParts false cwd.toList, q ≠ up :=
      fun q hq => (isName_of_mem_normalParts hq).ne_up
    have hrel : isAbsolute (join [dir, file]) = false := by
      rw [hjoin, Path.isAbsolute, String.toList_ofList, isAbsoluteChars_joinParts hplain]
    rw [wayTo_of_relative cwd hrel, wayTo_of_relative cwd h, hdescend _ hbase, hjoin, descend,
      String.toList_ofList, parts_joinParts (fun p hp => (hplain p hp).2) (by simp), List.foldl_append,
      foldl_addPart_up (by simpa using hbase), foldl_addPart_names hnames, List.drop_reverse]
    simp

theorem resolve_through (here : String) (h : Through path ns) : resolve here [path] = absolute ns := by
  rw [resolve_absolute here h.isAbsolute, h.normalParts]

/-- The last part of a path is the last name that it goes through. -/
theorem Through.basename (h : Through path (ns ++ [q])) : basename path = String.ofList q := by
  have hq : IsName q := h.names q (by simp)
  have hbare : reversedBare path.toList = (absolute (ns ++ [q])).toList.reverse := by
    rw [← reversedBare_absolute ns hq]
    rcases h.text with rfl | ⟨-, htext⟩
    · rfl
    · rw [htext, reversedBare, List.reverse_append]
      rfl
  have hall : ∀ c ∈ q.reverse, (c != '/') = true := by
    intro c hc
    have : c ≠ '/' := fun he => hq.no_slash (he ▸ List.mem_reverse.1 hc)
    simpa using this
  rw [Path.basename, hbare, toList_absolute_append, List.reverse_append, List.reverse_cons,
    List.append_assoc, List.takeWhile_append_of_pos hall]
  simp

end VariantForge.Path
