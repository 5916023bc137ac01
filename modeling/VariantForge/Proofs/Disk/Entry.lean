import VariantForge.Proofs.Disk.Ground
import VariantForge.Proofs.Disk.Spared

/-!
# Entries — what a path names in a directory

A path names the entry at the place of its names if no link is on the way to the directory that it is in; a link
at that place itself is not followed (`locateSelf_place`). What was removed is gone then, with all below it
(`removeAll_gone`). Where the way to a directory is laid, each name in it is reached unless it is too long
(`Laid.walkPath`), and making directories lays the way (`laid_of_makeDirectories`).
-/

namespace VariantForge.Disk

open Path

variable {d d' : Disk} {follow : Bool} {ns : List Part} {q : Part} {p : Place} {e : Entry} {U W : Place → Prop}

/-! ## Places in a directory -/

theorem append_ne {P Q : List String} {a b : String} (h : a ≠ b) : P ++ [a] ≠ Q ++ [b] := by
  intro hc
  exact h (List.append_inj_right' hc rfl |> List.singleton_inj.1)

/-- What goes down by one name is not below what goes down by another. -/
theorem not_below {P : List String} {a b : String} (h : a ≠ b) : ¬ P ++ [a] <+: P ++ [b] := by
  intro hc
  rw [List.prefix_append_right_inj] at hc
  simp [h] at hc

/-! ## Clear ways -/

theorem names_concat (hns : ∀ p ∈ ns, IsName p) (hq : IsName q) : ∀ p ∈ ns ++ [q], IsName p :=
  List.forall_mem_append.2 ⟨hns, by simpa using hq⟩

theorem placeOf_name (hns : ∀ p ∈ ns, IsName p) (hq : IsName q) :
    placeOf (absolute (ns ++ [q])) = ns.map shownPart ++ [shownPart q] := by
  rw [(through_absolute (names_concat hns hq)).placeOf_eq, List.map_append, List.map_singleton]

theorem Open.clear_map (hns : ∀ p ∈ ns, IsName p) (ho : Open U (absolute ns)) (hd : Sound U d) :
    Clear d (ns.map shownPart) := by
  have h := ho.clear hd
  rwa [(through_absolute hns).placeOf_eq] at h

theorem isStep_concat (hns : ∀ p ∈ ns, IsName p) (hq : IsName q) :
    ∀ n ∈ (ns ++ [q]).map shownPart, IsStep n := by
  intro n hn
  obtain ⟨p, hp, rfl⟩ := List.mem_map.1 hn
  exact isStep_shownPart (names_concat hns hq p hp)

section Clear

variable (hns : ∀ p ∈ ns, IsName p) (hq : IsName q) (hc : Clear d (ns.map shownPart))
include hns hq hc

theorem leg_clear : (∀ p, d.leg false [] ((ns ++ [q]).map shownPart) = .arrived p → p = (ns ++ [q]).map shownPart) ∧
    ∀ there target rest, d.leg false [] ((ns ++ [q]).map shownPart) ≠ .link there target rest := by
  refine leg_plain (isStep_concat hns hq) fun a ha hne _ => ?_
  rw [List.map_append, List.map_singleton] at ha hne
  rw [List.nil_append]
  exact hc a ((List.prefix_concat_iff.1 ha).resolve_left hne)

theorem locateSelf_place (h : d.locateSelf (absolute (ns ++ [q])) = .ok p) :
    p = ns.map shownPart ++ [shownPart q] := by
  have hwalk := walkPath_absolute (names_concat hns hq) h
  rw [walk] at hwalk
  cases hleg : d.leg false [] ((ns ++ [q]).map shownPart) with
  | arrived r =>
    rw [hleg] at hwalk
    cases hwalk
    simpa using (leg_clear hns hq hc).1 _ hleg
  | stopped r =>
    rw [hleg] at hwalk
    cases hwalk
  | link there target rest => exact absurd hleg ((leg_clear hns hq hc).2 _ _ _)

theorem locateSelf_missing (h : d.locateSelf (absolute (ns ++ [q])) = .error .missing) :
    ∃ p, p <+: ns.map shownPart ++ [shownPart q] ∧ d.get? p = none := by
  have hroot : fromRoot (absolute (ns ++ [q])) = true := isAbsolute_absolute _
  have hempty : (absolute (ns ++ [q])).isEmpty = false := by simp [absolute, ← String.toList_inj]
  rw [locateSelf, walkPath, hempty, if_neg (by simp), hroot, if_pos rfl] at h
  split at h
  · cases h
  rw [walk_names_absolute (names_concat hns hq), walk] at h
  cases hleg : d.leg false [] ((ns ++ [q]).map shownPart) with
  | arrived r =>
    rw [hleg] at h
    cases h
  | stopped r =>
    rw [hleg] at h
    cases h
    obtain ⟨p, hp, hnone⟩ := leg_missing (fun n hn => .inr (isStep_concat hns hq n hn)) hleg
    rw [List.filter_eq_self.2 fun n hn => by simpa using (isStep_concat hns hq n hn).ne_blank] at hp
    exact ⟨p, by simpa using hp, hnone⟩
  | link there target rest => exact absurd hleg ((leg_clear hns hq hc).2 _ _ _)

end Clear

/-! ## Removal -/

/-- What was removed is gone, with all below it, and nothing else. -/
theorem removeAll_clear (hns : ∀ p ∈ ns, IsName p) (hq : IsName q) (hc : Clear d (ns.map shownPart)) (ht : d.Tree)
    (h : d.removeAll (absolute (ns ++ [q])) = .ok d') : d'.here = d.here ∧ d'.Tree ∧
      ∀ p, d'.get? p = if ns.map shownPart ++ [shownPart q] <+: p then none else d.get? p := by
  rcases removeAll_ok h with ⟨hmissing, rfl⟩ | ⟨r, hr, rfl⟩
  · obtain ⟨r, hr, hnone⟩ := locateSelf_missing hns hq hc hmissing
    refine ⟨rfl, ht, fun p => ?_⟩
    split
    · rename_i hp
      exact ht.get?_eq_none hnone (hr.trans hp)
    · rfl
  · rw [locateSelf_place hns hq hc hr]
    refine ⟨rfl, ht.cut _, fun p => ?_⟩
    split
    · rename_i hp
      refine get?_cut_of_below hp ?_
      rintro rfl
      simp at hp
    · rename_i hp
      exact get?_cut_of_not_below hp

theorem removeAll_gone (hns : ∀ p ∈ ns, IsName p) (hq : IsName q) (ho : Open U (absolute ns)) (hd : Sound U d)
    (h : d.removeAll (absolute (ns ++ [q])) = .ok d') :
    Kept U (ns.map shownPart ++ [shownPart q] <+: ·) d d' ∧
      ∀ p, ns.map shownPart ++ [shownPart q] <+: p → d'.get? p = none := by
  obtain ⟨hhere, htree, hget⟩ := removeAll_clear hns hq (ho.clear_map hns hd) hd.tree h
  refine ⟨⟨hhere, fun p hp => by rw [hget, if_neg hp], fun p hp target hlink => ?_, htree⟩,
    fun p hp => by rw [hget, if_pos hp]⟩
  rw [hget] at hlink
  split at hlink
  · cases hlink
  · exact hd.free p hp target hlink

/-! ## Laid ways -/

theorem leg_name {here : Place} {name : String} (hn : IsStep name)
    (hlink : follow = false ∨ ∀ target, d.get? (here ++ [name]) ≠ some (.link target)) :
    d.leg follow here [name] = if isLongName name then .stopped .nameTooLong else .arrived (here ++ [name]) := by
  rw [leg_step hn]
  congr 1
  cases hget : d.get? (here ++ [name]) with
  | none => rfl
  | some e =>
    cases e with
    | file bytes mode => rfl
    | directory => rw [leg]
    | link target =>
      obtain rfl := hlink.resolve_right fun hc => hc target hget
      rfl

/-- Whether some names lead from the root of a tree to a directory, none of them too long. -/
structure Laid (d : Disk) (ns : List Part) : Prop where
  tree : d.Tree
  names : ∀ p ∈ ns, IsName p
  short : ∀ p ∈ ns, isLongName (shownPart p) = false
  directory : d.get? (ns.map shownPart) = some .directory

theorem laid_of_locate (hns : ∀ p ∈ ns, IsName p) (ho : Open U (absolute ns)) (hd : Sound U d)
    (h : d.locate (absolute ns) = .ok p) (hp : d.get? p = some .directory) : Laid d ns := by
  have hshort := not_overlong ho.straight (ho.clear hd) h
  obtain rfl := walkPath_straight ho.straight (ho.clear hd) h
  rw [(through_absolute hns).placeOf_eq] at hp
  refine ⟨hd.tree, hns, fun q hq => ?_, hp⟩
  rw [Overlong, not_or, not_exists] at hshort
  have hmem : shownPart q ∈ Disk.names (absolute ns) := by
    rw [names_absolute (fun p hp => (hns p hp).no_slash) (List.ne_nil_of_mem hq)]
    exact List.mem_cons_of_mem _ (List.mem_map_of_mem hq)
  simpa [hmem] using hshort.2 (shownPart q)

/-- Making directories lays the way to the last of them. -/
theorem laid_of_makeDirectories (hns : ∀ p ∈ ns, IsName p) (ho : Open U (absolute ns)) (hd : Sound U d)
    (h : d.makeDirectories (absolute ns) = (d', none)) : Laid d' ns := by
  have hd' := hd.makeDirectories hns ho
  rw [h] at hd'
  obtain ⟨p, hp, hdir⟩ := makeDirectories_locate h
  exact laid_of_locate hns ho hd' hp hdir

namespace Laid

variable (h : Laid d ns) (hq : IsName q)
include h

theorem tended (ht : Tended d d') : Laid d' ns := ⟨ht.tree, h.names, h.short, ht.directories _ h.directory⟩

theorem cut (hp : ¬ p <+: ns.map shownPart) : Laid (d.cut p) ns :=
  ⟨h.tree.cut p, h.names, h.short, by rw [get?_cut_of_not_below hp, h.directory]⟩

theorem clear : Clear d (ns.map shownPart) := by
  intro p hp target hget
  by_cases heq : p = ns.map shownPart
  · rw [heq, h.directory] at hget
    cases hget
  · rw [h.tree.directory (by simp [h.directory]) hp heq] at hget
    cases hget

theorem leg : d.leg true [] (ns.map shownPart) = .arrived (ns.map shownPart) := by
  refine leg_tree (fun n hn => ?_) h.tree h.clear (fun n hn => ?_) h.directory
  · obtain ⟨p, hp, rfl⟩ := List.mem_map.1 hn
    exact isStep_shownPart (h.names p hp)
  · obtain ⟨p, hp, rfl⟩ := List.mem_map.1 hn
    exact h.short p hp

include hq

theorem overlong_iff :
    Overlong (absolute (ns ++ [q])) ↔ isLongPath (absolute (ns ++ [q])) = true ∨ isLongName (shownPart q) = true := by
  have hblank : isLongName "" = false := by decide
  rw [Overlong, names_absolute (fun p hp => (names_concat h.names hq p hp).no_slash) (by simp)]
  refine or_congr_right ⟨?_, fun hlong => ⟨_, by simp, hlong⟩⟩
  rintro ⟨n, hn, hlong⟩
  simp only [List.map_append, List.map_singleton, List.mem_cons, List.mem_append, List.mem_map, List.not_mem_nil,
    or_false] at hn
  rcases hn with rfl | ⟨p, hp, rfl⟩ | rfl
  · rw [hblank] at hlong
    cases hlong
  · rw [h.short p hp] at hlong
    cases hlong
  · exact hlong

/-- A name in a directory to which the way is laid is reached, if it is not too long; a link there may not be
followed. -/
theorem walkPath (hlink : follow = false ∨ ∀ target, d.get? (ns.map shownPart ++ [shownPart q]) ≠ some (.link target)) :
    d.walkPath follow (absolute (ns ++ [q])) =
      if Overlong (absolute (ns ++ [q])) then .error .nameTooLong else .ok (ns.map shownPart ++ [shownPart q]) := by
  have hroot : fromRoot (absolute (ns ++ [q])) = true := isAbsolute_absolute _
  have hempty : (absolute (ns ++ [q])).isEmpty = false := by simp [absolute, ← String.toList_inj]
  rw [Disk.walkPath, hempty, if_neg (by simp), hroot, if_pos rfl, walk_names_absolute (names_concat h.names hq),
    List.map_append, walk_of_leg h.leg h.directory, List.map_singleton, walk, leg_name (isStep_shownPart hq) hlink]
  by_cases hpath : isLongPath (absolute (ns ++ [q])) = true
  · rw [if_pos hpath, if_pos (.inl hpath)]
  rw [if_neg hpath]
  by_cases hname : isLongName (shownPart q) = true
  · rw [if_pos hname, if_pos ((h.overlong_iff hq).2 (.inr hname))]
  · rw [if_neg hname, if_neg fun hc => ((h.overlong_iff hq).1 hc).elim hpath hname]

theorem locateSelf : d.locateSelf (absolute (ns ++ [q])) =
    if Overlong (absolute (ns ++ [q])) then .error .nameTooLong else .ok (ns.map shownPart ++ [shownPart q]) :=
  h.walkPath hq (.inl rfl)

theorem look? {bytes : ByteArray} {mode : Nat} (hshort : ¬ Overlong (absolute (ns ++ [q])))
    (hget : d.get? (ns.map shownPart ++ [shownPart q]) = some (.file bytes mode)) :
    d.look? (absolute (ns ++ [q])) = some (.file bytes mode) := by
  have hplace : d.walkPath true (absolute (ns ++ [q])) = .ok (ns.map shownPart ++ [shownPart q]) := by
    rw [h.walkPath hq (.inr (by simp [hget])), if_neg hshort]
  rw [Disk.look?, locate, hplace]
  exact hget

theorem removeFile_ok (hremove : d.removeFile (absolute (ns ++ [q])) = .ok d') :
    d.get? (ns.map shownPart ++ [shownPart q]) ≠ some .directory ∧ d' = d.cut (ns.map shownPart ++ [shownPart q]) := by
  have hplace := h.locateSelf hq
  rcases Disk.removeFile_ok hremove with ⟨hmissing, -⟩ | ⟨p, hp, hdir, rfl⟩
  · rw [hplace] at hmissing
    split at hmissing <;> cases hmissing
  · rw [hplace] at hp
    split at hp <;> cases hp
    exact ⟨hdir, rfl⟩

/-- What was written is there, or what it was written through: no directory. -/
theorem write {bytes : ByteArray} (hw : d.write (absolute (ns ++ [q])) bytes = .ok d') :
    Laid d' ns ∧ ¬ Overlong (absolute (ns ++ [q])) ∧
      ∃ e, d'.get? (ns.map shownPart ++ [shownPart q]) = some e ∧ e ≠ .directory := by
  have hlaid := h.tended (h.tree.write (isAbsolute_absolute _) hw)
  obtain ⟨p, mode, hp, hfile⟩ := locate_of_write hw
  obtain ⟨r, e, hr, he, hdir⟩ := locateSelf_of_locate hp hfile
  rw [hlaid.locateSelf hq] at hr
  split at hr
  · cases hr
  cases hr
  refine ⟨hlaid, ‹_›, e, he, ?_⟩
  rintro rfl
  exact absurd (hdir rfl) (by simp [Entry.isDirectory])

end Laid

end VariantForge.Disk
