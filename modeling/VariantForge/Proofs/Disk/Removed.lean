import VariantForge.Proofs.Disk.Ground

/-!
# Removal — nothing is found where a path was removed

Once what a path names is removed, no path that goes on from there by names leads to a file, whatever
links there are on the way (`isFile_of_removeAll`).
-/

namespace VariantForge.Disk

open Path

variable {d d' : Disk} {follow : Bool} {here p q : Place} {name path dir : String} {rest a blank tail : List String}
  {n : Nat} {r : Except DiskReason Place}

/-! ## Removal -/

/-- Whether a disk is what is left of another one once the place that a walk came to is removed. There
may have been nothing to come to. -/
inductive Removes (d : Disk) : Except DiskReason Place → Disk → Prop where
  | missing : Removes d (.error .missing) d
  | removed (p : Place) : Removes d (.ok p) (d.cut p)

theorem removes_of_removeAll (h : d.removeAll path = .ok d') : Removes d (d.locateSelf path) d' := by
  rcases removeAll_ok h with ⟨hmissing, rfl⟩ | ⟨p, hp, rfl⟩
  · rw [hmissing]
    exact .missing
  · rw [hp]
    exact .removed p

theorem Removes.get?_eq (h : Removes d r d') : d'.get? q = none ∨ d'.get? q = d.get? q := by
  cases h with
  | missing => exact .inr rfl
  | removed p =>
    by_cases hpq : p <+: q
    · by_cases hq : q = []
      · rw [hq]
        exact .inr rfl
      · exact .inl (get?_cut_of_below hpq hq)
    · exact .inr (get?_cut_of_not_below hpq)

theorem Removes.get?_ok (h : Removes d (.ok q) d') (hq : q ≠ []) : d'.get? q = none := by
  cases h with
  | removed => exact get?_cut_of_below List.prefix_rfl hq

/-- A walk to where there is nothing finds no file. -/
theorem walk_none (hstep : IsStep name) (hnone : d.get? (here ++ [name]) = none)
    (h : d.walk follow n here (name :: rest) = .ok q) : d.get? q = none := by
  rw [walk_step hstep, hnone] at h
  split at h
  · cases h
  · dsimp only at h
    split at h
    · cases h
      exact hnone
    · cases h

theorem walk_below_cut (htail : ∀ t ∈ tail, t = "" ∨ IsStep t)
    (h : (d.cut here).walk follow n here tail = .ok q) : ((d.cut here).get? q).any Entry.isFile = false := by
  induction tail with
  | nil =>
    rw [walk, leg] at h
    cases h
    by_cases hq : here = []
    · subst hq
      rfl
    · rw [get?_cut_of_below List.prefix_rfl hq]
      rfl
  | cons t tail ih =>
    rcases htail t (by simp) with rfl | ht
    · rw [walk_skip (.inl rfl)] at h
      exact ih (fun u hu => htail u (by simp [hu])) h
    · have hnone : (d.cut here).get? (here ++ [t]) = none := get?_cut_of_below (List.prefix_append ..) (by simp)
      rw [walk_none ht hnone h]
      rfl

/-- A walk through the names of what was removed, and on from there, finds no file: either it passes by
what was removed, or it goes on as the walk did that came to what there was to remove. -/
theorem Removes.walk (hblank : ∀ b ∈ blank, b = "") (htail : ∀ t ∈ tail, t = "" ∨ IsStep t)
    (hr : Removes d (d.walk false n here (a ++ blank)) d') (h : d'.walk follow n here (a ++ tail) = .ok q) :
    (d'.get? q).any Entry.isFile = false := by
  -- a link gives new names to walk along and leaves fewer links, so their count comes first
  induction n using Nat.strongRecOn generalizing here a with
  | _ n ihn =>
    induction a generalizing here with
    | nil =>
      rw [List.nil_append, walk_blanks hblank] at hr
      cases hr
      exact walk_below_cut htail h
    | cons name a ih =>
      rw [List.cons_append] at hr h
      by_cases hskip : name = "" ∨ name = "."
      · rw [walk_skip hskip] at hr h
        exact ih hr h
      by_cases hup : name = ".."
      · subst hup
        rw [walk_climb] at hr h
        exact ih hr h
      have hstep : IsStep name := ⟨fun hn => hskip (.inl hn), fun hn => hskip (.inr hn), hup⟩
      by_cases hnone : d'.get? (here ++ [name]) = none
      · rw [walk_none hstep hnone h]
        rfl
      have hget : d'.get? (here ++ [name]) = d.get? (here ++ [name]) := hr.get?_eq.resolve_left hnone
      -- the walk on the first disk did not end here, or nothing would be left here
      have hon (hr : Removes d (.ok (here ++ [name])) d') : False := hnone (hr.get?_ok (by simp))
      rw [walk_step hstep] at hr h
      rw [hget] at h
      by_cases hlong : isLongName name = true
      · rw [if_pos hlong] at h
        cases h
      rw [if_neg hlong] at hr h
      cases hd : d.get? (here ++ [name]) with
      | none => exact absurd (hget.trans hd) hnone
      | some e =>
        simp only [hd] at hr h
        cases e with
        | directory => exact ih hr h
        | file bytes mode =>
          dsimp only at hr
          split at hr
          · exact (hon hr).elim
          · cases hr
        | link target =>
          dsimp only at hr h
          split at hr
          · exact (hon hr).elim
          split at h
          · cases h
            rw [hget, hd]
            rfl
          cases n with
          | zero => cases h
          | succ n =>
            dsimp only at hr h
            rw [← List.append_assoc] at hr h
            exact ihn n (Nat.lt_succ_self n) hr h

/-! ## Paths -/

theorem names_through {ns : List Part} (h : Through path ns) :
    ∃ blank, names path = "" :: ns.map shownPart ++ blank ∧ ∀ b ∈ blank, b = "" := by
  rcases h.text with rfl | ⟨hne, htext⟩
  · by_cases hns : ns = []
    · subst hns
      exact ⟨[""], by decide, by simp⟩
    · exact ⟨[], by rw [names_absolute (fun q hq => (h.names q hq).no_slash) hns, List.append_nil], by simp⟩
  · refine ⟨[""], ?_, by simp⟩
    have hpath : path = String.ofList ((absolute ns).toList ++ ['/']) := by rw [← htext, String.ofList_toList]
    rw [hpath, names_append_slash, String.ofList_toList,
      names_absolute (fun q hq => (h.names q hq).no_slash) hne, names_nil]

/-- Once a path was removed there is no file at or below it. -/
theorem isFile_of_removeAll {ns ms : List Part} (hdir : Through dir ns) (hpath : Through path (ns ++ ms))
    (h : d.removeAll dir = .ok d') : d'.isFile path = false := by
  have hr := removes_of_removeAll h
  obtain ⟨blank, hnames, hblank⟩ := names_through hdir
  obtain ⟨blank', hnames', hblank'⟩ := names_through hpath
  have hroot : fromRoot path = true := hpath.isAbsolute
  have htail : ∀ x ∈ ms.map shownPart ++ blank', x = "" ∨ IsStep x := by
    intro x hx
    rcases List.mem_append.1 hx with hx | hx
    · obtain ⟨q, hq, rfl⟩ := List.mem_map.1 hx
      exact .inr (isStep_shownPart (hpath.names q (by simp [hq])))
    · exact .inl (hblank' x hx)
  rw [isFile, look?]
  cases hlocate : d'.locate path with
  | error e => rfl
  | ok q =>
    have hwalk := (walkPath_ok hlocate).2.2
    have hself : d.locateSelf dir = d.walk false linkBound [] ("" :: ns.map shownPart ++ blank) := by
      have hempty : dir.isEmpty = false := by
        rw [← Bool.not_eq_true, String.isEmpty_iff]
        rintro rfl
        exact absurd hdir.isAbsolute (by decide)
      have hlong : isLongPath dir = false := by
        by_contra hlong
        rw [locateSelf, walkPath, if_neg (by simp [hempty]), if_pos (by simpa using hlong)] at hr
        cases hr
      have hroot' : fromRoot dir = true := hdir.isAbsolute
      rw [locateSelf, walkPath_of_walk hempty hlong, if_pos hroot', hnames]
    rw [if_pos hroot, hnames', List.map_append, ← List.cons_append, List.append_assoc] at hwalk
    rw [hself] at hr
    exact hr.walk hblank htail hwalk

end VariantForge.Disk
