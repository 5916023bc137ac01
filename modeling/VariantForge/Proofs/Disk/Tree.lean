import VariantForge.Proofs.Disk.Directories
import VariantForge.Proofs.Disk.Straight

/-!
# Trees — what operations on straight paths leave as it was

A disk is a tree if everything on it is in a directory. An operation on a straight path with no link
on the way changes nothing but what is at the place of that path or below it, and it leaves a tree
without new links (`Kept`).
-/

namespace VariantForge.Disk

open Path

/-- Whether whatever is on a disk is in a directory. -/
def Tree (d : Disk) : Prop := ∀ q n, d.get? (q ++ [n]) ≠ none → d.get? q = some .directory

variable {d d' d'' : Disk} {p q : Place} {e : Entry} {path source target : String}
  {U W W' : Place → Prop}

/-! ## Trees -/

theorem Tree.directory (h : d.Tree) (hq : d.get? q ≠ none) (hp : p <+: q) (hne : p ≠ q) :
    d.get? p = some .directory := by
  induction q using List.reverseRecOn with
  | nil => exact absurd (List.prefix_nil.1 hp) hne
  | append_singleton q n ih =>
    have habove := h q n hq
    rcases List.prefix_concat_iff.1 hp with rfl | hp
    · exact absurd rfl hne
    · by_cases hpq : p = q
      · rwa [hpq]
      · exact ih (by simp [habove]) hp hpq

/-- Nothing lies below what is no directory. -/
theorem Tree.eq_none_of_below (h : d.Tree) (hp : d.get? p ≠ some .directory) (hq : p <+: q) (hne : p ≠ q) :
    d.get? q = none := by
  by_contra hc
  exact hp (h.directory hc hq hne)

theorem Tree.get?_eq_none (h : d.Tree) (hp : d.get? p = none) (hq : p <+: q) : d.get? q = none := by
  by_contra hc
  by_cases hpq : p = q
  · exact hc (hpq ▸ hp)
  · rw [h.directory hc hq hpq] at hp
    cases hp

theorem Tree.put (h : d.Tree) (hp : p ≠ []) (habove : d.get? p.dropLast = some .directory)
    (he : d.get? p = some .directory → e = .directory) : (d.put p e).Tree := by
  intro q n hq
  rw [get?_put hp] at hq ⊢
  have hqn : q ++ [n] ≠ q := by simp
  split at hq
  · rename_i hqp
    subst hqp
    rw [List.dropLast_concat] at habove
    rw [if_neg fun hc => hqn hc.symm]
    exact habove
  · have hdir := h q n hq
    split
    · rename_i hqp
      rw [he (hqp ▸ hdir)]
    · exact hdir

theorem Tree.cut (h : d.Tree) (p : Place) : (d.cut p).Tree := by
  intro q n hq
  have hp : ¬ p <+: q ++ [n] := fun hc => hq (get?_cut_of_below hc (by simp))
  rw [get?_cut_of_not_below hp] at hq
  rw [get?_cut_of_not_below fun hc => hp (hc.trans (List.prefix_append q [n]))]
  exact h q n hq

theorem Tree.move (h : d.Tree) (hpq : ¬ p <+: q) (hqp : ¬ q <+: p)
    (habove : d.get? q.dropLast = some .directory) : (d.moveEntries p q).Tree := by
  intro r n hr
  have hpre {x : Place} (hx : x <+: r) : x <+: r ++ [n] := hx.trans (List.prefix_append r [n])
  rw [get?_moveEntries hpq hqp] at hr ⊢
  split at hr
  · rename_i hqr
    rcases List.prefix_concat_iff.1 hqr with rfl | hqr
    · rw [List.dropLast_concat] at habove
      have hqn : ¬ r ++ [n] <+: r := fun hc => absurd hc.length_le (by simp)
      have hpn : ¬ p <+: r := fun hc => hpq (hpre hc)
      rw [if_neg hqn, if_neg hpn]
      exact habove
    · rw [if_pos hqr]
      rw [List.drop_append_of_le_length hqr.length_le, ← List.append_assoc] at hr
      exact h _ n hr
  · rename_i hqr
    split at hr
    · exact absurd rfl hr
    · rename_i hpr
      rw [if_neg fun hc => hqr (hpre hc), if_neg fun hc => hpr (hpre hc)]
      exact h r n hr

/-! ## What is kept -/

/-- Whether a disk is a tree with no link at some places. -/
structure Sound (U : Place → Prop) (d : Disk) : Prop where
  free : ∀ q, U q → ∀ target, d.get? q ≠ some (.link target)
  tree : d.Tree

/-- Whether a path is straight and all its way lies in a set of places. -/
structure Open (U : Place → Prop) (path : String) : Prop where
  straight : Straight path
  way : ∀ q, q <+: placeOf path → U q

/-- Whether a disk was changed only at some places, and is sound. -/
structure Kept (U W : Place → Prop) (d d' : Disk) : Prop where
  here : d'.here = d.here
  outside : ∀ q, ¬ W q → d'.get? q = d.get? q
  sound : Sound U d'

theorem Open.clear (h : Open U path) (hd : Sound U d) : Clear d (placeOf path) :=
  fun q hq => hd.free q (h.way q hq)

/-- A path that leads to another is open if that is. -/
theorem Open.above {ns ps : List Part} (hns : ∀ q ∈ ns, IsName q) (h : Open U (absolute ns)) (hps : ps <+: ns) :
    Open U (absolute ps) := by
  have hnames : ∀ q ∈ ps, IsName q := fun q hq => hns q (hps.subset hq)
  refine ⟨(through_absolute hnames).straight, fun q hq => h.way q ?_⟩
  rw [(through_absolute hns).placeOf_eq]
  rw [(through_absolute hnames).placeOf_eq] at hq
  exact hq.trans (hps.map shownPart)

theorem Sound.mono {V : Place → Prop} (hd : Sound U d) (h : ∀ q, V q → U q) : Sound V d :=
  ⟨fun q hq => hd.free q (h q hq), hd.tree⟩

theorem Kept.refl (hd : Sound U d) : Kept U W d d := ⟨rfl, fun _ _ => rfl, hd⟩

theorem Kept.mono (h : Kept U W d d') (hW : ∀ q, W q → W' q) : Kept U W' d d' :=
  ⟨h.here, fun q hq => h.outside q fun hw => hq (hW q hw), h.sound⟩

theorem Kept.trans (h : Kept U W d d') (h' : Kept U W d' d'') : Kept U W d d'' :=
  ⟨h'.here.trans h.here, fun q hq => (h'.outside q hq).trans (h.outside q hq), h'.sound⟩

/-- What was changed only where there are no links now has none where it had none. -/
theorem Kept.widen {V : Place → Prop} (h : Kept V W d d') (hd : Sound U d) (hV : ∀ q, U q → W q → V q) :
    Kept U W d d' := by
  refine ⟨h.here, h.outside, fun q hq target hlink => ?_, h.sound.tree⟩
  by_cases hw : W q
  · exact h.sound.free q (hV q hq hw) target hlink
  · rw [h.outside q hw] at hlink
    exact hd.free q hq target hlink

theorem Sound.put (hd : Sound U d) (hp : p ≠ []) (habove : d.get? p.dropLast = some .directory)
    (he : d.get? p = some .directory → e = .directory) (hlink : ∀ target, e ≠ .link target) :
    Kept U (· = p) d (d.put p e) where
  here := rfl
  outside _ hq := get?_put_of_ne hq
  sound :=
    { free := fun q hq target ht => by
        rw [get?_put hp] at ht
        split at ht
        · exact hlink target (Option.some.inj ht)
        · exact hd.free q hq target ht
      tree := hd.tree.put hp habove he }

theorem Sound.cut (hd : Sound U d) (p : Place) : Kept U (p <+: ·) d (d.cut p) where
  here := rfl
  outside q hq := get?_cut_of_not_below hq
  sound :=
    { free := fun q hq target ht => by
        by_cases hpq : p <+: q
        · by_cases hnil : q = []
          · rw [hnil] at ht
            cases ht
          · rw [get?_cut_of_below hpq hnil] at ht
            cases ht
        · rw [get?_cut_of_not_below hpq] at ht
          exact hd.free q hq target ht
      tree := hd.tree.cut p }

theorem mem_entries_of_get? (hp : p ≠ []) (h : d.get? p = some e) : (p, e) ∈ d.entries := by
  rw [get?, if_neg (by simpa using hp), Option.map_eq_some_iff] at h
  obtain ⟨⟨q, e'⟩, hfind, rfl⟩ := h
  have hq : q = p := by simpa using List.find?_some hfind
  exact hq ▸ List.mem_of_find?_eq_some hfind

/-- A disk without links is sound if all that is on it is in a directory. -/
theorem sound_of_entries (h : ∀ e ∈ d.entries, (e.2.isDirectory || e.2.isFile) = true ∧
    (d.get? e.1.dropLast).any Entry.isDirectory = true) : Sound U d := by
  refine ⟨fun q _ target ht => ?_, fun q n hq => ?_⟩
  · have hne : q ≠ [] := by
      rintro rfl
      cases ht
    cases (h _ (mem_entries_of_get? hne ht)).1
  · obtain ⟨e, he⟩ := Option.ne_none_iff_exists'.1 hq
    have habove := (h _ (mem_entries_of_get? (by simp) he)).2
    rw [List.dropLast_concat, Option.any_eq_true] at habove
    obtain ⟨e', he', hdir⟩ := habove
    rw [he', Entry.isDirectory_iff.1 hdir]

/-- A disk of directories alone is sound if each of them is in one. -/
theorem sound_of_directories
    (h : ∀ e ∈ d.entries, e.2.isDirectory = true ∧ (d.get? e.1.dropLast).isSome = true) : Sound U d := by
  refine sound_of_entries fun e he => ⟨by simp [(h e he).1], ?_⟩
  obtain ⟨e', habove⟩ := Option.isSome_iff_exists.1 (h e he).2
  rw [habove, Option.any_some]
  by_cases hnil : e.1.dropLast = []
  · rw [hnil, get?_nil] at habove
    cases habove
    rfl
  · exact (h _ (mem_entries_of_get? hnil habove)).1

/-! ## Operations -/

theorem locateFile_eq (d : Disk) (path : String) :
    d.locateFile path =
      if endsInSlash path then
        if isLongPath path then .error .nameTooLong
        else match (names path).reverse.dropWhile (·.isEmpty) with
        | [] => .error .isDirectory
        | _ :: before =>
          match d.walk true linkBound (if fromRoot path then [] else d.here) before.reverse with
          | .error r => .error r
          | .ok p =>
            match d.get? p with
            | some .directory => .error .isDirectory
            | some _ => .error .notDirectory
            | none => .error .missing
      else d.locate path := by
  rw [locateFile]
  cases endsInSlash path with
  | false => rfl
  | true =>
    simp only [Bool.not_true, Bool.false_eq_true, if_false, if_true]
    split
    · rfl
    · cases hnames : (names path).reverse.dropWhile (·.isEmpty) with
      | nil => rfl
      | cons last before =>
        dsimp only
        cases d.walk true linkBound (if fromRoot path then [] else d.here) before.reverse with
        | error r => rfl
        | ok p =>
          show (match d.get? p with
            | some .directory => throw .isDirectory
            | some _ => throw .notDirectory
            | none => throw .missing : Except DiskReason Place) = _
          dsimp only
          cases d.get? p with
          | none => rfl
          | some e => cases e <;> rfl

/-- A path that ends in a slash is not that of a file. -/
theorem not_endsInSlash_of_locateFile (h : d.locateFile path = .ok p) : endsInSlash path = false := by
  by_contra hc
  rw [locateFile_eq, if_pos (by simpa using hc)] at h
  split at h
  · cases h
  split at h
  · cases h
  split at h
  · cases h
  split at h <;> cases h

theorem locateFile_ok (h : d.locateFile path = .ok p) : d.locate path = .ok p := by
  have hslash := not_endsInSlash_of_locateFile h
  rwa [locateFile_eq, hslash, if_neg (by simp)] at h

theorem write_kept {bytes : ByteArray} (hd : Sound U d) (ho : Open U path)
    (h : d.write path bytes = .ok d') : Kept U (· = placeOf path) d d' := by
  obtain ⟨p, hp, hput⟩ := write_ok h
  have hp := locateFile_ok hp
  have habove := walkPath_above ho.straight (ho.clear hd) hp
  obtain rfl := walkPath_straight ho.straight (ho.clear hd) hp
  have hne {e : Option Entry} (he : d.get? (placeOf path) = e) (hdir : e ≠ some .directory) :
      placeOf path ≠ [] := by
    intro hnil
    rw [hnil] at he
    exact hdir he.symm
  rcases hput with ⟨old, mode, hget, rfl⟩ | ⟨hget, rfl⟩
  · exact hd.put (hne hget (by simp)) habove (by simp [hget]) (by simp)
  · exact hd.put (hne hget (by simp)) habove (by simp [hget]) (by simp)

theorem copy_kept (hd : Sound U d) (ho : Open U target) (h : d.copy source target = .ok d') :
    Kept U (· = placeOf target) d d' := by
  obtain ⟨_, bytes, mode, p, -, -, hp, hdir, rfl⟩ := copy_ok h
  have hp := locateFile_ok hp
  have habove := walkPath_above ho.straight (ho.clear hd) hp
  obtain rfl := walkPath_straight ho.straight (ho.clear hd) hp
  have hne : placeOf target ≠ [] := by
    intro hnil
    rw [hnil] at hdir
    exact hdir (get?_nil d)
  exact hd.put hne habove (fun hc => absurd hc hdir) (by simp)

theorem removeAll_kept (hd : Sound U d) (ho : Open U path) (h : d.removeAll path = .ok d') :
    Kept U (placeOf path <+: ·) d d' := by
  rcases removeAll_ok h with ⟨-, rfl⟩ | ⟨p, hp, rfl⟩
  · exact .refl hd
  · obtain rfl := walkPath_straight ho.straight (ho.clear hd) hp
    exact hd.cut _

theorem removeFile_kept (hd : Sound U d) (ho : Open U path) (h : d.removeFile path = .ok d') :
    Kept U (· = placeOf path) d d' := by
  rcases removeFile_ok h with ⟨-, rfl⟩ | ⟨p, hp, hdir, rfl⟩
  · exact .refl hd
  · obtain rfl := walkPath_straight ho.straight (ho.clear hd) hp
    have hcut := hd.cut (placeOf path)
    refine ⟨hcut.here, fun q hq => ?_, hcut.sound⟩
    by_cases hbelow : placeOf path <+: q
    · have hnone := hd.tree.eq_none_of_below hdir hbelow (Ne.symm hq)
      rw [hnone]
      exact (Extends.cut d (placeOf path)).eq_none hnone
    · exact hcut.outside q hbelow

/-- A move brings no link to a place that is not to have one if there are none of these below its
target. -/
theorem rename_kept (hd : Sound U d) (hs : Open U source) (ht : Open U target)
    (hlow : ¬ placeOf target <+: placeOf source → ∀ q, U q → placeOf target <+: q → q = placeOf target)
    (h : d.rename source target = .ok d') :
    Kept U (fun q => placeOf source <+: q ∨ placeOf target <+: q) d d' := by
  obtain ⟨p, q, hp, hq, -, -, hmove⟩ := rename_ok h
  have habove := walkPath_above ht.straight (ht.clear hd) hq
  obtain rfl := walkPath_straight hs.straight (hs.clear hd) hp
  obtain rfl := walkPath_straight ht.straight (ht.clear hd) hq
  rcases hmove with ⟨-, rfl⟩ | ⟨hpq, hqp, rfl⟩
  · exact .refl hd
  refine ⟨rfl, fun r hr => ?_, fun r hr t hget => ?_, hd.tree.move hpq hqp habove⟩
  · rw [not_or] at hr
    rw [get?_moveEntries hpq hqp, if_neg hr.2, if_neg hr.1]
  · rw [get?_moveEntries hpq hqp] at hget
    split at hget
    · rename_i hqr
      rw [hlow hqp r hr hqr, List.drop_length, List.append_nil] at hget
      exact hd.free _ (hs.way _ (List.prefix_refl _)) t hget
    · split at hget
      · cases hget
      · exact hd.free r hr t hget

/-- Where a file or a link is moved, nothing else is. -/
theorem rename_file_kept (hd : Sound U d) (hs : Open U source) (ht : Open U target)
    (hfile : d.get? (placeOf source) ≠ some .directory) (h : d.rename source target = .ok d') :
    Kept U (fun q => q = placeOf source ∨ q = placeOf target) d d' := by
  obtain ⟨p, q, hp, hq, -, hdir, hmove⟩ := rename_ok h
  have habove := walkPath_above ht.straight (ht.clear hd) hq
  obtain rfl := walkPath_straight hs.straight (hs.clear hd) hp
  obtain rfl := walkPath_straight ht.straight (ht.clear hd) hq
  rcases hmove with ⟨-, rfl⟩ | ⟨hpq, hqp, rfl⟩
  · exact .refl hd
  have houtside : ∀ r, ¬ (r = placeOf source ∨ r = placeOf target) →
      (d.moveEntries (placeOf source) (placeOf target)).get? r = d.get? r := by
    intro r hr
    rw [not_or] at hr
    rw [get?_moveEntries hpq hqp]
    split
    · rename_i hbelow
      obtain ⟨s, rfl⟩ := hbelow
      rw [hd.tree.eq_none_of_below (hdir.resolve_left hfile) (List.prefix_append _ s) (Ne.symm hr.2), List.drop_left]
      refine hd.tree.eq_none_of_below hfile (List.prefix_append _ s) fun hc => hr.2 ?_
      rw [List.self_eq_append_right] at hc
      rw [hc, List.append_nil]
    · split
      · rename_i hbelow
        exact (hd.tree.eq_none_of_below hfile hbelow (Ne.symm hr.1)).symm
      · rfl
  refine ⟨rfl, houtside, fun r hr t hget => ?_, hd.tree.move hpq hqp habove⟩
  by_cases hrt : r = placeOf target
  · rw [hrt, get?_moveEntries hpq hqp, if_pos (List.prefix_refl _), List.drop_length, List.append_nil] at hget
    exact hd.free _ (hs.way _ (List.prefix_refl _)) t hget
  by_cases hrs : r = placeOf source
  · rw [hrs, get?_moveEntries hpq hqp, if_neg hqp, if_pos (List.prefix_refl _)] at hget
    cases hget
  · rw [houtside r (not_or.2 ⟨hrs, hrt⟩)] at hget
    exact hd.free r hr t hget

/-- What is moved is found where it was moved to. -/
theorem get?_rename (hd : Sound U d) (hs : Open U source) (ht : Open U target) (h : d.rename source target = .ok d') :
    d'.get? (placeOf target) = d.get? (placeOf source) := by
  obtain ⟨p, q, hp, hq, -, -, hmove⟩ := rename_ok h
  obtain rfl := walkPath_straight hs.straight (hs.clear hd) hp
  obtain rfl := walkPath_straight ht.straight (ht.clear hd) hq
  rcases hmove with ⟨heq, rfl⟩ | ⟨hpq, hqp, rfl⟩
  · rw [heq]
  · rw [get?_moveEntries hpq hqp, if_pos (List.prefix_refl _), List.drop_length, List.append_nil]

/-- Making a directory puts it where there was nothing, in a directory. -/
theorem Sound.makeDirectory_eq (hd : Sound U d) (ho : Open U path) (h : d.makeDirectory path = .ok d') :
    placeOf path ≠ [] ∧ d.get? (placeOf path).dropLast = some .directory ∧ d.get? (placeOf path) = none ∧
      d' = d.put (placeOf path) .directory := by
  obtain ⟨last, before, here, hnames, hwalk, hdir, -, -, -, hnone, rfl, -, -⟩ := makeDirectory_ok h
  obtain ⟨-, hsteps, hplace⟩ := ho.straight.split hnames
  have hclear : Clear d ([] ++ before.reverse.filter (· != "")) := by
    rw [List.nil_append]
    exact (ho.clear hd).above (hplace ▸ List.prefix_append _ _)
  rw [origin, ho.straight.root, if_pos rfl] at hwalk
  have hhere := walk_straight hsteps hclear hwalk
  rw [List.nil_append] at hhere
  rw [← hhere] at hplace
  rw [hplace]
  exact ⟨by simp, by rwa [List.dropLast_concat], hnone, rfl⟩

theorem Sound.makeDirectory (hd : Sound U d) (ho : Open U path)
    (h : d.makeDirectory path = .ok d') :
    Kept U (fun q => q = placeOf path ∧ d.get? q = none) d d' := by
  obtain ⟨hne, habove, hnone, rfl⟩ := hd.makeDirectory_eq ho h
  have hkept := hd.put (e := .directory) hne habove (fun _ => rfl) (by simp)
  refine ⟨rfl, fun q hq => ?_, hkept.sound⟩
  rw [get?_put_of_ne]
  rintro rfl
  exact hq ⟨rfl, hnone⟩

end VariantForge.Disk
