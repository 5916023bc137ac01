import VariantForge.Proofs.Disk.Entry
import VariantForge.Proofs.Disk.Reached

/-!
# Replacing a file by one that is written beside it

A file is replaced in three steps: another one is written beside it, under its name and an ending; it is removed;
the other one is moved there. Once the first two have gone well the third does too (`Laid.rename_beside`), so
either the file is replaced or it stays as it was (`Laid.replace_error`), and what was written beside it goes in
either case.

Where the file beside it may be moved over another one there are two steps. As long as no link is named beside it,
nothing but the file there changes until it is moved (`Besides.write`, `Besides.rename`).
-/

namespace VariantForge

open Path Disk Forge

namespace Disk

variable {d d' d₁ d₂ : Disk} {ns : List Part} {q s : Part} {e : Entry} {bytes : ByteArray} {U : Place → Prop}

/-! ## Names with an ending -/

theorem shownChars_dot (a s : List Char) :
    Text.shownChars (a ++ '.' :: s) = Text.shownChars a ++ Text.shownChars ('.' :: s) := by
  have h := Text.shownChars_append_cons (show Text.isHalf '.' = false by decide)
  rw [h a s, ← List.nil_append ('.' :: s), h [] s]
  rfl

theorem shownPart_dot (q s : Part) : shownPart (q ++ '.' :: s) = shownPart q ++ shownPart ('.' :: s) := by
  rw [← String.toList_inj, String.toList_append]
  simp only [shownPart, String.toList_ofList, shownChars_dot]

/-- A name is shown differently with an ending. -/
theorem shownPart_dot_ne (q s : Part) : shownPart (q ++ '.' :: s) ≠ shownPart q := by
  intro h
  have hlen := congrArg String.length h
  have hdot : shownPart ('.' :: s) = String.ofList ('.' :: Text.shownChars s) := by
    have hcons := Text.shownChars_append_cons (show Text.isHalf '.' = false by decide) [] s
    exact congrArg String.ofList hcons
  rw [shownPart_dot, hdot, String.length_append, String.length_ofList, List.length_cons] at hlen
  omega

theorem isLongPath_dot (h : isLongPath (absolute (ns ++ [q])) = true) :
    isLongPath (absolute (ns ++ [q ++ '.' :: s])) = true := by
  have htext : Text.shown (absolute (ns ++ [q ++ '.' :: s])) =
      Text.shown (absolute (ns ++ [q])) ++ shownPart ('.' :: s) := by
    rw [← String.toList_inj, String.toList_append, Text.toList_shown, Text.toList_shown, toList_absolute_append,
      toList_absolute_append, shownPart, String.toList_ofList, ← shownChars_dot, List.append_assoc, List.cons_append]
  rw [isLongPath, decide_eq_true_eq] at h ⊢
  rw [htext, String.utf8ByteSize_append]
  omega

theorem isLongName_dot (h : isLongName (shownPart q) = true) : isLongName (shownPart (q ++ '.' :: s)) = true := by
  rw [isLongName, decide_eq_true_eq] at h ⊢
  rw [shownPart_dot, String.utf8ByteSize_append]
  omega

/-- A path is not too long if it is not with an ending. -/
theorem Overlong.dot (hns : ∀ p ∈ ns, IsName p) (hq : IsName q) (hs : '/' ∉ s)
    (h : Overlong (absolute (ns ++ [q]))) : Overlong (absolute (ns ++ [q ++ '.' :: s])) := by
  have hslash {r : Part} (hr : '/' ∉ r) : ∀ p ∈ ns ++ [r], '/' ∉ p :=
    List.forall_mem_append.2 ⟨fun p hp => (hns p hp).no_slash, by simpa using hr⟩
  have hqs : '/' ∉ q ++ '.' :: s := by simp [hq.no_slash, hs]
  rcases h with h | ⟨n, hn, hlong⟩
  · exact .inl (isLongPath_dot h)
  · right
    rw [names_absolute (hslash hq.no_slash) (by simp), List.map_append, List.map_singleton] at hn
    rw [names_absolute (hslash hqs) (by simp), List.map_append, List.map_singleton]
    simp only [List.mem_cons, List.mem_append, List.not_mem_nil, or_false] at hn
    rcases hn with hn | hn | hn
    · exact ⟨n, by simp [hn], hlong⟩
    · exact ⟨n, by simp [hn], hlong⟩
    · exact ⟨shownPart (q ++ '.' :: s), by simp, isLongName_dot (hn ▸ hlong)⟩

theorem isName_dot (hq : IsName q) (hs : '/' ∉ s) : IsName (q ++ '.' :: s) := by
  refine ⟨by simp, fun hc => ?_, fun hc => ?_, by simp [hq.no_slash, hs]⟩
  · exact hq.ne_nil (List.append_eq_singleton_iff.1 hc |>.elim And.left fun h => absurd h.2 (by simp))
  · cases q with
    | nil => exact hq.ne_nil rfl
    | cons c q =>
      rw [up, List.cons_append, List.cons.injEq] at hc
      obtain ⟨rfl, hc⟩ := hc
      rcases List.append_eq_singleton_iff.1 hc with ⟨rfl, -⟩ | ⟨-, h⟩
      · exact hq.ne_here rfl
      · simp at h

/-! ## Moving what was written -/

/-- What is beside a file is moved to its place, unless there is a directory. -/
theorem Laid.rename_beside {r t : Part} (h : Laid d ns) (hr : IsName r) (ht : IsName t)
    (hne : shownPart r ≠ shownPart t) (hshort : ¬ Overlong (absolute (ns ++ [r])))
    (hshort' : ¬ Overlong (absolute (ns ++ [t]))) (hnull : Text.hasNull (absolute (ns ++ [r])) = false)
    (hnull' : Text.hasNull (absolute (ns ++ [t])) = false)
    (he : d.get? (ns.map shownPart ++ [shownPart r]) = some e) (hfile : e ≠ .directory)
    (hdir : d.get? (ns.map shownPart ++ [shownPart t]) ≠ some .directory) :
    d.rename (absolute (ns ++ [r])) (absolute (ns ++ [t])) =
      .ok (d.moveEntries (ns.map shownPart ++ [shownPart r]) (ns.map shownPart ++ [shownPart t])) := by
  have hsource := h.locateSelf hr
  have hplace := h.locateSelf ht
  rw [if_neg hshort] at hsource
  rw [if_neg hshort'] at hplace
  have hslash : endsInSlash (absolute (ns ++ [t])) = false := by
    rw [endsInSlash, toList_absolute_append, getLast?_append_name _ ht]
  have hnotdir : e.isDirectory = false := by
    rw [← Bool.not_eq_true, Entry.isDirectory_iff]
    exact hfile
  rw [rename, checkPath, checkPath, nullFault?, nullFault?, hnull, hnull', hsource, hplace]
  have hplaces : ns.map shownPart ++ [shownPart r] ≠ ns.map shownPart ++ [shownPart t] := append_ne hne
  have hbelow : ¬ ns.map shownPart ++ [shownPart r] <+: ns.map shownPart ++ [shownPart t] := not_below hne
  have habove : ¬ ns.map shownPart ++ [shownPart t] <+: ns.map shownPart ++ [shownPart r] := not_below hne.symm
  simp only [bind, Except.bind, he, hnotdir, hslash, hplaces, List.isPrefixOf_iff_prefix, hbelow, habove,
    Bool.false_eq_true, Bool.not_false, Bool.and_false, if_false]

/-- Whether what is at one place was moved to another, in the place of what was there. -/
structure Replaces (p q : Place) (d d' : Disk) : Prop where
  here : d'.here = d.here
  tree : d'.Tree
  target : d'.get? q = d.get? p
  source : d'.get? p = none
  outside : ∀ r, r ≠ p → r ≠ q → d'.get? r = d.get? r

theorem Replaces.sound {p q : Place} (h : Replaces p q d d') (hd : Sound U d)
    (hp : ∀ target, d.get? p ≠ some (.link target)) : Sound U d' := by
  refine ⟨fun r hr target hget => ?_, h.tree⟩
  by_cases hrp : r = p
  · rw [hrp, h.source] at hget
    cases hget
  by_cases hrq : r = q
  · rw [hrq, h.target] at hget
    exact hp target hget
  · rw [h.outside r hrp hrq] at hget
    exact hd.free r hr target hget

/-- What is at a place that holds no directory is moved to another one alone. -/
theorem Tree.replaces_moveEntries {p q : Place} (ht : d.Tree) (hpq : ¬ p <+: q) (hqp : ¬ q <+: p)
    (hp : d.get? p ≠ some .directory) (hq : d.get? q ≠ some .directory) (habove : d.get? q.dropLast = some .directory) :
    Replaces p q d (d.moveEntries p q) := by
  have hmove (r : Place) := get?_moveEntries (d := d) (r := r) hpq hqp
  refine ⟨rfl, ht.move hpq hqp habove, ?_, ?_, fun r hrp hrq => ?_⟩
  · rw [hmove, if_pos (List.prefix_refl q), List.drop_length, List.append_nil]
  · rw [hmove, if_neg hqp, if_pos (List.prefix_refl p)]
  rw [hmove]
  by_cases hqr : q <+: r
  · obtain ⟨s, rfl⟩ := hqr
    have hs : p ≠ p ++ s := by
      intro hc
      rw [List.self_eq_append_right] at hc
      exact hrq (by rw [hc, List.append_nil])
    rw [if_pos (List.prefix_append q s), List.drop_left, ht.below hp (List.prefix_append p s) hs,
      ht.below hq (List.prefix_append q s) (Ne.symm hrq)]
  rw [if_neg hqr]
  by_cases hpr : p <+: r
  · rw [if_pos hpr, ht.below hp hpr (Ne.symm hrp)]
  · rw [if_neg hpr]

/-- A file is moved alone. -/
theorem replaces_move {p q : Place} (ht : d.Tree) (hpq : ¬ p <+: q) (hqp : ¬ q <+: p)
    (hp : d.get? p ≠ some .directory) (hq : d.get? q ≠ some .directory)
    (habove : d.get? q.dropLast = some .directory) :
    Replaces p q d (((d.cut q).moveEntries p q).cut p) := by
  have hnil : q ≠ [] := ne_nil_of_not_directory hq
  have hcut : (d.cut q).get? p = d.get? p := get?_cut_of_not_below hqp
  have hqabove : q.dropLast ≠ q := fun hc => by
    have := congrArg List.length hc
    rw [List.length_dropLast] at this
    have := List.length_pos_iff.2 hnil
    omega
  have hmoved : Replaces p q (d.cut q) ((d.cut q).moveEntries p q) := by
    refine (ht.cut q).replaces_moveEntries hpq hqp (by rwa [hcut]) ?_ (by rw [ht.get?_cut_of_ne hq hqabove, habove])
    simp [get?_cut_of_below (List.prefix_refl q) hnil]
  have hgone : ((d.cut q).moveEntries p q).get? p ≠ some .directory := by simp [hmoved.source]
  have hqp' : q ≠ p := fun hc => hqp (hc ▸ List.prefix_refl q)
  refine ⟨rfl, hmoved.tree.cut p, ?_, get?_cut_of_below (List.prefix_refl p) (ne_nil_of_not_directory hp), fun r hrp hrq => ?_⟩
  · rw [hmoved.tree.get?_cut_of_ne hgone hqp', hmoved.target, hcut]
  · rw [hmoved.tree.get?_cut_of_ne hgone hrp, hmoved.outside r hrp hrq, ht.get?_cut_of_ne hq hrq]

theorem not_below_above {P : Place} (n : String) : ¬ P ++ [n] <+: P :=
  fun hc => absurd hc.length_le (by simp)

theorem Laid.moveEntries {r t : Part} (h : Laid d ns)
    (hrt : ¬ ns.map shownPart ++ [shownPart r] <+: ns.map shownPart ++ [shownPart t])
    (htr : ¬ ns.map shownPart ++ [shownPart t] <+: ns.map shownPart ++ [shownPart r]) :
    Laid (d.moveEntries (ns.map shownPart ++ [shownPart r]) (ns.map shownPart ++ [shownPart t])) ns := by
  refine ⟨h.tree.move hrt htr (by simpa using h.directory), h.names, h.short, ?_⟩
  rw [get?_moveEntries hrt htr, if_neg (not_below_above _), if_neg (not_below_above _), h.directory]

theorem Replaces.laid {r t : Part}
    (h : Replaces (ns.map shownPart ++ [shownPart r]) (ns.map shownPart ++ [shownPart t]) d d') (hlaid : Laid d ns) :
    Laid d' ns := by
  refine ⟨h.tree, hlaid.names, hlaid.short, ?_⟩
  rw [h.outside _ (by simp) (by simp), hlaid.directory]

theorem beside_hasNull (hwrite : d.write (absolute (ns ++ [q ++ '.' :: s])) bytes = .ok d₁) :
    Text.hasNull (absolute (ns ++ [q ++ '.' :: s])) = false ∧ Text.hasNull (absolute (ns ++ [q])) = false :=
  ⟨hasNull_of_write hwrite, hasNull_absolute_append (hasNull_of_write hwrite)⟩

section Replace

variable (h : Laid d ns) (hq : IsName q) (hs : '/' ∉ s)
  (hwrite : d.write (absolute (ns ++ [q ++ '.' :: s])) bytes = .ok d₁)
include h hq hs hwrite

theorem Laid.beside_short : ¬ Overlong (absolute (ns ++ [q ++ '.' :: s])) ∧ ¬ Overlong (absolute (ns ++ [q])) := by
  have hshort := (h.write (isName_dot hq hs) hwrite).2.1
  exact ⟨hshort, fun hc => hshort (hc.dot h.names hq hs)⟩

/-- A file that cannot be removed once another was written beside it is a directory. -/
theorem Laid.directory_of_removeFile_error {f : DiskFault} (hremove : d₁.removeFile (absolute (ns ++ [q])) = .error f) :
    d₁.get? (ns.map shownPart ++ [shownPart q]) = some .directory := by
  have hplace := (h.write (isName_dot hq hs) hwrite).1.locateSelf hq
  rw [if_neg (h.beside_short hq hs hwrite).2] at hplace
  by_contra hc
  rw [removeFile_of_locateSelf (beside_hasNull hwrite).2 hplace hc] at hremove
  cases hremove

/-- A file that was removed once another was written beside it is replaced by that, and what was beside it goes. -/
theorem Laid.replace (hremove : d₁.removeFile (absolute (ns ++ [q])) = .ok d₂) :
    ∃ d₃ d₄, d₂.rename (absolute (ns ++ [q ++ '.' :: s])) (absolute (ns ++ [q])) = .ok d₃ ∧
      d₃.removeFile (absolute (ns ++ [q ++ '.' :: s])) = .ok d₄ ∧
      Replaces (ns.map shownPart ++ [shownPart (q ++ '.' :: s)]) (ns.map shownPart ++ [shownPart q]) d₁ d₄ := by
  obtain ⟨hshort, hshort'⟩ := h.beside_short hq hs hwrite
  obtain ⟨hnull, hnull'⟩ := beside_hasNull hwrite
  obtain ⟨h₁, -, e, he, hfile⟩ := h.write (isName_dot hq hs) hwrite
  obtain ⟨hdir, rfl⟩ := h₁.removeFile_ok hq hremove
  have hne := shownPart_dot_ne q s
  have hST : ¬ ns.map shownPart ++ [shownPart (q ++ '.' :: s)] <+: ns.map shownPart ++ [shownPart q] := not_below hne
  have hTS : ¬ ns.map shownPart ++ [shownPart q] <+: ns.map shownPart ++ [shownPart (q ++ '.' :: s)] :=
    not_below hne.symm
  have h₂ := h₁.cut (not_below_above (shownPart q))
  have hS : (d₁.cut (ns.map shownPart ++ [shownPart q])).get? (ns.map shownPart ++ [shownPart (q ++ '.' :: s)]) =
      some e := by
    rw [get?_cut_of_not_below hTS, he]
  have hT : (d₁.cut (ns.map shownPart ++ [shownPart q])).get? (ns.map shownPart ++ [shownPart q]) = none :=
    get?_cut_of_below (List.prefix_refl _) (by simp)
  have hrename := h₂.rename_beside (isName_dot hq hs) hq hne hshort hshort' hnull hnull' hS hfile (by simp [hT])
  have h₃ := h₂.moveEntries hST hTS
  have hplace := h₃.locateSelf (isName_dot hq hs)
  rw [if_neg hshort] at hplace
  have hgone : ((d₁.cut (ns.map shownPart ++ [shownPart q])).moveEntries
      (ns.map shownPart ++ [shownPart (q ++ '.' :: s)]) (ns.map shownPart ++ [shownPart q])).get?
        (ns.map shownPart ++ [shownPart (q ++ '.' :: s)]) = none := by
    rw [get?_moveEntries hST hTS, if_neg hTS, if_pos (List.prefix_refl _)]
  refine ⟨_, _, hrename, removeFile_of_locateSelf hnull hplace (by simp [hgone]), ?_⟩
  exact replaces_move h₁.tree hST hTS (by simpa [he] using hfile) hdir (by simpa using h₁.directory)

end Replace

/-! ## Beside what is there -/

/-- Whether a disk is what it was, but for a file that a name in a directory that is reached may name. -/
structure Besides (ns : List Part) (root : Place) (r : Part) (d d' : Disk) : Prop where
  here : d'.here = d.here
  reached : Reached d' ns root
  outside : ∀ p, d.locateSelf (absolute (ns ++ [r])) ≠ .ok p → d'.get? p = d.get? p
  free : ∀ t, d'.named? (absolute (ns ++ [r])) ≠ some (.link t)

namespace Besides

variable (hr : IsName r) (h₀ : Reached d ns root)
include hr h₀

theorem write (h : Besides ns root r d d₁) (hw : d₁.write (absolute (ns ++ [r])) bytes = .ok d₂) :
    Besides ns root r d d₂ ∧ d.locateSelf (absolute (ns ++ [r])) = .ok (root ++ [shownPart r]) ∧
      ∃ mode, d₂.get? (root ++ [shownPart r]) = some (.file bytes mode) := by
  obtain ⟨p, mode, hp, -, -, hold, hget, rfl⟩ := write_leaves hw
  have hself := locateSelf_eq_of_locate (locateFile_ok hp) h.free
  obtain rfl := h.reached.place hr hself
  rw [h.reached.locateSelf_eq hr h₀] at hself
  have ht := h.reached.tree.write (isAbsolute_absolute _) hw
  have hways : Ways d₁ (d₁.put (root ++ [shownPart r]) (.file bytes mode)) := by
    intro q e hq he
    rw [get?_put_of_ne, hq]
    rintro rfl
    rw [hq, Option.all_some, he] at hold
    cases hold
  have hreached := h.reached.ways ht.tree hways
  refine ⟨⟨h.here, hreached, fun q hq => ?_, fun t => ?_⟩, hself, mode, hget⟩
  · rw [get?_put_of_ne, h.outside q hq]
    rintro rfl
    exact hq hself
  · rw [named?, hreached.locateSelf_eq hr h₀, hself]
    simp [hget]

theorem removeFile (h : Besides ns root r d d₁) (hd : d₁.removeFile (absolute (ns ++ [r])) = .ok d₂) :
    Besides ns root r d d₂ := by
  rcases removeFile_ok hd with ⟨-, rfl⟩ | ⟨p, hp, hdir, rfl⟩
  · exact h
  obtain rfl := h.reached.place hr hp
  have hways : Ways d₁ (d₁.cut (root ++ [shownPart r])) := by
    intro q e hq he
    rw [h.reached.tree.get?_cut_of_ne hdir, hq]
    rintro rfl
    cases e with
    | file bytes mode => cases he
    | directory => exact hdir hq
    | link t => exact h.free t (named?_eq_some.2 ⟨_, hp, hq⟩)
  rw [h.reached.locateSelf_eq hr h₀] at hp
  have hreached := h.reached.ways (h.reached.tree.cut _) hways
  refine ⟨h.here, hreached, fun q hq => ?_, fun t => ?_⟩
  · rw [h.reached.tree.get?_cut_of_ne hdir, h.outside q hq]
    rintro rfl
    exact hq hp
  · rw [named?, hreached.locateSelf_eq hr h₀, hp]
    simp [get?_cut_of_below (List.prefix_refl _)]

/-- What another name in the directory names stays. -/
theorem named?_eq {q : Part} (h : Besides ns root r d d₁) (hq : IsName q) (hne : shownPart r ≠ shownPart q) :
    d₁.named? (absolute (ns ++ [q])) = d.named? (absolute (ns ++ [q])) := by
  rw [named?, named?, h.reached.locateSelf_eq hq h₀]
  cases hp : d.locateSelf (absolute (ns ++ [q])) with
  | error reason => rfl
  | ok p =>
    obtain rfl := h₀.place hq hp
    exact h.outside _ fun hc => append_ne hne.symm (h₀.place hr hc)

/-- A file that is moved to another name in its directory has that name then, and there is nothing at its old
one. -/
theorem rename {q : Part} {mode : Nat} (h : Besides ns root r d d₁) (hq : IsName q) (hne : shownPart r ≠ shownPart q)
    (hfile : d₁.get? (root ++ [shownPart r]) = some (.file bytes mode))
    (hd : d₁.rename (absolute (ns ++ [r])) (absolute (ns ++ [q])) = .ok d₂) :
    d.locateSelf (absolute (ns ++ [q])) = .ok (root ++ [shownPart q]) ∧
      Replaces (root ++ [shownPart r]) (root ++ [shownPart q]) d₁ d₂ ∧ d₂.named? (absolute (ns ++ [r])) = none ∧
      ((∀ t, d₁.named? (absolute (ns ++ [q])) ≠ some (.link t)) →
        d₂.named? (absolute (ns ++ [q])) = some (.file bytes mode)) := by
  obtain ⟨p, q', hp, hself, -, hdir, hmoved⟩ := rename_ok hd
  obtain rfl := h.reached.place hr hp
  obtain rfl := h.reached.place hq hself
  have hdir' : d₁.get? (root ++ [shownPart q]) ≠ some .directory := by
    rw [hfile] at hdir
    exact hdir.resolve_left (by simp)
  obtain ⟨hpq, hqp, rfl⟩ := hmoved.resolve_left fun hc => append_ne hne hc.1
  have hreplaces := h.reached.tree.replaces_moveEntries hpq hqp (by simp [hfile]) hdir'
    (by rw [List.dropLast_concat, h.reached.directory])
  refine ⟨by rw [← h.reached.locateSelf_eq hq h₀, hself], hreplaces, ?_, fun hlink => ?_⟩
  · -- the link that was replaced may be on the way itself, so the way may be gone
    by_contra hc
    obtain ⟨e, he⟩ := Option.ne_none_iff_exists'.1 hc
    obtain ⟨p, hp, hget⟩ := named?_eq_some.1 he
    have hback : Ways (d₁.moveEntries (root ++ [shownPart r]) (root ++ [shownPart q])) d₁ := by
      intro s e hs he
      rw [← hreplaces.outside, hs]
      · rintro rfl
        rw [hreplaces.source] at hs
        cases hs
      · rintro rfl
        rw [hreplaces.target, hfile] at hs
        cases hs
        cases he
    have hall : ∀ p ∈ ns ++ [r], IsName p := List.forall_mem_append.2 ⟨h₀.names, by simpa using hr⟩
    have hreached := h.reached.of_ways hreplaces.tree hback (isDirectory_of_walkPath hreplaces.tree hall hp)
    obtain rfl := hreached.place hr hp
    rw [hreplaces.source] at hget
    cases hget
  · have hways : Ways d₁ (d₁.moveEntries (root ++ [shownPart r]) (root ++ [shownPart q])) := by
      intro s e hs he
      rw [hreplaces.outside, hs]
      · rintro rfl
        rw [hfile] at hs
        cases hs
        cases he
      · rintro rfl
        cases e with
        | file bytes mode => cases he
        | directory => exact hdir' hs
        | link t => exact hlink t (named?_eq_some.2 ⟨_, hself, hs⟩)
    have hreached := h.reached.ways hreplaces.tree hways
    rw [named?, hreached.locateSelf_eq hq h.reached, hself]
    exact hreplaces.target.trans hfile

end Besides

/-! ## What is left -/

/-- Whether nothing was moved from one place to another: what is there stays, nothing new is at the first place,
and there are no new links. -/
structure Abandons (p q : Place) (d d' : Disk) : Prop where
  tree : d'.Tree
  target : d'.get? q = d.get? q
  source : d'.get? p = none ∨ d'.get? p = d.get? p
  links : ∀ r target, d'.get? r = some (.link target) → d.get? r = some (.link target)

theorem Abandons.refl {p q : Place} (ht : d.Tree) : Abandons p q d d := ⟨ht, rfl, .inr rfl, fun _ _ h => h⟩

theorem Abandons.cut {p q : Place} (ht : d₁.Tree) (hp : p ≠ []) (hpq : ¬ p <+: q) (htarget : d₁.get? q = d.get? q)
    (hlinks : ∀ r target, d₁.get? r = some (.link target) → d.get? r = some (.link target)) :
    Abandons p q d (d₁.cut p) where
  tree := ht.cut p
  target := (get?_cut_of_not_below hpq).trans htarget
  source := .inl (get?_cut_of_below (List.prefix_refl p) hp)
  links r target hr := hlinks r target (Extends.cut d₁ p r _ hr)

/-- Writing a file changes no directory and brings no link. -/
theorem write_before {path : String} {p : Place} (hwrite : d.write path bytes = .ok d₁) :
    (d₁.get? p = some .directory → d.get? p = some .directory) ∧
      ∀ target, d₁.get? p = some (.link target) → d.get? p = some (.link target) := by
  obtain ⟨r, -, hput⟩ := write_ok hwrite
  have hfile : ∃ mode, d₁ = d.put r (.file bytes mode) ∧ r ≠ [] := by
    rcases hput with ⟨old, mode, hget, rfl⟩ | ⟨hget, rfl⟩
    · exact ⟨mode, rfl, ne_nil_of_not_directory (d := d) (by simp [hget])⟩
    · exact ⟨_, rfl, ne_nil_of_not_directory (d := d) (by simp [hget])⟩
  obtain ⟨mode, rfl, hr⟩ := hfile
  rw [get?_put hr]
  split <;> simp

end Disk

namespace Forge

variable {w w' : World} {ns : List Part} {q s : Part} {bytes : ByteArray}

/-- Writes a file beside another, and puts it in the place of that. -/
abbrev putInPlace (beside target : String) (bytes : ByteArray) : Forge Unit := do
  change (·.write beside bytes)
  change (·.removeFile target)
  change (·.rename beside target)

/-- Replaces a file, and removes what is left beside it. -/
abbrev replaceFile (beside target : String) (bytes : ByteArray) : Forge Unit :=
  finally_ (putInPlace beside target bytes) (change (·.removeFile beside))

section Replace

variable (h : Laid w.disk ns) (hq : IsName q) (hs : '/' ∉ s)
include h hq hs

/-- What is written beside a file takes its place, or nothing was changed but what is beside it. -/
theorem replace_cases {r : Except Failure Unit}
    (hrun : runOn w (putInPlace (absolute (ns ++ [q ++ '.' :: s])) (absolute (ns ++ [q])) bytes) = (r, w')) :
    (∃ d₁ d₄, r = .ok () ∧ w.disk.write (absolute (ns ++ [q ++ '.' :: s])) bytes = .ok d₁ ∧
      w'.disk.removeFile (absolute (ns ++ [q ++ '.' :: s])) = .ok d₄ ∧
      Replaces (ns.map shownPart ++ [shownPart (q ++ '.' :: s)]) (ns.map shownPart ++ [shownPart q]) d₁ d₄) ∨
    ∃ f, r = .error f ∧ (w'.disk = w.disk ∨
      w.disk.write (absolute (ns ++ [q ++ '.' :: s])) bytes = .ok w'.disk ∧
        w'.disk.get? (ns.map shownPart ++ [shownPart q]) = some .directory) := by
  rw [putInPlace, runOn_bind] at hrun
  rcases hwrite : runOn w (change (·.write (absolute (ns ++ [q ++ '.' :: s])) bytes)) with ⟨f | _, w₁⟩
  · rw [hwrite] at hrun
    cases hrun
    obtain ⟨-, -, -, rfl⟩ := change_error hwrite
    exact .inr ⟨f, rfl, .inl rfl⟩
  rw [hwrite] at hrun
  obtain ⟨d₁, hd₁, rfl⟩ := change_ok hwrite
  dsimp only at hrun
  rw [runOn_bind] at hrun
  rcases hremove : runOn { w with disk := d₁ } (change (·.removeFile (absolute (ns ++ [q])))) with ⟨f | _, w₂⟩
  · rw [hremove] at hrun
    cases hrun
    obtain ⟨fault, hfault, -, rfl⟩ := change_error hremove
    exact .inr ⟨f, rfl, .inr ⟨hd₁, h.directory_of_removeFile_error hq hs hd₁ hfault⟩⟩
  rw [hremove] at hrun
  obtain ⟨d₂, hd₂, rfl⟩ := change_ok hremove
  obtain ⟨d₃, d₄, hd₃, hd₄, hreplaces⟩ := h.replace hq hs hd₁ hd₂
  dsimp only at hrun
  rw [runOn_change] at hrun
  dsimp only at hrun
  rw [hd₃] at hrun
  cases hrun
  exact .inl ⟨d₁, d₄, rfl, hd₁, hd₄, hreplaces⟩

theorem replace_ok
    (hrun : runOn w (replaceFile (absolute (ns ++ [q ++ '.' :: s])) (absolute (ns ++ [q])) bytes) = (.ok (), w')) :
    ∃ d₁, w.disk.write (absolute (ns ++ [q ++ '.' :: s])) bytes = .ok d₁ ∧
      Replaces (ns.map shownPart ++ [shownPart (q ++ '.' :: s)]) (ns.map shownPart ++ [shownPart q]) d₁ w'.disk := by
  obtain ⟨w₁, hbody, hclean⟩ := of_finally_ok hrun
  obtain ⟨d, hd, rfl⟩ := change_ok hclean
  rcases replace_cases h hq hs hbody with ⟨d₁, d₄, -, hd₁, hd₄, hreplaces⟩ | ⟨f, hf, -⟩
  · cases hd.symm.trans hd₄
    exact ⟨d₁, hd₁, hreplaces⟩
  · cases hf

theorem replace_error {f : Failure}
    (hrun : runOn w (replaceFile (absolute (ns ++ [q ++ '.' :: s])) (absolute (ns ++ [q])) bytes) = (.error f, w')) :
    Abandons (ns.map shownPart ++ [shownPart (q ++ '.' :: s)]) (ns.map shownPart ++ [shownPart q]) w.disk w'.disk := by
  rw [replaceFile, runOn_finally] at hrun
  rcases hbody : runOn w (putInPlace (absolute (ns ++ [q ++ '.' :: s])) (absolute (ns ++ [q])) bytes) with ⟨r, w₁⟩
  rw [hbody] at hrun
  dsimp only at hrun
  have hST := not_below (P := ns.map shownPart) (shownPart_dot_ne q s)
  rcases replace_cases h hq hs hbody with ⟨d₁, d₄, rfl, -, hd₄, -⟩ | ⟨f', -, hsame | ⟨hwrite, hdir⟩⟩
  · rw [runOn_change, hd₄] at hrun
    cases hrun
  · -- nothing was written; what is beside the file may go
    rcases hclean : runOn w₁ (change (·.removeFile (absolute (ns ++ [q ++ '.' :: s])))) with ⟨e | _, w₂⟩
    · rw [hclean] at hrun
      cases hrun
      obtain ⟨-, -, -, rfl⟩ := change_error hclean
      rw [hsame]
      exact .refl h.tree
    · rw [hclean] at hrun
      cases hrun
      obtain ⟨d, hd, rfl⟩ := change_ok hclean
      rw [hsame] at hd
      obtain ⟨-, rfl⟩ := h.removeFile_ok (isName_dot hq hs) hd
      exact .cut h.tree (by simp) hST rfl fun _ _ hr => hr
  · -- a directory stands in the way; what was written beside it is there to be removed
    obtain ⟨h₁, hshort, e, he, hfile⟩ := h.write (isName_dot hq hs) hwrite
    have hplace := h₁.locateSelf (isName_dot hq hs)
    rw [if_neg hshort] at hplace
    have hclean := removeFile_of_locateSelf (hasNull_of_write hwrite) hplace (by simpa [he] using hfile)
    rw [runOn_change, hclean] at hrun
    cases hrun
    exact .cut h₁.tree (by simp) hST (hdir.trans ((write_before hwrite).1 hdir).symm) fun r => (write_before hwrite).2

end Replace

end Forge

end VariantForge
