import VariantForge.Archive.Pack
import VariantForge.Proofs.Disk.Anchor
import VariantForge.Proofs.Execution
import VariantForge.Toolchain.Unpack

/-!
# Containment — what unpacking changes outside its directory

The checks on members go by the text of paths, while the disk goes by its links. They agree as long
as the links are `Tidy`: each is put where no earlier link is on the way, and points to a path that
climbs only at its front, no higher than the directory. Then every link below the directory stands
where its name says (`Contained`), each member keeps that, and so does a whole archive. A link put
behind another one breaks it.
-/

namespace VariantForge.Unpack

open Path Disk Forge

/-! ## Tidy archives -/

/-- The place of a member below the directory of its archive, going by the text of its name. -/
def memberPlace (m : Archive.Member) : Place := (normalParts true m.name.toList).map shownPart

/-- What a link member points to. -/
def linkTarget (bytes : ByteArray) : String := Text.trim (Utf8.decode bytes)

/-- The places of links after one more member. -/
def placedAfter (m : Archive.Member) (placed : List Place) : List Place :=
  if m.isLink then memberPlace m :: placed else placed

/-- Whether a member, if it is a link, is put behind none of those placed before it and points to a
path that climbs only at its front, no higher than the directory of the archive. -/
def TidyMember (c : Archive.Contents) (placed : List Place) (m : Archive.Member) : Prop :=
  m.isLink = true → (∀ q ∈ placed, q <+: memberPlace m → q = memberPlace m) ∧
    ∀ bytes ∈ (Archive.content c m).toOption,
      Descends ((memberPlace m).length - 1) (names (linkTarget bytes))

instance (c : Archive.Contents) (placed : List Place) (m : Archive.Member) :
    Decidable (TidyMember c placed m) :=
  inferInstanceAs (Decidable (_ → _ ∧ ∀ bytes ∈ (Archive.content c m).toOption, _))

/-- Whether the members from a position of the directory on are tidy, given the places of links
before them. -/
def TidyFrom (c : Archive.Contents) (placed : List Place) : Nat → Nat → Prop
  | 0, _ => True
  | n + 1, i =>
    match Archive.memberAt c i with
    | .error _ => True
    | .ok (m, next) => TidyMember c placed m ∧ TidyFrom c (placedAfter m placed) n next

instance (c : Archive.Contents) : ∀ placed n i, Decidable (TidyFrom c placed n i)
  | _, 0, _ => isTrue trivial
  | placed, n + 1, i =>
    match h : Archive.memberAt c i with
    | .error _ => isTrue (by rw [TidyFrom, h]; trivial)
    | .ok (m, next) =>
      have := instDecidableTidyFrom c (placedAfter m placed) n next
      decidable_of_iff (TidyMember c placed m ∧ TidyFrom c (placedAfter m placed) n next)
        (by rw [TidyFrom, h])

/-- Whether all links of an archive are tidy. -/
def Tidy (bytes : ByteArray) : Prop :=
  ∀ c ∈ (Archive.open? bytes).toOption, TidyFrom c [] c.count c.start

instance (bytes : ByteArray) : Decidable (Tidy bytes) :=
  inferInstanceAs (Decidable (∀ c ∈ (Archive.open? bytes).toOption, TidyFrom c [] c.count c.start))

/-! ## Paths of members -/

theorem of_not_leadsOut {name : String} (h : leadsOut name = false) :
    isAbsolute name = false ∧ up ∉ normalParts true name.toList ∧
      ((name.toList.getLast? == some '/') = false → normalParts true name.toList ≠ []) := by
  simp only [leadsOut, Bool.or_eq_false_iff, beq_eq_false_iff_ne] at h
  obtain ⟨⟨⟨⟨⟨hdot, hup⟩, hstart⟩, -⟩, hslash⟩, -⟩ := h
  have hrel : isAbsolute name = false := by
    by_contra hc
    have habs := isAbsolute_normalize (by simpa using hc)
    rw [isAbsolute, isAbsoluteChars, beq_iff_eq, List.head?_eq_some_iff] at habs
    obtain ⟨cs, hcs⟩ := habs
    rw [Text.startsWith, hcs] at hslash
    exact absurd hslash (by simp)
  refine ⟨hrel, fun hmem => ?_, fun hlast hnil => hdot ?_⟩
  · rcases normalize_climbing hrel hmem with hc | hc
    · exact hup hc
    · rw [hc] at hstart
      cases hstart
  · have hrel : isAbsoluteChars name.toList = false := hrel
    simp only [Path.normalize, normalizeChars, hrel, Bool.not_false, hnil, hlast]
    rfl

/-- The path of a member goes on from the parts that lead to the directory by its own. -/
theorem memberPath_eq (here : String) {top : List Part} (htop : ∀ p ∈ top, IsName p) {name : String}
    (h : up ∉ normalParts true name.toList) :
    resolve here [join [absolute top, name]] = absolute (top ++ normalParts true name.toList) := by
  have habs : isAbsolute (absolute top) = true := isAbsolute_absolute top
  rw [resolve_absolute here (isAbsolute_join habs), normalParts_join habs, toList_absolute,
    normalParts_absolute htop, descend_eq_append h fun p hp => (htop p hp).ne_up]

/-! ## The invariant -/

/-- A disk on which an archive is unpacked: outside the directory nothing has changed, and below it
every link stands at one of some places and does not lead out. -/
structure Contained (start : Disk) (top : List Part) (root : Place) (placed : List Place) (d : Disk) :
    Prop where
  anchored : Anchored d top root
  here : d.here = start.here
  outside : ∀ p, ¬ root <+: p → d.get? p = start.get? p
  links : ∀ q target, root <+: q → d.get? q = some (.link target) → ∃ ns ∈ placed, q = root ++ ns

variable {start d d' : Disk} {top ns : List Part} {root p : Place} {placed placed' : List Place}

theorem Contained.mono (h : Contained start top root placed d) (hsub : placed ⊆ placed') :
    Contained start top root placed' d where
  anchored := h.anchored
  here := h.here
  outside := h.outside
  links q target hq ht := by
    obtain ⟨ns, hns, he⟩ := h.links q target hq ht
    exact ⟨ns, hsub hns, he⟩

theorem Contained.adds (h : Contained start top root placed d) (ha : Adds (root <+: ·) d d') :
    Contained start top root placed d' where
  anchored := h.anchored.adds ha
  here := ha.here.trans h.here
  outside p hp := by
    rcases ha.added p with he | ⟨hs, -, -⟩
    · rw [he, h.outside p hp]
    · exact absurd hs hp
  links q target hq ht := h.links q target hq (ha.link ht)

theorem Contained.put {e : Entry} (h : Contained start top root placed d) (hin : root <+: p)
    (hp : p ≠ []) (hg : Grows d (d.put p e))
    (he : ∀ target, e = .link target → (∃ ns ∈ placed, p = root ++ ns) ∧ fromRoot target = false ∧
      Descends (p.length - 1 - root.length) (names target)) :
    Contained start top root placed (d.put p e) where
  anchored := by
    refine h.anchored.grows hg fun q target hq ht => ?_
    rw [get?_put hp] at ht
    split at ht
    · rename_i hqp
      subst hqp
      cases ht
      exact (he target rfl).2
    · exact h.anchored.stays q target hq ht
  here := h.here
  outside q hq := by
    have hqp : q ≠ p := by
      rintro rfl
      exact hq hin
    rw [get?_put_of_ne hqp, h.outside q hq]
  links q target hq ht := by
    rw [get?_put hp] at ht
    split at ht
    · rename_i hqp
      subst hqp
      cases ht
      exact (he target rfl).1
    · exact h.links q target hq ht

theorem Contained.create {bytes : ByteArray} (h : Contained start top root placed d)
    (hns : ∀ q ∈ ns, IsName q) (hne : ns ≠ [])
    (hd : d.create (absolute (top ++ ns)) bytes = .ok d') : Contained start top root placed d' := by
  obtain ⟨p, hp, hnone, rfl⟩ := create_ok hd
  have hnil : p ≠ [] := by
    rintro rfl
    cases hnone
  exact h.put (h.anchored.inside hns (.inr hne) hp) hnil (.put_new hnone) (by simp)

theorem Contained.setMode {mode : Nat} (h : Contained start top root placed d)
    (hns : ∀ q ∈ ns, IsName q) (hd : d.setMode (absolute (top ++ ns)) mode = .ok d') :
    Contained start top root placed d' := by
  rcases setMode_ok hd with rfl | ⟨p, bytes, old, hp, hfile, rfl⟩
  · exact h
  · have hnil : p ≠ [] := by
      rintro rfl
      cases hfile
    exact h.put (h.anchored.inside hns (.inl rfl) hp) hnil (.put_file hfile) (by simp)

/-- A link is put where its name says, because no other link is on the way. -/
theorem Contained.makeLink {target : String} (h : Contained start top root placed d)
    (hns : ∀ q ∈ ns, IsName q) (hne : ns ≠ []) (hmem : ns.map shownPart ∈ placed)
    (hplaced : ∀ q ∈ placed, q <+: ns.map shownPart → q = ns.map shownPart)
    (hrel : isAbsolute target = false) (hdesc : Descends (ns.length - 1) (names target))
    (hd : d.makeLink target (absolute (top ++ ns)) = .ok d') : Contained start top root placed d' := by
  obtain ⟨p, hp, hnone, rfl⟩ := makeLink_ok hd
  have hsteps : ∀ n ∈ ns.map shownPart, IsStep n := by
    intro n hn
    obtain ⟨q, hq, rfl⟩ := List.mem_map.1 hn
    exact isStep_shownPart (hns q hq)
  have hwalk := walkPath_absolute (List.forall_mem_append.2 ⟨h.anchored.names, hns⟩) hp
  rw [List.map_append] at hwalk
  obtain ⟨n, hn⟩ :=
    walk_through h.anchored.way h.anchored.directory (.inr (by simpa using hne)) hwalk
  have hplace : p = root ++ ns.map shownPart := by
    refine walk_plain hsteps (fun a ha hane _ t ht => ?_) hn
    obtain ⟨q, hq, he⟩ := h.links _ t (List.prefix_append root a) ht
    obtain rfl := List.append_cancel_left he
    exact hane (hplaced a hq ha)
  have hlen : p.length - 1 - root.length = ns.length - 1 := by
    rw [hplace, List.length_append, List.length_map]
    omega
  have hnil : p ≠ [] := by
    rintro rfl
    cases hnone
  refine h.put ⟨_, hplace.symm⟩ hnil (.put_new hnone) fun t ht => ?_
  cases ht
  refine ⟨⟨_, hmem, hplace⟩, fromRoot_shown hrel, ?_⟩
  rw [hlen]
  exact hdesc.shown

/-! ## Members -/

/-- What unpacking preserves of a world. -/
def Safe (start : Disk) (top : List Part) (root : Place) (placed : List Place) (w : World) : Prop :=
  Contained start top root placed w.disk

theorem makeDirectories_keeps (hns : ∀ q ∈ ns, IsName q) :
    Keeps (Safe start top root placed) (Forge.makeDirectories (absolute (top ++ ns))) :=
  .makeDirectories fun _ h => Contained.adds h (h.anchored.makeDirectories_adds hns)

theorem makeFile_keeps (c : Archive.Contents) (m : Archive.Member) (hns : ∀ q ∈ ns, IsName q)
    (hne : ns ≠ []) :
    Keeps (Safe start top root placed) (makeFile c m (absolute (top ++ ns))) := by
  have hcreate (bytes : ByteArray) :
      Keeps (Safe start top root placed) (Forge.change (·.create (absolute (top ++ ns)) bytes)) :=
    .change fun _ _ h hd => Contained.create h hns hne hd
  have hmode (mode : Nat) :
      Keeps (Safe start top root placed) (Forge.change (·.setMode (absolute (top ++ ns)) mode)) :=
    .change fun _ _ h hd => Contained.setMode h hns hd
  rw [makeFile]
  split
  · exact (hcreate _).bind fun _ => .ite (hmode _) (.pure _)
  · exact (hcreate _).bind fun _ => .throw _
  · exact .throw _

theorem makeLink_keeps {outDir name : String} {bytes : ByteArray} (hns : ∀ q ∈ ns, IsName q) (hne : ns ≠ [])
    (hmem : ns.map shownPart ∈ placed)
    (hplaced : ∀ q ∈ placed, q <+: ns.map shownPart → q = ns.map shownPart)
    (hdesc : Descends (ns.length - 1) (names (linkTarget bytes))) :
    Keeps (Safe start top root placed)
      (makeLink outDir name (absolute (top ++ ns)) bytes) := by
  refine Keeps.here.bind fun here => Keeps.ite_throw fun hguard => ?_
  have hrel : isAbsolute (linkTarget bytes) = false := by
    simp only [Bool.or_eq_true, not_or, Bool.not_eq_true] at hguard
    exact hguard.1.2
  exact .change fun _ _ h hd => Contained.makeLink h hns hne hmem hplaced hrel hdesc hd

/-- Unpacks one member once there is a directory for it. -/
abbrev fill (c : Archive.Contents) (outDir : String) (m : Archive.Member) (path : String) : Forge Unit := do
  if m.isLink then makeLink outDir m.name path (← content c m) else makeFile c m path

/-- The directory above some names, and not that of their root. -/
theorem dirname_below {top : List Part} (htop : ∀ q ∈ top, IsName q) (hns : ∀ q ∈ ns, IsName q) (hne : ns ≠ []) :
    dirname (absolute (top ++ ns)) = absolute (top ++ ns.dropLast) := by
  have hdrop : ∀ q ∈ ns.dropLast, IsName q := fun q hq => hns q ((List.dropLast_sublist ns).mem hq)
  have habove := dirname_absolute (List.forall_mem_append.2 ⟨htop, hdrop⟩) (hns _ (List.getLast_mem hne))
  rwa [List.append_assoc, List.dropLast_concat_getLast] at habove

theorem fill_keeps {c : Archive.Contents} {m : Archive.Member} {outDir : String} (hns : ∀ q ∈ ns, IsName q)
    (hne : ns ≠ [])
    (hlink : m.isLink = true → ns.map shownPart ∈ placed ∧
      (∀ q ∈ placed, q <+: ns.map shownPart → q = ns.map shownPart) ∧
        ∀ bytes ∈ (Archive.content c m).toOption, Descends (ns.length - 1) (names (linkTarget bytes))) :
    Keeps (Safe start top root placed) (fill c outDir m (absolute (top ++ ns))) := by
  rw [fill]
  split
  · rename_i his
    obtain ⟨hmem, hplaced, hdesc⟩ := hlink his
    rw [content]
    split
    · rename_i bytes hbytes
      rw [pure_bind]
      exact makeLink_keeps hns hne hmem hplaced (hdesc bytes (by rw [hbytes]; rfl))
    · exact fun _ h => h
  · exact makeFile_keeps c m hns hne

theorem TidyMember.after {c : Archive.Contents} {m : Archive.Member} (h : TidyMember c placed m)
    (hplace : memberPlace m = ns.map shownPart) (hlink : m.isLink = true) :
    ns.map shownPart ∈ placedAfter m placed ∧
      (∀ q ∈ placedAfter m placed, q <+: ns.map shownPart → q = ns.map shownPart) ∧
        ∀ bytes ∈ (Archive.content c m).toOption, Descends (ns.length - 1) (names (linkTarget bytes)) := by
  obtain ⟨hplaced, hdesc⟩ := h hlink
  have hafter : placedAfter m placed = memberPlace m :: placed := if_pos hlink
  rw [hplace] at hplaced hdesc hafter
  rw [List.length_map] at hdesc
  rw [hafter]
  exact ⟨List.mem_cons_self .., List.forall_mem_cons.2 ⟨fun _ => rfl, hplaced⟩, hdesc⟩

theorem place_keeps {c : Archive.Contents} {m : Archive.Member} (htop : ∀ q ∈ top, IsName q)
    (hns : ∀ q ∈ ns, IsName q) (hne : ns ≠ []) (hplace : memberPlace m = ns.map shownPart) (ht : TidyMember c placed m) :
    Keeps (Safe start top root (placedAfter m placed))
      (place c (absolute top) m (absolute (top ++ ns))) := by
  have hdrop : ∀ q ∈ ns.dropLast, IsName q := fun q hq => hns q ((List.dropLast_sublist ns).mem hq)
  rw [place, dirname_below htop hns hne]
  exact (makeDirectories_keeps hdrop).bind fun _ => fill_keeps hns hne (ht.after hplace)

theorem unpackMember_keeps {c : Archive.Contents} {m : Archive.Member} (l : UnpackLimits)
    (p : Progress) (htop : ∀ q ∈ top, IsName q) (ht : TidyMember c placed m) :
    Keeps (Safe start top root (placedAfter m placed)) (unpackMember c l (absolute top) p m) := by
  refine Keeps.ite_throw fun _ => Keeps.ite_throw fun _ => Keeps.ite_throw fun hout => ?_
  obtain ⟨hrel, hup, hne⟩ := of_not_leadsOut (by simpa using hout)
  have hns : ∀ q ∈ normalParts true m.name.toList, IsName q := fun q hq =>
    isName_of_mem_of_up_notMem hq hup
  refine Keeps.here.bind fun here => ?_
  rw [memberPath_eq here htop hup]
  refine Keeps.ite_throw fun _ => ?_
  split
  · exact (makeDirectories_keeps hns).bind fun _ => .pure _
  · rename_i hdir
    refine Keeps.ite_throw fun _ => Keeps.ite_throw fun _ => ?_
    exact (place_keeps htop hns (hne (by simpa [Archive.Member.isDirectory] using hdir)) rfl ht).bind
      fun _ => .pure _

/-! ## Archives -/

theorem unpackFrom_keeps {c : Archive.Contents} (l : UnpackLimits) (p : Progress)
    (htop : ∀ q ∈ top, IsName q) {n i : Nat} (ht : TidyFrom c placed n i) {w : World}
    (h : Safe start top root placed w) :
    ∃ placed', Safe start top root placed' (runOn w (unpackFrom c l (absolute top) p n i)).2 := by
  induction n generalizing p i placed w with
  | zero => exact ⟨placed, h⟩
  | succ n ih =>
    rw [unpackFrom]
    rw [TidyFrom] at ht
    split
    · exact ⟨placed, h⟩
    · rename_i m next hmember
      rw [hmember] at ht
      have hsub : placed ⊆ placedAfter m placed := by
        rw [placedAfter]
        split
        · exact List.subset_cons_self ..
        · exact List.Subset.refl _
      have hafter := unpackMember_keeps l p htop ht.1 w (Contained.mono h hsub)
      rcases hrun : runOn w (unpackMember c l (absolute top) p m) with ⟨e | p', w'⟩
      · rw [hrun] at hafter
        rw [runOn_bind_error hrun]
        exact ⟨_, hafter⟩
      · rw [hrun] at hafter
        rw [runOn_bind_ok hrun]
        exact ih p' ht.2 hafter

/-- The path of the directory that an archive is unpacked in. -/
def outPath (outDir : String) (w : World) : String :=
  Path.resolve ("/" ++ "/".intercalate w.disk.here) [outDir]

/-- The disk after that directory was made. -/
def opened (outDir : String) (w : World) : Disk :=
  (w.disk.makeDirectories (outPath outDir w)).1

/-- Unpacking a tidy archive into a directory with no links changes nothing outside, except that
directories may be made on the way to it. -/
theorem run_contained (archive outDir : String) (l : UnpackLimits) (w : World)
    (hlinks : ∀ root, (opened outDir w).locate (outPath outDir w) = .ok root →
      ∀ q target, root <+: q → w.disk.get? q ≠ some (.link target))
    (htidy : ∀ bytes, (opened outDir w).read (outPath archive w) = .ok bytes → Tidy bytes)
    (p : Place)
    (hp : ∀ root, (opened outDir w).locate (outPath outDir w) = .ok root → ¬ root <+: p) :
    (runOn w (run archive outDir l)).2.disk.get? p = w.disk.get? p ∨
      w.disk.get? p = none ∧
        (runOn w (run archive outDir l)).2.disk.get? p = some .directory := by
  have hadds : Adds (fun _ => True) w.disk (opened outDir w) := makeDirectories_adds ..
  have hopened : (opened outDir w).get? p = w.disk.get? p ∨
      w.disk.get? p = none ∧ (opened outDir w).get? p = some .directory :=
    (hadds.added p).imp_right And.right
  suffices h : (runOn w (run archive outDir l)).2.disk.get? p = (opened outDir w).get? p by
    rwa [h]
  have habs (path : String) :
      Path.resolve ("/" ++ "/".intercalate w.disk.here) [path] = outPath path w := rfl
  rcases hmade : w.disk.makeDirectories (outPath outDir w) with ⟨made, fault⟩
  have hd : opened outDir w = made := by rw [opened, hmade]
  rw [hd] at hlinks htidy hp hadds ⊢
  rw [run, runOn_bind_ok (runOn_here w)]
  simp only [habs]
  rw [runOn_bind, runOn_makeDirectories, hmade]
  cases fault with
  | some fault => rfl
  | none =>
    obtain ⟨root, hlocate, hdir⟩ := makeDirectories_locate hmade
    have hnone : ∀ q target, root <+: q → made.get? q ≠ some (.link target) :=
      fun q target hq ht => hlinks root hlocate q target hq (hadds.link ht)
    obtain ⟨top, htop, hout⟩ : ∃ top, (∀ q ∈ top, IsName q) ∧ outPath outDir w = absolute top :=
      exists_resolve _ _
    rw [hout] at hlocate hp ⊢
    have hanchored : Anchored made top root :=
      .of_locate htop hlocate hdir fun q target hq ht => (hnone q target hq ht).elim
    have hstart : Contained made top root [] made :=
      ⟨hanchored, rfl, fun _ _ => rfl, fun q target hq ht => (hnone q target hq ht).elim⟩
    dsimp only [Option.elim]
    rw [runOn_bind, runOn_readFile]
    cases hread : made.read (outPath archive w) with
    | error e => rfl
    | ok bytes =>
      rw [mapError_ok]
      dsimp only
      cases hopen : Archive.open? bytes with
      | error e => rfl
      | ok c =>
        dsimp only
        obtain ⟨placed, hafter⟩ := unpackFrom_keeps l {} htop (htidy bytes hread c (by rw [hopen]; rfl))
          (w := { w with disk := made }) hstart
        rw [bind_pure_comp, runOn_map]
        exact hafter.outside p (hp root hlocate)

/-- The records of files that begin at a position, each compressed into one block that holds it as
it is, and their directory. -/
def blocksFrom : Nat → List Archive.Packed → List UInt8 × List UInt8
  | _, [] => ([], [])
  | offset, f :: rest =>
    let name := (Utf8.encode f.name).toList
    let size := f.bytes.size
    let block :=
      1 :: Archive.littleEndian 2 size ++ Archive.littleEndian 2 (65535 - size) ++ f.bytes.toList
    let shared :=
      Archive.littleEndian 2 20 ++ Archive.littleEndian 2 0x800 ++ Archive.littleEndian 2 8 ++
        Archive.littleEndian 4 0 ++ Archive.littleEndian 4 (Checksum.ofBytes f.bytes).toNat ++
        Archive.littleEndian 4 block.length ++ Archive.littleEndian 4 size ++
        Archive.littleEndian 2 name.length ++ Archive.littleEndian 2 0
    let front := Archive.littleEndian 4 0x04034B50 ++ shared ++ name ++ block
    let record :=
      Archive.littleEndian 4 0x02014B50 ++ Archive.littleEndian 2 0x33F ++ shared ++
        Archive.littleEndian 6 0 ++ Archive.littleEndian 4 (f.mode * 65536) ++
        Archive.littleEndian 4 offset ++ name
    let (fronts, records) := blocksFrom (offset + front.length) rest
    (front ++ fronts, record ++ records)

/-- The archive of some files in blocks. -/
def inBlocks (files : List Archive.Packed) : ByteArray :=
  let (fronts, records) := blocksFrom 0 files
  let last :=
    Archive.littleEndian 4 0x06054B50 ++ Archive.littleEndian 4 0 ++
      Archive.littleEndian 2 files.length ++ Archive.littleEndian 2 files.length ++
      Archive.littleEndian 4 records.length ++ Archive.littleEndian 4 fronts.length ++
      Archive.littleEndian 2 0
  ⟨(fronts ++ records ++ last).toArray⟩

/-- A disk with a directory and an archive next to it. -/
def besides (archive : ByteArray) : World where
  disk := ⟨[(["y"], .directory), (["a.zip"], .file archive 0o644)], []⟩

theorem besides_link {archive : ByteArray} {q : Place} {target : String} :
    (besides archive).disk.get? q ≠ some (.link target) := by
  intro h
  simp only [besides, get?, List.find?] at h
  split at h
  · cases h
  · split at h <;> rename_i hy
    · cases h
    · split at h <;> cases h

/-- A link, and a file that is put through it. -/
def through : ByteArray :=
  inBlocks [⟨"a/f", Utf8.encode "x", 0o100644⟩, ⟨"l", Utf8.encode "a", 0o120777⟩,
    ⟨"l/g", Utf8.encode "x", 0o100644⟩]

theorem through_contained :
    Tidy through ∧
      ((runOn (besides through) (run "/a.zip" "/x" {})).2.disk.get? ["y"] =
          (besides through).disk.get? ["y"] ∨
        (besides through).disk.get? ["y"] = none ∧
          (runOn (besides through) (run "/a.zip" "/x" {})).2.disk.get? ["y"] = some .directory) := by
  have htidy : ∀ bytes ∈ ((opened "/x" (besides through)).read
      (outPath "/a.zip" (besides through))).toOption, Tidy bytes := by
    decide +kernel
  have hout : ∀ root ∈ ((opened "/x" (besides through)).locate
      (outPath "/x" (besides through))).toOption, ¬ root <+: ["y"] := by
    decide +kernel
  exact ⟨by decide +kernel, run_contained "/a.zip" "/x" {} (besides through)
    (fun _ _ _ _ _ => besides_link) (fun bytes h => htidy bytes (by rw [h]; rfl)) ["y"]
    (fun root h => hout root (by rw [h]; rfl))⟩

/-- Two links, the second behind the first: there it stands higher than its name says, and it leads
to the directory besides. -/
def climbing : ByteArray :=
  inBlocks [⟨"a/l", Utf8.encode "..", 0o120777⟩, ⟨"a/l/m", Utf8.encode "../y", 0o120777⟩,
    ⟨"m/e", Utf8.encode "x", 0o100644⟩]

theorem climbing_not_contained :
    (∀ q target, (besides climbing).disk.get? q ≠ some (.link target)) ∧
      (opened "/x" (besides climbing)).locate (outPath "/x" (besides climbing)) = .ok ["x"] ∧
      ¬ ["x"] <+: ["y", "e"] ∧
      (besides climbing).disk.get? ["y", "e"] = none ∧
      ((runOn (besides climbing) (run "/a.zip" "/x" {})).2.disk.get? ["y", "e"]).isSome = true :=
  ⟨fun _ _ => besides_link, by rfl, by decide, by decide +kernel, by decide +kernel⟩

end VariantForge.Unpack
