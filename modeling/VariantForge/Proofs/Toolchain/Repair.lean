import VariantForge.Proofs.Disk.Mirrored
import VariantForge.Proofs.Matched
import VariantForge.Proofs.Toolchain.Delivery
import VariantForge.Proofs.Toolchain.Housing
import VariantForge.Proofs.Toolchain.Limits

/-!
# Repair — after a failed unpacking the next call can succeed

An archive that is downloaded goes into the chamber alone (`Toolchain.download_stored`), and if it holds one directory,
that of the toolchain, nothing else is changed as it is unpacked. So a call that fails then leaves the chamber as it
was, without the archive and what it grew beside (`Toolchain.Awaits.restored`). The next archive is unpacked on a disk
that differs in files alone from the one that it would have found before that call; there it comes to the same
(`Unpack.run_alike`), and a call that would have succeeded does (`Toolchain.resolve_again`).

What an archive puts beside that directory stays when it fails, and is in the way of the next one
(`Toolchain.resolve_littered`).
-/

namespace VariantForge

open Disk Forge Path

/-! ## Disks that lead the same way -/

namespace Disk

variable {chamber : String} {ns : List Part} {root : Place} {d d' : Disk}

theorem Mirrors.ways (h : Mirrors d d') : Ways d d' := by
  intro p e hp he
  rcases h.alike p with heq | ⟨b, m, _, _, hb, -⟩
  · rwa [← heq]
  · rw [hp] at hb
    cases hb
    cases he

/-- The removal of a file leaves the ways through all else. -/
theorem Extends.ways_cut {p : Place} (h : Extends d d') (ht : d'.Tree) (hp : (d.get? p).any Entry.isFile = true) :
    Ways d (d'.cut p) := by
  obtain ⟨bytes, mode, hfile⟩ : ∃ bytes mode, d.get? p = some (.file bytes mode) := by
    cases hget : d.get? p with
    | none => simp [hget] at hp
    | some e => cases e <;> simp [hget, Entry.isFile] at hp ⊢
  intro q e hq he
  rw [ht.get?_cut_of_ne (by simp [h p _ hfile]), h q e hq]
  rintro rfl
  rw [hfile] at hq
  cases hq
  cases he

/-- Whether a chamber lies at a place, and a program that works from a directory of the tree can reach it. -/
structure Lies (chamber : String) (ns : List Part) (root : Place) (d : Disk) : Prop where
  grounded : Grounded chamber d
  way : wayTo d.hereText chamber = ns
  reached : Reached d ns root

namespace Lies

variable (h : Lies chamber ns root d)
include h

/-- Where only files are missing, the chamber lies where it lay. -/
theorem ways (ht : d'.Tree) (hhere : d'.here = d.here) (hw : Ways d d') : Lies chamber ns root d' where
  grounded := h.grounded.tended ⟨hhere, ht, fun p hp => hw p _ hp rfl⟩
  way := by rw [← h.way, hereText, hereText, hhere]
  reached := h.reached.ways ht hw

variable {file : String} (hfile : IsName file.toList)
include hfile

theorem walkPath {follow : Bool}
    (hlink : follow = false ∨ ∀ t, d.get? (root ++ [shownPart file.toList]) ≠ some (.link t)) :
    d.walkPath follow (join [chamber, file]) =
      if isLongPath (join [chamber, file]) = true ∨ isLongName (shownPart file.toList) = true then .error .nameTooLong
      else .ok (root ++ [shownPart file.toList]) :=
  h.grounded.walkPath_reached (h.way ▸ h.reached) hfile hlink

theorem place {p : Place} (hp : d.locateSelf (join [chamber, file]) = .ok p) : p = root ++ [shownPart file.toList] := by
  rw [locateSelf, h.walkPath hfile (.inl rfl)] at hp
  split at hp <;> cases hp
  rfl

theorem not_missing : d.locateSelf (join [chamber, file]) ≠ .error .missing := by
  rw [locateSelf, h.walkPath hfile (.inl rfl)]
  split <;> simp

theorem removeAll (hd : d.removeAll (join [chamber, file]) = .ok d') :
    d' = d.cut (root ++ [shownPart file.toList]) := by
  rcases removeAll_ok hd with ⟨hmissing, -⟩ | ⟨p, hp, rfl⟩
  · exact absurd hmissing (h.not_missing hfile)
  · rw [h.place hfile hp]

theorem removeFile (hd : d.removeFile (join [chamber, file]) = .ok d') :
    d' = d.cut (root ++ [shownPart file.toList]) := by
  rcases removeFile_ok hd with ⟨hmissing, -⟩ | ⟨p, hp, -, rfl⟩
  · exact absurd hmissing (h.not_missing hfile)
  · rw [h.place hfile hp]

/-- A path that is short enough to lead to a directory leads to one wherever the chamber has one. -/
theorem isDirectory_iff (hlink : ∀ t, d.get? (root ++ [shownPart file.toList]) ≠ some (.link t)) :
    d.isDirectory (join [chamber, file]) = true ↔
      (isLongPath (join [chamber, file]) = false ∧ isLongName (shownPart file.toList) = false) ∧
        d.get? (root ++ [shownPart file.toList]) = some .directory := by
  have hlocate : d.locate (join [chamber, file]) = _ := h.walkPath hfile (.inr hlink)
  rw [Disk.isDirectory_iff, hlocate]
  by_cases hlong : isLongPath (join [chamber, file]) = true ∨ isLongName (shownPart file.toList) = true
  · rw [if_pos hlong]
    constructor
    · rintro ⟨_, hp, -⟩
      cases hp
    · rintro ⟨⟨hpath, hname⟩, -⟩
      simp [hpath, hname] at hlong
  · rw [if_neg hlong]
    rw [not_or, Bool.not_eq_true, Bool.not_eq_true] at hlong
    constructor
    · rintro ⟨_, hp, hdir⟩
      cases hp
      exact ⟨hlong, hdir⟩
    · exact fun ⟨_, hdir⟩ => ⟨_, rfl, hdir⟩

end Lies

end Disk

/-! ## Archives in the chamber -/

namespace Toolchain

variable {o : Outside} {opts : ResolveOptions} {d : Disk} {root : Place} {w w' : World}

/-- The name of the archive of a version. -/
def archiveName (version : String) : Part := (version ++ ".zip").toList

/-- The name under which the archive of a version grows. -/
def growingName (version : String) : Part := archiveName version ++ ".part".toList

/-- The disk once there is a chamber. -/
def prepared (chamber : String) (d : Disk) : Disk := (d.makeDirectories (absolute (wayTo d.hereText chamber))).1

theorem sited (opts : ResolveOptions) (d : Disk) (hname : IsName opts.version.toList) :
    Download.Sited (downloadOptions opts) d (wayTo d.hereText opts.chamber) (archiveName opts.version)
      (growingName opts.version) := by
  have hend : ".part".toList = '.' :: "part".toList := rfl
  have harchive : IsName (archiveName opts.version) := isName_archive hname
  have htarget : Download.targetPath (downloadOptions opts) d =
      absolute (wayTo d.hereText opts.chamber ++ [archiveName opts.version]) := by
    rw [archiveName, ← wayTo_join _ _ (isName_archive hname)]
    rfl
  refine ⟨htarget, ?_, fun p => isName_of_mem_wayTo, harchive, ?_, ?_⟩
  · rw [Download.partPath, htarget, absolute_append, growingName]
  · rw [growingName, hend]
    exact isName_dot harchive (by decide)
  · rw [growingName, hend]
    exact shownPart_dot_ne _ _

theorem opened_eq (opts : ResolveOptions) (d : Disk) (hname : IsName opts.version.toList) :
    Download.opened (downloadOptions opts) d = prepared opts.chamber d := by
  rw [Download.opened, (sited opts d hname).dirname, prepared]

/-- Once an archive was downloaded there is a chamber. -/
theorem download_made (hname : IsName opts.version.toList) (htree : w.disk.Tree)
    (h : runOn w (download o opts) = (.ok (), w')) :
    (w.disk.makeDirectories (absolute (wayTo w.disk.hereText opts.chamber))).2 = none := by
  by_contra hc
  have hends := ends_iff.1 (download_attempts (Download.run_stores_nothing (o := o) (sited opts w.disk hname))) w
    ⟨rfl, htree, Option.isSome_iff_ne_none.2 hc⟩
  rw [h] at hends
  exact Ended.ok.1 hends

theorem exists_lies (hname : IsName opts.version.toList) (htree : w.disk.Tree)
    (hreach : Reachable opts w.disk)
    (hlink : ∀ t, w.disk.named? (Download.partPath (downloadOptions opts) w.disk) ≠ some (.link t))
    (hmade : (w.disk.makeDirectories (absolute (wayTo w.disk.hereText opts.chamber))).2 = none) :
    ∃ root, Lies opts.chamber (wayTo w.disk.hereText opts.chamber) root (prepared opts.chamber w.disk) := by
  have hs := sited opts w.disk hname
  have htended : Tended w.disk (prepared opts.chamber w.disk) := htree.makeDirectories _
  have hgrounded : Grounded opts.chamber w.disk := ⟨htree, fun habs => (hreach habs).1⟩
  obtain ⟨root, hreached, -⟩ := Download.opened_besides htree hs.names hs.dirname hs.beside hs.part hlink
    (by rw [hs.dirname, hmade])
  rw [opened_eq _ _ hname] at hreached
  refine ⟨root, hgrounded.tended htended, ?_, hreached⟩
  rw [hereText, htended.here, hereText]

/-- An archive that was downloaded is stored in the chamber, and nothing else was changed once there was one. -/
theorem download_stored (hname : IsName opts.version.toList) (htree : w.disk.Tree)
    (hlink : ∀ t, w.disk.named? (Download.partPath (downloadOptions opts) w.disk) ≠ some (.link t))
    (h₀ : Reached (prepared opts.chamber w.disk) (wayTo w.disk.hereText opts.chamber) root)
    (h : runOn w (download o opts) = (.ok (), w')) :
    ∃ bytes, Download.Stored (root ++ [shownPart (archiveName opts.version)])
        (root ++ [shownPart (growingName opts.version)]) bytes (prepared opts.chamber w.disk) w'.disk ∧
      (prepared opts.chamber w.disk).locateSelf
          (absolute (wayTo w.disk.hereText opts.chamber ++ [archiveName opts.version])) =
        .ok (root ++ [shownPart (archiveName opts.version)]) ∧
      (prepared opts.chamber w.disk).locateSelf
          (absolute (wayTo w.disk.hereText opts.chamber ++ [growingName opts.version])) =
        .ok (root ++ [shownPart (growingName opts.version)]) := by
  have hs := sited opts w.disk hname
  have hmade := download_made hname htree h
  obtain ⟨root', hreached, hbegin⟩ := Download.opened_besides htree hs.names hs.dirname hs.beside hs.part hlink
    (by rw [hs.dirname, hmade])
  have hends := ends_iff.1 (download_attempts (Download.run_stores (o := o) hs hreached hmade hbegin)) w (.inl rfl)
  rw [h, opened_eq _ _ hname] at hends
  rw [opened_eq _ _ hname] at hreached
  obtain rfl : root' = root := Except.ok.inj (hreached.way.symm.trans h₀.way)
  exact Ended.ok.1 hends

end Toolchain

/-! ## Unpacking on disks that differ in files -/

namespace Unpack

variable {c : Archive.Contents} {l : UnpackLimits} {m : Archive.Member} {outDir : String}

/-- Whether the disks of two worlds differ in files alone. -/
abbrev Alike (w w' : World) : Prop := Mirrors w.disk w'.disk

theorem alike_here : Matched Alike Alike Eq Forge.here Forge.here :=
  over_disks.here fun _ _ h => h.here

theorem alike_makeDirectories (path : String) :
    Matched Alike Alike Eq (Forge.makeDirectories path) (Forge.makeDirectories path) :=
  over_disks.makeDirectories fun _ _ h => h.makeDirectories

theorem makeFile_alike (path : String) : Matched Alike Alike Eq (makeFile c m path) (makeFile c m path) := by
  have hcreate (bytes : ByteArray) :
      Matched Alike Alike Eq (Forge.change (·.create path bytes)) (Forge.change (·.create path bytes)) :=
    over_disks.change fun _ _ h => h.create
  rw [makeFile]
  split
  · refine (hcreate _).then fun _ => ?_
    exact .ite (over_disks.change fun _ _ h => h.setMode) (.pure rfl)
  · exact (hcreate _).then fun _ => .throw _
  · exact .throw _

theorem makeLink_alike (name path : String) (bytes : ByteArray) :
    Matched Alike Alike Eq (makeLink outDir name path bytes) (makeLink outDir name path bytes) := by
  rw [makeLink]
  refine alike_here.then fun here => ?_
  refine .ite_throw ?_ fun _ _ h => h
  exact over_disks.change fun _ _ h => h.makeLink

theorem content_alike : Matched Alike Alike Eq (content c m) (content c m) := by
  rw [content]
  split
  · exact .pure rfl
  · exact .throw _

theorem place_alike (path : String) : Matched Alike Alike Eq (place c outDir m path) (place c outDir m path) := by
  rw [place]
  refine (alike_makeDirectories _).then fun _ => ?_
  exact .ite (content_alike.then fun bytes => makeLink_alike _ _ _) (makeFile_alike _)

theorem unpackMember_alike (p : Progress) :
    Matched Alike Alike Eq (unpackMember c l outDir p m) (unpackMember c l outDir p m) := by
  have hkeep (w w' : World) (h : Alike w w') : Alike w w' := h
  rw [unpackMember]
  refine .ite_throw ?_ hkeep
  refine .ite_throw ?_ hkeep
  refine .ite_throw ?_ hkeep
  refine alike_here.then fun here => ?_
  refine .ite_throw ?_ hkeep
  refine .ite ((alike_makeDirectories _).then fun _ => .pure rfl) ?_
  refine .ite_throw ?_ hkeep
  refine .ite_throw ?_ hkeep
  exact (place_alike _).then fun _ => .pure rfl

theorem unpackFrom_alike (p : Progress) (n i : Nat) :
    Matched Alike Alike Eq (unpackFrom c l outDir p n i) (unpackFrom c l outDir p n i) := by
  induction n generalizing p i with
  | zero => exact .pure rfl
  | succ n ih =>
    rw [unpackFrom]
    split
    · exact .throw _
    · exact (unpackMember_alike p).then fun p => ih p _

theorem makeDirectories_of_run {archive : String} {w w₁ : World} {n : Nat}
    (h : runOn w (run archive outDir l) = (.ok n, w₁)) : (w.disk.makeDirectories (outPath outDir w)).2 = none := by
  rw [run, runOn_bind_ok (runOn_here w)] at h
  obtain ⟨_, w₂, hmade, -⟩ := of_bind_ok h
  have hmade : w.disk.makeDirectories (outPath outDir w) = (w₂.disk, none) := makeDirectories_ok hmade
  rw [hmade]

/-- An archive that is unpacked is unpacked too where other files are, if the same is read of it. -/
theorem run_alike {archive : String} {w w' w₁ : World} {n : Nat} (h : Alike w w')
    (hread : (opened outDir w).read (outPath archive w) = (opened outDir w').read (outPath archive w'))
    (hrun : runOn w (run archive outDir l) = (.ok n, w₁)) :
    ∃ w₁', runOn w' (run archive outDir l) = (.ok n, w₁') ∧ Alike w₁ w₁' := by
  have hout : outPath outDir w' = outPath outDir w := by rw [outPath_eq, outPath_eq, h.here]
  have hmade := makeDirectories_of_run hrun
  have hmade' : (w'.disk.makeDirectories (outPath outDir w')).2 = none := by
    rw [hout, ← h.makeDirectories.1, hmade]
  rcases run_opens archive outDir l w with ⟨f, hf, -⟩ | ⟨bytes, c, hbytes, hopen, hfrom⟩
  · rw [hrun] at hf
    cases hf
  have halike : Alike (opening outDir w) (opening outDir w') := by
    rw [Alike, opening_disk, opening_disk, opened, opened, hout]
    exact h.makeDirectories.2
  have hboth : Matched Alike Alike Eq (unpackFrom c l (outPath outDir w) {} c.count c.start)
      (unpackFrom c l (outPath outDir w) {} c.count c.start) := unpackFrom_alike {} c.count c.start
  obtain ⟨hresult, hafter⟩ := hboth _ _ halike
  rw [hfrom] at hrun
  obtain ⟨p, hp, rfl⟩ : ∃ p,
      (runOn (opening outDir w) (unpackFrom c l (outPath outDir w) {} c.count c.start)).1 = .ok p ∧
        p.entries = n := by
    cases hfirst : (runOn (opening outDir w) (unpackFrom c l (outPath outDir w) {} c.count c.start)).1 with
    | error f =>
      rw [hfirst] at hrun
      cases hrun
    | ok p =>
      rw [hfirst] at hrun
      cases hrun
      exact ⟨p, rfl, rfl⟩
  rw [runOn_run_of_open hmade' (hread ▸ hbytes) hopen, hout]
  rw [hp] at hresult hrun
  rcases hresult.cases with ⟨_, p', hok, hp', rfl⟩ | ⟨_, hok, -⟩
  · cases hok
    rw [hp']
    refine ⟨_, rfl, ?_⟩
    rw [← (Prod.mk.inj hrun).2]
    exact hafter
  · cases hok

end Unpack

/-! ## A failed call -/

namespace Download

variable {place beside : Place} {bytes bytes' : ByteArray} {d d' d'' : Disk}

/-- Two archives that were stored in one place leave disks that differ in files alone. -/
theorem Stored.mirrors (h : Stored place beside bytes d d') (h' : Stored place beside bytes' d d'') :
    Mirrors d' d'' := by
  refine ⟨h.here.trans h'.here.symm, fun p => ?_⟩
  by_cases hp : p = place
  · obtain ⟨mode, hget⟩ := h.stored
    obtain ⟨mode', hget'⟩ := h'.stored
    rw [hp]
    exact .inr ⟨_, _, _, _, hget, hget'⟩
  by_cases hb : p = beside
  · rw [hb, h.moved, h'.moved]
    exact .inl rfl
  · rw [h.outside p hb hp, h'.outside p hb hp]
    exact .inl rfl

end Download

namespace Toolchain

variable {o : Outside} {opts : ResolveOptions} {root : Place} {w w' : World} {t : Toolchain}

/-- The absolute path of the copy. -/
def copyFrom (d : Disk) (opts : ResolveOptions) : String :=
  absolute (wayTo d.hereText opts.chamber ++ [opts.version.toList])

/-- Whether a chamber can be reached and has no toolchain, and no link is named where that goes or where its archive
grows. -/
structure Awaits (opts : ResolveOptions) (d : Disk) : Prop where
  tree : d.Tree
  name : IsName opts.version.toList
  reach : Reachable opts d
  missing : d.isDirectory (cachedRoot opts) = false
  copy : ∀ t, d.named? (copyFrom d opts) ≠ some (.link t)
  part : ∀ t, d.named? (archiveFrom d opts ++ ".part") ≠ some (.link t)

/-- Whether a call downloads an archive of some bytes. -/
def Delivers (o : Outside) (opts : ResolveOptions) (w : World) (bytes : ByteArray) : Prop :=
  ∃ w', runOn w (download o opts) = (.ok (), w') ∧
    w'.disk.read (Unpack.outPath (archivePath opts) w') = .ok bytes

/-- Whether a disk is what it was, but that two places hold nothing. -/
structure Vacated (p q : Place) (d d' : Disk) : Prop where
  here : d'.here = d.here
  tree : d'.Tree
  first : d'.get? p = none
  second : d'.get? q = none
  outside : ∀ r, r ≠ p → r ≠ q → d'.get? r = d.get? r

/-- The place of the copy in a chamber. -/
abbrev copyPlace (root : Place) (opts : ResolveOptions) : Place := root ++ [shownPart opts.version.toList]

/-- The place of the archive in a chamber. -/
abbrev archivePlace (root : Place) (opts : ResolveOptions) : Place :=
  root ++ [shownPart (archiveName opts.version)]

/-- The place where the archive grows. -/
abbrev growingPlace (root : Place) (opts : ResolveOptions) : Place :=
  root ++ [shownPart (growingName opts.version)]

theorem partPath_eq (opts : ResolveOptions) (d : Disk) (hname : IsName opts.version.toList) :
    Download.partPath (downloadOptions opts) d = archiveFrom d opts ++ ".part" := by
  rw [Download.partPath, (sited opts d hname).target]
  rfl

theorem archiveName_eq (version : String) : archiveName version = version.toList ++ '.' :: "zip".toList := by
  rw [archiveName, String.toList_append]
  rfl

theorem growingName_eq (version : String) : growingName version = version.toList ++ '.' :: "zip.part".toList := by
  rw [growingName, archiveName_eq, List.append_assoc]
  rfl

theorem shownPart_archiveName_ne (version : String) : shownPart (archiveName version) ≠ shownPart version.toList := by
  rw [archiveName_eq]
  exact shownPart_dot_ne _ _

theorem shownPart_growingName_ne (version : String) : shownPart (growingName version) ≠ shownPart version.toList := by
  rw [growingName_eq]
  exact shownPart_dot_ne _ _

theorem shownPart_growingName_ne_archiveName (version : String) :
    shownPart (growingName version) ≠ shownPart (archiveName version) :=
  shownPart_dot_ne (archiveName version) "part".toList

theorem isName_archiveName {version : String} (h : IsName version.toList) : IsName (archiveName version) :=
  isName_archive h

theorem outPath_chamber (opts : ResolveOptions) (hhere : w'.disk.here = w.disk.here) :
    Unpack.outPath opts.chamber w' = absolute (wayTo w.disk.hereText opts.chamber) := by
  rw [Unpack.outPath_eq, hhere, resolve_eq, hereText]

/-- Where the chamber lies it is not made. -/
theorem makeDirectories_lies
    (hmade : (w.disk.makeDirectories (absolute (wayTo w.disk.hereText opts.chamber))).2 = none)
    (hlies : Lies opts.chamber (wayTo w.disk.hereText opts.chamber) root w'.disk) :
    w'.disk.makeDirectories (absolute (wayTo w.disk.hereText opts.chamber)) = (w'.disk, none) := by
  have hprepared : w.disk.makeDirectories (absolute (wayTo w.disk.hereText opts.chamber)) =
      (prepared opts.chamber w.disk, none) := by
    rw [prepared, ← hmade]
  exact hlies.reached.makeDirectories_of_made hprepared

namespace Awaits

variable {bytes : ByteArray} (h : Awaits opts w.disk)
include h

theorem grounded : Grounded opts.chamber w.disk := ⟨h.tree, fun habs => (h.reach habs).1⟩

theorem part' : ∀ t, w.disk.named? (Download.partPath (downloadOptions opts) w.disk) ≠ some (.link t) := by
  rw [partPath_eq _ _ h.name]
  exact h.part

theorem prepared_tended : Tended w.disk (prepared opts.chamber w.disk) := h.tree.makeDirectories _

theorem prepared_named? {q : Part} (hq : IsName q) :
    (prepared opts.chamber w.disk).named? (absolute (wayTo w.disk.hereText opts.chamber ++ [q])) =
      w.disk.named? (absolute (wayTo w.disk.hereText opts.chamber ++ [q])) :=
  makeDirectories_named? h.tree (fun _ => isName_of_mem_wayTo) hq

theorem tended (hd : runOn w (download o opts) = (.ok (), w')) : Tended w.disk w'.disk := by
  have hends := ends_iff.1 (download_ends (o := o) h.grounded h.name) w ⟨.refl h.tree, h.missing⟩
  rw [hd] at hends
  have hfilled : Download.Filled w.disk (archiveFrom w.disk opts) w'.disk := Ended.ok.1 hends
  exact hfilled.1

section Stored

variable (hlies : Lies opts.chamber (wayTo w.disk.hereText opts.chamber) root (prepared opts.chamber w.disk))
  (hd : runOn w (download o opts) = (.ok (), w'))
include hlies hd

theorem stored : ∃ bytes, Download.Stored (archivePlace root opts) (growingPlace root opts) bytes
    (prepared opts.chamber w.disk) w'.disk := by
  obtain ⟨bytes, hstored, -⟩ := download_stored h.name h.tree h.part' hlies.reached hd
  exact ⟨bytes, hstored⟩

/-- An archive grows where there is a file or nothing: no link, and a directory would still be there. -/
theorem growing_isFile : ((prepared opts.chamber w.disk).get? (growingPlace root opts)).all Entry.isFile = true := by
  obtain ⟨bytes, hstored, -, hself⟩ := download_stored h.name h.tree h.part' hlies.reached hd
  have hgrowing : IsName (growingName opts.version) := (sited opts w.disk h.name).beside
  have hnamed : w.disk.named? (absolute (wayTo w.disk.hereText opts.chamber ++ [growingName opts.version])) =
      (prepared opts.chamber w.disk).get? (growingPlace root opts) := by
    rw [← h.prepared_named? hgrowing, named?, hself]
  cases hget : (prepared opts.chamber w.disk).get? (growingPlace root opts) with
  | none => rfl
  | some e =>
    rw [hget] at hnamed
    cases e with
    | file bytes mode => rfl
    | link t =>
      have := h.part' t
      rw [(sited opts w.disk h.name).part] at this
      exact absurd hnamed this
    | directory =>
      obtain ⟨p, hp, hdir⟩ := named?_eq_some.1 hnamed
      have hextends : Extends w.disk (prepared opts.chamber w.disk) := (h.tree.makeDirectories_grown _).extend
      have hplace : (prepared opts.chamber w.disk).locateSelf _ = .ok p :=
        hextends.walkPath h.prepared_tended.here hp hdir
      rw [hself, Except.ok.injEq] at hplace
      have hstill := (h.tended hd).directories p hdir
      rw [← hplace, hstored.moved] at hstill
      cases hstill

/-- Where the directories on the way to it can be made once an archive is stored in it, the chamber lies where it
lay. -/
theorem lies_of_made (hmade : (w'.disk.makeDirectories (absolute (wayTo w.disk.hereText opts.chamber))).2 = none) :
    Lies opts.chamber (wayTo w.disk.hereText opts.chamber) root w'.disk := by
  obtain ⟨bytes, hstored⟩ := h.stored hlies hd
  have hways : Ways w'.disk (prepared opts.chamber w.disk) := by
    intro p e hp he
    rw [← hstored.outside, hp]
    · rintro rfl
      rw [hstored.moved] at hp
      cases hp
    · rintro rfl
      obtain ⟨mode, hget⟩ := hstored.stored
      rw [hget] at hp
      cases hp
      cases he
  refine ⟨h.grounded.tended (h.tended hd), by rw [hereText, (h.tended hd).here, hereText], ?_⟩
  refine hlies.reached.of_made hstored.tree hways (fun p hp => ?_) hmade
  by_cases hgrowing : p = growingPlace root opts
  · rw [hgrowing]
    exact h.growing_isFile hlies hd
  · rw [← hstored.outside p hgrowing, hp]
    · rfl
    · rintro rfl
      obtain ⟨mode, hget⟩ := hstored.stored
      rw [hget] at hp
      cases hp

theorem copy_not_link (t : String) : (prepared opts.chamber w.disk).get? (copyPlace root opts) ≠ some (.link t) := by
  intro hget
  obtain ⟨-, -, hself, -⟩ := download_stored h.name h.tree h.part' hlies.reached hd
  have hnamed := h.prepared_named? h.name
  rw [hlies.reached.named?_eq h.name, hget] at hnamed
  refine h.copy t (hnamed.symm.trans (if_neg fun hlong => ?_))
  -- the path of the archive is longer
  rw [archiveName_eq] at hself
  rw [hlies.reached.locateSelf (archiveName_eq opts.version ▸ isName_archiveName h.name),
    if_pos (hlong.imp isLongPath_dot isLongName_dot)] at hself
  cases hself

end Stored

/-- Where an archive is unpacked that brings the toolchain, there was nothing in its place. -/
theorem copy_missing {w₁ w₂ : World} {n : Nat}
    (hlies : Lies opts.chamber (wayTo w.disk.hereText opts.chamber) root (prepared opts.chamber w.disk))
    (hd : runOn w (download o opts) = (.ok (), w₁))
    (hlies₁ : Lies opts.chamber (wayTo w.disk.hereText opts.chamber) root w₁.disk)
    (hrun : runOn w₁ (Unpack.run (archivePath opts) opts.chamber {}) = (.ok n, w₂))
    {d : Disk} (hfile : w₂.disk.removeFile (archivePath opts) = .ok d)
    (hdir : d.isDirectory (cachedRoot opts) = true) :
    (prepared opts.chamber w.disk).get? (copyPlace root opts) = none := by
  obtain ⟨bytes, hstored⟩ := h.stored hlies hd
  have hgrown : Grown w₁.disk w₂.disk := Unpack.run_grown hstored.tree hrun
  obtain ⟨mode, harchive⟩ := hstored.stored
  have hlies₂ := hlies₁.ways hgrown.tree hgrown.here hgrown.extend.ways
  obtain rfl := hlies₂.removeFile (isName_archive h.name) hfile
  have hcut : Ways w₁.disk (w₂.disk.cut (archivePlace root opts)) :=
    hgrown.extend.ways_cut hgrown.tree (by simp [harchive, Entry.isFile])
  have hlies₃ : Lies opts.chamber _ root (w₂.disk.cut (archivePlace root opts)) :=
    hlies₁.ways (hgrown.tree.cut _) hgrown.here hcut
  by_contra hc
  obtain ⟨e, he⟩ := Option.ne_none_iff_exists'.1 hc
  -- what was there is still there
  have hend : (w₂.disk.cut (archivePlace root opts)).get? (copyPlace root opts) = some e := by
    rw [get?_cut_of_not_below (not_below (shownPart_archiveName_ne _))]
    refine hgrown.extend _ _ ?_
    rw [hstored.outside _ (append_ne (shownPart_growingName_ne _).symm)
      (append_ne (shownPart_archiveName_ne _).symm), he]
  have hlink : ∀ t, e ≠ .link t := fun t ht => h.copy_not_link hlies hd t (he.trans (congrArg some ht))
  have hthen := hlies₃.isDirectory_iff h.name fun t ht => hlink t (Option.some.inj (hend.symm.trans ht))
  have hbefore := hlies.isDirectory_iff h.name fun t ht => hlink t (Option.some.inj (he.symm.trans ht))
  obtain ⟨hshort, hdir'⟩ := hthen.1 hdir
  rw [hend, Option.some.injEq] at hdir'
  have hthere := hbefore.2 ⟨hshort, by rw [he, hdir']⟩
  have hnone : (prepared opts.chamber w.disk).isDirectory (cachedRoot opts) = false :=
    h.grounded.makeDirectories_above h.name h.missing
  rw [cachedRoot, hthere] at hnone
  cases hnone

/-- A call that fails to unpack an archive of one directory leaves the chamber as it was. -/
theorem restored {w₁ w₂ : World} {fault : ToolchainFault}
    (hlies : Lies opts.chamber (wayTo w.disk.hereText opts.chamber) root (prepared opts.chamber w.disk))
    (hd : runOn w (download o opts) = (.ok (), w₁))
    (hlies₁ : Lies opts.chamber (wayTo w.disk.hereText opts.chamber) root w₁.disk)
    (hmissing : (prepared opts.chamber w.disk).get? (copyPlace root opts) = none)
    (hhoused : ∀ a, Delivers o opts w a → Unpack.Housed opts.version a)
    (hunpack : runOn w₁ (unpack opts) = (.error (.toolchain fault), w₂)) :
    Vacated (archivePlace root opts) (growingPlace root opts) (prepared opts.chamber w.disk) w₂.disk ∧
      Lies opts.chamber (wayTo w.disk.hereText opts.chamber) root w₂.disk := by
  obtain ⟨bytes, hstored⟩ := h.stored hlies hd
  obtain ⟨mode, harchive⟩ := hstored.stored
  obtain ⟨f, w₃, d, hrun, hall, hfile⟩ := unpack_error hunpack
  have hhere : w₁.disk.here = w.disk.here := (h.tended hd).here
  have hgrown : Grown w₁.disk w₃.disk := Unpack.run_grown hstored.tree hrun
  have hcopy : w₁.disk.get? (copyPlace root opts) = none := by
    rw [hstored.outside _ (append_ne (shownPart_growingName_ne _).symm)
      (append_ne (shownPart_archiveName_ne _).symm), hmissing]
  -- what was unpacked is in the directory that is removed
  have houtside (q : Place) (hq : ¬ copyPlace root opts <+: q) : w₃.disk.get? q = w₁.disk.get? q := by
    have hmade := makeDirectories_lies (download_made h.name h.tree hd) hlies₁
    have hkept := Unpack.run_housed (l := {}) h.name hlies₁.reached (outPath_chamber opts hhere) hmade
      (by simp [hcopy]) (by simp [hcopy]) (fun a ha => hhoused a ⟨w₁, hd, ha⟩) hq
    rwa [hrun] at hkept
  have hlies₃ := hlies₁.ways hgrown.tree hgrown.here hgrown.extend.ways
  obtain rfl := hlies₃.removeAll h.name hall
  have hsame (q : Place) : (w₃.disk.cut (copyPlace root opts)).get? q = w₁.disk.get? q :=
    hstored.tree.get?_cut_eq hcopy (by simp) houtside
  have hextends : Extends w₁.disk (w₃.disk.cut (copyPlace root opts)) := fun q e hq => by rw [hsame, hq]
  have htree := hgrown.tree.cut (copyPlace root opts)
  have hlies₄ : Lies opts.chamber _ root (w₃.disk.cut (copyPlace root opts)) :=
    hlies₁.ways htree hgrown.here hextends.ways
  have hend : w₂.disk = (w₃.disk.cut (copyPlace root opts)).cut (archivePlace root opts) :=
    hlies₄.removeFile (isName_archiveName h.name) hfile
  have hother (q : Place) (hq : q ≠ archivePlace root opts) : w₂.disk.get? q = w₁.disk.get? q := by
    rw [hend, htree.get?_cut_of_ne (by simp [hsame, harchive]) hq, hsame]
  refine ⟨⟨?_, ?_, ?_, ?_, fun q hq hq' => ?_⟩, ?_⟩
  · rw [hend, h.prepared_tended.here, ← hhere]
    exact hgrown.here
  · rw [hend]
    exact htree.cut _
  · rw [hend]
    exact get?_cut_of_below (List.prefix_refl _) (by simp)
  · rw [hother _ (append_ne (shownPart_growingName_ne_archiveName _)), hstored.moved]
  · rw [hother q hq, hstored.outside q hq' hq]
  · rw [hend]
    exact hlies₁.ways (htree.cut _) hgrown.here (hextends.ways_cut htree (by simp [harchive, Entry.isFile]))

end Awaits

variable {opts' : ResolveOptions}

/-- A chamber awaits a version wherever that comes from. -/
theorem Awaits.congr {d : Disk} (h : Awaits opts d) (hchamber : opts'.chamber = opts.chamber)
    (hversion : opts'.version = opts.version) : Awaits opts' d where
  tree := h.tree
  name := by rw [hversion]; exact h.name
  reach := by
    rw [Reachable, archivePath, hchamber, hversion]
    exact h.reach
  missing := by
    rw [cachedRoot, hchamber, hversion]
    exact h.missing
  copy := by
    rw [copyFrom, hchamber, hversion]
    exact h.copy
  part := by
    rw [archiveFrom, hchamber, hversion]
    exact h.part

/-- A chamber that was left as it was awaits the toolchain again. -/
theorem Awaits.again {d : Disk} (h : Awaits opts w.disk)
    (hlies : Lies opts.chamber (wayTo w.disk.hereText opts.chamber) root d)
    (hcopy : d.get? (copyPlace root opts) = none) (hgrowing : d.get? (growingPlace root opts) = none) :
    Awaits opts d where
  tree := hlies.reached.tree
  name := h.name
  reach habs := ⟨hlies.grounded.stands habs, (h.reach habs).2⟩
  missing := by
    have hno : ¬ d.isDirectory (cachedRoot opts) = true := fun hdir =>
      absurd ((hlies.isDirectory_iff h.name (by simp [hcopy])).1 hdir).2 (by simp [hcopy])
    simpa using hno
  copy t := by
    rw [copyFrom, hlies.way, hlies.reached.named?_eq h.name, hcopy]
    simp
  part t := by
    rw [← partPath_eq opts d h.name, (sited opts d h.name).part, hlies.way,
      hlies.reached.named?_eq (sited opts d h.name).beside, hgrowing]
    simp

theorem Vacated.stored {p q : Place} {bytes : ByteArray} {d d' d'' : Disk} (h : Vacated p q d d')
    (hs : Download.Stored p q bytes d' d'') : Download.Stored p q bytes d d'' where
  here := hs.here.trans h.here
  tree := hs.tree
  stored := hs.stored
  moved := hs.moved
  outside r hr hr' := (hs.outside r hr hr').trans (h.outside r hr' hr)

theorem opened_lies (hhere : w'.disk.here = w.disk.here)
    (hmade : (w.disk.makeDirectories (absolute (wayTo w.disk.hereText opts.chamber))).2 = none)
    (hlies : Lies opts.chamber (wayTo w.disk.hereText opts.chamber) root w'.disk) :
    Unpack.opened opts.chamber w' = w'.disk := by
  rw [Unpack.opened, outPath_chamber opts hhere, makeDirectories_lies hmade hlies]

/-- An archive that is unpacked in a chamber that awaits it is unpacked in one that only lacks what was vacated. -/
theorem Awaits.resolve_vacated {o o₂ : Outside} {w₀ w₂ wf : World} {bytes : ByteArray} (h : Awaits opts w.disk)
    (hlies : Lies opts.chamber (wayTo w.disk.hereText opts.chamber) root (prepared opts.chamber w.disk))
    (hmissing : (prepared opts.chamber w.disk).get? (copyPlace root opts) = none)
    (hd₀ : runOn w (download o opts) = (.ok (), w₀))
    (hlies₀ : Lies opts.chamber (wayTo w.disk.hereText opts.chamber) root w₀.disk)
    (hread : w₀.disk.read (Unpack.outPath (archivePath opts) w₀) = .ok bytes)
    (hunpack : runOn w₀ (unpack opts) = (.ok (), wf)) (hdir : wf.disk.isDirectory (cachedRoot opts) = true)
    (hvacated : Vacated (archivePlace root opts) (growingPlace root opts) (prepared opts.chamber w.disk) w₂.disk)
    (hlies₂ : Lies opts.chamber (wayTo w.disk.hereText opts.chamber) root w₂.disk)
    (hdelivers : Delivers o₂ opts w₂ bytes)
    (hsystem : ∀ root, opts.systemRoot = some root → w₂.disk.isDirectory root = false) :
    (runOn w₂ (resolve o₂ opts)).1 = .ok (found opts (cachedRoot opts) .downloaded) := by
  have hmade := download_made h.name h.tree hd₀
  obtain ⟨b₀, hstored₀⟩ := h.stored hlies hd₀
  have hcopy : w₂.disk.get? (copyPlace root opts) = none := by
    rw [hvacated.outside _ (append_ne (shownPart_archiveName_ne _).symm) (append_ne (shownPart_growingName_ne _).symm),
      hmissing]
  have hagain : Awaits opts w₂.disk := h.again hlies₂ hcopy hvacated.second
  have hprepared : prepared opts.chamber w₂.disk = w₂.disk := by
    rw [prepared, hlies₂.way, makeDirectories_lies hmade hlies₂]
  obtain ⟨w₃, hd₂, hread₃⟩ := hdelivers
  obtain ⟨b₂, hstored₂⟩ := hagain.stored (by rwa [hprepared, hlies₂.way]) hd₂
  rw [hprepared] at hstored₂
  have halike : Unpack.Alike w₀ w₃ := hstored₀.mirrors (hvacated.stored hstored₂)
  have hlies₃ : Lies opts.chamber _ root w₃.disk := hlies₀.ways hstored₂.tree halike.here.symm halike.ways
  have hhere : w₀.disk.here = w.disk.here := (h.tended hd₀).here
  obtain ⟨n, wu, hrun, hfile⟩ := unpack_ok hunpack
  have hopened₀ : Unpack.opened opts.chamber w₀ = w₀.disk := opened_lies hhere hmade hlies₀
  have hopened₃ : Unpack.opened opts.chamber w₃ = w₃.disk :=
    opened_lies (halike.here.symm.trans hhere) hmade hlies₃
  obtain ⟨w₄, hrun₃, halike₄⟩ := Unpack.run_alike halike (by rw [hopened₀, hopened₃, hread, hread₃]) hrun
  have hfiles : Both Mirrors (wu.disk.removeFile (archivePath opts)) (w₄.disk.removeFile (archivePath opts)) :=
    halike₄.removeFile
  rw [hfile] at hfiles
  rcases hfiles.cases with ⟨d, d', hd, hd', hmirrors⟩ | ⟨f, hf, -⟩
  · cases hd
    have hdir' : d'.isDirectory (cachedRoot opts) = true := by rw [← hmirrors.isDirectory_eq, hdir]
    rcases resolve_cases o₂ hagain.missing with hinstall | ⟨system, _, hroot, hthere, -, -⟩
    · rw [hinstall]
      exact install_of_ok hd₂ (unpack_of_ok hrun₃ hd') hdir'
    · rw [hsystem system hroot] at hthere
      cases hthere
  · cases hf

/-- If a call fails to unpack an archive that holds one directory, that of the toolchain, it leaves the chamber as it
was. A call that follows it and downloads an archive that would have been unpacked before it brings the toolchain. -/
theorem resolve_again {o o₀ o₂ : Outside} {w w₁ w₂ : World} {version details : String} {bytes : ByteArray}
    (h : Awaits opts w.disk) (hchamber : opts'.chamber = opts.chamber) (hversion : opts'.version = opts.version)
    (hfails : runOn w (resolve o opts) = (.error (.toolchain (.unpack version details)), w₁))
    (hhoused : ∀ a, Delivers o opts w a → Unpack.Housed opts.version a)
    (hwould : Delivers o₀ opts' w bytes)
    (hbrings : (runOn w (resolve o₀ opts')).1 = .ok (found opts' (cachedRoot opts') .downloaded))
    (hdisk : w₂.disk = w₁.disk) (hdelivers : Delivers o₂ opts' w₂ bytes)
    (hsystem : ∀ root, opts'.systemRoot = some root → w₂.disk.isDirectory root = false) :
    (∃ root, Lies opts.chamber (wayTo w.disk.hereText opts.chamber) root (prepared opts.chamber w.disk) ∧
        Vacated (archivePlace root opts) (growingPlace root opts) (prepared opts.chamber w.disk) w₁.disk) ∧
      (runOn w₂ (resolve o₂ opts')).1 = .ok (found opts' (cachedRoot opts') .downloaded) := by
  have h' : Awaits opts' w.disk := h.congr hchamber hversion
  obtain ⟨wa, hda, hua⟩ := resolve_unpack_error h.missing hfails
  obtain ⟨w₀, wf, hd₀, hu₀, hdir⟩ := resolve_downloaded h'.missing hbrings
  obtain ⟨n, wu, hrun, hfile⟩ := unpack_ok hu₀
  have hmade := download_made h.name h.tree hda
  obtain ⟨root, hlies⟩ := exists_lies h.name h.tree h.reach h.part' hmade
  have hcopy' : copyPlace root opts' = copyPlace root opts := by rw [copyPlace, copyPlace, hversion]
  have harchive' : archivePlace root opts' = archivePlace root opts := by rw [archivePlace, archivePlace, hversion]
  have hgrowing' : growingPlace root opts' = growingPlace root opts := by rw [growingPlace, growingPlace, hversion]
  have hlies' : Lies opts'.chamber (wayTo w.disk.hereText opts'.chamber) root (prepared opts'.chamber w.disk) := by
    rwa [hchamber]
  -- what would have been: the archive is unpacked, so the chamber is reached
  obtain ⟨b₀, hstored₀⟩ := h'.stored hlies' hd₀
  have hlies₀ : Lies opts'.chamber (wayTo w.disk.hereText opts'.chamber) root w₀.disk := by
    refine h'.lies_of_made hlies' hd₀ ?_
    rw [← outPath_chamber opts' (h'.tended hd₀).here]
    exact Unpack.makeDirectories_of_run hrun
  have hmissing : (prepared opts.chamber w.disk).get? (copyPlace root opts) = none := by
    rw [← hcopy', ← hchamber]
    exact h'.copy_missing hlies' hd₀ hlies₀ hrun hfile hdir
  -- what was: the first archive is unpacked, and what comes of it is removed
  obtain ⟨ba, hstoreda⟩ := h.stored hlies hda
  rw [harchive', hgrowing', hchamber] at hstored₀
  rw [hchamber] at hlies₀
  have hliesa : Lies opts.chamber (wayTo w.disk.hereText opts.chamber) root wa.disk :=
    hlies₀.ways hstoreda.tree (hstoreda.here.trans hstored₀.here.symm) (hstored₀.mirrors hstoreda).ways
  obtain ⟨hvacated, hlies₁⟩ := h.restored hlies hda hliesa hmissing hhoused hua
  refine ⟨⟨root, hlies, hvacated⟩, ?_⟩
  -- what is: the next archive is unpacked where the same is but for files
  obtain ⟨w₀', hd₀', hread⟩ := hwould
  cases hd₀.symm.trans hd₀'
  rw [← hchamber, ← hdisk] at hlies₁
  rw [← hchamber, ← harchive', ← hgrowing', ← hdisk] at hvacated
  rw [← hchamber] at hlies₀
  rw [← hchamber, ← hcopy'] at hmissing
  exact h'.resolve_vacated hlies' hmissing hd₀ hlies₀ hread hu₀ hdir hvacated hlies₁ hdelivers hsystem

/-- An outside that serves the archive of some members. -/
def offering (files : List Archive.Packed) : Outside where
  run w _ := ⟨w.disk, false, .ok ⟨some 0, "", ""⟩⟩
  fetch _ _ := (false, .response ⟨200, [], some [.bytes (Unpack.inBlocks files)]⟩)
  cancelsWait _ := false
  clock _ := default
  searchPath := none
  processors := 1

/-- A toolchain with a file beside it. -/
def proper : List Archive.Packed := [⟨"README", Utf8.encode "b", 0o100644⟩, ⟨"r1/", .empty, 0o40755⟩]

/-- A toolchain with a file that comes twice. -/
def repeating : List Archive.Packed := [⟨"r1/a", .empty, 0o100644⟩, ⟨"r1/a", .empty, 0o100644⟩]

/-- A file beside a toolchain that comes twice. -/
def littering : List Archive.Packed :=
  [⟨"README", Utf8.encode "a", 0o100644⟩, ⟨"README", Utf8.encode "a", 0o100644⟩]

/-- A world in which nothing has happened to a disk. -/
def onDisk (d : Disk) : World := ⟨d, false, 0, []⟩

/-- A disk with a chamber alone. -/
def emptied : Disk := ⟨[(["c"], .directory)], []⟩

/-- A disk with a chamber that holds a file. -/
def littered : Disk := ⟨[(["c", "README"], .file (Utf8.encode "a") 0o644), (["c"], .directory)], []⟩

-- libraries bring other instances for bytes, and entries are to be compared in one way whatever is imported
local instance decidableEqBytes : DecidableEq ByteArray := ByteArray.instDecidableEq

deriving instance DecidableEq for Entry

deriving instance DecidableEq for Disk

/-- The version of an archive that could not be unpacked. -/
def unpackFault? : Except Failure Toolchain → Option String
  | .error (.toolchain (.unpack version _)) => some version
  | _ => none

theorem unpackFault?_eq_some {r : Except Failure Toolchain} {version : String} (h : unpackFault? r = some version) :
    ∃ details, r = .error (.toolchain (.unpack version details)) := by
  unfold unpackFault? at h
  split at h
  · cases h
    exact ⟨_, rfl⟩
  · cases h

theorem delivers_of_read {bytes : ByteArray} (hok : (runOn w (download o opts)).1.toOption.isSome = true)
    (hread : ((runOn w (download o opts)).2.disk.read
      (Unpack.outPath (archivePath opts) (runOn w (download o opts)).2)).toOption = some bytes) :
    Delivers o opts w bytes := by
  refine ⟨(runOn w (download o opts)).2, Prod.ext ?_ rfl, ?_⟩
  · cases hr : (runOn w (download o opts)).1 with
    | error f =>
      rw [hr] at hok
      cases hok
    | ok u => rfl
  · revert hread
    cases (runOn w (download o opts)).2.disk.read
      (Unpack.outPath (archivePath opts) (runOn w (download o opts)).2) with
    | error f =>
      intro h
      cases h
    | ok b =>
      intro h
      cases h
      rfl

theorem delivers_proper : Delivers (offering proper) fresh blank (Unpack.inBlocks proper) :=
  delivers_of_read (by decide +kernel) (by decide +kernel)

theorem resolve_proper : (runOn blank (resolve (offering proper) fresh)).1 =
    .ok (found fresh (cachedRoot fresh) .downloaded) := by
  have hsome : (runOn blank (resolve (offering proper) fresh)).1.toOption =
      some (found fresh (cachedRoot fresh) .downloaded) := by
    decide +kernel
  revert hsome
  cases (runOn blank (resolve (offering proper) fresh)).1 with
  | error f =>
    intro h
    cases h
  | ok t =>
    intro h
    exact congrArg Except.ok (Option.some.inj h)

theorem awaits_blank : Awaits fresh blank.disk where
  tree := blank_tree
  name := by decide
  reach := fun habs => absurd habs (by decide)
  missing := by decide +kernel
  copy t := by
    have hnone : blank.disk.named? (copyFrom blank.disk fresh) = none := by decide +kernel
    simp [hnone]
  part t := by
    have hnone : blank.disk.named? (archiveFrom blank.disk fresh ++ ".part") = none := by decide +kernel
    simp [hnone]

theorem resolve_again_repeating :
    Awaits fresh blank.disk ∧ unpackFault? (runOn blank (resolve (offering repeating) fresh)).1 = some "r1" ∧
      (∀ a, Delivers (offering repeating) fresh blank a → Unpack.Housed "r1" a) ∧
      Delivers (offering proper) fresh blank (Unpack.inBlocks proper) ∧
      (runOn blank (resolve (offering repeating) fresh)).2.disk = emptied ∧
      (runOn (onDisk emptied) (resolve (offering proper) fresh)).1 =
        .ok (found fresh (cachedRoot fresh) .downloaded) := by
  have hfault : unpackFault? (runOn blank (resolve (offering repeating) fresh)).1 = some "r1" := by decide +kernel
  have hdisk : (runOn blank (resolve (offering repeating) fresh)).2.disk = emptied := by decide +kernel
  have hhoused : ∀ a, Delivers (offering repeating) fresh blank a → Unpack.Housed "r1" a := by
    have hall : ∀ a ∈ ((runOn blank (download (offering repeating) fresh)).2.disk.read
        (Unpack.outPath (archivePath fresh) (runOn blank (download (offering repeating) fresh)).2)).toOption,
        Unpack.Housed "r1" a := by
      decide +kernel
    rintro a ⟨w', hd, hread⟩
    rw [hd, hread] at hall
    exact hall a rfl
  have hdelivers : Delivers (offering proper) fresh (onDisk emptied) (Unpack.inBlocks proper) :=
    delivers_of_read (by decide +kernel) (by decide +kernel)
  obtain ⟨details, hfails⟩ := unpackFault?_eq_some hfault
  have hagain : _ ∧ (runOn (onDisk emptied) (resolve (offering proper) fresh)).1 = _ :=
    resolve_again awaits_blank rfl rfl (Prod.ext hfails rfl) hhoused delivers_proper resolve_proper hdisk.symm
      hdelivers fun root hroot => by cases hroot
  exact ⟨awaits_blank, hfault, hhoused, delivers_proper, hdisk, hagain.2⟩

/-- A file that an archive puts beside the toolchain is not removed when it fails, and is in the way of the next one. -/
theorem resolve_littered :
    unpackFault? (runOn blank (resolve (offering littering) fresh)).1 = some "r1" ∧
      Delivers (offering proper) fresh blank (Unpack.inBlocks proper) ∧
      (runOn blank (resolve (offering proper) fresh)).1 = .ok (found fresh (cachedRoot fresh) .downloaded) ∧
      (runOn blank (resolve (offering littering) fresh)).2.disk = littered ∧
      Delivers (offering proper) fresh (onDisk littered) (Unpack.inBlocks proper) ∧
      (runOn (onDisk littered) (resolve (offering proper) fresh)).1.toOption = none := by
  have hdelivers : Delivers (offering proper) fresh (onDisk littered) (Unpack.inBlocks proper) :=
    delivers_of_read (by decide +kernel) (by decide +kernel)
  exact ⟨by decide +kernel, delivers_proper, resolve_proper, by decide +kernel, hdelivers, by decide +kernel⟩

end Toolchain

end VariantForge
