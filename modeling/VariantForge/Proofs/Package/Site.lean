import Mathlib.Data.List.TakeWhile
import VariantForge.Proofs.Disk.Replaced
import VariantForge.Proofs.Run.Footprint
import VariantForge.Proofs.Run.Layout

/-!
# Sites — where a package is put together, and where it goes

The name of an archive is glued from four texts, one of them read from the source that was fetched, and
is joined to the output directory as a path. It names an entry of that directory, whatever directory that
is, exactly if none of the four holds a slash (`run_archive_place`); with slashes it leads below the
directory or out of it.

A package is put together in a directory of the chamber, and goes to an entry of another directory, which is the
output directory or, if there are slashes in the archive's name, one that it leads to from there (`Located`). A
site is fit for packaging (`Site`) if no links are on the ways to these two directories, and the archive does not
lie where the package is put together.
-/

namespace VariantForge

open Path Disk Forge

/-! ## Entries of a directory -/

namespace Path

/-- Whether a path leads to an entry of a directory that has some name. -/
def EntryOf (dir name path : String) : Prop := dirname path = dir ∧ basename path = name

instance (dir name path : String) : Decidable (EntryOf dir name path) :=
  inferInstanceAs (Decidable (_ ∧ _))

theorem slash_notMem_basename (path : String) : '/' ∉ (basename path).toList := by
  rw [basename, String.toList_ofList, List.mem_reverse]
  intro h
  simpa using List.mem_takeWhile_imp h

/-- What is joined to a directory is an entry of that name if it is a name. -/
theorem entryOf_join {here dir name : String} (h : IsName name.toList) :
    EntryOf (resolve here [dir]) name (resolve here [join [dir, name]]) := by
  have hway : ∀ q ∈ wayTo here dir, IsName q := fun q => isName_of_mem_wayTo
  have hall : ∀ q ∈ wayTo here dir ++ [name.toList], IsName q := List.forall_mem_append.2 ⟨hway, by simpa using h⟩
  rw [resolve_eq, resolve_eq, wayTo_join here dir h]
  refine ⟨dirname_absolute hway h, ?_⟩
  rw [(through_absolute hall).basename, String.ofList_toList]

end Path

/-! ## Archives -/

namespace Package

variable {o : Outside} {opts : PackageOptions} {artifact label : String} {c : WorkingCopy}

/-- A package says where its archive is, and what it is. -/
theorem run_archive : Gives (run o opts artifact c label) fun a =>
    a.archive = archivePath opts c label ∧ a.descriptor = descriptor opts c label := by
  have hfinish : Gives (finish o opts c label) fun a =>
      a.archive = archivePath opts c label ∧ a.descriptor = descriptor opts c label := by
    refine .bind fun builtAt => ?_
    split
    · exact .throw
    · exact .bind fun _ => .bind fun _ => .bind fun _ => .pure ⟨rfl, rfl⟩
  refine .bind fun there => .ite .throw (.bind fun _ => .finally (.tryCatch ?_ fun f => .throw))
  exact .bind fun _ => hfinish

/-- The name of an archive holds no slash if none of its parts does. -/
theorem slash_notMem_fileName :
    '/' ∉ (descriptor opts c label).fileName.toList ↔
      '/' ∉ opts.metadata.namePrefix.toList ∧ '/' ∉ label.toList ∧ '/' ∉ c.version.toList ∧
        '/' ∉ c.revision.toList := by
  rw [Run.Sited.fileName_eq, Run.Sited.archiveStem]
  simp [not_or]

theorem run_archive_place (o : Outside) (opts : PackageOptions) (artifact : String) (c : WorkingCopy)
    (label : String) :
    Within o (fun a => StageActs opts artifact label a ∨
        ∃ here, ArchiveActs (resolve here [archivePath opts c label]) a) (run o opts artifact c label) ∧
      Gives (run o opts artifact c label) (fun a =>
        a.archive = archivePath opts c label ∧ a.descriptor = descriptor opts c label) ∧
      (∀ here, EntryOf (resolve here [opts.outputDir]) (descriptor opts c label).fileName
          (resolve here [archivePath opts c label]) ↔
        '/' ∉ opts.metadata.namePrefix.toList ∧ '/' ∉ label.toList ∧ '/' ∉ c.version.toList ∧
          '/' ∉ c.revision.toList) ∧
      ((∀ dir, isAbsolute dir = true → Inside dir (join [dir, (descriptor opts c label).fileName])) ↔
        StaysBelow (descriptor opts c label).fileName) := by
  refine ⟨run_within.mono fun a h => ?_, run_archive, fun here => ?_, inside_join_iff _⟩
  · cases h with
    | staging h => exact .inl h
    | archive here h => exact .inr ⟨here, h⟩
  · rw [← slash_notMem_fileName]
    refine ⟨fun h => ?_, fun h => entryOf_join (Run.Sited.isName_archive h)⟩
    rw [← h.2]
    exact slash_notMem_basename _

/-- A file that declares a version with slashes. -/
def climbingVersion : Disk :=
  ⟨[(["c", "mesa", "VERSION"], .file (Utf8.encode "25.3/../../x\n") newFileMode), (["c", "mesa"], .directory),
    (["c"], .directory)], []⟩

/-- Packages of a source in `/c/mesa` that go to `/c/out`. -/
def plainOptions : PackageOptions :=
  { chamber := "/c", outputDir := "/c/out", soname := "vulkan.adreno.so", libraryName := "vulkan.dragon.so"
    metadata := ⟨"Dragon", none, none, none, none, none, none⟩ }

/-- A version that climbs takes the archive out of the output directory. -/
theorem climbing_version_apart :
    ∃ v, (runOn { disk := climbingVersion } (Source.declaredVersion "/c/mesa")).1.toOption = some v ∧
      resolve "/" [archivePath plainOptions ⟨"/c/mesa", "0123456", "", v, default, none, false⟩ "Tiger"] =
        "/c/x-0123456.zip" ∧
      ¬ EntryOf "/c/out" (descriptor plainOptions ⟨"/c/mesa", "0123456", "", v, default, none, false⟩ "Tiger").fileName
        "/c/x-0123456.zip" :=
  ⟨"25.3/../../x", by decide +kernel, by decide +kernel, by decide +kernel⟩

end Package

namespace Package

variable {opts : PackageOptions} {artifact label : String} {c : WorkingCopy} {C A : List Part} {n : Part}
  {d d' : Disk} {U : Place → Prop}

/-! ## Where they are -/

/-- The name of the directory in which a package is put together. -/
def stagingName (label : String) : Part := ("staging-" ++ Text.slug label).toList

theorem isName_stagingName (label : String) : IsName (stagingName label) := Run.Sited.isName_staging label

/-- Whether some names lead to the directory with the staging directory, and to that with the archive. -/
structure Located (opts : PackageOptions) (c : WorkingCopy) (label : String) (C A : List Part) (n : Part) : Prop where
  chamberNames : ∀ q ∈ C, IsName q
  staging : stagingDir opts label = absolute (C ++ [stagingName label])
  directoryNames : ∀ q ∈ A, IsName q
  name : IsName n
  archive : archivePath opts c label = absolute (A ++ [n])

theorem isName_zip {r : Part} (h : '/' ∉ r) : IsName (r ++ ".zip".toList) := by
  have hlong : 4 ≤ (r ++ ".zip".toList).length := by simp
  have hslash : '/' ∉ ".zip".toList := by decide
  refine ⟨?_, ?_, ?_, by rw [List.mem_append, not_or]; exact ⟨h, hslash⟩⟩ <;>
    · intro hc
      rw [hc] at hlong
      exact absurd hlong (by decide)

/-- The last part of an archive's path is a name, whatever is in it. -/
theorem exists_archive (h : isAbsolute opts.outputDir = true) (c : WorkingCopy) (label : String) :
    ∃ (A : List Part) (n : Part), (∀ q ∈ A, IsName q) ∧ IsName n ∧ archivePath opts c label = absolute (A ++ [n]) := by
  have hfile := Run.Sited.fileName_eq opts c label
  by_cases hslash : '/' ∈ Run.Sited.archiveStem opts c label
  · obtain ⟨r, before, hsplit, hr⟩ := List.eq_append_cons_of_mem (List.mem_reverse.2 hslash)
    have hstem : Run.Sited.archiveStem opts c label = before.reverse ++ '/' :: r.reverse := by
      rw [← List.reverse_inj, hsplit]
      simp
    have hname : IsName (r.reverse ++ ".zip".toList) := isName_zip (by simpa using hr)
    rw [hstem, List.append_assoc, List.cons_append] at hfile
    exact ⟨_, _, fun q => isName_of_mem_normalParts, hname, join_last h hname hfile⟩
  · have hname : IsName (descriptor opts c label).fileName.toList := by
      rw [hfile]
      exact isName_zip hslash
    exact ⟨_, _, fun q => isName_of_mem_normalParts, hname, join_name_of_isAbsolute h hname⟩

theorem exists_located (hchamber : isAbsolute opts.chamber = true) (houtput : isAbsolute opts.outputDir = true)
    (c : WorkingCopy) (label : String) : ∃ C A n, Located opts c label C A n := by
  obtain ⟨A, n, hA, hn, harchive⟩ := exists_archive houtput c label
  exact ⟨_, A, n, fun q => isName_of_mem_normalParts,
    join_name_of_isAbsolute hchamber (Run.Sited.isName_staging label), hA, hn, harchive⟩

namespace Located

variable (h : Located opts c label C A n)
include h

theorem stagingNames : ∀ q ∈ C ++ [stagingName label], IsName q :=
  names_concat h.chamberNames (isName_stagingName label)

theorem place_staging : placeOf (stagingDir opts label) = C.map shownPart ++ [shownPart (stagingName label)] := by
  rw [h.staging, placeOf_name h.chamberNames (isName_stagingName label)]

theorem place_archive : placeOf (archivePath opts c label) = A.map shownPart ++ [shownPart n] := by
  rw [h.archive, placeOf_name h.directoryNames h.name]

theorem part : archivePath opts c label ++ ".tmp" = absolute (A ++ [n ++ '.' :: "tmp".toList]) := by
  rw [h.archive, absolute_append]
  rfl

theorem dirname_staging : dirname (stagingDir opts label) = absolute C := by
  rw [h.staging, dirname_absolute h.chamberNames (isName_stagingName label)]

theorem dirname_archive : dirname (archivePath opts c label) = absolute A := by
  rw [h.archive, dirname_absolute h.directoryNames h.name]

end Located

/-! ## Ways -/

/-- The places on the ways to the directory with the staging directory, and to that with the archive. -/
def Roads (opts : PackageOptions) (c : WorkingCopy) (label : String) (q : Place) : Prop :=
  q <+: placeOf (dirname (stagingDir opts label)) ∨ q <+: placeOf (dirname (archivePath opts c label))

/-- Whether packages can be made on a disk: there are no links on its roads, and the archive does not lie where
the package is put together. -/
structure Site (opts : PackageOptions) (c : WorkingCopy) (label : String) (d : Disk) : Prop where
  chamber : isAbsolute opts.chamber = true
  output : isAbsolute opts.outputDir = true
  roads : Sound (Roads opts c label) d
  apart : ¬ placeOf (stagingDir opts label) <+: placeOf (archivePath opts c label)

/-- Whether the ways of packaging lie in some places, of which none would be moved together with a library to
where that goes. -/
structure Paves (opts : PackageOptions) (artifact : String) (c : WorkingCopy) (label : String) (U : Place → Prop) :
    Prop where
  roads : ∀ q, Roads opts c label q → U q
  staged : ∀ q, q <+: placeOf (stagedPath opts artifact label) → U q
  library : ∀ q, q <+: placeOf (libraryPath opts label) → U q
  metadata : ∀ q, q <+: placeOf (metadataPath opts label) → U q
  low : ¬ placeOf (libraryPath opts label) <+: placeOf (stagedPath opts artifact label) →
    ∀ q, U q → placeOf (libraryPath opts label) <+: q → q = placeOf (libraryPath opts label)

/-- The places on the ways of packaging. -/
def Ways (opts : PackageOptions) (artifact : String) (c : WorkingCopy) (label : String) (q : Place) : Prop :=
  Roads opts c label q ∨ q <+: placeOf (stagedPath opts artifact label) ∨ q <+: placeOf (libraryPath opts label) ∨
    q <+: placeOf (metadataPath opts label)

section Located

variable (h : Located opts c label C A n)
include h

theorem Located.roads_iff {q : Place} : Roads opts c label q ↔ q <+: C.map shownPart ∨ q <+: A.map shownPart := by
  rw [Roads, h.dirname_staging, h.dirname_archive, (through_absolute h.chamberNames).placeOf_eq,
    (through_absolute h.directoryNames).placeOf_eq]

/-- A path in the staging directory goes through some names. -/
theorem Located.through (file : String) :
    Through (join [stagingDir opts label, file]) (descend (C ++ [stagingName label]) file.toList) := by
  have hjoin := through_join file (isAbsolute_absolute (C ++ [stagingName label]))
  rwa [(through_absolute h.stagingNames).normalParts, ← h.staging] at hjoin

theorem Located.opens {file : String} (hway : ∀ q, q <+: placeOf (join [stagingDir opts label, file]) → U q) :
    Open U (join [stagingDir opts label, file]) :=
  ⟨(h.through file).straight, hway⟩

theorem Located.through_below {file : String} (hf : StaysBelow file) :
    Through (join [stagingDir opts label, file]) (C ++ [stagingName label] ++ normalParts true file.toList) := by
  have hjoin := h.through file
  rwa [descend_eq_append hf fun q hq => (h.stagingNames q hq).ne_up] at hjoin

theorem Located.below_staging {file : String} (hf : StaysBelow file) :
    placeOf (stagingDir opts label) <+: placeOf (join [stagingDir opts label, file]) := by
  rw [(h.through_below hf).placeOf_eq, List.map_append, h.staging, (through_absolute h.stagingNames).placeOf_eq]
  exact List.prefix_append _ _

theorem Located.place_metadata :
    placeOf (metadataPath opts label) = placeOf (stagingDir opts label) ++ [metadataFile] := by
  rw [metadataPath, h.staging, join_absolute h.stagingNames (by decide), placeOf_name h.stagingNames (by decide),
    (through_absolute h.stagingNames).placeOf_eq]
  rfl

/-- The library lies in the staging directory, wherever its name leads that climbs nowhere. -/
theorem Located.place_library (hf : StaysBelow opts.libraryName) : placeOf (libraryPath opts label) =
    placeOf (stagingDir opts label) ++ (normalParts true opts.libraryName.toList).map shownPart := by
  rw [libraryPath, (h.through_below hf).placeOf_eq, List.map_append, h.staging,
    (through_absolute h.stagingNames).placeOf_eq]

/-- The metadata is not written over the library unless the library's name leads there. -/
theorem Located.library_ne_metadata (hf : StaysBelow opts.libraryName)
    (hne : normalParts true opts.libraryName.toList ≠ [metadataFile.toList]) :
    placeOf (libraryPath opts label) ≠ placeOf (metadataPath opts label) := by
  rw [h.place_library hf, h.place_metadata]
  intro heq
  obtain ⟨q, hparts, hq⟩ := List.map_eq_singleton_iff.1 (List.append_cancel_left heq)
  have hq : q = metadataFile.toList := shownPart_inj (isPlain_of_all (by decide)) (hq.trans (by decide))
  exact hne (hq ▸ hparts)

theorem Located.staging_not_road (hapart : ¬ placeOf (stagingDir opts label) <+: placeOf (archivePath opts c label))
    {q : Place} (hq : Roads opts c label q) : ¬ placeOf (stagingDir opts label) <+: q := by
  intro hbelow
  rcases h.roads_iff.1 hq with hq | hq
  · rw [h.place_staging] at hbelow
    exact not_below_above _ (hbelow.trans hq)
  · rw [h.place_archive] at hapart
    exact hapart ((hbelow.trans hq).trans (List.prefix_append _ _))

theorem Located.place_staged (hname : IsName (basename artifact).toList) : placeOf (stagedPath opts artifact label) =
    placeOf (stagingDir opts label) ++ [shownPart (basename artifact).toList] := by
  rw [stagedPath, (h.through_below (staysBelow_name hname)).placeOf_eq, List.map_append, normalParts_name hname,
    h.staging, (through_absolute h.stagingNames).placeOf_eq]
  rfl

/-- What is on the ways of packaging lies where the package is put together, or on the roads. -/
theorem Located.road_of_outside (hname : IsName (basename artifact).toList) (hlibrary : StaysBelow opts.libraryName)
    {q : Place} (hq : Ways opts artifact c label q) (hout : ¬ placeOf (stagingDir opts label) <+: q) :
    Roads opts c label q := by
  have hgo {r : Place} (hr : placeOf (stagingDir opts label) <+: r) (hqr : q <+: r) : Roads opts c label q := by
    have habove := (List.prefix_or_prefix_of_prefix hqr hr).resolve_right hout
    rw [h.place_staging] at habove
    rcases List.prefix_concat_iff.1 habove with rfl | habove
    · rw [h.place_staging] at hout
      exact absurd (List.prefix_refl _) hout
    · exact h.roads_iff.2 (.inl habove)
  rcases hq with hq | hq | hq | hq
  · exact hq
  · exact hgo (h.place_staged hname ▸ List.prefix_append _ _) hq
  · exact hgo (h.place_library hlibrary ▸ List.prefix_append _ _) hq
  · exact hgo (h.place_metadata ▸ List.prefix_append _ _) hq

/-- Nothing that packaging works on lies below the library, unless that is the staging directory itself. -/
theorem Located.paves (hapart : ¬ placeOf (stagingDir opts label) <+: placeOf (archivePath opts c label))
    (hname : IsName (basename artifact).toList) (hlibrary : StaysBelow opts.libraryName)
    (hU : ∀ q, Ways opts artifact c label q → U q)
    (hU' : ∀ q, U q → Ways opts artifact c label q ∨ q = placeOf (archivePath opts c label ++ ".tmp")) :
    Paves opts artifact c label U where
  roads q hq := hU q (.inl hq)
  staged q hq := hU q (.inr (.inl hq))
  library q hq := hU q (.inr (.inr (.inl hq)))
  metadata q hq := hU q (.inr (.inr (.inr hq)))
  low hlow q hq hbelow := by
    have hplace := h.place_library hlibrary
    have hstaging : placeOf (stagingDir opts label) <+: q := (hplace ▸ List.prefix_append _ _).trans hbelow
    have hshort : (placeOf (stagingDir opts label)).length + 1 ≤ (placeOf (libraryPath opts label)).length := by
      rw [hplace, List.length_append]
      refine Nat.add_le_add_left (List.length_pos_iff.2 fun hnil => hlow ?_) _
      rw [hplace, hnil, List.append_nil, h.place_staged hname]
      exact List.prefix_append _ _
    have hroad {r : Place} (hr : Roads opts c label r) (hqr : q <+: r) : False :=
      h.staging_not_road hapart hr (hstaging.trans hqr)
    rcases hU' q hq with (hq | hq | hq | hq) | rfl
    · exact (hroad hq (List.prefix_refl q)).elim
    · exact (hlow (hbelow.trans hq)).elim
    · exact hq.eq_of_length_le hbelow.length_le
    · rw [h.place_metadata] at hq
      refine (hbelow.eq_of_length_le (hq.length_le.trans ?_)).symm
      simpa using hshort
    · rw [h.part, placeOf_name h.directoryNames (isName_dot h.name (by decide))] at hbelow hstaging ⊢
      rcases List.prefix_concat_iff.1 hbelow with heq | hbelow
      · exact heq.symm
      · refine (h.staging_not_road hapart (h.roads_iff.2 (.inr (List.prefix_refl _))) (.trans ?_ hbelow)).elim
        rw [hplace]
        exact List.prefix_append _ _

section Paves

variable (hU : Paves opts artifact c label U)
include hU

theorem Located.open_staging : Open U (absolute (C ++ [stagingName label])) := by
  refine ⟨(through_absolute h.stagingNames).straight, fun q hq => hU.metadata q (hq.trans ?_)⟩
  rw [← h.staging, h.place_metadata]
  exact List.prefix_append _ _

theorem Located.open_directory : Open U (absolute A) := by
  refine ⟨(through_absolute h.directoryNames).straight, fun q hq => hU.roads q (.inr ?_)⟩
  rwa [h.dirname_archive]

theorem Located.open_part (hpart : U (placeOf (archivePath opts c label ++ ".tmp"))) :
    Open U (absolute (A ++ [n ++ '.' :: "tmp".toList])) := by
  have hname := isName_dot h.name (s := "tmp".toList) (by decide)
  refine ⟨(through_absolute (names_concat h.directoryNames hname)).straight, fun q hq => ?_⟩
  rw [h.part] at hpart
  rw [placeOf_name h.directoryNames hname] at hq hpart
  rcases List.prefix_concat_iff.1 hq with rfl | hq
  · exact hpart
  · exact hU.roads q (h.roads_iff.2 (.inr hq))

/-- What is done to put a package together changes only the place where that is done, and makes directories only
there or on the roads. -/
theorem Located.stage_stays (hartifact : StaysBelow (basename artifact)) (hlibrary : StaysBelow opts.libraryName)
    {a : Act} (ha : StageActs opts artifact label a) :
    a.Stays U (Roads opts c label) (placeOf (stagingDir opts label) <+: ·) := by
  have hstaged := h.below_staging hartifact
  have hplace := h.below_staging hlibrary
  cases ha with
  | clear => exact ⟨h.staging ▸ h.open_staging hU, fun q hq => hq, fun q hq => hq.elim⟩
  | stage =>
    refine ⟨⟨_, h.stagingNames, h.staging, h.staging ▸ h.open_staging hU⟩, fun q hq => hq.elim, fun q hq => ?_⟩
    rw [Act.Makes, h.place_staging] at hq
    rcases List.prefix_concat_iff.1 hq with hq | hq
    · exact .inr (h.place_staging.trans hq.symm ▸ List.prefix_refl _)
    · exact .inl (h.roads_iff.2 (.inl hq))
  | copy =>
    refine ⟨h.opens hU.staged, fun q hq => ?_, fun q hq => hq.elim⟩
    cases hq
    exact hstaged
  | name =>
    refine ⟨trivial, fun q hq => ?_, fun q hq => hq.elim⟩
    rcases hq with ⟨dir, hdir, -⟩ | ⟨log, hlog, -⟩ | ⟨-, file, hfile, hq⟩
    · cases hdir
    · cases hlog
    · cases hfile
      exact hstaged.trans hq
  | rename =>
    exact ⟨⟨h.opens hU.staged, h.opens hU.library, hU.low⟩, fun q hq => hq.elim hstaged.trans hplace.trans,
      fun q hq => hq.elim⟩
  | metadata =>
    refine ⟨h.opens hU.metadata, fun q hq => ?_, fun q hq => hq.elim⟩
    cases hq
    exact h.below_staging (by decide)

end Paves

theorem Located.open_fresh : Open (fun q => Roads opts c label q ∨ placeOf (stagingDir opts label) <+: q)
    (absolute (C ++ [stagingName label])) := by
  refine ⟨(through_absolute h.stagingNames).straight, fun q hq => ?_⟩
  rw [placeOf_name h.chamberNames (isName_stagingName label)] at hq
  rcases List.prefix_concat_iff.1 hq with rfl | hq
  · rw [h.place_staging]
    exact .inr (List.prefix_refl _)
  · exact .inl (h.roads_iff.2 (.inl hq))

/-- The artifact is only copied if the last part of its path is a name. -/
theorem Located.isName_basename (hlaid : Laid d (C ++ [stagingName label]))
    (hcopy : d.copy artifact (stagedPath opts artifact label) = .ok d') : IsName (basename artifact).toList := by
  by_contra hname
  have hpath := h.through (basename artifact)
  have habove := @descend_unnamed C _ _ (isName_stagingName label).ne_up (slash_notMem_basename artifact) hname
  have hplace := (habove.map shownPart)
  rw [← hpath.placeOf_eq] at hplace
  obtain ⟨_, _, _, q, -, -, hq, hdir, -⟩ := copy_ok hcopy
  rw [walkPath_straight hpath.straight (fun r hr => hlaid.clear r (hr.trans hplace)) (locateFile_ok hq)] at hdir
  by_cases heq : placeOf (join [stagingDir opts label, basename artifact]) = (C ++ [stagingName label]).map shownPart
  · exact hdir (heq ▸ hlaid.directory)
  · exact hdir (hlaid.tree.directory (by rw [hlaid.directory]; exact Option.some_ne_none _) hplace heq)

end Located

/-! ## Where nothing is left -/

/-- There are no links where nothing is left. -/
theorem sound_of_gone {d : Disk} {P : Place} (hd : Sound (fun q => U q ∧ ¬ P <+: q) d)
    (hgone : ∀ q, P <+: q → d.get? q = none) : Sound U d := by
  refine ⟨fun q hq target hget => ?_, hd.tree⟩
  by_cases hbelow : P <+: q
  · rw [hgone q hbelow] at hget
    cases hget
  · exact hd.free q ⟨hq, hbelow⟩ target hget

/-- The disk on which a package is put together, when what was left of an earlier one was removed. -/
theorem Site.removed (hsite : Site opts c label d)
    (h : d.removeAll (stagingDir opts label) = .ok d') :
    Sound (fun q => Roads opts c label q ∨ placeOf (stagingDir opts label) <+: q) d' ∧
      Kept (Roads opts c label) (placeOf (stagingDir opts label) <+: ·) d d' ∧
      ∀ q, placeOf (stagingDir opts label) <+: q → d'.get? q = none := by
  obtain ⟨C, A, n, hlocated⟩ := exists_located hsite.chamber hsite.output c label
  have hchamber : Open (Roads opts c label) (absolute C) :=
    ⟨(through_absolute hlocated.chamberNames).straight, fun q hq => .inl (by rwa [hlocated.dirname_staging])⟩
  rw [hlocated.staging] at h
  obtain ⟨hkept, hgone⟩ :=
    removeAll_gone hlocated.chamberNames (isName_stagingName label) hchamber hsite.roads h
  rw [← hlocated.place_staging] at hkept hgone
  exact ⟨sound_of_gone (hkept.sound.mono fun q hq => hq.1.resolve_right hq.2) hgone, hkept, hgone⟩

/-! ## A site -/

/-- Packages of which little is told, of a source in `/c/m`, that go to `/c/o`. -/
def bareOptions : PackageOptions :=
  { chamber := "/c", outputDir := "/c/o", soname := "s", libraryName := "l.so"
    metadata := ⟨"D", none, none, none, none, none, none⟩ }

def bareCopy : WorkingCopy := ⟨"/c/m", "0", "", "1", default, none, false⟩

/-- A disk with a library that was built, and the archive of an earlier one. -/
def builtDisk : Disk :=
  ⟨[(["c", "b.so"], .file (Utf8.encode "library") newFileMode),
    (["c", "o", "D-T-1-0.zip"], .file (Utf8.encode "old") newFileMode), (["c", "o"], .directory),
    (["c"], .directory)], []⟩

end Package

end VariantForge
