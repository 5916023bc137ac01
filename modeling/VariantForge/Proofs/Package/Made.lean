import VariantForge.Proofs.Package.Contents
import VariantForge.Proofs.Run.Course

/-!
# Packages that are made

A package that is made holds two files: the library, as the command left it that was told to name it, and the
metadata of the variant (`run_contents`). Both are put together in one directory under names of their own, so a
library that is called like the metadata is lost, and the metadata is packed twice (`run_contents_twice`).
-/

namespace VariantForge

open Path Disk Forge Run

/-- A name for a file in an archive climbs nowhere, and its back slashes become slashes. -/
theorem Archive.checkFileName_ok {n name : String} (h : checkFileName n = .ok name) :
    name = Text.replaceChar n '\\' '/' ∧ StaysBelow n := by
  rw [checkFileName] at h
  split at h
  · cases h
  cases hname : checkName n with
  | error f =>
    rw [hname] at h
    cases h
  | ok slashed =>
    rw [hname] at h
    obtain rfl : slashed = name := by
      simp only [bind, Except.bind, pure, Except.pure] at h
      split at h
      · cases h
      · exact Except.ok.inj h
    rw [checkName] at hname
    split at hname
    · cases hname
    split at hname
    · cases hname
    rename_i hup
    refine ⟨(Except.ok.inj hname).symm, up_notMem_normalParts fun hmem => hup ?_⟩
    rw [List.contains_iff_mem, Text.replaceChar, String.toList_ofList]
    exact mem_parts_map (by decide) (by decide) hmem

namespace Package

variable {o : Outside} {opts : PackageOptions} {artifact label : String} {c : WorkingCopy} {C A : List Part} {n : Part}
  {U : Place → Prop} {w w' : World} {d : Disk}

/-! ## What a package is made of -/

/-- What packaging went through when it made a package. -/
theorem run_ok {made : PackagedArtifact} (h : runOn w (run o opts artifact c label) = (.ok made, w')) :
    ∃ d w₁ w₂, w.disk.removeAll (stagingDir opts label) = .ok d ∧
      runOn { w with disk := d } (stage o opts artifact label) = (.ok (), w₁) ∧
      runOn w₁ (finish o opts c label) = (.ok made, w₂) := by
  obtain ⟨there, w₀, hlook, h₀⟩ := of_bind_ok h
  obtain rfl : w = w₀ := congrArg Prod.snd hlook
  clear hlook
  cases there with
  | false => cases h₀
  | true =>
    obtain ⟨_, w₁, hremove, h₁⟩ := of_bind_ok h₀
    obtain ⟨d, hd, rfl⟩ := change_ok hremove
    obtain ⟨w₂, hcaught, -⟩ := of_finally_ok h₁
    rw [runOn_tryCatch] at hcaught
    rcases hassemble : runOn { w with disk := d } (assemble o opts artifact c label) with ⟨f | made', w₃⟩
    · rw [hassemble] at hcaught
      cases hcaught
    · rw [hassemble] at hcaught
      cases hcaught
      obtain ⟨_, w₁, hstage, hfinish⟩ := of_bind_ok hassemble
      exact ⟨d, w₁, _, hd, hstage, hfinish⟩

/-- No archive is written of a file without a name for an archive. -/
theorem writeArchive_named {f : Source} {files : List Source} {target : String} :
    Gives (writeArchive (f :: files) target) fun _ => ∃ name, Archive.checkFileName f.name = .ok name := by
  have hnames : Gives ((f :: files).mapM fun f => memberName f.name) fun _ =>
      ∃ name, Archive.checkFileName f.name = .ok name := by
    intro w names w' h
    obtain ⟨-, hall⟩ := mapM_ok (P := fun f name => Archive.checkFileName f.name = .ok name)
      (fun f _ name w' hname => memberName_ok hname) h
    obtain ⟨name, -, hname, -⟩ := List.forall₂_cons_left_iff.1 hall
    exact ⟨name, hname⟩
  exact .bind fun here => .bind fun _ => hnames.then fun _ h => fun _ _ _ _ => h

theorem finish_named : Gives (finish o opts c label) fun _ => StaysBelow opts.libraryName := by
  refine .bind fun builtAt => ?_
  split
  · exact .throw
  · refine .bind fun _ => writeArchive_named.then fun _ ⟨name, hname⟩ => fun _ _ _ _ => ?_
    exact (Archive.checkFileName_ok hname).2

section Site

variable (hsite : Site opts c label w.disk)
include hsite

/-- A package is only made of an artifact with a name, and of a library whose name climbs nowhere. -/
theorem Site.run_named {made : PackagedArtifact} (h : runOn w (run o opts artifact c label) = (.ok made, w')) :
    IsName (basename artifact).toList ∧ StaysBelow opts.libraryName := by
  obtain ⟨C, A, n, hlocated⟩ := exists_located hsite.chamber hsite.output c label
  obtain ⟨d, w₁, w₂, hremove, hstage, hfinish⟩ := run_ok h
  refine ⟨?_, finish_named _ _ _ hfinish⟩
  obtain ⟨_, w₃, hmake, h₃⟩ := of_bind_ok hstage
  obtain ⟨_, w₄, hcopy, -⟩ := of_bind_ok h₃
  obtain ⟨d₄, hd₄, rfl⟩ := change_ok hcopy
  rw [hlocated.staging] at hmake
  have hmade := makeDirectories_ok hmake
  exact hlocated.isName_basename
    (laid_of_makeDirectories hlocated.stagingNames hlocated.open_fresh (hsite.removed hremove).1 hmade) hd₄

end Site

/-! ## What it holds -/

/-- The places on the ways of packaging, and that at which an archive is written first. -/
def Tracks (opts : PackageOptions) (artifact : String) (c : WorkingCopy) (label : String) (q : Place) : Prop :=
  Ways opts artifact c label q ∨ q = placeOf (archivePath opts c label ++ ".tmp")

theorem Site.sound_tracks (hsite : Site opts c label d)
    (hpart : ∀ target, d.get? (placeOf (archivePath opts c label ++ ".tmp")) ≠ some (.link target))
    (hname : IsName (basename artifact).toList) (hlibrary : StaysBelow opts.libraryName) :
    Sound (fun q => Tracks opts artifact c label q ∧ ¬ placeOf (stagingDir opts label) <+: q) d := by
  obtain ⟨C, A, n, hlocated⟩ := exists_located hsite.chamber hsite.output c label
  refine ⟨fun q hq => ?_, hsite.roads.tree⟩
  rcases hq with ⟨hq | rfl, hout⟩
  · exact hsite.roads.free q (hlocated.road_of_outside hname hlibrary hq hout)
  · exact hpart

/-- What is delivered of what is put together where the ways are free is there in the end. -/
theorem Site.run_delivers {Q : List Moment → ByteArray → Prop} (hsite : Site opts c label w.disk) (artifact : String)
    (hpart : ∀ target, w.disk.get? (placeOf (archivePath opts c label ++ ".tmp")) ≠ some (.link target))
    (hassemble : ∀ C A n, Located opts c label C A n → StaysBelow opts.libraryName →
      Paves opts artifact c label (Tracks opts artifact c label) → ∀ w, Sound (Tracks opts artifact c label) w.disk →
        Yields o isCommand w (assemble o opts artifact c label) fun l r w' => ∀ made, r = .ok made →
          ∃ bytes, Q l bytes ∧ Delivered opts c label A n (Tracks opts artifact c label) made w'.disk bytes) :
    Yields o isCommand w (run o opts artifact c label) fun l r w' => ∀ made, r = .ok made →
      made.archive = archivePath opts c label ∧
        ∃ bytes mode, Q l bytes ∧ w'.disk.look? made.archive = some (.file bytes mode) := by
  obtain ⟨C, A, n, hlocated⟩ := exists_located hsite.chamber hsite.output c label
  have hdelivers (hnames : IsName (basename artifact).toList ∧ StaysBelow opts.libraryName) := by
    have hpaves := hlocated.paves hsite.apart hnames.1 hnames.2 (U := Tracks opts artifact c label) (fun _ => .inl)
      fun _ => id
    exact hlocated.run_delivers hpaves.roads (hpaves.staged _ (hlocated.place_staged hnames.1 ▸ List.prefix_append _ _))
      hsite.apart (hassemble C A n hlocated hnames.2 hpaves) (hsite.sound_tracks hpart hnames.1 hnames.2)
  exact ((run_yields w).imp hdelivers).mono fun l r w' hend hl made hr => hl (hsite.run_named (hr ▸ hend)) made hr

/-- Where no link stands at the archive's place or on the ways, and the library is not called like the metadata, a
package that is made is an archive of two files: the library, as the command left it that was told to name it, and
the metadata. -/
theorem run_contents (hsite : Site opts c label w.disk)
    (hpart : ∀ target, w.disk.get? (placeOf (archivePath opts c label ++ ".tmp")) ≠ some (.link target))
    (hname : normalParts true opts.libraryName.toList ≠ [metadataFile.toList])
    (hrun : ∀ w, Sound (Tracks opts artifact c label) w.disk →
      Sound (Tracks opts artifact c label) (o.run w (command opts (stagedPath opts artifact label))).disk) :
    Yields o isCommand w (run o opts artifact c label) fun l r w' => ∀ made, r = .ok made →
      made.archive = archivePath opts c label ∧
      ∃ m ∈ l, Staged opts artifact label m ∧ m.Succeeds o (command opts (stagedPath opts artifact label)) ∧
        ∃ library mode metadata k mode' mode'',
          (o.run m.world (command opts (stagedPath opts artifact label))).disk.look? (stagedPath opts artifact label) =
            some (.file library mode) ∧
          Metadata.make opts.metadata label c.version (o.clock k) = .ok metadata ∧
          w'.disk.look? made.archive = some (.file (Archive.pack
            [⟨Text.replaceChar opts.libraryName '\\' '/', library, mode⟩,
              ⟨metadataFile, Utf8.encode (metadataText metadata), mode'⟩]) mode'') := by
  have hdelivers := hsite.run_delivers artifact hpart fun C A n hlocated hlibrary hpaves =>
    hlocated.assemble_leaves hpaves (.inr rfl) (hlocated.library_ne_metadata hlibrary hname) hrun
  refine hdelivers.mono fun l r w' _ hl made hr => ?_
  obtain ⟨hpath, bytes, mode'', ⟨m, hm, hholds⟩, hbytes⟩ := hl made hr
  obtain ⟨library, mode, name, metadata, k, mode', hlook, hchecked, hmake, rfl⟩ := hholds.packed
  rw [(Archive.checkFileName_ok hchecked).1] at hbytes
  exact ⟨hpath, m, hm, hholds.staged, hholds.named, library, mode, metadata, k, mode', mode'', hlook, hmake, hbytes⟩

/-- Packages with a library of some name. -/
def namedOptions (libraryName : String) : PackageOptions :=
  { bareOptions with
    libraryName
    metadata := ⟨"D", some (.text "a"), some (.text "v"), some (.text "1"), some (.number (.ofNat 27)),
      some (.number (.ofNat 1)), some (.text libraryName)⟩ }

theorem builtDisk_site (libraryName : String) : Site (namedOptions libraryName) bareCopy "T" builtDisk where
  chamber := show isAbsolute "/c" = true by decide
  output := show isAbsolute "/c/o" = true by decide
  roads := sound_of_entries (by decide +kernel)
  apart := show ¬ placeOf (stagingDir bareOptions "T") <+: placeOf (archivePath bareOptions bareCopy "T") by
    decide +kernel

theorem builtDisk_part (libraryName : String) :
    builtDisk.get? (placeOf (archivePath (namedOptions libraryName) bareCopy "T" ++ ".tmp")) = none :=
  show builtDisk.get? (placeOf (archivePath bareOptions bareCopy "T" ++ ".tmp")) = none from
    Option.isNone_iff_eq_none.1 (by decide +kernel)

theorem run_contents_bare :
    ∃ made library mode metadata mode' mode'',
      (runOn { disk := builtDisk } (run obliging (namedOptions "l.so") "/c/b.so" bareCopy "T")).1 =
        .ok made ∧
      Metadata.make (namedOptions "l.so").metadata "T" "1" (some 0) = .ok metadata ∧
      (runOn { disk := builtDisk } (run obliging (namedOptions "l.so") "/c/b.so" bareCopy "T")).2.disk.look?
          made.archive = some (.file (Archive.pack [⟨"l.so", library, mode⟩,
            ⟨metadataFile, Utf8.encode (metadataText metadata), mode'⟩]) mode'') := by
  have hmade : (runOn { disk := builtDisk }
      (run obliging (namedOptions "l.so") "/c/b.so" bareCopy "T")).1.isOk = true := by decide +kernel
  obtain ⟨l, -, hends⟩ := (@run_contents obliging (namedOptions "l.so") "/c/b.so" "T" bareCopy { disk := builtDisk }
    (builtDisk_site "l.so") (by simp [builtDisk_part]) (by decide +kernel) fun w hd => hd).elim
  cases hrun : (runOn { disk := builtDisk }
      (run obliging (namedOptions "l.so") "/c/b.so" bareCopy "T")).1 with
  | error f =>
    rw [hrun] at hmade
    cases hmade
  | ok made =>
    obtain ⟨-, m, -, -, -, library, mode, metadata, k, mode', mode'', -, hmake, hlook⟩ := hends made hrun
    have hname : Text.replaceChar (namedOptions "l.so").libraryName '\\' '/' = "l.so" := by decide +kernel
    rw [hname] at hlook
    exact ⟨made, library, mode, metadata, mode', mode'', rfl, hmake, hlook⟩

/-- A library that is called like the metadata is lost: its archive holds the metadata twice. -/
theorem run_contents_twice (hsite : Site opts c label w.disk)
    (hpart : ∀ target, w.disk.get? (placeOf (archivePath opts c label ++ ".tmp")) ≠ some (.link target))
    (hname : normalParts true opts.libraryName.toList = [metadataFile.toList])
    (hrun : ∀ w, Sound (Tracks opts artifact c label) w.disk →
      Sound (Tracks opts artifact c label) (o.run w (command opts (stagedPath opts artifact label))).disk) :
    Yields o isCommand w (run o opts artifact c label) fun _ r w' => ∀ made, r = .ok made →
      ∃ metadata k mode mode',
        Metadata.make opts.metadata label c.version (o.clock k) = .ok metadata ∧
        w'.disk.look? made.archive = some (.file (Archive.pack
          [⟨Text.replaceChar opts.libraryName '\\' '/', Utf8.encode (metadataText metadata), mode⟩,
            ⟨metadataFile, Utf8.encode (metadataText metadata), mode⟩]) mode') := by
  have hdelivers := hsite.run_delivers (o := o) artifact
    (Q := fun _ bytes => ∃ metadata k mode, Metadata.make opts.metadata label c.version (o.clock k) = .ok metadata ∧
      bytes = Archive.pack [⟨Text.replaceChar opts.libraryName '\\' '/', Utf8.encode (metadataText metadata), mode⟩,
        ⟨metadataFile, Utf8.encode (metadataText metadata), mode⟩]) hpart
    fun C A n hlocated hlibrary hpaves w hd => ?_
  · refine hdelivers.mono fun l r w' _ hl made hr => ?_
    obtain ⟨-, bytes, mode', ⟨metadata, k, mode, hmake, rfl⟩, hlook⟩ := hl made hr
    exact ⟨metadata, k, mode, mode', hmake, hlook⟩
  · refine (hlocated.stage_leaves hpaves hrun hd).bind (fun l _ w₁ hl => ?_) fun l f w₁ _ _ h => by cases h
    refine finish_quiet.yields fun made hok => ?_
    obtain ⟨library, mode, name, metadata, k, mode', d, hchecked, hmake, -, hlib, htext, hdelivered⟩ :=
      hlocated.finish_ok hpaves (.inr rfl) (hl rfl).1 (Prod.ext hok rfl)
    -- both are read at one place, where the metadata was written last
    have hplace : placeOf (libraryPath opts label) = placeOf (metadataPath opts label) := by
      rw [hlocated.place_library hlibrary, hlocated.place_metadata, hname]
      rfl
    rw [hplace, htext] at hlib
    obtain ⟨hbytes, hmode⟩ := Entry.file.inj (Option.some.inj hlib)
    rw [(Archive.checkFileName_ok hchecked).1, ← hbytes, ← hmode] at hdelivered
    exact ⟨_, ⟨metadata, k, mode', hmake, rfl⟩, hdelivered⟩

theorem metadata_packed_twice :
    ∃ made metadata mode mode',
      (runOn { disk := builtDisk } (run obliging (namedOptions metadataFile) "/c/b.so" bareCopy "T")).1 =
        .ok made ∧
      Metadata.make (namedOptions metadataFile).metadata "T" "1" (some 0) = .ok metadata ∧
      Utf8.encode (metadataText metadata) ≠ Utf8.encode "library" ∧
      (runOn { disk := builtDisk } (run obliging (namedOptions metadataFile) "/c/b.so" bareCopy "T")).2.disk.look?
          made.archive = some (.file (Archive.pack [⟨metadataFile, Utf8.encode (metadataText metadata), mode⟩,
            ⟨metadataFile, Utf8.encode (metadataText metadata), mode⟩]) mode') := by
  have hmade : (runOn { disk := builtDisk }
      (run obliging (namedOptions metadataFile) "/c/b.so" bareCopy "T")).1.isOk = true := by decide +kernel
  have hother : ((Metadata.make (namedOptions metadataFile).metadata "T" "1" (some 0)).toOption.all fun m =>
      decide (Utf8.encode (metadataText m) ≠ Utf8.encode "library")) = true := by decide +kernel
  obtain ⟨l, -, hends⟩ := (@run_contents_twice obliging (namedOptions metadataFile) "/c/b.so" "T" bareCopy { disk := builtDisk }
    (builtDisk_site metadataFile) (by simp [builtDisk_part]) (by decide +kernel) fun w hd => hd).elim
  cases hrun : (runOn { disk := builtDisk }
      (run obliging (namedOptions metadataFile) "/c/b.so" bareCopy "T")).1 with
  | error f =>
    rw [hrun] at hmade
    cases hmade
  | ok made =>
    obtain ⟨metadata, k, mode, mode', hmake, hlook⟩ := hends made hrun
    have hname : Text.replaceChar (namedOptions metadataFile).libraryName '\\' '/' = metadataFile := by decide +kernel
    rw [hname] at hlook
    have hmake : Metadata.make (namedOptions metadataFile).metadata "T" "1" (some 0) = .ok metadata := hmake
    rw [hmake, Except.toOption, Option.all_some, decide_eq_true_eq] at hother
    exact ⟨made, metadata, mode, mode', rfl, hmake, hother, hlook⟩

end Package

end VariantForge
