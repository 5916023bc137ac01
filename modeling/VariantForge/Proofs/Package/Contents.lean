import VariantForge.Proofs.Package.Site

/-!
# Contents — what a package holds

The library goes into the archive as it was left by the command that sets its name, which is run when it has just
been copied (`stage_leaves`), and the metadata as it was made for the variant (`finish_ok`). Nothing comes between
them: they are written to different places of the staging directory, and the archive is not written until both
have been read.
-/

namespace VariantForge

open Path Disk Forge

variable {o : Outside} {α : Type} {U : Place → Prop} {w w' : World}

namespace Disk

/-- What a file holds that was just written. -/
theorem get?_of_write {d d' : Disk} {path : String} {bytes : ByteArray} (hd : Sound U d)
    (hp : Open U path) (h : d.write path bytes = .ok d') :
    ∃ mode, d'.get? (placeOf path) = some (.file bytes mode) := by
  obtain ⟨q, hq, hput⟩ := write_ok h
  obtain rfl := walkPath_straight hp.straight (hp.clear hd) (locateFile_ok hq)
  rcases hput with ⟨old, mode, hget, rfl⟩ | ⟨hget, rfl⟩
  · exact ⟨mode, get?_put_self (ne_nil_of_not_directory (d := d) (by simp [hget]))⟩
  · exact ⟨_, get?_put_self (ne_nil_of_not_directory (d := d) (by simp [hget]))⟩

/-- A file that is there after directories were made was there before. -/
theorem get?_before_directories {d : Disk} {path : String} {q : Place} {bytes : ByteArray}
    {mode : Nat} (h : (d.makeDirectories path).1.get? q = some (.file bytes mode)) :
    d.get? q = some (.file bytes mode) := by
  rcases (makeDirectories_adds d path).added q with hq | ⟨-, -, hq⟩
  · rwa [hq] at h
  · rw [hq] at h
    cases h

end Disk

/-- Going through a list by operations that change nothing gives a value for each of its members. -/
theorem Forge.mapM_ok {β : Type} {f : α → Forge β} {P : α → β → Prop} {l : List α}
    (hf : ∀ a ∈ l, ∀ b w', runOn w (f a) = (.ok b, w') → w' = w ∧ P a b) {bs : List β}
    (h : runOn w (l.mapM f) = (.ok bs, w')) : w' = w ∧ List.Forall₂ P l bs := by
  induction l generalizing bs w' with
  | nil =>
    cases h
    exact ⟨rfl, .nil⟩
  | cons a l ih =>
    rw [List.mapM_cons] at h
    obtain ⟨b, w₁, hb, hrest⟩ := of_bind_ok h
    obtain ⟨bs', w₂, hbs, hend⟩ := of_bind_ok hrest
    obtain ⟨hw₁, hab⟩ := hf a (List.mem_cons_self ..) b w₁ hb
    rw [hw₁] at hbs
    obtain ⟨hw₂, hall⟩ := ih (fun a ha => hf a (List.mem_cons_of_mem _ ha)) hbs
    cases hend
    exact ⟨hw₂, .cons hab hall⟩

namespace Package

variable {opts : PackageOptions} {artifact label : String} {c : WorkingCopy} {C A : List Part} {n : Part}

/-! ## Files for an archive -/

theorem load_ok {path name : String} {f : Archive.Packed} (h : runOn w (load path name) = (.ok f, w')) :
    w' = w ∧ ∃ place bytes mode, w.disk.locate path = .ok place ∧ w.disk.get? place = some (.file bytes mode) ∧
      f = ⟨name, bytes, mode⟩ := by
  obtain ⟨bytes, w₁, hread, h⟩ := of_bind_ok h
  rw [runOn_readFile] at hread
  cases hbytes : w.disk.read path with
  | error e => simp [hbytes] at hread
  | ok b =>
    rw [hbytes] at hread
    cases hread
    obtain ⟨place, mode, hplace, hget⟩ := read_ok hbytes
    rw [runOn_bind_ok (runOn_look ..), look?, hplace] at h
    dsimp only at h
    rw [hget] at h
    cases h
    exact ⟨rfl, place, bytes, mode, hplace, hget, rfl⟩

theorem memberName_ok {name name' : String} (h : runOn w (memberName name) = (.ok name', w')) :
    w' = w ∧ Archive.checkFileName name = .ok name' := by
  rw [memberName] at h
  cases hname : Archive.checkFileName name with
  | error f =>
    rw [hname] at h
    cases h
  | ok n =>
    rw [hname] at h
    cases h
    exact ⟨rfl, rfl⟩

/-- Whether a file was packed under some name as it was on a disk. -/
def PackedFrom (d : Disk) (x : Source × String) (f : Archive.Packed) : Prop :=
  ∃ bytes mode, d.get? (placeOf x.1.path) = some (.file bytes mode) ∧ f = ⟨x.2, bytes, mode⟩

/-- An archive that was written holds the files that it was to be made of. -/
theorem writeArchive_ok {files : List Source} {size : Nat} (hA : ∀ q ∈ A, IsName q) (hn : IsName n)
    (hd : Sound U w.disk) (hdir : Open U (absolute A)) (hpart : Open U (absolute (A ++ [n ++ '.' :: "tmp".toList])))
    (hopen : ∀ f ∈ files, Open U f.path) (h : runOn w (writeArchive files (absolute (A ++ [n]))) = (.ok size, w')) :
    ∃ names packed mode,
      List.Forall₂ (fun f name => Archive.checkFileName f.name = .ok name) files names ∧
      List.Forall₂ (PackedFrom w.disk) (files.zip names) packed ∧
      w'.disk.get? (A.map shownPart ++ [shownPart n]) = some (.file (Archive.pack packed) mode) ∧
      ¬ Overlong (absolute (A ++ [n])) ∧ Sound U w'.disk ∧ Laid w'.disk A := by
  have hdot : '/' ∉ "tmp".toList := by decide
  rw [writeArchive] at h
  obtain ⟨here, w₀, hhere, h₀⟩ := of_bind_ok h
  cases hhere
  rw [resolve_through _ (through_absolute (names_concat hA hn))] at h₀
  obtain ⟨_, w₁, hmake, h₁⟩ := of_bind_ok h₀
  rw [dirname_absolute hA hn] at hmake
  have hmade := makeDirectories_ok hmake
  have hlaid := laid_of_makeDirectories hA hdir hd hmade
  have hd₁ : Sound U w₁.disk := by
    have hsound := hd.makeDirectories hA hdir
    rwa [hmade] at hsound
  obtain ⟨names, w₂, hnames, h₂⟩ := of_bind_ok h₁
  obtain ⟨hw₂, hnames⟩ := mapM_ok (P := fun f name => Archive.checkFileName f.name = .ok name)
    (fun f _ name w' hname => memberName_ok hname) hnames
  rw [hw₂] at h₂
  obtain ⟨packed, w₃, hload, h₃⟩ := of_bind_ok h₂
  -- the files are read once the directories were made, but they were there before
  have hload : w₃ = w₁ ∧ List.Forall₂ (PackedFrom w.disk) (files.zip names) packed := by
    refine mapM_ok (fun x hx f w' hf => ?_) hload
    obtain ⟨hw', place, bytes, mode, hplace, hget, hf⟩ := load_ok hf
    have hx := hopen x.1 (List.of_mem_zip (a := x.1) (b := x.2) hx).1
    obtain rfl := walkPath_straight hx.straight (hx.clear hd₁) hplace
    have hbefore : w.disk.get? (placeOf x.1.path) = some (.file bytes mode) := get?_before_directories (by rwa [hmade])
    exact ⟨hw', bytes, mode, hbefore, hf⟩
  obtain ⟨hw₃, hpacked⟩ := hload
  rw [hw₃] at h₃
  obtain ⟨_, w₄, hreplace, h₄⟩ := of_bind_ok h₃
  cases h₄
  rw [absolute_append] at hreplace
  obtain ⟨d, hwrite, hreplaces⟩ := replace_ok hlaid hn hdot hreplace
  obtain ⟨mode, hfile⟩ := get?_of_write hd₁ hpart hwrite
  rw [placeOf_name hA (isName_dot hn hdot)] at hfile
  refine ⟨names, packed, mode, hnames, hpacked, hreplaces.target.trans hfile,
    (hlaid.beside_short hn hdot hwrite).2, ?_, hreplaces.laid (hlaid.write (isName_dot hn hdot) hwrite).1⟩
  refine hreplaces.sound (write_kept hd₁ hpart hwrite).sound fun target hlink => ?_
  rw [hfile] at hlink
  cases hlink

/-! ## Putting it together -/

/-- Whether an archive holds the package of a variant: the library as the command left it that was told to
name it, when the artifact had just been copied for it, and the metadata of that variant. -/
structure Holds (o : Outside) (opts : PackageOptions) (artifact : String) (c : WorkingCopy) (label : String)
    (m : Moment) (archive : ByteArray) : Prop where
  staged : Staged opts artifact label m
  named : m.Succeeds o (command opts (stagedPath opts artifact label))
  packed : ∃ library mode name metadata k mode',
    (o.run m.world (command opts (stagedPath opts artifact label))).disk.look? (stagedPath opts artifact label) =
      some (.file library mode) ∧
    Archive.checkFileName opts.libraryName = .ok name ∧
    Metadata.make opts.metadata label c.version (o.clock k) = .ok metadata ∧
    archive = Archive.pack
      [⟨name, library, mode⟩, ⟨metadataFile, Utf8.encode (metadataText metadata), mode'⟩]

/-- Whether the archive of a package lies where it was to go, by a way that is laid, and has some contents. -/
def Delivered (opts : PackageOptions) (c : WorkingCopy) (label : String) (A : List Part) (n : Part) (U : Place → Prop)
    (made : PackagedArtifact) (d : Disk) (bytes : ByteArray) : Prop :=
  made.archive = archivePath opts c label ∧ ∃ mode,
    d.get? (A.map shownPart ++ [shownPart n]) = some (.file bytes mode) ∧
    ¬ Overlong (absolute (A ++ [n])) ∧ Sound U d ∧ Laid d A

theorem finish_quiet : Quiet isCommand (finish o opts c label) := by
  have hacts : Within o (fun a => ∀ d, a ≠ .run d) (finish o opts c label) :=
    finish_within (fun _ h => by cases h) fun _ _ h => by cases h <;> exact fun _ h => by cases h
  exact hacts.quiet (fun d h => h d rfl) fun _ => isCommand_iff.1

section Located

variable (h : Located opts c label C A n) (hU : Paves opts artifact c label U)
include h hU

/-- The library goes to the archive as the command left it that named it. -/
theorem Located.stage_leaves
    (hrun : ∀ w, Sound U w.disk → Sound U (o.run w (command opts (stagedPath opts artifact label))).disk)
    (hd : Sound U w.disk) : Yields o isCommand w (stage o opts artifact label) fun l r w' => r = .ok () →
      Sound U w'.disk ∧ ∃ m ∈ l, Staged opts artifact label m ∧
        m.Succeeds o (command opts (stagedPath opts artifact label)) ∧
        ∀ e, w'.disk.get? (placeOf (libraryPath opts label)) = some e →
          (o.run m.world (command opts (stagedPath opts artifact label))).disk.look?
            (stagedPath opts artifact label) = some e := by
  have hstaged : Open U (stagedPath opts artifact label) := h.opens hU.staged
  have hlibrary : Open U (libraryPath opts label) := h.opens hU.library
  refine .makeDirectories_bind (fun _ _ _ h => by cases h) fun w₁ hw₁ => ?_
  have hd₁ : Sound U w₁.disk := by
    rw [hw₁, h.staging]
    exact hd.makeDirectories h.stagingNames (h.open_staging hU)
  refine .change_bind (fun _ _ h => by cases h) fun d hcopy => ?_
  have hd₂ := (copy_kept hd₁ hstaged hcopy).sound
  let cmd := command opts (stagedPath opts artifact label)
  let m : Moment := ⟨{ w₁ with disk := d }, .ran cmd⟩
  have hm : Staged opts artifact label m := ⟨w₁.disk, isFile_of_copy hcopy, hcopy⟩
  have hafter : Sound U (o.run m.world cmd).disk := hrun m.world hd₂
  -- the artifact was copied there, so the path is not too long to be looked at when the command is done
  have hlook {e : Entry} (he : (o.run m.world cmd).disk.get? (placeOf (stagedPath opts artifact label)) = some e) :
      (o.run m.world cmd).disk.look? (stagedPath opts artifact label) = some e := by
    obtain ⟨_, _, _, q, -, -, hq, hdir, -⟩ := copy_ok hcopy
    have hpath : Through (stagedPath opts artifact label) _ := h.through (basename artifact)
    have hshort := not_overlong hstaged.straight (hstaged.clear hd₁) (locateFile_ok hq)
    have hplace := walkPath_straight hstaged.straight (hstaged.clear hd₁) (locateFile_ok hq)
    have hne : descend (C ++ [stagingName label]) (basename artifact).toList ≠ [] := by
      intro hnil
      rw [hplace, hpath.placeOf_eq, hnil] at hdir
      exact hdir rfl
    have habsolute := locateFile_absolute hpath hq
    rw [habsolute] at hstaged hshort he ⊢
    exact (hafter.look?_iff hpath.names hne hstaged).2 ⟨hshort, he⟩
  refine .command_bind rfl (fun res hsucceeds hres => ?_) (fun res _ hres => ?_) fun _ _ _ h => by cases h
  · rw [if_neg (by simp [hres])]
    split
    · refine .change (fun _ _ h => by cases h) fun d' hrename _ => ?_
      have hkept := rename_kept hafter hstaged hlibrary hU.low hrename
      refine ⟨hkept.sound, m, List.mem_cons_self .., hm, hsucceeds, fun e he => hlook ?_⟩
      rw [← he]
      exact (get?_rename hafter hstaged hlibrary hrename).symm
    · rename_i hsame
      refine .pure fun _ => ⟨hafter, m, List.mem_cons_self .., hm, hsucceeds, fun e he => hlook ?_⟩
      have hsame := not_not.1 hsame
      rw [← he]
      exact congrArg (fun path => (o.run m.world cmd).disk.get? (placeOf path)) hsame
  · rw [if_pos (by simp [hres])]
    exact .throw_bind fun h => by cases h

/-- An archive that was made holds the library and the metadata, as they were when this had been written. -/
theorem Located.finish_ok {made : PackagedArtifact} (hpart : U (placeOf (archivePath opts c label ++ ".tmp")))
    (hd : Sound U w.disk) (hfinish : runOn w (finish o opts c label) = (.ok made, w')) :
    ∃ library mode name metadata k mode' d,
      Archive.checkFileName opts.libraryName = .ok name ∧
      Metadata.make opts.metadata label c.version (o.clock k) = .ok metadata ∧
      Kept U (· = placeOf (metadataPath opts label)) w.disk d ∧
      d.get? (placeOf (libraryPath opts label)) = some (.file library mode) ∧
      d.get? (placeOf (metadataPath opts label)) = some (.file (Utf8.encode (metadataText metadata)) mode') ∧
      Delivered opts c label A n U made w'.disk (Archive.pack
        [⟨name, library, mode⟩, ⟨metadataFile, Utf8.encode (metadataText metadata), mode'⟩]) := by
  have hlibrary : Open U (libraryPath opts label) := h.opens hU.library
  have hmetadata : Open U (metadataPath opts label) := h.opens hU.metadata
  rw [finish] at hfinish
  obtain ⟨builtAt, w₁, hnow, h₁⟩ := of_bind_ok hfinish
  cases hnow
  cases hmake : Metadata.make opts.metadata label c.version (o.clock w.readings) with
  | error r =>
    rw [hmake] at h₁
    cases h₁
  | ok metadata =>
    rw [hmake] at h₁
    obtain ⟨_, w₂, hwrite, h₂⟩ := of_bind_ok h₁
    obtain ⟨d₂, hd₂, rfl⟩ := change_ok hwrite
    have hkept := write_kept hd hmetadata hd₂
    obtain ⟨size, w₃, harchive, h₃⟩ := of_bind_ok h₂
    have htarget : Path.join [opts.outputDir, (descriptor opts c label).fileName] = absolute (A ++ [n]) := h.archive
    rw [htarget] at harchive
    obtain ⟨names, packed, mode, hnames, hpacked, hget, hshort, hsound, hlaid⟩ := writeArchive_ok h.directoryNames
      h.name hkept.sound (h.open_directory hU) (h.open_part hU hpart) (by simpa using ⟨hlibrary, hmetadata⟩) harchive
    cases h₃
    -- both lists go through the two files
    obtain ⟨name, _, hname, hnames₁, rfl⟩ := List.forall₂_cons_left_iff.1 hnames
    obtain ⟨name', _, hname', hnames₂, rfl⟩ := List.forall₂_cons_left_iff.1 hnames₁
    cases hnames₂
    obtain ⟨_, _, ⟨library, mode₁, hlib, rfl⟩, hpacked₁, rfl⟩ := List.forall₂_cons_left_iff.1 hpacked
    obtain ⟨_, _, ⟨text, mode₂, htext, rfl⟩, hpacked₂, rfl⟩ := List.forall₂_cons_left_iff.1 hpacked₁
    cases hpacked₂
    have hplain : Archive.checkFileName metadataFile = .ok metadataFile := by decide
    have hsame : name' = metadataFile := Except.ok.inj (hname'.symm.trans hplain)
    have hbytes : text = Utf8.encode (metadataText metadata) := by
      obtain ⟨mode', htext'⟩ := get?_of_write hd hmetadata hd₂
      exact (Entry.file.inj (Option.some.inj (htext.symm.trans htext'))).1
    rw [hsame, hbytes] at hget
    rw [hbytes] at htext
    exact ⟨library, mode₁, name, metadata, w.readings, mode₂, d₂, hname, hmake, hkept, hlib, htext, rfl, mode, hget,
      hshort, hsound, hlaid⟩

omit hU in
/-- What was delivered is there when the directory was removed in which it was put together. -/
theorem Located.run_delivers {Q : List Moment → ByteArray → Prop} (hU : ∀ q, Roads opts c label q → U q)
    (hstaging : U (placeOf (stagingDir opts label)))
    (hapart : ¬ placeOf (stagingDir opts label) <+: placeOf (archivePath opts c label))
    (hassemble : ∀ w, Sound U w.disk → Yields o isCommand w (assemble o opts artifact c label) fun l r w' =>
      ∀ made, r = .ok made → ∃ bytes, Q l bytes ∧ Delivered opts c label A n U made w'.disk bytes)
    (hd : Sound (fun q => U q ∧ ¬ placeOf (stagingDir opts label) <+: q) w.disk) :
    Yields o isCommand w (run o opts artifact c label) fun l r w' => ∀ made, r = .ok made →
      made.archive = archivePath opts c label ∧
        ∃ bytes mode, Q l bytes ∧ w'.disk.look? made.archive = some (.file bytes mode) := by
  have hchamber : Open (fun q => U q ∧ ¬ placeOf (stagingDir opts label) <+: q) (absolute C) := by
    refine ⟨(through_absolute h.chamberNames).straight, fun q hq => ?_⟩
    have hroad : Roads opts c label q := .inl (by rwa [h.dirname_staging])
    exact ⟨hU q hroad, h.staging_not_road hapart hroad⟩
  have hthere : Quiet isCommand (look (·.isFile artifact)) := .of_journal fun _ => rfl
  refine hthere.skip (fun there w₁ hlook => ?_) fun f w₁ hlook => by cases hlook
  obtain rfl : w = w₁ := congrArg Prod.snd hlook
  clear hlook
  cases there with
  | false => exact .throw_bind fun _ hr => by cases hr
  | true =>
    refine .change_bind (fun _ _ _ hr => by cases hr) fun d hremove => ?_
    rw [h.staging] at hremove
    obtain ⟨hkept, hgone⟩ := removeAll_gone h.chamberNames (isName_stagingName label) hchamber hd hremove
    rw [← h.place_staging] at hgone
    have hcaught : Yields o isCommand { w with disk := d }
        (tryCatch (assemble o opts artifact c label) fun f => throw (asPackaging label f)) fun l r w' =>
          ∀ made, r = .ok made → ∃ bytes, Q l bytes ∧ Delivered opts c label A n U made w'.disk bytes :=
      (hassemble _ (sound_of_gone hkept.sound hgone)).tryCatch (fun l a w' hl => hl) fun l f w' _ =>
        .throw fun _ hr => by cases hr
    refine hcaught.finally .change (fun l r w' w'' hl hlast made hr => ?_) fun l r w' f w'' _ _ _ hr => by cases hr
    obtain ⟨bytes, hbytes, hpath, mode, hget, hshort, hsound, hlaid⟩ := hl made hr
    obtain ⟨d₃, hremove₃, rfl⟩ := change_ok hlast
    have hopen : Open U (stagingDir opts label) := by
      refine ⟨h.staging ▸ (through_absolute h.stagingNames).straight, fun q hq => ?_⟩
      rw [h.place_staging] at hq hstaging
      rcases List.prefix_concat_iff.1 hq with rfl | hq
      · exact hstaging
      · exact hU q (h.roads_iff.2 (.inl hq))
    -- the way to the archive does not lead through the directory that is removed last
    have hkept₃ := removeAll_kept hsound hopen hremove₃
    have hlaid₃ : Laid d₃ A := by
      refine ⟨hkept₃.sound.tree, hlaid.names, hlaid.short, ?_⟩
      rw [hkept₃.outside _ (h.staging_not_road hapart (h.roads_iff.2 (.inr (List.prefix_refl _)))), hlaid.directory]
    rw [← h.place_archive, ← hkept₃.outside _ hapart, h.place_archive] at hget
    refine ⟨hpath, bytes, mode, hbytes, ?_⟩
    rw [hpath, h.archive]
    exact hlaid₃.look? h.name hshort hget

theorem Located.assemble_leaves (hpart : U (placeOf (archivePath opts c label ++ ".tmp")))
    (hne : placeOf (libraryPath opts label) ≠ placeOf (metadataPath opts label))
    (hrun : ∀ w, Sound U w.disk → Sound U (o.run w (command opts (stagedPath opts artifact label))).disk)
    (w : World) (hd : Sound U w.disk) : Yields o isCommand w (assemble o opts artifact c label) fun l r w' =>
      ∀ made, r = .ok made → ∃ bytes, (∃ m ∈ l, Holds o opts artifact c label m bytes) ∧
        Delivered opts c label A n U made w'.disk bytes := by
  refine (h.stage_leaves hU hrun hd).bind (fun l _ w₁ hl => ?_) fun l f w₁ _ _ h => by cases h
  refine finish_quiet.yields fun made hok => ?_
  obtain ⟨hd₁, m, hm, hstaged, hsucceeds, hlibrary⟩ := hl rfl
  obtain ⟨library, mode, name, metadata, k, mode', d, hname, hmake, hkept, hlib, -, hdelivered⟩ :=
    h.finish_ok hU hpart hd₁ (Prod.ext hok rfl)
  rw [hkept.outside _ hne] at hlib
  exact ⟨_, ⟨m, by simpa using hm, hstaged, hsucceeds, library, mode, name, metadata, k, mode', hlibrary _ hlib, hname,
    hmake, rfl⟩, hdelivered⟩

/-- A package that is made holds the library and the metadata of its variant. -/
theorem Located.run_leaves (hpart : U (placeOf (archivePath opts c label ++ ".tmp")))
    (hapart : ¬ placeOf (stagingDir opts label) <+: placeOf (archivePath opts c label))
    (hne : placeOf (libraryPath opts label) ≠ placeOf (metadataPath opts label))
    (hrun : ∀ w, Sound U w.disk → Sound U (o.run w (command opts (stagedPath opts artifact label))).disk)
    (hd : Sound (fun q => U q ∧ ¬ placeOf (stagingDir opts label) <+: q) w.disk) :
    Yields o isCommand w (run o opts artifact c label) fun l r w' => ∀ made, r = .ok made →
      made.archive = archivePath opts c label ∧ ∃ m ∈ l, ∃ bytes mode, Holds o opts artifact c label m bytes ∧
        w'.disk.look? made.archive = some (.file bytes mode) := by
  have hstaging : U (placeOf (stagingDir opts label)) :=
    (h.open_staging hU).way _ (h.staging ▸ List.prefix_refl _)
  refine (h.run_delivers hU.roads hstaging hapart (h.assemble_leaves hU hpart hne hrun) hd).mono
    fun l r w' _ hl made hr => ?_
  obtain ⟨hpath, bytes, mode, ⟨m, hm, hholds⟩, hlook⟩ := hl made hr
  exact ⟨hpath, m, hm, bytes, mode, hholds, hlook⟩

end Located

end Package

end VariantForge
