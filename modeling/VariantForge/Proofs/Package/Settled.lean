import VariantForge.Proofs.Package.Contents
import VariantForge.Proofs.Run.Accounting

/-!
# Settled — what packaging leaves

Whatever packaging comes to, the directory is gone in which the package was put together. If it fails, the archive
of an earlier run is there as it was, and nothing new is beside it (`run_settled`). For all that comes before the
archive is written stays in that directory, but for the directories on the roads (`Located.assemble_settles`), and
the archive is replaced as a whole or not at all (`writeArchive_settles`).
-/

namespace VariantForge

open Path Disk Forge Run

variable {o : Outside} {U N : Place → Prop} {w w' : World} {f : Failure}

namespace Package

variable {opts : PackageOptions} {artifact label : String} {c : WorkingCopy} {C A : List Part} {n : Part}

/-! ## Archives that are not written -/

/-- Whether something was abandoned when no more was done than making directories on some roads, and what is
done at some places. -/
def Forsakes (U N W : Place → Prop) (p q : Place) (d d' : Disk) : Prop :=
  ∃ d₁, Spares U N W d d₁ ∧ Abandons p q d₁ d'

theorem Forsakes.of_spares {W : Place → Prop} {p q : Place} {d d' : Disk} (h : Spares U N W d d') :
    Forsakes U N W p q d d' :=
  ⟨d', h, .refl h.sound.tree⟩

theorem makeDirectories_lays {W : Place → Prop} {d : Disk} {ns : List Part} (hns : ∀ q ∈ ns, IsName q)
    (ho : Open U (absolute ns)) (hN : ∀ q, q <+: ns.map shownPart → N q ∨ W q) :
    Ends (fun w => Spares U N W d w.disk) (Forge.makeDirectories (absolute ns)) fun r w =>
      Spares U N W d w.disk ∧ (r = .ok () → Laid w.disk ns) := by
  have hmakes {d' d'' : Disk} {e : Option DiskFault} (hd : Spares U N W d d')
      (h : d'.makeDirectories (absolute ns) = (d'', e)) : Spares U N W d d'' := by
    have hmade := makeDirectories_spares hns hd.sound ho hN
    rw [h] at hmade
    exact hd.trans hmade
  exact .makeDirectories (fun w d' hd h => ⟨hmakes hd h, fun _ => laid_of_makeDirectories hns ho hd.sound h⟩)
    fun w d' e hd h => ⟨hmakes hd h, fun hok => by cases hok⟩

/-- An archive that is not written is abandoned. -/
theorem writeArchive_settles {W : Place → Prop} {d : Disk} {files : List Source} (hA : ∀ q ∈ A, IsName q)
    (hn : IsName n) (hdir : Open U (absolute A)) (hN : ∀ q, q <+: A.map shownPart → N q) :
    Ends (fun w => Spares U N W d w.disk) (writeArchive files (absolute (A ++ [n]))) fun r w => ∀ f, r = .error f →
      Forsakes U N W (A.map shownPart ++ [shownPart (n ++ '.' :: "tmp".toList)]) (A.map shownPart ++ [shownPart n])
        d w.disk := by
  have hdirectory := makeDirectories_lays (W := W) (d := d) hA hdir fun q hq => .inl (hN q hq)
  have hreads {α : Type} {x : Forge α} (hx : Within obliging (fun _ => False) x) :
      Keeps (fun w => Spares U N W d w.disk ∧ Laid w.disk A) x := by
    intro w hw
    rwa [hx.disk_eq]
  refine Keeps.here.ends.bind (fun here => ?_) fun e w hd f _ => .of_spares hd
  rw [resolve_through _ (through_absolute (names_concat hA hn))]
  rw [← dirname_absolute hA hn] at hdirectory
  refine hdirectory.bind (fun _ => ?_) fun e w hd f _ => .of_spares hd.1
  refine ((hreads (.mapM fun f => memberName_within _)).ends.of_imp fun w hw => ⟨hw.1, hw.2 rfl⟩).bind (fun names => ?_)
    fun e w hd f _ => .of_spares hd.1
  refine (hreads (.mapM fun f => load_within _ _)).ends.bind (fun packed => ?_) fun e w hd f _ => .of_spares hd.1
  refine Ends.bind (Q := fun r w => ∀ f, r = .error f → Forsakes U N W
      (A.map shownPart ++ [shownPart (n ++ '.' :: "tmp".toList)]) (A.map shownPart ++ [shownPart n]) d w.disk)
    (ends_iff.2 fun w hd f hf => ?_) (fun _ => .pure fun _ _ _ hf => by cases hf) fun e w hw f _ => hw e rfl
  rw [absolute_append] at hf ⊢
  exact ⟨w.disk, hd.1, replace_error hd.2 hn (by decide) (Prod.ext hf rfl)⟩

/-! ## Packages that are not made -/

/-- What packaging that fails leaves of a disk: no more was done than making directories on the roads, and what is
done where the package is put together. -/
abbrev Left (opts : PackageOptions) (c : WorkingCopy) (label : String) (U : Place → Prop) (d d' : Disk) : Prop :=
  Forsakes U (Roads opts c label) (placeOf (stagingDir opts label) <+: ·)
    (placeOf (archivePath opts c label ++ ".tmp")) (placeOf (archivePath opts c label)) d d'

section Located

variable (h : Located opts c label C A n)
include h

/-- Where the artifact's path does not end in a name, nothing is copied. -/
theorem Located.assemble_unnamed (hname : ¬ IsName (basename artifact).toList) (d : Disk) :
    Ends (fun w => Spares (fun q => Roads opts c label q ∨ placeOf (stagingDir opts label) <+: q)
        (Roads opts c label) (placeOf (stagingDir opts label) <+: ·) d w.disk)
      (assemble o opts artifact c label) fun r w => ∀ f, r = .error f →
        Left opts c label (fun q => Roads opts c label q ∨ placeOf (stagingDir opts label) <+: q) d w.disk := by
  have hmake := makeDirectories_lays (N := Roads opts c label) (W := (placeOf (stagingDir opts label) <+: ·)) (d := d)
    h.stagingNames h.open_fresh fun q hq => ?_
  · rw [← h.staging] at hmake
    refine Ends.bind (Q := fun r w => Spares _ _ _ d w.disk ∧ ∃ f, r = .error f) ?_ ?_ fun e w hd f _ => .of_spares hd.1
    · refine hmake.bind (fun _ => ?_) fun e w hd => ⟨hd.1, e, rfl⟩
      refine Ends.bind (Q := fun r w => Spares _ _ _ d w.disk ∧ ∃ f, r = .error f) (.change ?_ ?_) ?_
        fun e w hd => ⟨hd.1, e, rfl⟩
      · exact fun w d' hd hcopy => absurd (h.isName_basename (hd.2 rfl) hcopy) hname
      · exact fun w e hd _ => ⟨hd.1, _, rfl⟩
      · exact fun _ => ends_iff.2 fun w ⟨_, f, hf⟩ => by cases hf
    · exact fun _ => ends_iff.2 fun w ⟨_, f, hf⟩ => by cases hf
  · rw [List.map_append, List.map_singleton] at hq
    rw [h.place_staging]
    rcases List.prefix_concat_iff.1 hq with hq | hq
    · exact .inr (hq ▸ List.prefix_refl _)
    · exact .inl (h.roads_iff.2 (.inl hq))

section Paves

variable (hU : Paves opts artifact c label U) (hartifact : StaysBelow (basename artifact))
  (hlibrary : StaysBelow opts.libraryName)
  (hrun : ∀ w, Sound U w.disk → Kept U (placeOf (stagedPath opts artifact label) <+: ·) w.disk
    (o.run w (command opts (stagedPath opts artifact label))).disk)
include hU hartifact hlibrary hrun

theorem Located.stage_keeps {α : Type} {x : Forge α} (hx : Within o (StageActs opts artifact label) x) (d : Disk) :
    Keeps (fun w => Spares U (Roads opts c label) (placeOf (stagingDir opts label) <+: ·) d w.disk) x := by
  refine hx.keeps_spares (fun w cmd ha hd => ?_) (fun a ha => h.stage_stays hU hartifact hlibrary ha) d
  cases ha
  exact (hrun w hd).mono fun q hq => .inr (.inr ⟨rfl, _, rfl, hq⟩)

theorem Located.assemble_settles (d : Disk) :
    Ends (fun w => Spares U (Roads opts c label) (placeOf (stagingDir opts label) <+: ·) d w.disk)
      (assemble o opts artifact c label) fun r w => ∀ f, r = .error f → Left opts c label U d w.disk := by
  have hstill {α : Type} {x : Forge α} (hx : Within o (fun _ => False) x) :=
    h.stage_keeps hU hartifact hlibrary hrun (hx.mono fun _ => False.elim) d
  have hwrite (text : String) := h.stage_keeps hU hartifact hlibrary hrun
    (.writeText .metadata : Within o (StageActs opts artifact label) (writeText (metadataPath opts label) text)) d
  have harchive (files : List Source) := @writeArchive_settles U (Roads opts c label) A n
    (placeOf (stagingDir opts label) <+: ·) d files h.directoryNames h.name (h.open_directory hU) fun q hq =>
      h.roads_iff.2 (.inr hq)
  -- until the archive is written all is done where the package is put together
  rw [← h.place_archive, ← placeOf_name h.directoryNames (isName_dot h.name (by decide)), ← h.part, ← h.archive] at harchive
  refine (h.stage_keeps hU hartifact hlibrary hrun stage_within d).ends.bind (fun _ => ?_) fun e w hd f _ => .of_spares hd
  refine (hstill (.now o)).ends.bind (fun builtAt => ?_) fun e w hd f _ => .of_spares hd
  split
  · exact .throw fun w hd f _ => .of_spares hd
  · refine (hwrite _).ends.bind (fun _ => ?_) fun e w hd f _ => .of_spares hd
    refine (harchive _).bind (fun size => ends_iff.2 fun w _ f hf => ?_) fun e w hw f _ => hw e rfl
    cases hf

end Paves

end Located

/-- Nothing that packaging works on lies below a library with a plain name, and that is no place of the copy. -/
theorem Located.paves_copy (h : Located opts c label C A n)
    (hapart : ¬ placeOf (stagingDir opts label) <+: placeOf (archivePath opts c label))
    (hname : IsName (basename artifact).toList) (hlibrary : IsName opts.libraryName.toList) :
    Paves opts artifact c label fun q =>
      Ways opts artifact c label q ∨ placeOf (stagedPath opts artifact label) <+: q where
  roads q hq := .inl (.inl hq)
  staged q hq := .inl (.inr (.inl hq))
  library q hq := .inl (.inr (.inr (.inl hq)))
  metadata q hq := .inl (.inr (.inr (.inr hq)))
  low hlow q hq hbelow := by
    have hways := h.paves hapart hname (staysBelow_name hlibrary) (fun _ => id) fun _ => .inl
    refine hq.elim (fun hq => hways.low hlow q hq hbelow) fun hq => absurd ?_ hlow
    refine List.prefix_of_prefix_length_le hbelow hq ?_
    rw [h.place_library (staysBelow_name hlibrary), h.place_staged hname, normalParts_name hlibrary]
    simp

section Site

variable (hsite : Site opts c label w.disk)
  (hrun : ∀ w, Sound (placeOf (stagedPath opts artifact label) <+: ·) w.disk →
    Kept (placeOf (stagedPath opts artifact label) <+: ·) (placeOf (stagedPath opts artifact label) <+: ·) w.disk
      (o.run w (command opts (stagedPath opts artifact label))).disk)
include hsite hrun

/-- What packaging that fails leaves of the disk on which nothing of an earlier package was left. -/
theorem Site.assemble_left {d : Disk} (hlibrary : IsName opts.libraryName.toList)
    (hremove : w.disk.removeAll (stagingDir opts label) = .ok d)
    (h : runOn { w with disk := d } (assemble o opts artifact c label) = (.error f, w')) :
    ∃ V, (∀ q, Roads opts c label q → V q) ∧ Left opts c label V d w'.disk := by
  obtain ⟨C, A, n, hlocated⟩ := exists_located hsite.chamber hsite.output c label
  have hsound := (hsite.removed hremove).1
  by_cases hname : IsName (basename artifact).toList
  · have hpaves := hlocated.paves_copy hsite.apart hname hlibrary
    -- nothing is where the package is put together, so links could only be on the roads
    have hfree : Sound (fun q => Ways opts artifact c label q ∨ placeOf (stagedPath opts artifact label) <+: q) d := by
      refine hsound.mono fun q hq => ?_
      by_cases hbelow : placeOf (stagingDir opts label) <+: q
      · exact .inr hbelow
      · refine .inl (hlocated.road_of_outside hname (staysBelow_name hlibrary) (hq.resolve_right fun hq => hbelow ?_) hbelow)
        exact (hlocated.below_staging (staysBelow_name hname)).trans hq
    have hsettles := hlocated.assemble_settles (o := o) hpaves (staysBelow_name hname) (staysBelow_name hlibrary)
      (fun w hd => (hrun w (hd.mono fun _ => .inr)).widen hd fun q _ hq => hq) d
    rw [ends_iff] at hsettles
    have hleft := hsettles { w with disk := d } (.refl hfree) f (by rw [h])
    rw [h] at hleft
    exact ⟨_, fun q hq => .inl (.inl hq), hleft⟩
  · have hsettles := hlocated.assemble_unnamed (o := o) hname d
    rw [ends_iff] at hsettles
    have hleft := hsettles { w with disk := d } (.refl hsound) f (by rw [h])
    rw [h] at hleft
    exact ⟨_, fun q hq => .inl hq, hleft⟩

end Site

/-- Packaging puts a package together and removes the directory of that before and after. -/
theorem run_eq {d d' : Disk} (hthere : w.disk.isFile artifact = true)
    (hremove : w.disk.removeAll (stagingDir opts label) = .ok d)
    (hclear : (runOn { w with disk := d } (assemble o opts artifact c label)).2.disk.removeAll
      (stagingDir opts label) = .ok d') :
    runOn w (run o opts artifact c label) =
      ((runOn { w with disk := d } (assemble o opts artifact c label)).1.mapError (asPackaging label),
        { (runOn { w with disk := d } (assemble o opts artifact c label)).2 with disk := d' }) := by
  have hlast : runOn { w with disk := d } (finally_
      (tryCatch (assemble o opts artifact c label) fun f => throw (asPackaging label f))
      (change (·.removeAll (stagingDir opts label)))) =
        ((runOn { w with disk := d } (assemble o opts artifact c label)).1.mapError (asPackaging label),
          { (runOn { w with disk := d } (assemble o opts artifact c label)).2 with disk := d' }) := by
    rw [runOn_finally, runOn_tryCatch]
    rcases hassemble : runOn { w with disk := d } (assemble o opts artifact c label) with ⟨f | made, w₁⟩ <;>
      · rw [hassemble] at hclear
        simp [runOn_change, hclear]
  have hfirst : runOn w (change (·.removeAll (stagingDir opts label))) = (.ok (), { w with disk := d }) := by
    rw [runOn_change, hremove]
  rw [run, runOn_bind_ok (runOn_look ..)]
  simp only [hthere, Bool.not_true, Bool.false_eq_true, if_false]
  rw [runOn_bind_ok hfirst, hlast]

theorem code?_asPackaging (label : String) (f : Failure) : (asPackaging label f).code? = some "PACKAGING_FAILED" := by
  cases f <;> rfl

/-- An outside in which every command fails and changes nothing. -/
def failing : Outside := { obliging with run := fun w _ => ⟨w.disk, false, .ok ⟨some 1, "", ""⟩⟩ }

/-- Options by which a package is put together below the place of its archive. -/
def belowOptions : PackageOptions := { bareOptions with chamber := "/n/D-T-1-0.zip", outputDir := "/n" }

/-- Options by which the archive goes where a link leads. -/
def linkedOptions : PackageOptions := { bareOptions with outputDir := "/c/x" }

/-- A disk on which that link leads to where the package is put together, with an archive of an earlier one. -/
def linkedDisk : Disk :=
  ⟨[(["c", "b.so"], .file (Utf8.encode "library") newFileMode), (["c", "x"], .link "/c/staging-t"),
    (["c", "staging-t", "D-T-1-0.zip"], .file (Utf8.encode "old") newFileMode), (["c", "staging-t"], .directory),
    (["c"], .directory)], []⟩

end Package

end VariantForge
