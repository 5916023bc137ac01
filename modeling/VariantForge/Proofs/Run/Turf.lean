import VariantForge.Proofs.Disk.Entry
import VariantForge.Proofs.Run.Layout

/-!
# Turfs — what a variant changes when it is made

Each step of a variant keeps to the variant's turf, however it ends (`makeVariant_spares`), and the outputs
of another variant do not lie there.
-/

namespace VariantForge

open Path Disk Forge

namespace Run

variable {o : Outside} {p : Plan} {t : Toolchain} {c : WorkingCopy} {C O : List Part} {vs : List Variant}
  {v v' : Variant}

/-! ## Outputs of different variants -/

theorem isPlain_log (step : BuildStep) (label : String) : IsPlain (Build.logName step label).toList := by
  refine isPlain_of_ascii fun x hx => ?_
  have hname : (Build.logName step label).toList =
      (Build.program step).toList ++ "_".toList ++ (Text.slug label).toList ++ ".log".toList := by
    simp [Build.logName, toString]
  have hsmall : (["meson", "ninja", "_", ".log"].all fun s => s.toList.all fun y => y.toNat < 128) = true := by decide
  simp only [List.all_eq_true, decide_eq_true_eq] at hsmall
  simp only [hname, List.mem_append] at hx
  rcases hx with ((hx | hx) | hx) | hx
  · cases step with
    | configure => exact hsmall "meson" (by simp) x hx
    | compile => exact hsmall "ninja" (by simp) x hx
  · exact hsmall "_" (by simp) x hx
  · exact Text.toNat_lt_of_mem_slug hx
  · exact hsmall ".log" (by simp) x hx

/-- The logs of two steps of variants with different slugs, or of two steps, differ. -/
theorem shownPart_log_inj {step step' : BuildStep} {label label' : String}
    (h : shownPart (Build.logName step label).toList = shownPart (Build.logName step' label').toList) :
    step = step' ∧ Text.slug label = Text.slug label' := by
  have h := shownPart_inj (isPlain_log step' label') h
  have hname (step : BuildStep) (label : String) : (Build.logName step label).toList =
      (Build.program step).toList ++ ('_' :: ((Text.slug label).toList ++ ".log".toList)) := by
    simp [Build.logName, toString]
  rw [hname, hname] at h
  have hlen : (Build.program step).toList.length = (Build.program step').toList.length := by
    cases step <;> cases step' <;> rfl
  obtain ⟨hprogram, hrest⟩ := List.append_inj h hlen
  refine ⟨?_, ?_⟩
  · revert hprogram
    cases step <;> cases step' <;> decide
  · rw [List.cons.injEq] at hrest
    exact String.toList_inj.1 (List.append_cancel_right hrest.2)

theorem endsIn_log (step : BuildStep) (label : String) :
    EndsIn (shownPart (Build.logName step label).toList) ".log".toList := by
  have hname : (Build.logName step label).toList =
      ((Build.program step).toList ++ "_".toList ++ (Text.slug label).toList) ++ ".log".toList := by
    simp [Build.logName, toString]
  have hplain := isPlain_log step label
  rw [hname] at hplain ⊢
  exact endsIn_of_plain _ hplain

theorem endsIn_archive (opts : PackageOptions) (c : WorkingCopy) (label : String) :
    EndsIn (shownPart (Package.descriptor opts c label).fileName.toList) ".zip".toList := by
  rw [Sited.fileName_eq]
  exact endsIn_shownPart _ (isPlain_of_all (by decide))

theorem endsIn_part (n : Part) : EndsIn (shownPart (n ++ ".tmp".toList)) ".tmp".toList :=
  endsIn_shownPart _ (isPlain_of_all (by decide))

theorem endsIn_machineFile {name : String} (hname : name = Build.crossFileName ∨ name = Build.nativeFileName) :
    EndsIn (shownPart name.toList) "agon".toList := by
  rcases hname with rfl | rfl
  · exact ⟨"cross_dr".toList, by decide⟩
  · exact ⟨"native_dr".toList, by decide⟩

theorem endsIn_root : EndsIn (shownPart "mesa".toList) "mesa".toList := ⟨[], by decide⟩

theorem endsIn_report : EndsIn (shownPart Report.fileName.toList) "json".toList := ⟨"forge-report.".toList, by decide⟩

/-- Archives of labels that are shown differently have different names. -/
theorem shownPart_archive_inj {opts : PackageOptions} {label label' : String}
    (h : shownPart (Package.descriptor opts c label).fileName.toList =
      shownPart (Package.descriptor opts c label').fileName.toList) : Text.shown label = Text.shown label' := by
  have hname (label : String) : (Package.descriptor opts c label).fileName.toList =
      opts.metadata.namePrefix.toList ++
        '-' :: (label.toList ++ '-' :: (c.version.toList ++ '-' :: (c.revision.toList ++ ".zip".toList))) := by
    simp [Package.descriptor, Descriptor.make, toString]
  have hhyphen : Text.isHalf '-' = false := by decide
  simp only [shownPart, String.ofList_inj, hname, Text.shownChars_append_cons hhyphen] at h
  have h := List.append_cancel_left h
  rw [List.cons.injEq] at h
  rw [← String.toList_inj, Text.toList_shown, Text.toList_shown]
  exact List.append_cancel_right h.2

theorem place_log (hs : Sited p c C O) (step : BuildStep) (label : String) :
    placeOf (Build.logPath p.buildOptions step label) =
      C.map shownPart ++ [shownPart (Build.logName step label).toList] := by
  rw [hs.log, placeOf_name hs.chamberNames (Sited.isName_log step label)]

theorem place_report (hs : Sited p c C O) : placeOf (Path.join [p.config.outputDir, Report.fileName]) =
    O.map shownPart ++ [shownPart Report.fileName.toList] := by
  rw [hs.report, placeOf_name hs.outputNames (by decide)]

/-- No log lies in the working copy. -/
theorem log_not_copy (hs : Sited p c C O) (step : BuildStep) (label : String) :
    ¬ placeOf c.root <+: placeOf (Build.logPath p.buildOptions step label) := by
  rw [place_log hs, hs.root, placeOf_name hs.chamberNames (by decide)]
  exact not_below (endsIn_root.ne (endsIn_log step label) rfl (by decide))

section Apart

variable (hs : Sited p c C O) (ha : Separate p c vs)
include hs ha

theorem place_archive (hv : v ∈ vs) : placeOf (Package.archivePath p.packageOptions c v.label) =
    O.map shownPart ++ [shownPart (Package.descriptor p.packageOptions c v.label).fileName.toList] := by
  rw [hs.archive (ha.archives v hv), placeOf_name hs.outputNames (Sited.isName_archive (ha.archives v hv))]

theorem place_part (hv : v ∈ vs) : placeOf (Package.archivePath p.packageOptions c v.label ++ ".tmp") =
    O.map shownPart ++
      [shownPart ((Package.descriptor p.packageOptions c v.label).fileName.toList ++ ".tmp".toList)] := by
  rw [hs.part (ha.archives v hv),
    placeOf_name hs.outputNames (Sited.isName_part (Sited.isName_archive (ha.archives v hv)))]

/-- No log is where a package is put together. -/
theorem Packs.not_log (hv : v ∈ vs) (step : BuildStep) (label : String) :
    ¬ Packs p c v (placeOf (Build.logPath p.buildOptions step label)) := by
  have hend := endsIn_log step label
  intro h
  rw [place_log hs] at h
  cases h with
  | staging h =>
    rw [hs.staging, placeOf_name hs.chamberNames (Sited.isName_staging v.label)] at h
    refine not_below (fun hc => ?_) h
    have hhead := congrArg List.head? (shownPart_inj (isPlain_log step label) hc)
    rw [String.toList_append] at hhead
    revert hhead
    cases step <;> simp [Build.logName, Build.program, toString]
  | archive h =>
    rw [place_archive hs ha hv] at h
    exact append_ne (hend.ne (endsIn_archive _ c v.label) rfl (by decide)) h
  | part h =>
    rw [place_part hs ha hv] at h
    exact append_ne (hend.ne (endsIn_part _) rfl (by decide)) h

theorem Turf.not_log (hv : v ∈ vs) (hv' : v' ∈ vs) (hne : v ≠ v') (step : BuildStep) :
    ¬ Turf p c v' (placeOf (Build.logPath p.buildOptions step v.label)) := by
  have hend := endsIn_log step v.label
  intro h
  cases h with
  | copy h => exact log_not_copy hs step v.label h
  | machineFile name hname h =>
    rw [place_log hs, hs.machineFile hname,
      placeOf_name hs.chamberNames (by rcases hname with rfl | rfl <;> decide)] at h
    exact append_ne (hend.ne (endsIn_machineFile hname) rfl (by decide)) h
  | log step' h =>
    rw [place_log hs, place_log hs] at h
    have hslug := (shownPart_log_inj (List.singleton_inj.1 (List.append_cancel_left h))).2
    exact hne (List.inj_on_of_nodup_map ha.slugs hv hv' hslug)
  | package h => exact Packs.not_log hs ha hv' step v.label h

theorem Turf.not_archive (hv : v ∈ vs) (hv' : v' ∈ vs) (hne : v ≠ v') :
    ¬ Turf p c v' (placeOf (Package.archivePath p.packageOptions c v.label)) := by
  have hend := endsIn_archive p.packageOptions c v.label
  intro h
  cases h with
  | copy h => exact ha.copy v hv h
  | machineFile name hname h =>
    rw [place_archive hs ha hv, hs.machineFile hname,
      placeOf_name hs.chamberNames (by rcases hname with rfl | rfl <;> decide)] at h
    exact append_ne (hend.ne (endsIn_machineFile hname) rfl (by decide)) h
  | log step h =>
    rw [place_archive hs ha hv, place_log hs] at h
    exact append_ne (hend.ne (endsIn_log step v'.label) rfl (by decide)) h
  | package h =>
    cases h with
    | staging h => exact ha.staging v hv v' hv' h
    | archive h =>
      rw [place_archive hs ha hv, place_archive hs ha hv'] at h
      have hlabel := shownPart_archive_inj (List.singleton_inj.1 (List.append_cancel_left h))
      exact hne (List.inj_on_of_nodup_map ha.labels hv hv' hlabel)
    | part h =>
      rw [place_archive hs ha hv, place_part hs ha hv'] at h
      exact append_ne (hend.ne (endsIn_part _) rfl (by decide)) h

end Apart

/-! ## The ways -/

/-- What is no longer than a place that it goes through is that place. -/
theorem eq_of_between {P q r : Place} (hP : P <+: q) (hr : q <+: r) (hlen : r.length ≤ P.length) : q = P :=
  (hP.eq_of_length_le (Nat.le_trans hr.length_le hlen)).symm

section Apart

variable (hs : Sited p c C O) (ha : Separate p c vs)
include hs ha

theorem Uses.through {path : String} (h : Uses p c vs path) : ∃ ns, Through path ns := by
  cases h with
  | chamber => exact ⟨C, hs.chamber ▸ through_absolute hs.chamberNames⟩
  | output => exact ⟨O, hs.output ▸ through_absolute hs.outputNames⟩
  | machineFile hname => exact ⟨_, through_join _ (hs.chamber ▸ isAbsolute_absolute C)⟩
  | build => exact ⟨_, hs.build ha.directory⟩
  | edit hv hspell hwork => exact ⟨_, hs.edit (ha.edit hv hspell hwork)⟩
  | log hv step =>
    refine ⟨_, hs.log step _ ▸ through_absolute (List.forall_mem_append.2 ⟨hs.chamberNames, ?_⟩)⟩
    simpa using Sited.isName_log step _
  | staging hv => exact ⟨_, hs.staging _ ▸ through_absolute (hs.stagingNames _)⟩
  | staged hv => exact ⟨_, hs.staged _⟩
  | library hv => exact ⟨_, hs.library ha.library _⟩
  | metadata hv => exact ⟨_, hs.metadata _ ▸ through_absolute (hs.metadataNames _)⟩
  | archive hv =>
    refine ⟨_, hs.archive (ha.archives _ hv) ▸ through_absolute (hs.outputNames_append ?_)⟩
    exact Sited.isName_archive (ha.archives _ hv)
  | part hv =>
    refine ⟨_, hs.part (ha.archives _ hv) ▸ through_absolute (hs.outputNames_append (Sited.isName_part ?_))⟩
    exact Sited.isName_archive (ha.archives _ hv)
  | report => exact ⟨_, through_join _ (hs.output ▸ isAbsolute_absolute O)⟩

theorem Uses.opens {path : String} (h : Uses p c vs path) : Open (Ways p c vs) path := by
  obtain ⟨ns, hpath⟩ := h.through hs ha
  exact ⟨hpath.straight, fun q hq => ⟨path, h, hq⟩⟩

variable (hv : v ∈ vs)
include hv

theorem not_staging_output : ¬ placeOf (Package.stagingDir p.packageOptions v.label) <+: O.map shownPart := by
  intro h
  refine ha.staging v hv v hv (h.trans ?_)
  rw [place_archive hs ha hv]
  exact List.prefix_append _ _

omit ha hv in
theorem not_staging_copy (v : Variant) (P : Place) :
    ¬ placeOf (Package.stagingDir p.packageOptions v.label) <+: C.map shownPart ++ [shownPart "mesa".toList] ++ P := by
  rw [hs.staging, placeOf_name hs.chamberNames (Sited.isName_staging v.label), List.append_assoc,
    List.prefix_append_right_inj, List.singleton_append, List.cons_prefix_cons]
  rintro ⟨h, -⟩
  have hhead := congrArg List.head? (shownPart_inj (isPlain_of_all (by decide)) h)
  rw [String.toList_append] at hhead
  exact absurd hhead (by simp)

/-- Nothing that a run works on lies below a library, unless that is the staging directory itself. -/
theorem library_low {q : Place}
    (hlow : ¬ placeOf (Package.libraryPath p.packageOptions v.label) <+:
      placeOf (Package.stagedPath p.packageOptions (Build.artifact p.buildOptions c) v.label))
    (hq : Ways p c vs q) (hbelow : placeOf (Package.libraryPath p.packageOptions v.label) <+: q) :
    q = placeOf (Package.libraryPath p.packageOptions v.label) := by
  obtain ⟨path, hpath, hway⟩ := hq
  let L := (normalParts true p.packageOptions.libraryName.toList).map shownPart
  have hstaging (v : Variant) : placeOf (Package.stagingDir p.packageOptions v.label) =
      C.map shownPart ++ [shownPart ("staging-" ++ Text.slug v.label).toList] := by
    rw [hs.staging, placeOf_name hs.chamberNames (Sited.isName_staging v.label)]
  have hlibrary (v : Variant) : placeOf (Package.libraryPath p.packageOptions v.label) =
      placeOf (Package.stagingDir p.packageOptions v.label) ++ L := by
    rw [(hs.library ha.library v.label).placeOf_eq, hstaging]
    simp [L]
  have hstaged (v : Variant) :
      placeOf (Package.stagedPath p.packageOptions (Build.artifact p.buildOptions c) v.label) =
        placeOf (Package.stagingDir p.packageOptions v.label) ++
          (normalParts true (basename (Build.artifact p.buildOptions c)).toList).map shownPart := by
    rw [(hs.staged v.label).placeOf_eq, hstaging]
    simp
  have hlong : C.length + 2 ≤ (placeOf (Package.libraryPath p.packageOptions v.label)).length := by
    rw [hlibrary, hstaging]
    by_cases hL : L = []
    · refine absurd ?_ hlow
      rw [hlibrary, hL, List.append_nil, hstaged]
      exact List.prefix_append _ _
    · have := List.length_pos_iff.2 hL
      simp only [List.length_append, List.length_map, List.length_singleton]
      omega
  have hbelow' : placeOf (Package.stagingDir p.packageOptions v.label) <+: placeOf path :=
    ((hlibrary v ▸ List.prefix_append _ _).trans hbelow).trans hway
  -- what is no longer than the library's place is that place; the rest is not in the staging directory
  have hshort : (placeOf path).length ≤ C.length + 2 → q = placeOf (Package.libraryPath p.packageOptions v.label) :=
    fun h => eq_of_between hbelow hway (Nat.le_trans h hlong)
  have houtput {n : Part} (hn : IsName n) (hpath : path = absolute (O ++ [n])) :
      q = placeOf (Package.libraryPath p.packageOptions v.label) := by
    rw [hpath, placeOf_name hs.outputNames hn] at hway hbelow'
    rcases List.prefix_concat_iff.1 hbelow' with h | h
    · refine eq_of_between hbelow hway ?_
      rw [← h, hlibrary]
      simp
    · exact absurd h (not_staging_output hs ha hv)
  cases hpath with
  | chamber =>
    refine hshort ?_
    rw [hs.chamber, (through_absolute hs.chamberNames).placeOf_eq, List.length_map]
    omega
  | output =>
    rw [hs.output, (through_absolute hs.outputNames).placeOf_eq] at hbelow'
    exact absurd hbelow' (not_staging_output hs ha hv)
  | machineFile hname =>
    refine hshort ?_
    rw [hs.machineFile hname, placeOf_name hs.chamberNames (by rcases hname with rfl | rfl <;> decide)]
    simp
  | build =>
    rw [(hs.build ha.directory).placeOf_eq] at hbelow'
    exact absurd (by simpa using hbelow') (not_staging_copy hs v (List.map shownPart _))
  | edit hv' hspell hwork =>
    rw [(hs.edit (ha.edit hv' hspell hwork)).placeOf_eq] at hbelow'
    exact absurd (by simpa using hbelow') (not_staging_copy hs v (List.map shownPart _))
  | log hv' step =>
    refine hshort ?_
    rw [place_log hs]
    simp
  | staging hv' =>
    refine hshort ?_
    rw [hstaging]
    simp
  | staged hv' =>
    obtain ⟨ns, hartifact⟩ := hs.artifact
    have := length_basename hartifact
    refine hshort ?_
    rw [hstaged, hstaging]
    simpa using this
  | library hv' =>
    refine eq_of_between hbelow hway ?_
    rw [hlibrary, hlibrary, hstaging, hstaging]
    simp
  | metadata hv' =>
    refine hshort ?_
    rw [hs.metadata, placeOf_name (hs.stagingNames _) (by decide)]
    simp
  | archive hv' => exact houtput (Sited.isName_archive (ha.archives _ hv')) (hs.archive (ha.archives _ hv'))
  | part hv' =>
    exact houtput (Sited.isName_part (Sited.isName_archive (ha.archives _ hv'))) (hs.part (ha.archives _ hv'))
  | report => exact houtput (by decide) hs.report

omit hv in
theorem paves_ways : Paves p c vs (Ways p c vs) :=
  ⟨fun _ h => h.opens hs ha, fun _ hv hlow _ => library_low hs ha hv hlow⟩

end Apart

end Run

end VariantForge
