import VariantForge.Proofs.Run.Beside

/-!
# Likewise — what comes of a variant does not depend on those made before it

A build clears its directory and writes the machine files anew, so that after it only what is foreign is hidden
(`build_leads`). Packages then differ at most in what they say of the time (`package_matched`). So two worlds that
others may have made of one disk give the same failure of a variant or the same archive path, and the same
warnings (`makeVariant_likewise`, `Complains.likewise`).
-/

namespace VariantForge

open Path Disk Forge

/-! ## Metadata -/

namespace Checked

variable {α β : Type} {f f' : Checked (α → β)} {a a' : Checked α}

/-- Whether two readings found the same issues, and both gave a value or neither. -/
structure Agrees (a a' : Checked α) : Prop where
  issues : a.issues = a'.issues
  value : a.value?.isSome = a'.value?.isSome
  stopped : a.stopped = a'.stopped

theorem Agrees.refl (a : Checked α) : Agrees a a := ⟨rfl, rfl, rfl⟩

theorem Agrees.seq (hf : Agrees f f') (ha : Agrees a a') : Agrees (f <*> a) (f' <*> a') where
  issues := congrArg₂ (· ++ ·) hf.issues ha.issues
  value := by
    have hsome (f : Checked (α → β)) (a : Checked α) :
        (f <*> a).value?.isSome = (f.value?.isSome && a.value?.isSome) := by
      show (f.value?.bind fun g => a.value?.map g).isSome = _
      cases f.value? with
      | none => rfl
      | some g => exact Option.isSome_map
    rw [hsome, hsome, hf.value, ha.value]
  stopped := congrArg₂ (· || ·) hf.stopped ha.stopped

/-- Readings that agree are turned down for the same reason or not at all. -/
theorem Agrees.result (h : Agrees a a') : Both (fun _ _ => True) a.result a'.result := by
  rw [Checked.result, Checked.result, ← h.stopped, ← h.issues]
  have hvalue := h.value
  cases a.stopped with
  | true => exact .error _
  | false =>
    cases a.issues with
    | cons i is => exact .error _
    | nil =>
      cases ha : a.value? with
      | none =>
        cases ha' : a'.value? with
        | none => exact .error _
        | some x => simp [ha, ha'] at hvalue
      | some x =>
        cases ha' : a'.value? with
        | none => simp [ha, ha'] at hvalue
        | some x' => exact .ok trivial

end Checked

/-- Whether a package can be described does not depend on the time. -/
theorem Metadata.make_both (s : MetadataSettings) (label version : String) (built built' : Instant) :
    Both (fun _ _ => True) (make s label version built) (make s label version built') := by
  have hdescription (built : Instant) :
      Schema.member "description" Schema.text (some (.text (describe version label built))) =
        .ok (describe version label built) := by
    rw [Schema.member, Schema.text]
    refine if_neg ?_
    simp [describe, toString]
  have hagrees : (Schema.member "description" Schema.text (some (.text (describe version label built)))).Agrees
      (Schema.member "description" Schema.text (some (.text (describe version label built')))) := by
    rw [hdescription, hdescription]
    exact ⟨rfl, rfl, rfl⟩
  refine Checked.Agrees.result ?_
  exact ((((((Checked.Agrees.refl _).seq hagrees).seq (.refl _)).seq (.refl _)).seq (.refl _)).seq
    (.refl _)).seq (.refl _) |>.seq (.refl _)

namespace Run

variable {o : Outside} {p : Plan} {t : Toolchain} {c : WorkingCopy} {C O : List Part} {vs : List Variant}
  {v : Variant} {q : Place} {V : Place → Prop} {d d' d₀ : Disk} {w w' : World} {full : Bool} {path : String}

/-- Whether two disks look alike but for what is foreign. -/
abbrev Familiar (full : Bool) (p : Plan) (c : WorkingCopy) (vs : List Variant) (v : Variant) (here : String)
    (d d' : Disk) : Prop :=
  Twin full (Tracks p c vs v here) (fun q => ¬ Foreign p c vs v q) d d'

section Steps

variable (hs : Sited p c C O) (ha : Separate p c vs) (hp : Spread p c vs) (hv : v ∈ vs)
  (ho : Isolated o p t c vs v d₀) (hsec : Secluded p c vs v d₀) (hpatches : PatchesApart p c vs v (home d₀))
include hs ha hp hv

/-! ## Building -/

section Building

variable (hV : ∀ q, ¬ Veiled p c vs v q → V q)
include hV hsec

theorem chamber_matched : Matched (Live (Beside p c vs v (home d₀) V)) (Live (Beside p c vs v (home d₀) V)) Eq
    (Forge.makeDirectories p.config.chamber) (Forge.makeDirectories p.config.chamber) := by
  have hopen : Open (Tracks p c vs v (home d₀)) p.config.chamber := (Treads.uses .chamber).opens hs ha hsec.target
  have hseen : Open V p.config.chamber :=
    ⟨hopen.straight, fun q hq => hV q (Veiled.not_road hs ha hp hv (.inl hq))⟩
  have hchamber : placeOf p.config.chamber = C.map shownPart := by
    rw [hs.chamber, (through_absolute hs.chamberNames).placeOf_eq]
  refine .makeDirectories fun d d' hd => ?_
  rw [hs.chamber] at hopen hseen ⊢
  have hspares {d : Disk} (hd : Sound (Tracks p c vs v (home d₀)) d) :
      Spares (Tracks p c vs v (home d₀)) (Roads p) (fun _ => False) d (d.makeDirectories (absolute C)).1 :=
    makeDirectories_spares hs.chamberNames hd hopen fun q hq => .inl (.inl (hchamber ▸ hq))
  obtain ⟨hfault, htwin⟩ := hd.twin.makeDirectories hs.chamberNames hopen hseen
  have hbuild : ¬ Roads p (placeOf (Path.join [c.root, p.buildOptions.directory])) :=
    fun hr => Roads.not_copy hs ha hv hr (build_below hs ha)
  have hmachine {d : Disk} (hd : Sound (Tracks p c vs v (home d₀)) d) (q : Place) (hq : Machine p q) (b : ByteArray) :
      Disk.written ((d.makeDirectories (absolute C)).1.get? q) b = Disk.written (d.get? q) b := by
    rw [(hspares hd).get?_eq not_false (hp.machine hq)]
  exact ⟨hfault, hd.step htwin (hspares hd.twin.sound).here (hmachine hd.twin.sound) (hmachine hd.twin.sound')
    ((hspares hd.twin.sound).get?_eq not_false hbuild) ((hspares hd.twin.sound').get?_eq not_false hbuild)⟩

/-- A machine file is seen from when it was written. -/
theorem machine_leads {name : String} (hname : name = Build.crossFileName ∨ name = Build.nativeFileName)
    (text : String) : Leads (Live (Beside p c vs v (home d₀) V))
      (Live (Beside p c vs v (home d₀) fun q => V q ∨ q = placeOf (Path.join [p.config.chamber, name])))
      (Forge.writeText (Path.join [p.config.chamber, name]) text) := by
  have hopen : Open (Tracks p c vs v (home d₀)) (Path.join [p.config.chamber, name]) :=
    (Treads.uses (.machineFile hname)).opens hs ha hsec.target
  have hplace : Machine p (placeOf (Path.join [p.config.chamber, name])) := ⟨name, hname, rfl⟩
  have hnames : ∀ q ∈ C ++ [name.toList], IsName q :=
    List.forall_mem_append.2 ⟨hs.chamberNames, by rcases hname with rfl | rfl <;> decide⟩
  have hends : Disk.Ends (Path.join [p.config.chamber, name]) := by
    rw [hs.machineFile hname]
    exact ends_absolute hnames (by simp)
  have habove (q : Place) (hq : q <+: placeOf (Path.join [p.config.chamber, name]))
      (hne : q ≠ placeOf (Path.join [p.config.chamber, name])) : V q := by
    refine hV q (Veiled.not_road hs ha hp hv (.inl ?_))
    obtain ⟨n, -, -, -, -, hn⟩ := hplace.exists_name hs
    rw [hn] at hq hne
    exact (List.prefix_concat_iff.1 hq).resolve_left hne
  have hbuild : placeOf (Path.join [c.root, p.buildOptions.directory]) ≠
      placeOf (Path.join [p.config.chamber, name]) := fun heq => hplace.not_copy hs (heq ▸ build_below hs ha)
  refine .change fun d d' hd => ?_
  have hwritten : Disk.written (d.get? (placeOf (Path.join [p.config.chamber, name]))) (Utf8.encode text) =
      Disk.written (d'.get? (placeOf (Path.join [p.config.chamber, name]))) (Utf8.encode text) :=
    hd.machine _ hplace _
  refine (hd.twin.write_seen hopen (hd.twin.locateFile_above hopen habove (.inr hends))
    (hwritten ▸ .refl _)).imp fun d₁ d₁' h₁ h₁' ht => ?_
  have hkept := write_kept hd.twin.sound hopen h₁
  have hkept' := write_kept hd.twin.sound' hopen h₁'
  exact hd.step ht hkept.here (fun q _ => written_write h₁ q) (fun q _ => written_write h₁' q)
    (hkept.outside _ hbuild) (hkept'.outside _ hbuild)

/-- Once the machine files are seen and the build directory was cleared only what is foreign is hidden. -/
theorem clear_leads (hM : ∀ q, Machine p q → V q) : Leads (Live (Beside p c vs v (home d₀) V))
    (Live (Familiar true p c vs v (home d₀)))
    (Forge.change (·.removeAll (Path.join [c.root, p.buildOptions.directory]))) := by
  have hopen : Open (Tracks p c vs v (home d₀)) (Path.join [c.root, p.buildOptions.directory]) :=
    (Treads.uses .build).opens hs ha hsec.target
  have habove (q : Place) (hq : q <+: placeOf (Path.join [c.root, p.buildOptions.directory]))
      (hne : q ≠ placeOf (Path.join [c.root, p.buildOptions.directory])) : V q :=
    hV q (Veiled.not_above hs ha hp hv (build_below hs ha) hq fun h => hne (hq.eq_of_length_le h.length_le))
  refine .change fun d d' hd => (hd.twin.clear_seen hopen habove hd.build).mono fun _ _ ht => ht.mono fun q hq => ?_
  by_cases hbuild : placeOf (Path.join [c.root, p.buildOptions.directory]) <+: q
  · exact .inr hbuild
  · by_cases hmachine : Machine p q
    · exact .inl (hM q hmachine)
    · exact .inl (hV q (not_or.2 ⟨hbuild, not_or.2 ⟨hmachine, hq⟩⟩))

end Building

/-- Nothing is foreign on the way to what is in an outlet of the variant itself. -/
theorem open_below {U : Place → Prop} (k : Outlet) (hpath : Open U path)
    (hk : placeOf (k.path p c v.label) <+: placeOf path) : Open (fun q => ¬ Foreign p c vs v q) path :=
  ⟨hpath.straight, fun _ hq => Foreign.not_outlet hs ha hp hv (List.prefix_or_prefix_of_prefix hq hk)⟩

include hsec

include ho in
theorem runStep_matched {step : BuildStep} {profile : Profile} {arguments : List String}
    (hcmd : Build.command o p.buildOptions c v.label profile step arguments ∈
      Build.commands o p.buildOptions c t v.label) (tail : Number) :
    Matched (Live (Familiar true p c vs v (home d₀))) (Live (Familiar true p c vs v (home d₀))) Eq
      (Build.runStep o p.buildOptions c v.label profile step arguments tail)
      (Build.runStep o p.buildOptions c v.label profile step arguments tail) := by
  have hopen : Open (Tracks p c vs v (home d₀)) (Build.logPath p.buildOptions step v.label) :=
    (Treads.uses (.log hv step)).opens hs ha hsec.target
  have hseen := open_below hs ha hp hv (.log step) hopen (List.prefix_refl _)
  have htail : Matched (Live (Familiar true p c vs v (home d₀))) (Live (Familiar true p c vs v (home d₀))) Eq
      (Build.logTail (Build.logPath p.buildOptions step v.label) tail)
      (Build.logTail (Build.logPath p.buildOptions step v.label) tail) := by
    refine (Matched.readFile fun d d' hd => hd.read_both hopen hseen).attempt.bind (fun r r' hr => ?_) fun _ _ h => h
    rcases hr.cases with ⟨b, b', rfl, rfl, hb⟩ | ⟨f, rfl, rfl⟩
    · rw [hb rfl]
      exact .pure rfl
    · exact .pure rfl
  refine (Matched.run ho.cancels fun w w' hw => ?_).then fun r => .ite ?_ (.pure rfl)
  · obtain ⟨hresult, hlooks⟩ := ho.build _ hcmd w w' hw
    exact ⟨hresult, hlooks, (ho.minds w _ hw.disks.sound).sound, (ho.minds w' _ hw.disks.sound').sound⟩
  · exact htail.then fun _ => (Matched.log _ _ _ _).then fun _ => .throw _

include ho in
/-- A build ends in the same way, and hides nothing more than what is foreign. -/
theorem build_leads : Leads (Live (Unveiled p c vs v (home d₀))) (Live (Familiar true p c vs v (home d₀)))
    (Build.run o p.buildOptions c t v.label) := by
  let V₀ (q : Place) : Prop := ¬ Veiled p c vs v q
  let V₁ (q : Place) : Prop := V₀ q ∨ q = placeOf (Path.join [p.config.chamber, Build.crossFileName])
  let V₂ (q : Place) : Prop := V₁ q ∨ q = placeOf (Path.join [p.config.chamber, Build.nativeFileName])
  have hcross := machine_leads (V := V₀) hs ha hp hv hsec (fun _ h => h) (.inl rfl)
  have hnative := machine_leads (V := V₁) hs ha hp hv hsec (fun _ => .inl) (.inr rfl)
  have hmachine (q : Place) (hq : Machine p q) : V₂ q := by
    obtain ⟨name, rfl | rfl, hq⟩ := hq
    · exact .inl (.inr hq)
    · exact .inr hq
  have hclear := clear_leads (V := V₂) hs ha hp hv hsec (fun _ h => .inl (.inl h)) hmachine
  refine (chamber_matched hs ha hp hv hsec fun _ h => h).leads.bind fun _ => (hcross _).bind fun _ => ?_
  refine (hnative _).bind fun _ => hclear.bind fun _ => Matched.leads ?_
  refine (Matched.log _ _ _ _).then fun _ => ?_
  refine (runStep_matched hs ha hp hv ho hsec (by simp [Build.commands]) _).then fun _ => ?_
  refine (Matched.log _ _ _ _).then fun _ => ?_
  refine (runStep_matched hs ha hp hv ho hsec (by simp [Build.commands]) _).then fun _ => ?_
  exact .pure rfl

/-! ## Packaging -/

include hpatches

omit hv in
/-- None of the ways of a variant leads on from its archive. -/
theorem archive_low (hv : v ∈ vs) (hq : Tracks p c vs v (home d₀) q)
    (hbelow : placeOf (Package.archivePath p.packageOptions c v.label) <+: q) :
    q = placeOf (Package.archivePath p.packageOptions c v.label) := by
  obtain ⟨path, h, hway⟩ := hq
  have hpath := hbelow.trans hway
  have hcopy (h : placeOf c.root <+: placeOf path) : False := by
    have hapart := Outlet.apart_copy (k := .archive) hs ha hp hv
    exact (List.prefix_or_prefix_of_prefix hpath h).elim hapart.1 hapart.2
  have houtlet {v' : Variant} (hv' : v' ∈ vs) {k : Outlet} (hk : k ≠ .archive)
      (h : placeOf (k.path p c v'.label) <+: placeOf path) : False := by
    rcases List.prefix_or_prefix_of_prefix hpath h with h | h
    · exact hk (Outlet.eq_of_prefix (k := .archive) hs ha hp hv hv' h).1.symm
    · exact hk (Outlet.eq_of_prefix (l := .archive) hs ha hp hv' hv h).1
  have hroad (h : Roads p (placeOf path)) : False := hp.outlets hv .archive (h.imp hpath.trans hpath.trans)
  cases h with
  | uses h =>
    cases h with
    | chamber => exact (hroad (.inl (List.prefix_refl _))).elim
    | output => exact (hroad (.inr (List.prefix_refl _))).elim
    | machineFile hname =>
      obtain ⟨n, hn, hdot, hhead, -, hplace⟩ := Machine.exists_name hs ⟨_, hname, rfl⟩
      exact (Outlet.not_beside (k := .archive) hs ha hp hv hn hdot hhead (hplace ▸ hpath)).elim
    | build => exact (hcopy (build_below hs ha)).elim
    | edit hv' hspell hwork => exact (hcopy (below_copy hs _ (hs.edit (ha.edit hv' hspell hwork)))).elim
    | log hv' step => exact (houtlet (k := .log step) hv' (by simp) (List.prefix_refl _)).elim
    | staging hv' => exact (houtlet (k := .staging) hv' (by simp) (List.prefix_refl _)).elim
    | staged hv' => exact (houtlet (k := .staging) hv' (by simp) (below_staging hs _ (hs.staged _))).elim
    | library hv' =>
      exact (houtlet (k := .staging) hv' (by simp) (below_staging hs _ (hs.library ha.library _))).elim
    | metadata hv' => exact (houtlet (k := .staging) hv' (by simp) (metadata_below hs _)).elim
    | archive hv' =>
      obtain ⟨-, rfl⟩ := Outlet.eq_of_prefix (k := .archive) (l := .archive) hs ha hp hv hv' hpath
      exact hway.eq_of_length_le hbelow.length_le
    | part hv' => exact (houtlet (k := .part) hv' (by simp) (List.prefix_refl _)).elim
    | report =>
      rw [place_report hs] at hpath
      rcases List.prefix_concat_iff.1 hpath with h | h
      · rw [place_archive hs ha hv] at h
        exact absurd h (append_ne ((endsIn_archive _ c v.label).ne endsIn_report rfl (by decide)))
      · rw [← (through_absolute hs.outputNames).placeOf_eq, ← hs.output] at h
        exact (hp.outlets hv .archive (.inr h)).elim
  | artifact => exact (hcopy (artifact_below hs ha hsec.target)).elim
  | patch hspell hfile => exact ((hpatches _ hspell _ hfile).1.outlets v hv .archive hpath).elim

include ho in
theorem stage_matched : Matched (Live (Familiar true p c vs v (home d₀))) (Live (Familiar true p c vs v (home d₀))) Eq
    (Package.stage o p.packageOptions (Build.artifact p.buildOptions c) v.label)
    (Package.stage o p.packageOptions (Build.artifact p.buildOptions c) v.label) := by
  have hU := paves_tracks hs ha hp hsec.target hpatches
  have hartifact : Open (Tracks p c vs v (home d₀)) (Build.artifact p.buildOptions c) :=
    Treads.artifact.opens hs ha hsec.target
  have hartifact' : Open (fun q => ¬ Foreign p c vs v q) (Build.artifact p.buildOptions c) :=
    ⟨hartifact.straight, fun _ hq =>
      Foreign.not_copy hs ha hp (List.prefix_or_prefix_of_prefix hq (artifact_below hs ha hsec.target))⟩
  have hstaging := hU.opens _ (.staging hv)
  have hstaging' := open_below hs ha hp hv .staging hstaging (List.prefix_refl _)
  have hstaged := hU.opens _ (.staged hv)
  have hlibrary := hU.opens _ (.library hv)
  have hstagedBelow := below_staging hs _ (hs.staged v.label)
  have hlibraryBelow := below_staging hs _ (hs.library ha.library v.label)
  have hstaged' := open_below hs ha hp hv .staging hstaged hstagedBelow
  have hlibrary' := open_below hs ha hp hv .staging hlibrary hlibraryBelow
  have hseen {path : String} (hbelow : placeOf (Package.stagingDir p.packageOptions v.label) <+: placeOf path) (q : Place)
      (hq : placeOf path <+: q) : ¬ Foreign p c vs v q :=
    Foreign.not_outlet (k := .staging) hs ha hp hv (.inr (hbelow.trans hq))
  refine (Matched.makeDirectories fun d d' hd => ?_).then fun _ => ?_
  · rw [hs.staging] at hstaging hstaging' ⊢
    exact hd.makeDirectories (hs.stagingNames v.label) hstaging hstaging'
  refine (Matched.change fun d d' hd => hd.copy hartifact hartifact' hstaged hstaged').then fun _ => ?_
  refine (Matched.run ho.cancels fun w w' hw => ?_).then fun r => ?_
  · obtain ⟨hresult, hlooks⟩ := ho.naming w w' hw
    exact ⟨hresult, hlooks, (ho.minds w _ hw.disks.sound).sound, (ho.minds w' _ hw.disks.sound').sound⟩
  · refine .ite_throw (.ite ?_ (.pure rfl)) fun _ _ h => h
    exact .change fun d d' hd => hd.rename hstaged hstaged' hlibrary hlibrary' (hseen hstagedBelow)
      (hseen hlibraryBelow) (hU.low v hv)

omit hs ha hp hv hsec hpatches in
theorem memberName_matched {R : World → World → Prop} (name : String) :
    Matched R R Eq (Package.memberName name) (Package.memberName name) := by
  rw [Package.memberName]
  split
  · exact .pure rfl
  · exact .throw _

omit hs ha hp hv hsec hpatches in
/-- Loading a file takes its bytes as they are. -/
theorem load_matched {U V : Place → Prop} (hU : Open U path) (hV : Open V path) (name : String) :
    Matched (Live (Twin full U V)) (Live (Twin full U V)) (fun _ _ => True) (Package.load path name)
      (Package.load path name) := by
  refine (Matched.readFile fun d d' hd => hd.read_both hU hV).bind (fun _ _ _ => ?_) fun _ _ h => h
  refine (Matched.look fun d d' hd => ?_).then fun _ => .pure trivial
  rcases hd.look?_alike hU hV with heq | ⟨-, b, b', m, hb, hb'⟩
  · rw [heq]
  · rw [hb, hb']

/-- Archives are put in place in the same way, whatever they hold. -/
theorem replace_matched (bytes bytes' : ByteArray) :
    Matched (Live (Familiar false p c vs v (home d₀))) (Live (Familiar false p c vs v (home d₀))) Eq
      (Forge.replaceFile (Package.archivePath p.packageOptions c v.label ++ ".tmp")
        (Package.archivePath p.packageOptions c v.label) bytes)
      (Forge.replaceFile (Package.archivePath p.packageOptions c v.label ++ ".tmp")
        (Package.archivePath p.packageOptions c v.label) bytes') := by
  have hU := paves_tracks hs ha hp hsec.target hpatches
  have hpart := hU.opens _ (.part hv)
  have harchive := hU.opens _ (.archive hv)
  have hpart' := open_below hs ha hp hv .part hpart (List.prefix_refl _)
  have harchive' := open_below hs ha hp hv .archive harchive (List.prefix_refl _)
  refine Matched.finally ?_ (.change fun d d' hd => hd.removeFile hpart hpart')
  refine (Matched.change fun d d' hd => hd.write hpart hpart' fun h => by cases h).bind (fun _ _ _ => ?_) fun _ _ h => h
  refine (Matched.change fun d d' hd => hd.removeFile harchive harchive').then fun _ => .change fun d d' hd => ?_
  refine hd.rename hpart hpart' harchive harchive' (fun q hq => ?_) (fun q hq => ?_) fun _ q =>
    archive_low hs ha hp hsec hpatches hv
  · exact Foreign.not_outlet (k := .part) hs ha hp hv (.inr hq)
  · exact Foreign.not_outlet (k := .archive) hs ha hp hv (.inr hq)

theorem writeArchive_matched {files : List Package.Source}
    (hfiles : ∀ f ∈ files, Open (Tracks p c vs v (home d₀)) f.path ∧ Open (fun q => ¬ Foreign p c vs v q) f.path) :
    Matched (Live (Familiar false p c vs v (home d₀))) (Live (Familiar false p c vs v (home d₀))) (fun _ _ => True)
      (Package.writeArchive files (Package.archivePath p.packageOptions c v.label))
      (Package.writeArchive files (Package.archivePath p.packageOptions c v.label)) := by
  have hU := paves_tracks hs ha hp hsec.target hpatches
  have houtput := hU.opens _ .output
  have houtput' : Open (fun q => ¬ Foreign p c vs v q) p.config.outputDir :=
    ⟨houtput.straight, fun _ hq => Foreign.not_road hp (.inr hq)⟩
  have hdir : Path.dirname (Package.archivePath p.packageOptions c v.label) = p.config.outputDir := by
    rw [hs.archive (ha.archives v hv), hs.output]
    exact dirname_absolute hs.outputNames (Sited.isName_archive (ha.archives v hv))
  have hmake : Matched (Live (Familiar false p c vs v (home d₀))) (Live (Familiar false p c vs v (home d₀))) Eq
      (Forge.makeDirectories (Path.dirname (Package.archivePath p.packageOptions c v.label)))
      (Forge.makeDirectories (Path.dirname (Package.archivePath p.packageOptions c v.label))) := by
    rw [hs.output] at houtput houtput'
    rw [hdir, hs.output]
    exact .makeDirectories fun d d' hd => hd.makeDirectories hs.outputNames houtput houtput'
  refine (Matched.here fun d d' hd => hd.here).then fun here => ?_
  rw [resolve_archive hs ha hv here]
  refine hmake.then fun _ => ?_
  have hnames : Matched (Live (Familiar false p c vs v (home d₀))) (Live (Familiar false p c vs v (home d₀))) Eq
      (files.mapM fun f => Package.memberName f.name) (files.mapM fun f => Package.memberName f.name) :=
    (Matched.mapM fun f _ => memberName_matched f.name).mono (fun _ _ h => h) (fun _ _ h => h)
      fun _ _ h => List.forall₂_eq_eq_eq ▸ h
  refine hnames.then fun names => ?_
  refine (Matched.mapM (F := fun _ _ => True) fun e he => ?_).bind (fun packed packed' _ => ?_) fun _ _ h => h
  · obtain ⟨f, name⟩ := e
    obtain ⟨hf, hf'⟩ := hfiles f (List.of_mem_zip he).1
    exact load_matched hf hf' name
  exact (replace_matched hs ha hp hv hsec hpatches _ _).bind (fun _ _ _ => .pure trivial) fun _ _ h => h

theorem finish_matched : Matched (Live (Familiar false p c vs v (home d₀))) (Live (Familiar false p c vs v (home d₀)))
    (fun a a' => a.archive = a'.archive) (Package.finish o p.packageOptions c v.label)
    (Package.finish o p.packageOptions c v.label) := by
  have hU := paves_tracks hs ha hp hsec.target hpatches
  have hlibrary := hU.opens _ (.library hv)
  have hmetadata := hU.opens _ (.metadata hv)
  have hlibrary' := open_below hs ha hp hv .staging hlibrary (below_staging hs _ (hs.library ha.library v.label))
  have hmetadata' := open_below hs ha hp hv .staging hmetadata (metadata_below hs v)
  refine (Matched.now o).bind (fun b b' _ => ?_) fun _ _ h => h
  rcases (Metadata.make_both p.packageOptions.metadata v.label c.version b b').cases with
    ⟨m, m', hm, hm', -⟩ | ⟨r, hm, hm'⟩
  · dsimp only
    rw [hm, hm']
    refine (Matched.change fun d d' hd => hd.write hmetadata hmetadata' fun h => by cases h).bind (fun _ _ _ => ?_)
      fun _ _ h => h
    refine (writeArchive_matched hs ha hp hv hsec hpatches ?_).bind (fun n n' _ => ?_) fun _ _ h => h
    · intro f hf
      rcases List.mem_pair.1 hf with rfl | rfl
      · exact ⟨hlibrary, hlibrary'⟩
      · exact ⟨hmetadata, hmetadata'⟩
    · exact (Matched.log _ _ _ _).bind (fun _ _ _ => .pure rfl) fun _ _ h => h
  · dsimp only
    rw [hm, hm']
    exact .throw _

include ho in
/-- Packages go to the same archive path, or fail in the same way. -/
theorem package_matched : Matched (Live (Familiar true p c vs v (home d₀))) (Live (Familiar false p c vs v (home d₀)))
    (fun a a' => a.archive = a'.archive)
    (Package.run o p.packageOptions (Build.artifact p.buildOptions c) c v.label)
    (Package.run o p.packageOptions (Build.artifact p.buildOptions c) c v.label) := by
  have hartifact : Open (Tracks p c vs v (home d₀)) (Build.artifact p.buildOptions c) :=
    Treads.artifact.opens hs ha hsec.target
  have hartifact' : Open (fun q => ¬ Foreign p c vs v q) (Build.artifact p.buildOptions c) :=
    ⟨hartifact.straight, fun _ hq =>
      Foreign.not_copy hs ha hp (List.prefix_or_prefix_of_prefix hq (artifact_below hs ha hsec.target))⟩
  have hstaging : Open (Tracks p c vs v (home d₀)) (Package.stagingDir p.packageOptions v.label) :=
    (Treads.uses (.staging hv)).opens hs ha hsec.target
  have hstaging' := open_below hs ha hp hv .staging hstaging (List.prefix_refl _)
  have hloose (w w' : World) (hw : Live (Familiar true p c vs v (home d₀)) w w') :
      Live (Familiar false p c vs v (home d₀)) w w' := hw.mono fun _ _ h => h.loose
  have hassemble : Matched (Live (Familiar true p c vs v (home d₀))) (Live (Familiar false p c vs v (home d₀)))
      (fun a a' => a.archive = a'.archive)
      (Package.assemble o p.packageOptions (Build.artifact p.buildOptions c) c v.label)
      (Package.assemble o p.packageOptions (Build.artifact p.buildOptions c) c v.label) :=
    ((stage_matched hs ha hp hv ho hsec hpatches).mono (fun _ _ h => h) hloose fun _ _ h => h).bind
      (fun _ _ _ => finish_matched hs ha hp hv hsec hpatches) fun _ _ h => h
  refine (Matched.look fun d d' hd => hd.isFile_eq hartifact hartifact').bind (fun there _ hthere => ?_) hloose
  subst hthere
  refine .ite_throw ?_ hloose
  refine (Matched.change fun d d' hd => hd.removeAll hstaging hstaging').bind (fun _ _ _ => ?_) hloose
  exact (hassemble.tryCatch fun f => .throw _).finally (.change fun d d' hd => hd.removeAll hstaging hstaging')

/-! ## Making a variant -/

variable (hroads : ∀ q, Roads p q → d₀.get? q = some .directory) (hlive : w.cancelled = false)
  (hlive' : w'.cancelled = false) (h : Aside p c vs v (Tracks p c vs v (home d₀)) d₀ w.disk)
  (h' : Aside p c vs v (Tracks p c vs v (home d₀)) d₀ w'.disk)
include ho hroads hlive hlive' h h'

omit hsec hpatches in
theorem reset_unveiled : ∃ w₁ w₁', runOn w (Source.reset o c) = (.ok (), w₁) ∧
    runOn w' (Source.reset o c) = (.ok (), w₁') ∧ Live (Unveiled p c vs v (home d₀)) w₁ w₁' := by
  obtain ⟨w₁, hreset, hlive₁, haside, hrestored⟩ := reset_restores hs ha hp hv ho hroads hlive h
  obtain ⟨w₁', hreset', hlive₁', haside', hrestored'⟩ := reset_restores hs ha hp hv ho hroads hlive' h'
  exact ⟨w₁, w₁', hreset, hreset', haside.beside hrestored haside' hrestored', hlive₁, hlive₁'⟩

/-- A variant gives the same warnings whatever others left. -/
theorem Complains.likewise {ws ws' : List Warning} (hws : Complains o p c v w ws) (hws' : Complains o p c v w' ws') :
    ws = ws' := by
  obtain ⟨w₁, w₁', hreset, hreset', hlive₁⟩ := reset_unveiled hs ha hp hv ho hroads hlive hlive' h h'
  cases hws with
  | notReset hfail => cases hfail.symm.trans hreset
  | cast hok hcast =>
    cases hws' with
    | notReset hfail => cases hfail.symm.trans hreset'
    | cast hok' hcast' =>
      cases hok.symm.trans hreset
      cases hok'.symm.trans hreset'
      obtain ⟨rfl, -⟩ := outcomes_matched hs ha hp hv ho hsec hpatches (fun _ h => h) hlive₁ hcast hcast'
      rfl

/-- A variant fails in the same way or gives the same archive path, whatever others left. -/
theorem makeVariant_likewise : ∃ out out' w₁ w₁', runOn w (makeVariant o p t c v) = (.ok out, w₁) ∧
    runOn w' (makeVariant o p t c v) = (.ok out', w₁') ∧ Both (fun a a' => a.archive = a'.archive) out out' := by
  obtain ⟨w₁, w₁', hreset, hreset', hlive₁⟩ := reset_unveiled hs ha hp hv ho hroads hlive hlive' h h'
  obtain ⟨_, w₂, hcast⟩ := castAll_total (o := o) (p := p) (c := c) v v.spells w₁
  obtain ⟨_, w₂', hcast'⟩ := castAll_total (o := o) (p := p) (c := c) v v.spells w₁'
  obtain ⟨outs, houts⟩ := castAll_outcomes hcast
  obtain ⟨outs', houts'⟩ := castAll_outcomes hcast'
  obtain ⟨-, hlive₂⟩ := outcomes_matched hs ha hp hv ho hsec hpatches (fun _ h => h) hlive₁ houts houts'
  simp only [makeVariant, runOn_bind, runOn_atStage, hreset, hreset', hcast, hcast', mapError_ok]
  rcases build_leads hs ha hp hv ho hsec w₂ w₂' hlive₂ with
    ⟨b, w₃, w₃', hbuild, hbuild', hlive₃⟩ | ⟨f, w₃, w₃', hbuild, hbuild'⟩
  · simp only [hbuild, hbuild', mapError_ok, runOn_atStage, Build.run_artifact w₂ b w₃ hbuild]
    obtain ⟨hboth, -⟩ := package_matched hs ha hp hv ho hsec hpatches w₃ w₃' hlive₃
    refine ⟨_, _, _, _, rfl, rfl, ?_⟩
    rcases hboth.cases with ⟨a, a', ha, ha', harchive⟩ | ⟨f, ha, ha'⟩
    · rw [ha, ha']
      exact .ok harchive
    · rw [ha, ha']
      exact .error _
  · simp only [hbuild, hbuild']
    exact ⟨_, _, _, _, rfl, rfl, .error _⟩

end Steps

end Run

end VariantForge
