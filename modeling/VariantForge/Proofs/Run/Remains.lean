import VariantForge.Proofs.Run.Outputs

/-!
# Remains — what a variant leaves stays until the end of the run

Packaging leaves the archive of what it staged (`package_leaves`), a build the logs of its steps
(`build_leaves`). Later variants keep to their own turf, and the report goes to a file of its own, so what
a visit left is there when the run ends (`Rounds.remains`).
-/

namespace VariantForge

open Path Disk Forge

namespace Run

variable {o : Outside} {p : Plan} {t : Toolchain} {c : WorkingCopy} {C O : List Part} {vs : List Variant}
  {v : Variant}

/-! ## Outputs that stay -/

/-- Whether what commands left in their logs is on a disk. -/
def LogsKept (o : Outside) (l : List Moment) (d : Disk) : Prop :=
  ∀ m ∈ l, ∀ cmd log e, m.event = .ran cmd → cmd.logFile = some log →
    (o.run m.world cmd).disk.look? log = some e → d.look? log = some e

/-- Whether some commands have no logs but those of a variant's steps, and none at some places. -/
def LogsOff (p : Plan) (v : Variant) (W : Place → Prop) (l : List Moment) : Prop :=
  ∀ m ∈ l, ∀ cmd log, m.event = .ran cmd → cmd.logFile = some log →
    ∃ step, log = Build.logPath p.buildOptions step v.label ∧ ¬ W (placeOf log)

theorem LogsKept.append {l l' : List Moment} {d : Disk} (h : LogsKept o l d) (h' : LogsKept o l' d) :
    LogsKept o (l ++ l') d :=
  List.forall_mem_append.2 ⟨h, h'⟩

theorem LogsOff.append {W : Place → Prop} {l l' : List Moment} (h : LogsOff p v W l) (h' : LogsOff p v W l') :
    LogsOff p v W (l ++ l') :=
  List.forall_mem_append.2 ⟨h, h'⟩

/-- Whether a package was made of a variant, which is on a disk: its archive is where archives of that
variant go, and holds the variant's library and metadata. -/
def PackagedOn (o : Outside) (p : Plan) (c : WorkingCopy) (v : Variant) (l : List Moment) (d : Disk)
    (made : PackagedArtifact) : Prop :=
  made.archive = Package.archivePath p.packageOptions c v.label ∧ ∃ m ∈ l, ∃ bytes mode,
    Package.Holds o p.packageOptions (Build.artifact p.buildOptions c) c v.label m bytes ∧
      d.look? made.archive = some (.file bytes mode)

section Stay

variable (hs : Sited p c C O) (ha : Apart p c vs) (hv : v ∈ vs) {W : Place → Prop} {d d' : Disk} {l : List Moment}
include hs ha hv

theorem log_stays {step : BuildStep} {e : Entry} (h : Spares (Ways p c vs) (Roads p) W d d') (hd : Sound (Ways p c vs) d)
    (hW : ¬ W (placeOf (Build.logPath p.buildOptions step v.label)))
    (he : d.look? (Build.logPath p.buildOptions step v.label) = some e) :
    d'.look? (Build.logPath p.buildOptions step v.label) = some e := by
  have hopen := (Uses.log (p := p) (c := c) hv step).opens hs ha
  have hnames : ∀ q ∈ C ++ [(Build.logName step v.label).toList], IsName q :=
    List.forall_mem_append.2 ⟨hs.chamberNames, by simpa using Sited.isName_log step v.label⟩
  rw [hs.log] at hopen hW he ⊢
  exact h.look? hd hnames (by simp) hopen hW he

theorem archive_stays {e : Entry} (h : Spares (Ways p c vs) (Roads p) W d d') (hd : Sound (Ways p c vs) d)
    (hW : ¬ W (placeOf (Package.archivePath p.packageOptions c v.label)))
    (he : d.look? (Package.archivePath p.packageOptions c v.label) = some e) :
    d'.look? (Package.archivePath p.packageOptions c v.label) = some e := by
  have hopen := (Uses.archive (p := p) (c := c) hv).opens hs ha
  have hnames := hs.outputNames_append (Sited.isName_archive (ha.archives v hv))
  rw [hs.archive (ha.archives v hv)] at hopen hW he ⊢
  exact h.look? hd hnames (by simp) hopen hW he

theorem LogsKept.later (hk : LogsKept o l d) (hl : LogsOff p v W l) (hd : Sound (Ways p c vs) d)
    (h : Spares (Ways p c vs) (Roads p) W d d') : LogsKept o l d' := by
  intro m hm cmd log e hevent hlog he
  have hthere := hk m hm cmd log e hevent hlog he
  obtain ⟨step, rfl, hW⟩ := hl m hm cmd log hevent hlog
  exact log_stays hs ha hv h hd hW hthere

theorem PackagedOn.later {made : PackagedArtifact} (hm : PackagedOn o p c v l d made)
    (hd : Sound (Ways p c vs) d) (h : Spares (Ways p c vs) (Roads p) W d d')
    (hW : ¬ W (placeOf (Package.archivePath p.packageOptions c v.label))) : PackagedOn o p c v l d' made := by
  obtain ⟨hpath, m, hmem, bytes, mode, hholds, hbytes⟩ := hm
  refine ⟨hpath, m, hmem, bytes, mode, hholds, ?_⟩
  rw [hpath] at hbytes ⊢
  exact archive_stays hs ha hv h hd hW hbytes

end Stay

/-! ## Packaging -/

section Steps

variable (hs : Sited p c C O) (ha : Apart p c vs) (hrun : Minds o (Ways p c vs)) (hv : v ∈ vs)
include hs ha hrun hv

theorem package_leaves {w : World} (hd : Sound (Ways p c vs) w.disk) :
    Yields o isCommand w (Package.run o p.packageOptions (Build.artifact p.buildOptions c) c v.label)
      fun l r w' => ∀ made, r = .ok made → PackagedOn o p c v l w'.disk made := by
  have hlocated := located hs ha hv
  refine hlocated.run_leaves (package_paves hs ha (paves_ways hs ha) hv) ⟨_, .part hv, List.prefix_refl _⟩
    (ha.staging v hv v hv) (hlocated.library_ne_metadata ha.library ha.metadata) (fun w hd => (hrun w _ hd).sound) ?_
  exact hd.mono fun q hq => hq.1

end Steps

/-! ## Building -/

/-- Whether a failure of a build that names a log names that of a command, unless it is the outside's own. -/
def Blames (o : Outside) (l : List Moment) (f : Failure) : Prop :=
  ∀ step label log tail, f = .build step label log tail →
    ∃ m ∈ l, ∃ cmd, m.event = .ran cmd ∧ (cmd.logFile = some log ∨ (o.run m.world cmd).result = .error f)

theorem Blames.disk {l : List Moment} (fault : DiskFault) : Blames o l (.disk fault) := fun _ _ _ _ h => by cases h

theorem Blames.of_fails {l : List Moment} {m : Moment} {step : BuildStep} {label : String} {cmd : Command}
    {f : Failure} (hm : m ∈ l) (hevent : m.event = .ran cmd) (h : Build.Fails o step label m cmd f) :
    Blames o l f := by
  rintro step' label' log tail rfl
  refine ⟨m, hm, cmd, hevent, ?_⟩
  cases h with
  | exited hlog => exact .inl hlog
  | outside hresult => exact .inr hresult

/-- What is known of a build that ended. -/
structure Built (o : Outside) (p : Plan) (c : WorkingCopy) (l : List Moment) (r : Except Failure BuildResult)
    (d : Disk) : Prop where
  logs : LogsKept o l d
  artifact : ∀ built, r = .ok built → built.artifact = Build.artifact p.buildOptions c
  failure : ∀ f, r = .error f → Blames o l f

theorem Built.disk {d : Disk} (fault : DiskFault) : Built o p c [] (.error (.disk fault)) d where
  logs := fun _ hm => by cases hm
  artifact := fun _ h => by cases h
  failure := fun _ h => by
    cases h
    exact .disk fault

/-- What a command left in its log is there right after it. -/
theorem LogsKept.command {w : World} {cmd : Command} {d : Disk} (h : d = (o.run w cmd).disk) :
    LogsKept o [⟨w, .ran cmd⟩] d := by
  intro m hm cmd' log e hevent _ he
  cases List.mem_singleton.1 hm
  cases hevent
  rw [h]
  exact he

section Steps

variable (hs : Sited p c C O) (ha : Apart p c vs) (hrun : Minds o (Ways p c vs)) (hv : v ∈ vs)
include hs ha hrun hv

/-- The second step does not touch the log of the first. -/
theorem steps_logs {w w' w'' : World} {profile : Profile} {arguments arguments' : List String}
    (hd : Sound (Ways p c vs) w.disk) (hw' : w'.disk =
      (o.run w (Build.command o p.buildOptions c v.label profile .configure arguments)).disk)
    (hw'' : w''.disk = (o.run w' (Build.command o p.buildOptions c v.label profile .compile arguments')).disk) :
    LogsKept o ([⟨w, .ran (Build.command o p.buildOptions c v.label profile .configure arguments)⟩] ++
      [⟨w', .ran (Build.command o p.buildOptions c v.label profile .compile arguments')⟩]) w''.disk := by
  have hd' : Sound (Ways p c vs) w'.disk := by
    rw [hw']
    exact (hrun _ _ hd).sound
  have hsecond := (hrun w' (Build.command o p.buildOptions c v.label profile .compile arguments') hd').spares
    (N := Roads p)
  rw [← hw''] at hsecond
  refine ((LogsKept.command hw').later hs ha hv ?_ hd' hsecond).append (.command hw'')
  intro m hm cmd log hevent hlog
  cases List.mem_singleton.1 hm
  cases hevent
  cases hlog
  refine ⟨.configure, rfl, ?_⟩
  rintro (⟨dir, hdir, hbelow⟩ | ⟨log, hlog, heq⟩ | ⟨hnone, -⟩)
  · cases hdir
    exact log_not_copy hs .configure v.label hbelow
  · cases hlog
    rw [place_log hs, place_log hs] at heq
    cases (shownPart_log_inj (List.singleton_inj.1 (List.append_cancel_left heq))).1
  · cases hnone

theorem build_leaves {w : World} (hd : Sound (Ways p c vs) w.disk) :
    Yields o isCommand w (Build.run o p.buildOptions c t v.label) fun l r w' => Built o p c l r w'.disk := by
  have hchamber : Open (Ways p c vs) p.config.chamber := Uses.chamber.opens hs ha
  have hbuild : Open (Ways p c vs) (Path.join [c.root, p.buildOptions.directory]) := Uses.build.opens hs ha
  have hfile {name : String} (h : name = Build.crossFileName ∨ name = Build.nativeFileName) :
      Open (Ways p c vs) (Path.join [p.config.chamber, name]) := (Uses.machineFile h).opens hs ha
  refine .makeDirectories_bind (fun fault _ _ => .disk fault) fun w₁ hw₁ => ?_
  have hd₁ : Sound (Ways p c vs) w₁.disk := by
    have hchamber' : p.buildOptions.chamber = absolute C := hs.chamber
    rw [hw₁, hchamber']
    rw [hs.chamber] at hchamber
    exact hd.makeDirectories hs.chamberNames hchamber
  refine .change_bind (fun fault _ => .disk fault) fun d₂ h₂ => ?_
  have hd₂ := (write_kept hd₁ (hfile (.inl rfl)) h₂).sound
  refine .change_bind (fun fault _ => .disk fault) fun d₃ h₃ => ?_
  have hd₃ := (write_kept hd₂ (hfile (.inr rfl)) h₃).sound
  refine .change_bind (fun fault _ => .disk fault) fun d₄ h₄ => ?_
  have hd₄ := (removeAll_kept hd₃ hbuild h₄).sound
  refine .log_bind rfl ((Build.runStep_yields _ _ _ _ _).bind ?_ ?_)
  · rintro l _ w₅ ⟨rfl, -, hw₅, -⟩
    refine .log_bind rfl ((Build.runStep_yields _ _ _ _ _).bind ?_ ?_)
    · rintro l' _ w₆ ⟨rfl, -, hw₆, -⟩
      refine .pure ⟨?_, fun built h => ?_, fun _ h => by cases h⟩
      · rw [List.append_nil]
        exact steps_logs hs ha hrun hv hd₄ hw₅ hw₆
      · cases h
        rfl
    · rintro l' f w₆ ⟨rfl, -, hw₆, hfails⟩
      refine ⟨steps_logs hs ha hrun hv hd₄ hw₅ hw₆, fun _ h => (by cases h), fun e he => ?_⟩
      cases he
      exact .of_fails (by simp) rfl (hfails f rfl)
  · rintro l f w₅ ⟨rfl, -, hw₅, hfails⟩
    refine ⟨.command hw₅, fun _ h => (by cases h), fun e he => ?_⟩
    cases he
    exact .of_fails (List.mem_singleton_self _) rfl (hfails f rfl)

end Steps

end Run

end VariantForge
