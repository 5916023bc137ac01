import VariantForge.Proofs.Run.Remains

/-!
# Runs whose outputs are kept apart

A visit changes nothing outside of its variant's turf, and what it leaves there is its own (`Leaves`). If
the outputs of the variants can be told apart then what each of them left is there at the end of the run
(`Rounds.remains`, `run_apart`). If they cannot then there are variants whose outputs go to one place
(`same_outputs`).
-/

namespace VariantForge

open Path Disk Forge

namespace Run

variable {o : Outside} {p : Plan} {t : Toolchain} {c : WorkingCopy} {C O : List Part} {vs : List Variant}
  {v : Variant} {w w' : World} {l : List Moment}

/-! ## Commands without logs -/

/-- Whether none of some commands has a log. -/
def Unlogged (l : List Moment) : Prop := ∀ m ∈ l, ∀ cmd, m.event = .ran cmd → cmd.logFile = none

theorem Unlogged.of_traced {α : Type} {x : Forge α} {r : Except Failure α} {acts : Act → Prop}
    (h : Traced o isCommand w x l r w') (hx : Within o acts x)
    (hacts : ∀ cmd, acts (.run cmd) → cmd.logFile = none) : Unlogged l := by
  intro m hm cmd hevent
  obtain ⟨cmd', hevent', hact⟩ := h.within hx m hm
  cases hevent.symm.trans hevent'
  exact hacts cmd hact

theorem Unlogged.logsKept (h : Unlogged l) (d : Disk) : LogsKept o l d := by
  intro m hm cmd log e hevent hlog
  rw [h m hm cmd hevent] at hlog
  cases hlog

theorem Unlogged.logsOff (h : Unlogged l) (W : Place → Prop) : LogsOff p v W l := by
  intro m hm cmd log hevent hlog
  rw [h m hm cmd hevent] at hlog
  cases hlog

theorem reset_unlogged {r : Except Failure Unit} (h : Traced o isCommand w (Source.reset o c) l r w') :
    Unlogged l :=
  .of_traced h (Source.reset_within c) fun cmd hact => by cases hact; rfl

theorem cast_unlogged {r : Except Failure Unit} (h : Traced o isCommand w (castAll o p c v v.spells) l r w') :
    Unlogged l :=
  .of_traced h (castAll_within p c v fun _ hs => hs) fun cmd hact => by cases hact; rfl

theorem package_unlogged {artifact : String} {r : Except Failure PackagedArtifact}
    (h : Traced o isCommand w (Package.run o p.packageOptions artifact c v.label) l r w') : Unlogged l := by
  refine .of_traced h Package.run_within fun cmd hact => ?_
  cases hact with
  | staging hact =>
    cases hact
    rfl
  | archive here hact => cases hact

/-- The commands of a build have the logs of its steps. -/
theorem build_logsOff {W : Place → Prop} {r : Except Failure BuildResult}
    (h : Traced o isCommand w (Build.run o p.buildOptions c t v.label) l r w')
    (hW : ∀ step, ¬ W (placeOf (Build.logPath p.buildOptions step v.label))) : LogsOff p v W l := by
  intro m hm cmd log hevent hlog
  obtain ⟨cmd', hevent', hact⟩ := h.within (Build.run_within t) m hm
  cases hevent.symm.trans hevent'
  cases hact with
  | step profile step arguments =>
    cases hlog
    exact ⟨step, rfl, hW step⟩

/-! ## What a visit leaves -/

/-- Whether what a visit left is on a disk: its logs, which are those of its variant, and its package. A
failure of its build names one of these logs. -/
structure Remains (o : Outside) (p : Plan) (c : WorkingCopy) (x : Visit) (d : Disk) : Prop where
  own : LogsOff p x.variant (fun _ => False) x.moments
  logs : LogsKept o x.moments d
  package : ∀ made, x.outcome = .ok made → PackagedOn o p c x.variant x.moments d made
  failure : ∀ f, x.outcome = .error (.build, f) → Blames o x.moments f

/-- Whether a visit changed nothing but its variant's turf, and left there what it should. -/
structure Leaves (o : Outside) (p : Plan) (c : WorkingCopy) (vs : List Variant) (w : World) (x : Visit) (w' : World) :
    Prop where
  spares : Spares (Ways p c vs) (Roads p) (Turf p c x.variant) w.disk w'.disk
  remains : Remains o p c x w'.disk

/-- What is known of the steps of a variant that is made where nothing is in its way: that is said by `H`,
which a step may rely on if it finds a sound disk. -/
def Leaving (o : Outside) (p : Plan) (t : Toolchain) (c : WorkingCopy) (vs : List Variant) (v : Variant)
    (H : Prop) : World → List Moment → Outcome → World → Prop :=
  Stages (fun w l r w' => Traced o isCommand w (Source.reset o c) l r w')
    (fun w l r w' => Traced o isCommand w (castAll o p c v v.spells) l r w')
    (fun w l r w' => Traced o isCommand w (Build.run o p.buildOptions c t v.label) l r w' ∧
      (H ∧ Sound (Ways p c vs) w.disk → Built o p c l r w'.disk))
    (fun artifact w l r w' =>
      Traced o isCommand w (Package.run o p.packageOptions artifact c v.label) l r w' ∧
        (H ∧ Sound (Ways p c vs) w.disk ∧ artifact = Build.artifact p.buildOptions c →
          ∀ made, r = .ok made → PackagedOn o p c v l w'.disk made))

theorem makeVariant_leaving {H : Prop} (hsited : H → ∃ C O, Sited p c C O) (ha : H → Apart p c vs)
    (hrun : H → Minds o (Ways p c vs)) (hv : H → v ∈ vs) (w : World) :
    Yields o isCommand w (makeVariant o p t c v) fun l r w' => ∃ out, r = .ok out ∧ Leaving o p t c vs v H w l out w' := by
  refine makeVariant_stages (fun w => ?_) (fun w => ?_) (fun w => ?_) (fun artifact w => ?_) w
  · exact (Source.reset_chained c w).traced.mono fun _ _ _ _ h => h.1
  · exact (castAll_yields p c v v.spells w).traced.mono fun _ _ _ _ h => h.1
  · refine Yields.traced (.imp (Build.run_yields t w) fun ⟨h, hd⟩ => ?_)
    obtain ⟨C, O, hs⟩ := hsited h
    exact build_leaves hs (ha h) (hrun h) (hv h) hd
  · refine Yields.traced (.imp (Package.run_yields w) fun ⟨h, hd, hartifact⟩ => ?_)
    obtain ⟨C, O, hs⟩ := hsited h
    rw [hartifact]
    exact package_leaves hs (ha h) (hrun h) (hv h) hd

section Visits

variable (hs : Sited p c C O) (ha : Apart p c vs) (hrun : Minds o (Ways p c vs))
include hs ha hrun

theorem Leaving.leaves {H : Prop} (h : H) (hv : v ∈ vs) {out : Outcome} (hd : Sound (Ways p c vs) w.disk)
    (hx : Leaving o p t c vs v H w l out w') : Leaves o p c vs w ⟨v, l, out⟩ w' := by
  have hU : Paves p c vs (Ways p c vs) := paves_ways hs ha
  have hafter {l : List Moment} {r : Except Failure Unit} {w' : World}
      (hreset : Traced o isCommand w (Source.reset o c) l r w') :
      Spares (Ways p c vs) (Roads p) (Turf p c v) w.disk w'.disk :=
    ((reset_sparing hrun).mono fun _ => .copy).runOn hd hreset.runOn_eq
  have hcastAll {l : List Moment} {r : Except Failure Unit} {w w' : World} (hd : Sound (Ways p c vs) w.disk)
      (hcast : Traced o isCommand w (castAll o p c v v.spells) l r w') :
      Spares (Ways p c vs) (Roads p) (Turf p c v) w.disk w'.disk :=
    ((cast_sparing hs ha hU hrun hv).mono fun _ => .copy).runOn hd hcast.runOn_eq
  cases hx with
  | notReset hreset =>
    have hunlogged := reset_unlogged hreset
    refine ⟨hafter hreset, ?_⟩
    exact
      { own := hunlogged.logsOff _
        logs := hunlogged.logsKept _
        package := fun _ h => by cases h
        failure := fun _ h => by cases h }
  | @notBuilt l l' l'' f w₁ w₂ w₃ hreset hcast hbuild =>
    obtain ⟨hbuild, hbuilt⟩ := hbuild
    have h₁ := hafter hreset
    have h₂ := h₁.trans (hcastAll h₁.sound hcast)
    have hbuilt := hbuilt ⟨h, h₂.sound⟩
    have hbefore : Unlogged (l ++ l') := List.forall_mem_append.2 ⟨reset_unlogged hreset, cast_unlogged hcast⟩
    have hown : LogsOff p v (fun _ => False) (l ++ l' ++ l'') :=
      (hbefore.logsOff _).append (build_logsOff hbuild fun _ h => h)
    refine ⟨h₂.trans ((build_sparing hs ha hU hrun).runOn h₂.sound hbuild.runOn_eq), ?_⟩
    refine
      { own := hown
        logs := (hbefore.logsKept _).append hbuilt.logs
        package := fun _ h => by cases h
        failure := fun e he => ?_ }
    cases he
    intro step label log tail hf
    obtain ⟨m, hm, hcmd⟩ := hbuilt.failure f rfl step label log tail hf
    exact ⟨m, List.mem_append_right _ hm, hcmd⟩
  | @built l l' l'' k made r w₁ w₂ w₃ w₄ hreset hcast hbuild hpackage =>
    obtain ⟨hbuild, hbuilt⟩ := hbuild
    obtain ⟨hpackage, hpackaged⟩ := hpackage
    have h₁ := hafter hreset
    have h₂ := h₁.trans (hcastAll h₁.sound hcast)
    have h₃ := h₂.trans ((build_sparing hs ha hU hrun).runOn h₂.sound hbuild.runOn_eq)
    have hbuilt := hbuilt ⟨h, h₂.sound⟩
    have hartifact := hbuilt.artifact _ rfl
    have hpackaged := hpackaged ⟨h, h₃.sound, hartifact⟩
    have hunlogged := package_unlogged hpackage
    rw [hartifact] at hpackage
    have h₄ := (package_sparing hs ha hU hrun hv).runOn h₃.sound hpackage.runOn_eq
    have hbefore : Unlogged (l ++ l') := List.forall_mem_append.2 ⟨reset_unlogged hreset, cast_unlogged hcast⟩
    have hlogs := hbuilt.logs.later hs ha hv
      (build_logsOff hbuild fun step => Packs.not_log hs ha hv step v.label) h₃.sound h₄
    have hown : LogsOff p v (fun _ => False) (l ++ l' ++ l'') :=
      (hbefore.logsOff _).append (build_logsOff hbuild fun _ h => h)
    refine ⟨h₃.trans (h₄.mono fun _ => .package), ?_⟩
    refine
      { own := hown.append (hunlogged.logsOff _)
        logs := ((hbefore.logsKept _).append hlogs).append (hunlogged.logsKept _)
        package := fun a ha => ?_
        failure := fun _ h => by cases r <;> cases h }
    obtain ⟨hpath, m, hm, hbytes⟩ := hpackaged a (by cases r <;> cases ha; rfl)
    exact ⟨hpath, m, List.mem_append_right _ hm, hbytes⟩

omit hrun in
/-- What a visit left stays where its outputs are not touched. -/
theorem Remains.later {x : Visit} {W : Place → Prop} {d d' : Disk} (hx : Remains o p c x d) (hv : x.variant ∈ vs)
    (hd : Sound (Ways p c vs) d) (h : Spares (Ways p c vs) (Roads p) W d d')
    (hlog : ∀ step, ¬ W (placeOf (Build.logPath p.buildOptions step x.variant.label)))
    (harchive : ¬ W (placeOf (Package.archivePath p.packageOptions c x.variant.label))) : Remains o p c x d' where
  own := hx.own
  logs := by
    refine hx.logs.later hs ha hv (fun m hm cmd log hevent hfile => ?_) hd h
    obtain ⟨step, rfl, -⟩ := hx.own m hm cmd log hevent hfile
    exact ⟨step, rfl, hlog step⟩
  package := fun made hmade => (hx.package made hmade).later hs ha hv hd h harchive
  failure := hx.failure

omit hrun in
/-- What each visit left is there after all of them: those that came later changed other places. -/
theorem Rounds.remains {D : World → Visit → World → Prop} {visits : List Visit} (h : Rounds o p t c D w visits w')
    (hD : ∀ w x w', D w x w' → x.variant ∈ vs → Sound (Ways p c vs) w.disk → Leaves o p c vs w x w')
    (hvs : ∀ x ∈ visits, x.variant ∈ vs) (hnodup : (visits.map (·.variant)).Nodup)
    (hd : Sound (Ways p c vs) w.disk) :
    Spares (Ways p c vs) (Roads p) (fun q => ∃ x ∈ visits, Turf p c x.variant q) w.disk w'.disk ∧
      ∀ x ∈ visits, Remains o p c x w'.disk := by
  induction h with
  | nil w => exact ⟨.refl hd, fun _ hx => by cases hx⟩
  | cut _ _ hvisit _ =>
    have hleaves := hD _ _ _ hvisit (hvs _ (List.mem_singleton_self _)) hd
    refine ⟨hleaves.spares.mono fun q hq => ⟨_, List.mem_singleton_self _, hq⟩, fun x hx => ?_⟩
    cases List.mem_singleton.1 hx
    exact hleaves.remains
  | @cons v l out rest w w₁ w₂ _ _ hvisit _ ih =>
    rw [List.map_cons, List.nodup_cons] at hnodup
    have hv := hvs _ (List.mem_cons_self ..)
    have hrest := fun x hx => hvs x (List.mem_cons_of_mem _ hx)
    have hleaves := hD _ _ _ hvisit hv hd
    obtain ⟨hspares, hremains⟩ := ih hrest hnodup.2 hleaves.spares.sound
    have hother {x : Visit} (hx : x ∈ rest) : v ≠ x.variant := by
      intro heq
      have hmem : x.variant ∈ rest.map (·.variant) := List.mem_map_of_mem hx
      exact hnodup.1 (heq ▸ hmem)
    refine ⟨(hleaves.spares.mono fun q hq => ⟨_, List.mem_cons_self .., hq⟩).trans
      (hspares.mono fun q ⟨x, hx, hq⟩ => ⟨x, List.mem_cons_of_mem _ hx, hq⟩), fun x hx => ?_⟩
    rcases List.mem_cons.1 hx with rfl | hx
    · refine hleaves.remains.later hs ha hv hleaves.spares.sound hspares ?_ ?_
      · rintro step ⟨x, hx, hq⟩
        exact Turf.not_log hs ha hv (hrest x hx) (hother hx) step hq
      · rintro ⟨x, hx, hq⟩
        exact Turf.not_archive hs ha hv (hrest x hx) (hother hx) hq
    · exact hremains x hx

end Visits

/-! ## The end of a run -/

/-- What the end of a run does: it writes the report. -/
inductive ReportActs (p : Plan) : Act → Prop where
  | directory : ReportActs p (.makeDirectories p.config.outputDir)
  | file : ReportActs p (.write (Path.join [p.config.outputDir, Report.fileName]))

section End

variable (hs : Sited p c C O) (ha : Apart p c vs)
include hs ha

theorem conclude_sparing (hrun : Minds o (Ways p c vs)) (started : Instant) (start : Nat) (requested : String)
    (tally : Tally) : Sparing p (Ways p c vs) (· = placeOf (Path.join [p.config.outputDir, Report.fileName]))
      (conclude o p t c started start requested tally) := by
  have hwithin : Within o (ReportActs p) (conclude o p t c started start requested tally) :=
    conclude_within .directory .file started start requested tally
  refine .of_within hwithin hrun fun a hact => ?_
  cases hact with
  | directory =>
    exact ⟨⟨O, hs.outputNames, hs.output, Uses.output.opens hs ha⟩, fun q hq => hq.elim, fun q hq => .inl (.inr hq)⟩
  | file => exact ⟨Uses.report.opens hs ha, fun q hq => hq, fun q hq => hq.elim⟩

/-- The report goes to a file of its own. -/
theorem Remains.concluded {x : Visit} {d d' : Disk} (hx : Remains o p c x d) (hv : x.variant ∈ vs)
    (hd : Sound (Ways p c vs) d)
    (h : Spares (Ways p c vs) (Roads p) (· = placeOf (Path.join [p.config.outputDir, Report.fileName])) d d') :
    Remains o p c x d' := by
  refine hx.later hs ha hv hd h (fun step heq => ?_) fun heq => ?_
  · rw [place_log hs, place_report hs] at heq
    exact append_ne ((endsIn_log step x.variant.label).ne endsIn_report rfl (by decide)) heq
  · rw [place_archive hs ha hv, place_report hs] at heq
    exact append_ne ((endsIn_archive _ c x.variant.label).ne endsIn_report rfl (by decide)) heq

/-- Different variants have different archives and different logs. -/
theorem outputs_ne {v v' : Variant} (hv : v ∈ vs) (hv' : v' ∈ vs) (hne : v ≠ v') :
    Package.archivePath p.packageOptions c v.label ≠ Package.archivePath p.packageOptions c v'.label ∧
      ∀ step step',
        Build.logPath p.buildOptions step v.label ≠ Build.logPath p.buildOptions step' v'.label := by
  refine ⟨fun heq => ?_, fun step step' heq => ?_⟩
  · exact Turf.not_archive hs ha hv hv' hne (.package (.archive (congrArg placeOf heq)))
  · exact Turf.not_log hs ha hv hv' hne step (.log step' (congrArg placeOf heq))

end End

/-- The archives that a summary lists are those of the visits that came to their end. -/
theorem Accounts.archives_eq {s : Summary} {done : List (Variant × Outcome)} (h : Accounts s done) :
    s.archives = (done.filterMap made?).map Prod.snd := by
  rw [← h.archives, List.map_snd_zip (Nat.le_of_eq h.length)]

theorem Accounts.archives_nodup {s : Summary} {visits : List Visit} (path : Variant → String)
    (h : Accounts s (visits.map fun x => (x.variant, x.outcome)))
    (hpath : ∀ x ∈ visits, ∀ made, x.outcome = .ok made → made.archive = path x.variant)
    (hne : visits.Pairwise fun x y => path x.variant ≠ path y.variant) : s.archives.Nodup := by
  have harchive {x : Visit} (hx : x ∈ visits) {e : String × String}
      (he : made? (x.variant, x.outcome) = some e) : e.2 = path x.variant := by
    rw [made?] at he
    cases hout : x.outcome with
    | error f =>
      rw [hout] at he
      cases he
    | ok made =>
      rw [hout] at he
      cases he
      exact hpath x hx made hout
  rw [h.archives_eq, List.filterMap_map, List.Nodup, List.pairwise_map, List.pairwise_filterMap]
  refine hne.imp_of_mem fun hx hy hxy e he e' he' => ?_
  rw [harchive hx he, harchive hy he']
  exact hxy

/-- What is known of every variant: its trace, and what it leaves where nothing is in its way. -/
theorem makes_leaves (o : Outside) (p : Plan) (vs : List Variant) (t : Toolchain) (c : WorkingCopy) :
    Makes o p t c fun w x w' =>
      Traced o isCommand w (makeVariant o p t c x.variant) x.moments (.ok x.outcome) w' ∧
        ∀ C O, Sited p c C O → Apart p c vs → Minds o (Ways p c vs) → x.variant ∈ vs →
          Sound (Ways p c vs) w.disk → Leaves o p c vs w x w' := by
  refine .of_yields fun v w => ?_
  let H : Prop := (∃ C O, Sited p c C O) ∧ Apart p c vs ∧ Minds o (Ways p c vs) ∧ v ∈ vs
  have hyields : Yields o isCommand w (makeVariant o p t c v) fun l r w' =>
      ∃ out, r = .ok out ∧ Leaving o p t c vs v H w l out w' :=
    makeVariant_leaving (fun h => h.1) (fun h => h.2.1) (fun h => h.2.2.1) (fun h => h.2.2.2) w
  refine hyields.mono fun l r w' _ ⟨out, hr, hx⟩ => ⟨out, hr, fun C O hs ha hrun hv hd => ?_⟩
  exact hx.leaves hs ha hrun ⟨⟨C, O, hs⟩, ha, hrun, hv⟩ hv hd

/-- If the outputs of the chosen variants can be told apart, there are no links on the ways to them, and the
commands mind what they are told to work on, then different variants have different archives and logs. The
archives that a summary lists are distinct. What each visit left is there at the end: the archive of a
variant that succeeded holds its library and its metadata, a log what the variant's own command left in
it, and the log that a failed build names is one of these. -/
theorem run_apart {s : Settings} {here cwd : String} (hplan : Plan.make (s.complete here cwd) = .ok p)
    {r : RunRequest} {w₀ : World}
    (hprepare : runOn { w with readings := w.readings + 1 } (prepare o p r.revision) = (.ok (t, c), w₀))
    (hapart : Apart p c (p.registry.select r.variant).variants)
    (hrun : Minds o (Ways p c (p.registry.select r.variant).variants))
    (hdisk : Sound (Ways p c (p.registry.select r.variant).variants) w₀.disk) :
    (∀ v ∈ (p.registry.select r.variant).variants, ∀ v' ∈ (p.registry.select r.variant).variants, v ≠ v' →
      Package.archivePath p.packageOptions c v.label ≠ Package.archivePath p.packageOptions c v'.label ∧
        ∀ step step',
          Build.logPath p.buildOptions step v.label ≠ Build.logPath p.buildOptions step' v'.label) ∧
    ∃ w₁ visits w₂,
      Journey o p r w (fun t c w x w' =>
        Traced o isCommand w (makeVariant o p t c x.variant) x.moments (.ok x.outcome) w') t c w₀ w₁ visits w₂ ∧
      (∀ x ∈ visits, Remains o p c x (runOn w (run o p r)).2.disk) ∧
      ∀ summary, (runOn w (run o p r)).1 = .ok summary →
        visits.map (·.variant) = (p.registry.select r.variant).variants ∧
        Accounts summary (visits.map fun x => (x.variant, x.outcome)) ∧ summary.archives.Nodup := by
  obtain ⟨C, O, hs⟩ := sited_of_prepare hplan hprepare
  have hnodup : (p.registry.select r.variant).variants.Nodup :=
    (Registry.select_nodup (Plan.make_ok hplan).2 r.variant).of_map
  refine ⟨fun v hv v' hv' => outputs_ne hs hapart hv hv', ?_⟩
  obtain ⟨f, w', hfail, -⟩ | ⟨t', c', w₀', w₁, visits, w₂, h⟩ :=
    run_journey (makes_leaves o p (p.registry.select r.variant).variants) r w
  · cases hfail.symm.trans hprepare
  cases h.prepared.symm.trans hprepare
  have hannounce : w₁.disk = w₀.disk := by
    have hwithin : Within o (fun _ => False) (announce p (p.registry.select r.variant)) := announce_within _
    have hdisk := hwithin.disk_eq w₀
    rwa [h.announced] at hdisk
  have hvs : ∀ x ∈ visits, x.variant ∈ (p.registry.select r.variant).variants :=
    fun x hx => h.variants.subset (List.mem_map_of_mem hx)
  obtain ⟨hspares, hremains⟩ := h.rounds.remains hs hapart
    (fun w x w' hx hv hd => hx.2 C O hs hapart hrun hv hd) hvs (h.variants.sublist.nodup hnodup)
    (by rw [hannounce]; exact hdisk)
  refine ⟨w₁, visits, w₂, h.mono fun _ _ _ hx => hx.1, ?_, fun summary hsummary => ?_⟩
  · rcases h.ends with ⟨f, hend, -⟩ | ⟨-, hend⟩
    · rw [hend]
      exact hremains
    · rw [hend]
      have hconclude := (conclude_sparing (t := t) hs hapart hrun (o.clock w.readings) w.journal.length
        (requestedName p r) (Tally.visited {} visits)).runOn hspares.sound rfl
      exact fun x hx => (hremains x hx).concluded hs hapart (hvs x hx) hspares.sound hconclude
  · obtain ⟨hall, haccounts⟩ := h.summary hsummary
    refine ⟨hall, haccounts, haccounts.archives_nodup (fun v => Package.archivePath p.packageOptions c v.label)
      (fun x hx made hmade => ((hremains x hx).package made hmade).1) ?_⟩
    rw [← hall] at hnodup
    have hpairwise : visits.Pairwise fun x y => x.variant ≠ y.variant := List.pairwise_map.1 hnodup
    exact hpairwise.imp_of_mem fun hx hy hne => (outputs_ne hs hapart (hvs _ hx) (hvs _ hy) hne).1

theorem minds_obliging (U : Place → Prop) : Minds obliging U := fun _ _ hd => .refl hd

theorem run_apart_all :
    ∃ p t c w₀, Plan.make (tigerSettings.complete "/" "/") = .ok p ∧
      runOn { disk := ⟨[], []⟩, readings := 1 } (prepare obliging p none) = (.ok (t, c), w₀) ∧
      Apart p c (p.registry.select (some "all")).variants ∧
      Minds obliging (Ways p c (p.registry.select (some "all")).variants) ∧
      Sound (Ways p c (p.registry.select (some "all")).variants) w₀.disk ∧
      ∃ w₁ visits w₂,
        Journey obliging p { variant := some "all" } { disk := ⟨[], []⟩ } (fun t c w x w' =>
          Traced obliging isCommand w (makeVariant obliging p t c x.variant) x.moments (.ok x.outcome) w')
          t c w₀ w₁ visits w₂ ∧
        ∀ x ∈ visits, Remains obliging p c x
          (runOn { disk := ⟨[], []⟩ } (run obliging p { variant := some "all" })).2.disk := by
  let w : World := { disk := ⟨[], []⟩, readings := 1 }
  have hcheck : ((Plan.make (tigerSettings.complete "/" "/")).toOption.any fun p =>
      ((runOn w (prepare obliging p none)).1.toOption.any fun x =>
        decide (Apart p x.2 (p.registry.select (some "all")).variants)) &&
      (runOn w (prepare obliging p none)).2.disk.entries.all fun e =>
        e.2.isDirectory && ((runOn w (prepare obliging p none)).2.disk.get? e.1.dropLast).isSome) = true := by
    decide +kernel
  cases hplan : Plan.make (tigerSettings.complete "/" "/") with
  | error f =>
    rw [hplan] at hcheck
    cases hcheck
  | ok p =>
    rw [hplan] at hcheck
    rcases hprepare : runOn w (prepare obliging p none) with ⟨f | ⟨t, c⟩, w₀⟩
    · simp [Except.toOption, hprepare] at hcheck
    · simp only [Except.toOption, hprepare, Option.any_some, Bool.and_eq_true, decide_eq_true_eq,
        List.all_eq_true] at hcheck
      have hdisk : Sound (Ways p c (p.registry.select (some "all")).variants) w₀.disk :=
        sound_of_directories hcheck.2
      have hminds := minds_obliging (Ways p c (p.registry.select (some "all")).variants)
      obtain ⟨-, w₁, visits, w₂, hjourney, hremains, -⟩ :=
        run_apart (w := { disk := ⟨[], []⟩ }) (r := { variant := some "all" }) hplan hprepare hcheck.1 hminds hdisk
      exact ⟨p, t, c, w₀, rfl, hprepare, hcheck.1, hminds, hdisk, w₁, visits, w₂, hjourney, hremains⟩

/-- Settings with three more variants. Two of their labels have one slug, and two are the same. -/
def alikeSettings : Settings :=
  { tigerSettings with
    variants := [⟨"one", "Tiger One", []⟩, ⟨"two", "tiger-one", []⟩, ⟨"three", "tiger-one", []⟩] }

/-- Labels with one slug have the same logs, and the same label the same archive, though the names of the
variants differ. -/
theorem outputs_collide :
    ∃ p, Plan.make (alikeSettings.complete "/" "/") = .ok p ∧
      (∃ v ∈ (p.registry.select (some "all")).variants, ∃ v' ∈ (p.registry.select (some "all")).variants,
        v.label ≠ v'.label ∧
          ∀ step, Build.logPath p.buildOptions step v.label = Build.logPath p.buildOptions step v'.label) ∧
      ∃ v ∈ (p.registry.select (some "all")).variants, ∃ v' ∈ (p.registry.select (some "all")).variants,
        v.name ≠ v'.name ∧ ∀ c : WorkingCopy,
          Package.archivePath p.packageOptions c v.label = Package.archivePath p.packageOptions c v'.label := by
  have hcheck : ((Plan.make (alikeSettings.complete "/" "/")).toOption.any fun p => decide
      ((∃ v ∈ (p.registry.select (some "all")).variants, ∃ v' ∈ (p.registry.select (some "all")).variants,
        v.label ≠ v'.label ∧ Text.slug v.label = Text.slug v'.label) ∧
      ∃ v ∈ (p.registry.select (some "all")).variants, ∃ v' ∈ (p.registry.select (some "all")).variants,
        v.name ≠ v'.name ∧ v.label = v'.label)) = true := by
    decide +kernel
  cases hplan : Plan.make (alikeSettings.complete "/" "/") with
  | error f =>
    rw [hplan] at hcheck
    cases hcheck
  | ok p =>
    rw [hplan] at hcheck
    simp only [Except.toOption, Option.any_some, decide_eq_true_eq] at hcheck
    obtain ⟨⟨v, hv, v', hv', hne, hslug⟩, u, hu, u', hu', hname, hlabel⟩ := hcheck
    refine ⟨p, rfl, ⟨v, hv, v', hv', hne, fun step => ?_⟩, u, hu, u', hu', hname, fun c => ?_⟩
    · rw [Build.logPath, Build.logPath, hslug]
    · rw [hlabel]

end Run

end VariantForge
