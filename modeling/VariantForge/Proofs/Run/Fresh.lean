import VariantForge.Proofs.Disk.Removed
import VariantForge.Proofs.Run.Course
import VariantForge.Proofs.Variant.Definitions

/-!
# Freshness — no variant is packaged with what an earlier one left

The build directory is removed right before a build, so there is no artifact then, whatever was left
in its place (`Build.Inherits.isFile`). If neither command of the build makes one, there is none to
package and the variant fails (`run_fresh`).
-/

namespace VariantForge

open Forge

variable {o : Outside} {p : Plan} {t : Toolchain} {c : WorkingCopy} {v : Variant}

/-! ## Where the source is -/

theorem Source.describe_root (opts : AcquireOptions) (k : Candidate) (requested : Option String)
    (pinned : Bool) : Gives (describe o opts k requested pinned) fun c => c.root = root opts :=
  .bind fun _ => .bind fun _ => .bind fun _ => .pure rfl

theorem Source.acquire_root (opts : AcquireOptions) (ks : List Candidate) (revision : Option String) :
    Gives (acquire o opts ks revision) fun c => c.root = root opts := by
  refine .bind fun source => .bind fun _ => ?_
  dsimp only
  split
  · exact .bind fun _ => describe_root _ _ _ _
  · exact .bind fun _ => describe_root _ _ _ _

theorem Plan.make_ok {config : Configuration} (h : Plan.make config = .ok p) :
    p.config = config ∧ (p.registry.variants.map (·.name)).Nodup := by
  rw [Plan.make] at h
  split at h
  · rename_i registry hbuild
    cases h
    exact ⟨rfl, Registry.build_nodup hbuild⟩
  · cases h

theorem Run.prepare_root (revision : Option String) :
    Gives (prepare o p revision) fun x => x.2.root = Source.root p.acquireOptions := by
  refine .bind fun _ => .bind fun _ => .bind fun _ => ?_
  intro w x w' h
  rw [runOn_bind] at h
  rcases hacquire : runOn w (Source.acquire o p.acquireOptions p.config.settings.source.candidates revision) with
    ⟨f | c, w₁⟩
  · simp [hacquire] at h
  · rw [hacquire] at h
    cases h
    exact Source.acquire_root _ _ _ _ _ _ hacquire

theorem Settings.isAbsolute_chamber (here cwd : String) (s : Settings) :
    Path.isAbsolute (s.complete here cwd).chamber = true := by
  obtain ⟨ns, -, hns⟩ := Path.exists_resolve here [cwd, s.chamber]
  rw [Settings.complete]
  dsimp only
  rw [hns]
  exact Path.isAbsolute_absolute ns

/-! ## What a visit's commands are -/

/-- Whether only git was run at some moments. -/
def OnlyGit (l : List Moment) : Prop := ∀ m ∈ l, ∃ cmd, m.event = .ran cmd ∧ cmd.program = "git"

theorem onlyGit_append {l l' : List Moment} (h : OnlyGit l) (h' : OnlyGit l') : OnlyGit (l ++ l') :=
  List.forall_mem_append.2 ⟨h, h'⟩

theorem Source.resetCommands_onlyGit {l : List Moment} {ok : Bool} (h : Chain o (resetCommands c) l ok) :
    OnlyGit l := by
  intro m hm
  obtain ⟨cmd, hcmd, hevent⟩ := h.mem m hm
  rcases List.mem_pair.1 hcmd with rfl | rfl
  · exact ⟨_, hevent, rfl⟩
  · exact ⟨_, hevent, rfl⟩

theorem Spell.commands_git {here dir : String} {s : Spell} {cmd : Command} (h : cmd ∈ commands here dir c s) :
    cmd.program = "git" := by
  rw [commands] at h
  split at h
  · cases h
  · obtain ⟨arguments, -, rfl⟩ := List.mem_map.1 h
    rfl
  · obtain ⟨arguments, -, rfl⟩ := List.mem_map.1 h
    rfl

theorem Spell.Casts.onlyGit {dir : String} {spells : List Spell} {l : List Moment} (h : Casts dir c spells l) :
    OnlyGit l := by
  induction h with
  | nil => exact fun _ hm => by cases hm
  | cons hfirst _ ih =>
    refine onlyGit_append (fun m hm => ?_) ih
    obtain ⟨cmd, hcmd, hevent⟩ := List.mem_map.1 (hfirst.subset (List.mem_map_of_mem hm))
    exact ⟨cmd, hevent.symm, Spell.commands_git hcmd⟩

theorem Source.resetCommands_nodup (c : WorkingCopy) : (resetCommands c).Nodup := by
  simp [resetCommands, Git.resetCommands, Git.command]

theorem Build.commands_nodup (opts : BuildOptions) (t : Toolchain) (label : String) :
    (commands o opts c t label).Nodup := by
  simp [commands, command, program]

theorem Build.program_ne_git {opts : BuildOptions} {label : String} {cmd : Command}
    (h : cmd ∈ commands o opts c t label) : cmd.program ≠ "git" := by
  rcases List.mem_pair.1 h with rfl | rfl
  · exact (by decide : "meson" ≠ "git")
  · exact (by decide : "ninja" ≠ "git")

/-- A command of the build that was issued at a moment was not issued before the build. -/
theorem Build.mem_of_succeeds {opts : BuildOptions} {label : String} {cmd : Command} {l l' : List Moment}
    (hcmd : cmd ∈ commands o opts c t label) (hgit : OnlyGit l) (h : ∃ m ∈ l ++ l', m.Succeeds o cmd) :
    ∃ m ∈ l', m.Succeeds o cmd := by
  obtain ⟨m, hm, hs⟩ := h
  rcases List.mem_append.1 hm with hm | hm
  · obtain ⟨cmd', hevent, hprogram⟩ := hgit m hm
    cases hevent.symm.trans hs.1
    exact absurd hprogram (program_ne_git hcmd)
  · exact ⟨m, hm, hs⟩

/-! ## The artifact -/

/-- Whether a command that was issued at a moment made a file where there was none. -/
def Forge.Moment.Creates (o : Outside) (path : String) (m : Moment) : Prop :=
  ∃ cmd, m.event = .ran cmd ∧ m.world.disk.isFile path = false ∧ (o.run m.world cmd).disk.isFile path = true

/-- If no command of a build makes the artifact then there is none after it. -/
theorem Build.Inherits.isFile {opts : BuildOptions} {l : List Moment} {d : Disk}
    (hroot : Path.isAbsolute c.root = true) (htarget : Path.StaysBelow opts.target) (h : Inherits o opts c l d)
    (hbarren : ∀ m ∈ l, ¬ m.Creates o (artifact opts c)) : d.isFile (artifact opts c) = false := by
  have hdir : Path.Through (Path.join [c.root, opts.directory]) _ := Path.through_join opts.directory hroot
  refine h (fun d => d.isFile (artifact opts c) = false)
    (fun d₀ d₁ hremove => Disk.isFile_of_removeAll hdir (hdir.join htarget) hremove) fun m hm cmd hevent habsent => ?_
  by_contra hmade
  exact hbarren m hm ⟨cmd, hevent, habsent, by simpa using hmade⟩

theorem Package.run_missing {opts : PackageOptions} {artifact label : String} {w : World}
    (h : w.disk.isFile artifact = false) :
    runOn w (run o opts artifact c label) = (.error (.artifactMissing artifact), w) := by
  rw [run, runOn_bind_ok (runOn_look ..), h]
  rfl

namespace Run

/-- Whether neither command of a visit's build made its artifact. -/
def Barren (o : Outside) (p : Plan) (t : Toolchain) (c : WorkingCopy) (x : Visit) : Prop :=
  ∀ m ∈ x.moments, ∀ cmd ∈ Build.commands o p.buildOptions c t x.variant.label,
    m.event = .ran cmd → ¬ m.Creates o (Build.artifact p.buildOptions c)

/-- Whether the commands of a visit's reset and of its build were all issued and exited with the code 0. -/
def Passed (o : Outside) (p : Plan) (t : Toolchain) (c : WorkingCopy) (x : Visit) : Prop :=
  ∀ cmd ∈ Source.resetCommands c ++ Build.commands o p.buildOptions c t x.variant.label,
    ∃ m ∈ x.moments, m.Succeeds o cmd

/-- What comes of a visit whose build made no artifact: it fails, and if all commands up to then were
fine it fails for that. -/
def Unpackaged (o : Outside) (p : Plan) (t : Toolchain) (c : WorkingCopy) (x : Visit) : Prop :=
  (∃ e, x.outcome = .error e) ∧
    (Passed o p t c x → x.outcome = .error (.package, .artifactMissing (Build.artifact p.buildOptions c)))

theorem Steps.unpackaged (htarget : Path.StaysBelow p.buildOptions.target) (hroot : Path.isAbsolute c.root = true)
    {w w' : World} {l : List Moment} {out : Outcome} (h : Steps o p t c v w l out w')
    (hbarren : Barren o p t c ⟨v, l, out⟩) : Unpackaged o p t c ⟨v, l, out⟩ := by
  cases h with
  | notReset hreset =>
    refine ⟨⟨_, rfl⟩, fun hpassed => ?_⟩
    have := hreset.ok_of_succeeds (Source.resetCommands_nodup c) fun cmd hcmd =>
      hpassed cmd (List.mem_append_left _ hcmd)
    cases this
  | notBuilt hreset hcast hbuild =>
    refine ⟨⟨_, rfl⟩, fun hpassed => ?_⟩
    have hsucceeds := fun cmd (hcmd : cmd ∈ Build.commands o p.buildOptions c t v.label) =>
      Build.mem_of_succeeds hcmd (onlyGit_append (Source.resetCommands_onlyGit hreset) hcast.1.onlyGit)
        (hpassed cmd (List.mem_append_right _ hcmd))
    obtain ⟨fault, -, rfl, -⟩ | ⟨hchain, -⟩ := hbuild
    · obtain ⟨m, hm, -⟩ := hsucceeds _ (List.mem_cons_self ..)
      cases hm
    · have := hchain.ok_of_succeeds (Build.commands_nodup _ _ _) hsucceeds
      cases this
  | built hreset hcast hbuild hpackage =>
    obtain ⟨_, _, _, h⟩ | ⟨hchain, hartifact, hinherits⟩ := hbuild
    · cases h
    rw [hartifact _ rfl] at hpackage
    have habsent := hinherits.isFile hroot htarget fun m hm => by
      obtain ⟨cmd, hcmd, hevent⟩ := hchain.mem m hm
      exact hbarren m (by simp [hm]) cmd hcmd hevent
    cases (Package.run_missing habsent).symm.trans hpackage.2
    exact ⟨⟨_, rfl⟩, fun _ => rfl⟩

/-- A failure of a visit stands in the summary, and its variant is not among those that succeeded. -/
theorem Accounts.of_error {s : Summary} {visits : List Visit} {x : Visit} {e : Stage × Failure}
    (h : Accounts s (visits.map fun x => (x.variant, x.outcome)))
    (hnames : (visits.map fun x => x.variant.name).Nodup) (hx : x ∈ visits) (he : x.outcome = .error e) :
    x.variant.name ∉ s.succeeded ∧ failureOf x.variant e ∈ s.failed := by
  constructor
  · rw [h.succeeded]
    intro hmem
    obtain ⟨_, hmem, hname⟩ := List.mem_map.1 hmem
    rw [List.mem_filter] at hmem
    obtain ⟨y, hy, rfl⟩ := List.mem_map.1 hmem.1
    cases List.inj_on_of_nodup_map hnames hy hx hname
    rw [he] at hmem
    cases hmem.2
  · rw [h.failed, List.mem_filterMap]
    exact ⟨_, List.mem_map_of_mem hx, by rw [failure?, he]⟩

/-- If neither command of a variant's build makes the artifact then the variant does not succeed, whatever
was there before; it fails for want of the artifact if all commands of its reset and its build were
fine. -/
theorem run_fresh {s : Settings} {here cwd : String} (hplan : Plan.make (s.complete here cwd) = .ok p)
    (htarget : Path.StaysBelow s.build.target) (o : Outside) (r : RunRequest) (w : World) :
    (∃ f w', runOn { w with readings := w.readings + 1 } (prepare o p r.revision) = (.error f, w') ∧
      runOn w (run o p r) = (.error f, w')) ∨
    ∃ t c w₀ w₁ visits w₂,
      Journey o p r w (Takes o p) t c w₀ w₁ visits w₂ ∧
      ∀ x ∈ visits, Barren o p t c x →
        Unpackaged o p t c x ∧
        ∀ summary, (runOn w (run o p r)).1 = .ok summary →
          x.variant.name ∉ summary.succeeded ∧
          (Passed o p t c x → ∃ message,
            ⟨x.variant.name, x.variant.label, .package, message, some "ARTIFACT_MISSING"⟩ ∈ summary.failed) := by
  obtain ⟨hconfig, hdistinct⟩ := Plan.make_ok hplan
  have htarget : Path.StaysBelow p.buildOptions.target := by
    rw [Plan.buildOptions, hconfig]
    exact htarget
  have hmakes (t : Toolchain) (c : WorkingCopy) : Makes o p t c fun w x w' =>
      Traced o isCommand w (makeVariant o p t c x.variant) x.moments (.ok x.outcome) w' ∧
        Steps o p t c x.variant w x.moments x.outcome w' :=
    .of_yields fun _ w => makeVariant_steps w
  obtain hfail | ⟨t, c, w₀, w₁, visits, w₂, h⟩ := run_journey hmakes r w
  · exact .inl hfail
  have hroot : Path.isAbsolute c.root = true := by
    rw [prepare_root _ _ _ _ h.prepared]
    refine Path.isAbsolute_join ?_
    rw [Plan.acquireOptions, hconfig]
    exact Settings.isAbsolute_chamber here cwd s
  refine .inr ⟨t, c, w₀, w₁, visits, w₂, h.mono fun _ _ _ hx => ⟨hx.1, hx.2.course⟩, fun x hx hbarren => ?_⟩
  have hx' : Unpackaged o p t c x := h.rounds.visit (P := fun x => Barren o p t c x → Unpackaged o p t c x)
    (fun _ _ _ hx => hx.2.unpackaged htarget hroot) x hx hbarren
  refine ⟨hx', fun summary hsummary => ?_⟩
  obtain ⟨hall, haccounts⟩ := h.summary hsummary
  have hnames : (visits.map fun x => x.variant.name).Nodup := by
    have := Registry.select_nodup hdistinct r.variant
    rwa [← hall, List.map_map] at this
  obtain ⟨e, he⟩ := hx'.1
  refine ⟨(haccounts.of_error hnames hx he).1, fun hpassed => ?_⟩
  exact ⟨_, (haccounts.of_error hnames hx (hx'.2 hpassed)).2⟩

/-- Settings of a run for one of the variants that are always there. -/
def tigerSettings : Settings := { bare.config.settings with defaultVariant := "tiger" }

theorem run_fresh_tiger :
    ∃ p, Plan.make (tigerSettings.complete "/" "/") = .ok p ∧ Path.StaysBelow tigerSettings.build.target ∧
      ((∃ f w', runOn { disk := ⟨[], []⟩, readings := 1 } (prepare obliging p none) = (.error f, w') ∧
        runOn { disk := ⟨[], []⟩ } (run obliging p {}) = (.error f, w')) ∨
      ∃ t c w₀ w₁ visits w₂,
        Journey obliging p {} { disk := ⟨[], []⟩ } (Takes obliging p) t c w₀ w₁ visits w₂ ∧
        ∀ x ∈ visits, Barren obliging p t c x →
          Unpackaged obliging p t c x ∧
          ∀ summary, (runOn { disk := ⟨[], []⟩ } (run obliging p {})).1 = .ok summary →
            x.variant.name ∉ summary.succeeded ∧
            (Passed obliging p t c x → ∃ message,
              ⟨x.variant.name, x.variant.label, .package, message, some "ARTIFACT_MISSING"⟩ ∈ summary.failed)) := by
  have hok : (Plan.make (tigerSettings.complete "/" "/")).isOk = true := by decide +kernel
  have htarget : Path.StaysBelow tigerSettings.build.target := by decide +kernel
  cases hplan : Plan.make (tigerSettings.complete "/" "/") with
  | error f =>
    rw [hplan] at hok
    cases hok
  | ok p => exact ⟨p, rfl, htarget, run_fresh hplan htarget obliging {} { disk := ⟨[], []⟩ }⟩

end Run

end VariantForge
