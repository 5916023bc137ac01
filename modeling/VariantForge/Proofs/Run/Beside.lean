import VariantForge.Proofs.Run.Accounting
import VariantForge.Proofs.Run.Seclusion
import VariantForge.Proofs.Run.Warned

/-!
# Beside — a variant that is made after others, and the same variant made first

Making other variants changes nothing but the working copy, the machine files and the outlets of those variants,
and of the machine files no more than what they hold (`Aside`). Each step of a variant preserves that, so it holds
when a variant is begun, whatever became of those before it (`Pipeline.aside`).

Two runs come to one variant with disks that others may have made of the same one. A reset puts the working copy
back, so that the disks look alike but for what is veiled (`Aside.beside`). Spells do not see that, and a
build removes or writes anew what was veiled of it, so that only what is foreign is left (`build_leads`). A package
then comes to the same archive path, though what it says of the time may differ (`package_matched`).
-/

namespace VariantForge

open Path Disk Forge

/-! ## What other variants leave -/

namespace Build

variable {o : Outside} {opts : BuildOptions} {c : WorkingCopy} {t : Toolchain} {label : String}

/-- What a build gives is where it leaves what it made. -/
theorem run_artifact : Gives (run o opts c t label) fun b => b.artifact = artifact opts c :=
  .bind fun _ => .bind fun _ => .bind fun _ => .bind fun _ => .bind fun _ => .bind fun _ => .bind fun _ =>
    .bind fun _ => .pure rfl

end Build

namespace Run

variable {o : Outside} {p : Plan} {t : Toolchain} {c : WorkingCopy} {C O : List Part} {vs : List Variant}
  {v v' : Variant} {q : Place} {U W : Place → Prop} {d d' : Disk} {w w' : World}

/-- Whether others of some variants may have made a disk of another: it differs only in the working copy, at the
outlets of others, and in what the machine files hold. -/
structure Aside (p : Plan) (c : WorkingCopy) (vs : List Variant) (v : Variant) (U : Place → Prop) (d d' : Disk) :
    Prop where
  kept : Kept U (Disturbed p c vs v) d d'
  machine : ∀ q, Machine p q → ∀ b, Disk.written (d'.get? q) b = Disk.written (d.get? q) b

theorem Aside.refl (hd : Sound U d) : Aside p c vs v U d d := ⟨.refl hd, fun _ _ _ => rfl⟩

theorem Packs.foreign (hv' : v' ∈ vs) (hne : v' ≠ v) (h : Packs p c v' q) : Foreign p c vs v q := by
  cases h with
  | staging h => exact ⟨v', hv', hne, .staging, h⟩
  | archive h => exact ⟨v', hv', hne, .archive, h ▸ List.prefix_refl _⟩
  | part h => exact ⟨v', hv', hne, .part, h ▸ List.prefix_refl _⟩

theorem Turf.disturbed (hv' : v' ∈ vs) (hne : v' ≠ v) (h : Turf p c v' q) : Disturbed p c vs v q := by
  cases h with
  | copy h => exact .inl h
  | machineFile name hname h => exact .inr (.inl ⟨name, hname, h⟩)
  | log step h => exact .inr (.inr ⟨v', hv', hne, .log step, h ▸ List.prefix_refl _⟩)
  | package h => exact .inr (.inr (h.foreign hv' hne))

section Others

variable (hs : Sited p c C O) (ha : Separate p c vs) (hp : Spread p c vs) (hU : Paves p c vs U) (hrun : Minds o U)
include hs ha hp

/-- Where the roads are there, all that changes is what is not spared. -/
theorem Aside.kept_of_spares (hv : v ∈ vs) {d₀ : Disk} (h : Aside p c vs v U d₀ d)
    (hroads : ∀ q, Roads p q → d₀.get? q = some .directory) (hd : Spares U (Roads p) W d d')
    (hW : ∀ q, W q → Disturbed p c vs v q) : Kept U (Disturbed p c vs v) d₀ d' := by
  refine h.kept.trans ((hd.kept fun q hq => ?_).mono hW)
  rw [h.kept.outside q (Disturbed.not_road hs ha hp hv hq), hroads q hq]

/-- A step that does not touch the machine files leaves a disk as others may have made it. -/
theorem Aside.step (hv : v ∈ vs) {d₀ : Disk} (h : Aside p c vs v U d₀ d)
    (hroads : ∀ q, Roads p q → d₀.get? q = some .directory) (hd : Spares U (Roads p) W d d')
    (hW : ∀ q, W q → placeOf c.root <+: q ∨ Foreign p c vs v q) : Aside p c vs v U d₀ d' where
  kept := Aside.kept_of_spares hs ha hp hv h hroads hd fun q hq => (hW q hq).imp_right .inr
  machine q hq b := by
    rw [hd.get?_eq (fun hc => ?_) (hp.machine hq)]
    · exact h.machine q hq b
    · exact (hW q hc).elim (hq.not_copy hs) (Foreign.not_machine hs ha hp hq)

include hU hrun

/-- Building writes the machine files and touches them in no other way. -/
theorem build_machine (hv' : v' ∈ vs) (d : Disk) :
    Keeps (fun w => Spares U (Roads p) (Turf p c v') d w.disk ∧
      ∀ q, Machine p q → ∀ b, Disk.written (w.disk.get? q) b = Disk.written (d.get? q) b)
      (Build.run o p.buildOptions c t v'.label) := by
  refine (Build.run_within t).keeps fun w₁ w₂ hstep ⟨hspares, hmachine⟩ => ?_
  have hkeep {d' : Disk} {T : Place → Prop} (hd' : Spares U (Roads p) T w₁.disk d') (hT : ∀ q, Machine p q → ¬ T q) :
      ∀ q, Machine p q → ∀ b, Disk.written (d'.get? q) b = Disk.written (d.get? q) b := by
    intro q hq b
    rw [hd'.get?_eq (hT q hq) (hp.machine hq), hmachine q hq b]
  cases hstep with
  | noted w e he => exact ⟨hspares, hmachine⟩
  | clocked w => exact ⟨hspares, hmachine⟩
  | ran hact w =>
    rename_i cmd
    have hstays := build_stays (v := v') hs ha hU hact
    have hafter := (hrun w₁ cmd hspares.sound).spares (N := Roads p)
    refine ⟨hspares.trans (hafter.mono hstays.touches), hkeep hafter fun q hq => ?_⟩
    cases hact with
    | step profile step arguments =>
      rintro (⟨dir, hdir, hbelow⟩ | ⟨log, hlog, heq⟩ | ⟨hnone, -⟩)
      · cases hdir
        exact hq.not_copy hs hbelow
      · cases hlog
        obtain ⟨n, hn, hdot, hhead, -, hplace⟩ := hq.exists_name hs
        refine Outlet.not_beside (k := .log step) hs ha hp hv' hn hdot hhead ?_
        rw [← hplace, heq]
        exact List.prefix_refl _
      · cases hnone
  | changed hact hdoes =>
    have hstays := build_stays (v := v') hs ha hU hact
    refine ⟨hspares.trans (hdoes.spares hstays.opens hspares.sound hstays.touches hstays.makes), ?_⟩
    cases hact with
    | chamber =>
      have hroads := hdoes.spares (N := Roads p) (W := fun _ => False) hstays.opens hspares.sound (fun _ h => h)
        fun q hq => .inl (.inl hq)
      exact hkeep hroads fun _ _ h => h
    | cross =>
      cases hdoes with
      | write h => exact fun q hq b => (written_write h q b).trans (hmachine q hq b)
    | native =>
      cases hdoes with
      | write h => exact fun q hq b => (written_write h q b).trans (hmachine q hq b)
    | clear =>
      have hclear := hdoes.spares (N := Roads p) hstays.opens hspares.sound (fun _ h => h) fun q hq => hq.elim
      exact hkeep hclear fun q hq hbelow => hq.not_copy hs ((build_below hs ha).trans hbelow)
    | step profile step arguments => cases hdoes

/-- Whatever becomes of another variant, what it leaves is aside. -/
theorem Pipeline.aside (hv : v ∈ vs) (hv' : v' ∈ vs) (hne : v' ≠ v) {d₀ : Disk} {out : Outcome}
    (hroads : ∀ q, Roads p q → d₀.get? q = some .directory) (h : Aside p c vs v U d₀ w.disk)
    (hx : Pipeline o p t c v' w out w') : Aside p c vs v U d₀ w'.disk := by
  have hreset {r : Except Failure Unit} {w w' : World} (h : Aside p c vs v U d₀ w.disk)
      (hx : runOn w (Source.reset o c) = (r, w')) : Aside p c vs v U d₀ w'.disk :=
    Aside.step hs ha hp hv h hroads ((reset_sparing hrun).runOn h.kept.sound hx) fun _ => .inl
  have hcast {r : Except Failure Unit} {w w' : World} (h : Aside p c vs v U d₀ w.disk)
      (hx : runOn w (castAll o p c v' v'.spells) = (r, w')) : Aside p c vs v U d₀ w'.disk :=
    Aside.step hs ha hp hv h hroads ((cast_sparing hs ha hU hrun hv').runOn h.kept.sound hx) fun _ => .inl
  have hbuild {r : Except Failure BuildResult} {w w' : World} (h : Aside p c vs v U d₀ w.disk)
      (hx : runOn w (Build.run o p.buildOptions c t v'.label) = (r, w')) : Aside p c vs v U d₀ w'.disk := by
    have hafter := build_machine (t := t) hs ha hp hU hrun hv' w.disk w ⟨.refl h.kept.sound, fun _ _ _ => rfl⟩
    rw [hx] at hafter
    exact ⟨Aside.kept_of_spares hs ha hp hv h hroads hafter.1 fun q hq => hq.disturbed hv' hne,
      fun q hq b => (hafter.2 q hq b).trans (h.machine q hq b)⟩
  have hpackage {r : Except Failure PackagedArtifact} {b : BuildResult} {w₀ w w' : World}
      (h : Aside p c vs v U d₀ w.disk) (hb : runOn w₀ (Build.run o p.buildOptions c t v'.label) = (.ok b, w))
      (hx : runOn w (Package.run o p.packageOptions b.artifact c v'.label) = (r, w')) :
      Aside p c vs v U d₀ w'.disk := by
    rw [Build.run_artifact w₀ b w hb] at hx
    exact Aside.step hs ha hp hv h hroads ((package_sparing hs ha hU hrun hv').runOn h.kept.sound hx)
      fun q hq => .inr (hq.foreign hv' hne)
  cases hx with
  | notReset h₁ => exact hreset h h₁
  | notBuilt h₁ h₂ h₃ => exact hbuild (hcast (hreset h h₁) h₂) h₃
  | notPackaged h₁ h₂ h₃ h₄ => exact hpackage (hbuild (hcast (hreset h h₁) h₂) h₃) h₃ h₄
  | made h₁ h₂ h₃ h₄ => exact hpackage (hbuild (hcast (hreset h h₁) h₂) h₃) h₃ h₄

end Others

end Run

namespace Run

variable {o : Outside} {p : Plan} {t : Toolchain} {c : WorkingCopy} {C O : List Part} {vs : List Variant}
  {v : Variant} {here : String} {q : Place} {V V' : Place → Prop} {d d' d₀ : Disk} {w w' : World}

/-! ## Resetting -/

/-- Whether two disks look alike at some places, writing the machine files comes to the same, and a build directory
can be cleared on both or on neither. -/
structure Beside (p : Plan) (c : WorkingCopy) (vs : List Variant) (v : Variant) (here : String) (V : Place → Prop)
    (d d' : Disk) : Prop where
  twin : Twin true (Tracks p c vs v here) V d d'
  home : home d = here
  machine : ∀ q, Machine p q → ∀ b, Disk.written (d.get? q) b = Disk.written (d'.get? q) b
  build : Slack (d.get? (placeOf (Path.join [c.root, p.buildOptions.directory])))
    (d'.get? (placeOf (Path.join [c.root, p.buildOptions.directory])))

theorem slack_of_both {e₀ e e' : Option Entry} (h : Slack e₀ e) (h' : Slack e₀ e') : Slack e e' := by
  rcases h with rfl | ⟨h₀, h⟩
  · exact h'
  · rcases h' with rfl | ⟨-, h'⟩
    · exact .inr ⟨h, h₀⟩
    · exact .inr ⟨h, h'⟩

/-- Disks that others may have made of one disk look alike once the working copy was put back. -/
theorem Aside.beside (h : Aside p c vs v (Tracks p c vs v (home d₀)) d₀ d) (hr : Restored p c d₀ d)
    (h' : Aside p c vs v (Tracks p c vs v (home d₀)) d₀ d') (hr' : Restored p c d₀ d') :
    Beside p c vs v (home d₀) (fun q => ¬ Veiled p c vs v q) d d' where
  twin :=
    { here := h.kept.here.trans h'.kept.here.symm
      alike := fun q hq => by
        rw [Veiled, not_or, not_or] at hq
        left
        by_cases hcopy : placeOf c.root <+: q
        · rw [hr.copy q hcopy hq.1, hr'.copy q hcopy hq.1]
        · have hout : ¬ (placeOf c.root <+: q ∨ Machine p q ∨ Foreign p c vs v q) :=
            not_or.2 ⟨hcopy, not_or.2 hq.2⟩
          rw [h.kept.outside q hout, h'.kept.outside q hout]
      sound := h.kept.sound
      sound' := h'.kept.sound }
  home := by rw [home, h.kept.here, home]
  machine q hq b := (h.machine q hq b).trans (h'.machine q hq b).symm
  build := slack_of_both hr.build hr'.build

theorem output_ok {arguments : List String} (h : EndsWell o w (Git.command (some c.root) arguments)) :
    ∃ text, runOn w (Git.output o (some c.root) arguments) =
      (.ok text, afterRun o w (Git.command (some c.root) arguments)) := by
  obtain ⟨r, hr, hok⟩ := h
  have hrun : runOn w (Git.run o (some c.root) arguments) =
      (.ok r, afterRun o w (Git.command (some c.root) arguments)) := by
    rw [Git.run, runOn_run, hr]
  refine ⟨r.output, ?_⟩
  rw [Git.output, runOn_bind_ok hrun, if_pos hok]
  rfl

/-- A variant is reset to what was fetched, however far others got before it. -/
theorem reset_restores (hs : Sited p c C O) (ha : Separate p c vs) (hp : Spread p c vs) (hv : v ∈ vs)
    (ho : Isolated o p t c vs v d₀) (hroads : ∀ q, Roads p q → d₀.get? q = some .directory) (hlive : w.cancelled = false)
    (h : Aside p c vs v (Tracks p c vs v (home d₀)) d₀ w.disk) :
    ∃ w₁, runOn w (Source.reset o c) = (.ok (), w₁) ∧ w₁.cancelled = false ∧
      Aside p c vs v (Tracks p c vs v (home d₀)) d₀ w₁.disk ∧ Restored p c d₀ w₁.disk := by
  let start : World := said w [.logged .info "resetting source tree" none]
  let w₁ := afterRun o start (Git.command (some c.root) ["reset", "--hard", c.baseRevision])
  let w₂ := afterRun o w₁ (Git.command (some c.root) ["clean", "-fd"])
  obtain ⟨hreset, hclean⟩ := ho.reset start h.kept
  obtain ⟨hclean, hrestored⟩ := hclean w₁ rfl
  obtain ⟨_, hreset⟩ := output_ok hreset
  obtain ⟨_, hclean⟩ := output_ok hclean
  have hrun : runOn w (Source.reset o c) = (.ok (), w₂) := by
    rw [Source.reset, runOn_bind_ok (runOn_log ..), Git.resetHard]
    exact (runOn_bind_ok hreset).trans ((runOn_bind_ok hclean).trans (runOn_pure ..))
  refine ⟨w₂, hrun, by simp [afterRun, w₂, w₁, start, said, hlive, ho.cancels], ?_, hrestored⟩
  exact Aside.step hs ha hp hv h hroads ((reset_sparing ho.minds).runOn h.kept.sound hrun) fun _ => .inl

/-! ## What stays beside -/

theorem Beside.step (h : Beside p c vs v here V d d') {d₁ d₁' : Disk}
    (ht : Twin true (Tracks p c vs v here) V' d₁ d₁') (hhere : d₁.here = d.here)
    (hm : ∀ q, Machine p q → ∀ b, Disk.written (d₁.get? q) b = Disk.written (d.get? q) b)
    (hm' : ∀ q, Machine p q → ∀ b, Disk.written (d₁'.get? q) b = Disk.written (d'.get? q) b)
    (hb : d₁.get? (placeOf (Path.join [c.root, p.buildOptions.directory])) =
      d.get? (placeOf (Path.join [c.root, p.buildOptions.directory])))
    (hb' : d₁'.get? (placeOf (Path.join [c.root, p.buildOptions.directory])) =
      d'.get? (placeOf (Path.join [c.root, p.buildOptions.directory]))) : Beside p c vs v here V' d₁ d₁' where
  twin := ht
  home := by rw [← h.home, Run.home, Run.home, hhere]
  machine q hq b := (hm q hq b).trans ((h.machine q hq b).trans (hm' q hq b).symm)
  build := by
    rw [hb, hb']
    exact h.build

/-- Whether a place is in the working copy but not in the build directory. -/
def Tended (p : Plan) (c : WorkingCopy) (q : Place) : Prop :=
  placeOf c.root <+: q ∧ ¬ placeOf (Path.join [c.root, p.buildOptions.directory]) <+: q

theorem Beside.tend (hs : Sited p c C O) (h : Beside p c vs v here V d d') {d₁ d₁' : Disk}
    (ht : Twin true (Tracks p c vs v here) V' d₁ d₁') (hk : Kept (Tracks p c vs v here) (Tended p c) d d₁)
    (hk' : Kept (Tracks p c vs v here) (Tended p c) d' d₁') : Beside p c vs v here V' d₁ d₁' := by
  have hm {d d₁ : Disk} (hk : Kept (Tracks p c vs v here) (Tended p c) d d₁) (q : Place) (hq : Machine p q)
      (b : ByteArray) : Disk.written (d₁.get? q) b = Disk.written (d.get? q) b := by
    rw [hk.outside q fun hc => hq.not_copy hs hc.1]
  exact h.step ht hk.here (hm hk) (hm hk') (hk.outside _ fun hc => hc.2 (List.prefix_refl _))
    (hk'.outside _ fun hc => hc.2 (List.prefix_refl _))

section Steps

variable (hs : Sited p c C O) (ha : Separate p c vs) (hp : Spread p c vs) (hv : v ∈ vs)
include hs ha hp hv

/-- Nothing is veiled on the way to what is in the working copy but not in the build directory. -/
theorem open_tended {U : Place → Prop} {path : String} (ho : Open U path) (ht : Tended p c (placeOf path)) :
    Open (fun q => ¬ Veiled p c vs v q) path := by
  exact ⟨ho.straight, fun q hq => Veiled.not_above hs ha hp hv ht.1 hq fun hb => ht.2 (hb.trans hq)⟩

end Steps

/-! ## Casting spells -/

theorem here_matched {β : Type} {R T : World → World → Prop} {F : β → β → Prop} {g g' : String → Forge β}
    (hR : ∀ w w', R w w' → home w.disk = here ∧ home w'.disk = here) (hg : Matched R T F (g here) (g' here)) :
    Matched R T F (Forge.here >>= g) (Forge.here >>= g') := by
  intro w w' hw
  obtain ⟨h, h'⟩ := hR w w' hw
  rw [runOn_bind_ok (runOn_here w), runOn_bind_ok (runOn_here w')]
  have := hg w w' hw
  rw [home] at h h'
  rwa [h, h']

theorem warn_matched {Q : Disk → Disk → Prop} (x : Warning) : Matched (Live Q) (Live Q) Eq (warn x) (warn x) :=
  (Matched.warn x).then fun _ => .log _ _ _ _

theorem report_matched {Q : Disk → Disk → Prop} (s : Spell) (out : CastOutcome) :
    Matched (Live Q) (Live Q) Eq (report v s out) (report v s out) := by
  have last : Matched (Live Q) (Live Q) Eq (reportUnmatched v s out) (reportUnmatched v s out) := by
    rw [reportUnmatched]
    split
    · exact warn_matched _
    · exact .pure rfl
  rw [report]
  split
  · exact (warn_matched _).then fun _ => last
  · exact (warn_matched _).then fun _ => last
  · exact (Matched.log _ _ _ _).then fun _ => last

/-- Whether two disks look alike but for what is veiled. -/
abbrev Unveiled (p : Plan) (c : WorkingCopy) (vs : List Variant) (v : Variant) (here : String) (d d' : Disk) : Prop :=
  Beside p c vs v here (fun q => ¬ Veiled p c vs v q) d d'

section Spells

variable (hs : Sited p c C O) (ha : Separate p c vs) (hp : Spread p c vs) (hv : v ∈ vs)
  (ho : Isolated o p t c vs v d₀) (hsec : Secluded p c vs v d₀) (hpatches : PatchesApart p c vs v (home d₀))
  {s : Spell} (hspell : s ∈ v.spells)
include hs ho

section Spell

include hspell

/-- Commands of a spell come to the same. -/
theorem git_matched {arguments : List String}
    (hcmd : Git.command (some c.root) arguments ∈ Spell.commands (home d₀) p.config.spellsDir c s) :
    Matched (Live (Unveiled p c vs v (home d₀))) (Live (Unveiled p c vs v (home d₀))) Eq
      (Git.run o (some c.root) arguments) (Git.run o (some c.root) arguments) := by
  obtain ⟨hblind, hspares⟩ := ho.spells s hspell _ hcmd
  have hkept {w : World} (hd : Sound (Tracks p c vs v (home d₀)) w.disk) : Kept (Tracks p c vs v (home d₀))
      (Tended p c) w.disk (o.run w (Git.command (some c.root) arguments)).disk := by
    have hminds := ho.minds w (Git.command (some c.root) arguments) hd
    refine ⟨hminds.here, fun q hq => ?_, hminds.sound⟩
    by_cases hbuild : placeOf (Path.join [c.root, p.buildOptions.directory]) <+: q
    · exact hspares w hd q hbuild
    · refine hminds.outside q ?_
      rintro (⟨dir, hdir, hbelow⟩ | ⟨log, hlog, -⟩ | ⟨hnone, -⟩)
      · cases hdir
        exact hq ⟨hbelow, hbuild⟩
      · cases hlog
      · cases hnone
  refine .run ho.cancels fun w w' hw => ?_
  obtain ⟨hresult, hlooks⟩ := hblind w w' ⟨hw.disks.twin, hw.live, hw.live'⟩
  have hk := hkept hw.disks.twin.sound
  have hk' := hkept hw.disks.twin.sound'
  exact ⟨hresult, hw.disks.tend hs ⟨hlooks, hk.sound, hk'.sound⟩ hk hk'⟩

theorem succeeds_matched {arguments : List String}
    (hcmd : Git.command (some c.root) arguments ∈ Spell.commands (home d₀) p.config.spellsDir c s) :
    Matched (Live (Unveiled p c vs v (home d₀))) (Live (Unveiled p c vs v (home d₀))) Eq
      (Git.succeeds o c.root arguments) (Git.succeeds o c.root arguments) :=
  (git_matched hs ho hspell hcmd).then fun _ => .pure rfl

omit ho in
include ha hp hv hsec in
theorem castEdit_matched {file : String} {marker : Text} {rules : List Rule} (hwork : s.work = .edit file marker rules) :
    Matched (Live (Unveiled p c vs v (home d₀))) (Live (Unveiled p c vs v (home d₀))) Eq
      (Spell.castEdit c s file marker rules) (Spell.castEdit c s file marker rules) := by
  have hfile : file ∈ s.edited? := Option.mem_def.2 (by rw [Spell.edited?, hwork])
  have hedit := hs.edit (ha.edit hv hspell hwork)
  have htended : Tended p c (placeOf (Spell.editPath c file)) :=
    ⟨below_copy hs _ hedit, hsec.edits s hspell file hfile⟩
  have hopen : Open (Tracks p c vs v (home d₀)) (Spell.editPath c file) :=
    (Treads.uses (.edit hv hspell hwork)).opens hs ha hsec.target
  have hseen := open_tended (v := v) hs ha hp hv hopen htended
  refine (Matched.look fun d d' hd => hd.twin.isFile_eq hopen hseen).then fun there => .ite (.pure rfl) ?_
  have hread (d d' : Disk) (hd : Unveiled p c vs v (home d₀) d d') :
      Both Eq (d.read (Spell.editPath c file)) (d'.read (Spell.editPath c file)) :=
    (hd.twin.read_both hopen hseen).mono fun _ _ h => h rfl
  refine (Matched.readFile hread).then fun bytes => .ite (.pure rfl) ?_
  have hrules (content : Text) : Matched (Live (Unveiled p c vs v (home d₀))) (Live (Unveiled p c vs v (home d₀))) Eq
      (Spell.applyRules content rules) (Spell.applyRules content rules) := by
    rw [Spell.applyRules]
    split
    · exact .pure rfl
    · exact .throw _
  refine (hrules _).then fun edited => ?_
  refine (Matched.forIn fun rule _ => (Matched.log _ _ _ _).then fun _ => .pure rfl).then fun _ => ?_
  refine (Matched.change fun d d' hd => ?_).then fun _ => .pure rfl
  refine (hd.twin.write hopen hseen fun _ => rfl).imp fun d₁ d₁' h₁ h₁' ht => hd.tend hs ht ?_ ?_
  · exact (write_kept hd.twin.sound hopen h₁).mono fun q hq => hq ▸ htended
  · exact (write_kept hd.twin.sound' hopen h₁').mono fun q hq => hq ▸ htended

include ha hsec hpatches in
theorem castPatch_matched {file : String} (hwork : s.work = .patch file) :
    Matched (Live (Unveiled p c vs v (home d₀))) (Live (Unveiled p c vs v (home d₀))) Eq
      (Spell.castPatch o p.config.spellsDir c s file) (Spell.castPatch o p.config.spellsDir c s file) := by
  have hfile : file ∈ s.patch? := Option.mem_def.2 (by rw [Spell.patch?, hwork])
  have hopen : Open (Tracks p c vs v (home d₀)) (Spell.patchPath (home d₀) p.config.spellsDir file) :=
    (Treads.patch hspell hfile).opens hs ha hsec.target
  obtain ⟨huntouched, hbuild⟩ := hpatches s hspell file hfile
  have hseen : Open (fun q => ¬ Veiled p c vs v q) (Spell.patchPath (home d₀) p.config.spellsDir file) :=
    ⟨hopen.straight, fun q hq => huntouched.not_veiled hbuild hq⟩
  have hcmd {arguments : List String}
      (h : arguments ∈ [["apply", "--reverse", "--check", Spell.patchPath (home d₀) p.config.spellsDir file],
        ["apply", "--check", Spell.patchPath (home d₀) p.config.spellsDir file],
        ["apply", Spell.patchPath (home d₀) p.config.spellsDir file],
        ["apply", "--3way", Spell.patchPath (home d₀) p.config.spellsDir file]]) :
      Git.command (some c.root) arguments ∈ Spell.commands (home d₀) p.config.spellsDir c s := by
    rw [Spell.commands, hwork]
    exact List.mem_map_of_mem h
  have hmerge : Matched (Live (Unveiled p c vs v (home d₀))) (Live (Unveiled p c vs v (home d₀))) Eq
      (do
        Forge.log .warn s!"spell may conflict, trying 3-way merge: {s.id}"
        let merged ← Git.apply o c.root (Spell.patchPath (home d₀) p.config.spellsDir file) true
        if merged.succeeded then return s.outcome .applied "applied with 3-way merge"
        return s.outcome .partiallyApplied merged.failure)
      (do
        Forge.log .warn s!"spell may conflict, trying 3-way merge: {s.id}"
        let merged ← Git.apply o c.root (Spell.patchPath (home d₀) p.config.spellsDir file) true
        if merged.succeeded then return s.outcome .applied "applied with 3-way merge"
        return s.outcome .partiallyApplied merged.failure) :=
    (Matched.log _ _ _ _).then fun _ =>
      (git_matched hs ho hspell (hcmd (by simp))).then fun _ => .ite (.pure rfl) (.pure rfl)
  refine here_matched (fun w w' hw => ⟨hw.disks.home, ?_⟩) ?_
  · rw [home, ← hw.disks.twin.here]
    exact hw.disks.home
  refine (Matched.look fun d d' hd => hd.twin.isFile_eq hopen hseen).then fun there => .ite (.pure rfl) ?_
  refine (succeeds_matched hs ho hspell (hcmd (by simp))).then fun already => .ite (.pure rfl) ?_
  refine (succeeds_matched hs ho hspell (hcmd (by simp))).then fun fits => .ite ?_ hmerge
  exact (git_matched hs ho hspell (hcmd (by simp))).then fun _ => .ite (.pure rfl) hmerge

theorem castMerge_matched {remote ref : String} (hwork : s.work = .mergeRequest remote ref) :
    Matched (Live (Unveiled p c vs v (home d₀))) (Live (Unveiled p c vs v (home d₀))) Eq
      (Spell.castMerge o c s remote ref) (Spell.castMerge o c s remote ref) := by
  have hcmd {arguments : List String} (h : arguments ∈ [Git.fetchArguments remote (some ref) none,
      ["merge-base", "--is-ancestor", "FETCH_HEAD", "HEAD"], ["merge", "--no-edit", "FETCH_HEAD"],
      ["merge", "--abort"]]) :
      Git.command (some c.root) arguments ∈ Spell.commands (home d₀) p.config.spellsDir c s := by
    rw [Spell.commands, hwork]
    exact List.mem_map_of_mem h
  have hfetch : Matched (Live (Unveiled p c vs v (home d₀))) (Live (Unveiled p c vs v (home d₀))) Eq
      (Git.fetch o c.root remote (some ref) none) (Git.fetch o c.root remote (some ref) none) := by
    refine Matched.then ?_ fun _ => .pure rfl
    exact (git_matched hs ho hspell (hcmd (by simp))).then fun _ => .ite (.pure rfl) (.throw _)
  refine hfetch.attempt.bind (fun r r' hr => ?_) fun _ _ h => h
  rcases hr.cases with ⟨_, _, rfl, rfl, -⟩ | ⟨f, rfl, rfl⟩
  · refine (succeeds_matched hs ho hspell (hcmd (by simp))).then fun merged => .ite (.pure rfl) ?_
    refine (git_matched hs ho hspell (hcmd (by simp))).then fun r => .ite (.pure rfl) ?_
    have habort : Matched (Live (Unveiled p c vs v (home d₀))) (Live (Unveiled p c vs v (home d₀))) Eq
        (Git.mergeAbort o c.root) (Git.mergeAbort o c.root) :=
      (git_matched hs ho hspell (hcmd (by simp))).then fun _ => .pure rfl
    exact habort.then fun _ => .pure rfl
  · exact .pure rfl

include ha hp hv hsec hpatches in
/-- A spell comes to the same outcome. -/
theorem cast_matched : Matched (Live (Unveiled p c vs v (home d₀))) (Live (Unveiled p c vs v (home d₀))) Eq
    (Spell.cast o p.config.spellsDir c s) (Spell.cast o p.config.spellsDir c s) := by
  refine (Matched.log _ _ _ _).then fun _ => ?_
  refine Matched.bind (E := Both Eq) (Matched.attempt ?_) (fun r r' hr => ?_) fun _ _ h => h
  · cases hw : s.work with
    | edit file marker rules => exact castEdit_matched hs ha hp hv hsec hspell hw
    | patch file => exact castPatch_matched hs ha ho hsec hpatches hspell hw
    | mergeRequest remote ref => exact castMerge_matched hs ho hspell hw
  · rcases hr.cases with ⟨out, _, rfl, rfl, rfl⟩ | ⟨f, rfl, rfl⟩
    · exact .pure rfl
    · exact .pure rfl

end Spell

include ha hp hv hsec hpatches in
/-- Spells that are cast in order come to the same outcomes. -/
theorem outcomes_matched {l : List Spell} (hl : ∀ s ∈ l, s ∈ v.spells) {outs outs' : List CastOutcome} {w₁ w₁' : World}
    (hw : Live (Unveiled p c vs v (home d₀)) w w') (h : Outcomes o p c v w l outs w₁)
    (h' : Outcomes o p c v w' l outs' w₁') : outs = outs' ∧ Live (Unveiled p c vs v (home d₀)) w₁ w₁' := by
  induction h generalizing outs' w' with
  | nil w =>
    cases h'
    exact ⟨rfl, hw⟩
  | @cons s rest out outs _ _ _ _ hcast hreport _ ih =>
    cases h' with
    | cons hcast' hreport' hrest' =>
      have hs' := hl s (List.mem_cons_self ..)
      obtain ⟨rfl, hw₁⟩ := (cast_matched hs ha hp hv ho hsec hpatches hs').of_ok hw hcast hcast'
      obtain ⟨-, hw₂⟩ := (report_matched s out).of_ok hw₁ hreport hreport'
      obtain ⟨rfl, hw₃⟩ := ih (fun s hs => hl s (List.mem_cons_of_mem _ hs)) hw₂ hrest'
      exact ⟨rfl, hw₃⟩

end Spells

end Run

end VariantForge
