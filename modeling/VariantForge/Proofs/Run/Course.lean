import VariantForge.Proofs.Disk.Operations
import VariantForge.Proofs.Run.Rounds
import VariantForge.Proofs.Source.Candidates

/-!
# The course of a run — which commands are issued, and where they stop

A variant's commands are those of its reset, of its spells in order, of its build, and the one that
names the library. `Course` says how far a variant may get and what its outcome is where it stops:
a command of the reset, of the build or of the package that fails is the last one, one of a spell is
not. Each part of the pipeline has one lemma that says what it issues; `Visits` strings the courses
of a run's variants together (`run_course`).
-/

namespace VariantForge

open Forge

variable {o : Outside}

/-! ## Resetting -/

namespace Git

/-- The commands that put a working copy back to a revision. -/
def resetCommands (root revision : String) : List Command :=
  [command (some root) ["reset", "--hard", revision], command (some root) ["clean", "-fd"]]

theorem resetHard_chained (root revision : String) :
    Chained o isCommand (resetCommands root revision) (resetHard o root revision) :=
  (output_chained (fun _ => rfl) _ _).bind fun _ => (output_chained (fun _ => rfl) _ _).bind fun _ => .pure _

end Git

/-- The commands of a variant's reset. -/
def Source.resetCommands (c : WorkingCopy) : List Command := Git.resetCommands c.root c.baseRevision

theorem Source.reset_chained (c : WorkingCopy) : Chained o isCommand (resetCommands c) (reset o c) :=
  fun _ => .log_bind rfl (Git.resetHard_chained _ _ _)

/-! ## Casting spells -/

namespace Git

theorem run_issues (directory : Option String) (arguments : List String) :
    Issues o [command directory arguments] (run o directory arguments) :=
  .run _

theorem succeeds_issues (root : String) (arguments : List String) :
    Issues o [command (some root) arguments] (succeeds o root arguments) :=
  (run_issues _ _).bind fun _ => .pure []

theorem output_issues (directory : Option String) (arguments : List String) :
    Issues o [command directory arguments] (output o directory arguments) := by
  have hend (r : CommandResult) :
      Issues o [] (if r.succeeded then pure r.output else throw (.git arguments r)) :=
    .ite (.pure _) (.of_quiet (.of_journal fun _ => rfl) _)
  exact (run_issues _ _).bind hend

end Git

namespace Spell

/-- The commands that a spell may issue, in order; `here` is the directory that relative paths start
from. -/
def commands (here dir : String) (c : WorkingCopy) (s : Spell) : List Command :=
  match s.work with
  | .edit .. => []
  | .patch file =>
    let patch := patchPath here dir file
    [["apply", "--reverse", "--check", patch], ["apply", "--check", patch], ["apply", patch],
      ["apply", "--3way", patch]].map (Git.command (some c.root))
  | .mergeRequest remote ref =>
    [Git.fetchArguments remote (some ref) none, ["merge-base", "--is-ancestor", "FETCH_HEAD", "HEAD"],
      ["merge", "--no-edit", "FETCH_HEAD"], ["merge", "--abort"]].map (Git.command (some c.root))

variable {c : WorkingCopy}

theorem castEdit_issues (s : Spell) (file : String) (marker : Text) (rules : List Rule) :
    Issues o [] (castEdit c s file marker rules) := by
  have hedit : Within o (fun a => a = .write (editPath c file)) (castEdit c s file marker rules) :=
    castEdit_within s marker rules rfl
  exact .of_quiet (hedit.quiet (by simp) fun _ => isCommand_iff.1) _

theorem castPatch_issues (dir : String) (s : Spell) {file : String} (hs : s.work = .patch file)
    (w : World) :
    Yields o isCommand w (castPatch o dir c s file) fun l _ _ =>
      ∃ here, (l.map Moment.event).Sublist ((commands here dir c s).map .ran) := by
  let here := "/" ++ "/".intercalate w.disk.here
  let patch := patchPath here dir file
  -- what is tried last, whether the patch does not fit or does not go in
  have merge : Issues o [Git.command (some c.root) ["apply", "--3way", patch]] (do
      Forge.log .warn s!"spell may conflict, trying 3-way merge: {s.id}"
      let merged ← Git.apply o c.root patch true
      if merged.succeeded then return s.outcome .applied "applied with 3-way merge"
      return s.outcome .partiallyApplied merged.failure) :=
    (Issues.log []).bind fun _ => (Git.run_issues _ _).bind fun _ => .ite (.pure []) (.pure [])
  have htry : Issues o ([["apply", "--reverse", "--check", patch], ["apply", "--check", patch],
      ["apply", patch], ["apply", "--3way", patch]].map (Git.command (some c.root))) (do
      if !(← Forge.look (·.isFile patch)) then return s.outcome .notFound s!"spell not found: {file}"
      if ← Git.applyCheck o c.root patch true then
        return s.outcome .alreadyApplied "patch already present"
      if ← Git.applyCheck o c.root patch false then
        if (← Git.apply o c.root patch false).succeeded then
          return s.outcome .applied "applied cleanly"
      Forge.log .warn s!"spell may conflict, trying 3-way merge: {s.id}"
      let merged ← Git.apply o c.root patch true
      if merged.succeeded then return s.outcome .applied "applied with 3-way merge"
      return s.outcome .partiallyApplied merged.failure) := by
    refine (Issues.of_quiet (.of_journal fun _ => rfl) []).bind fun there => .ite (.pure _) ?_
    refine (Git.succeeds_issues _ _).bind fun already => .ite (.pure _) ?_
    refine (Git.succeeds_issues _ _).bind fun fits => .ite ?_ (merge.mono (by simp))
    exact (Git.run_issues _ _).bind fun r => .ite (.pure _) merge
  refine Quiet.skip (.of_journal fun _ => rfl) (fun a w' h => ?_) fun f w' h => ?_
  · rw [runOn_here] at h
    cases h
    refine (htry w).mono fun l r w'' _ hl => ⟨here, ?_⟩
    rw [commands, hs]
    exact hl
  · rw [runOn_here] at h
    cases h

theorem castMerge_issues (s : Spell) (remote ref : String) :
    Issues o ([Git.fetchArguments remote (some ref) none,
      ["merge-base", "--is-ancestor", "FETCH_HEAD", "HEAD"], ["merge", "--no-edit", "FETCH_HEAD"],
      ["merge", "--abort"]].map (Git.command (some c.root))) (castMerge o c s remote ref) := by
  have hfetch : Issues o [Git.command (some c.root) (Git.fetchArguments remote (some ref) none)]
      (Git.fetch o c.root remote (some ref) none) :=
    (Git.output_issues _ _).bind fun _ => .pure []
  refine hfetch.attempt.bind fun fetched => ?_
  cases fetched with
  | error f => exact .pure _
  | ok _ =>
    refine (Git.succeeds_issues _ _).bind fun merged => .ite (.pure _) ?_
    refine (Git.run_issues _ _).bind fun r => .ite (.pure _) ?_
    have habort : Issues o [Git.command (some c.root) ["merge", "--abort"]] (Git.mergeAbort o c.root) :=
      (Git.run_issues _ _).bind fun _ => .pure []
    exact habort.bind fun _ => .pure []

/-- A spell issues its own commands only, and however they end there is an outcome. -/
theorem cast_yields (dir : String) (s : Spell) (w : World) :
    Yields o isCommand w (cast o dir c s) fun l r _ =>
      (∃ here, (l.map Moment.event).Sublist ((commands here dir c s).map .ran)) ∧
        ∃ outcome, r = .ok outcome := by
  let Own (l : List Moment) : Prop :=
    ∃ here, (l.map Moment.event).Sublist ((commands here dir c s).map .ran)
  have hwork (w : World) : Yields o isCommand w (match s.work with
      | .edit file marker rules => castEdit c s file marker rules
      | .patch file => castPatch o dir c s file
      | .mergeRequest remote ref => castMerge o c s remote ref) fun l _ _ => Own l := by
    cases hs : s.work with
    | edit file marker rules =>
      exact (castEdit_issues s file marker rules w).mono fun l _ _ _ hl =>
        ⟨"", by rw [commands, hs]; exact hl⟩
    | patch file => exact castPatch_issues dir s hs w
    | mergeRequest remote ref =>
      exact (castMerge_issues s remote ref w).mono fun l _ _ _ hl =>
        ⟨"", by rw [commands, hs]; exact hl⟩
  have hend (w : World) : Yields o isCommand w (attempt _) fun l r _ => Own l ∧ ∃ r', r = .ok r' :=
    .attempt ((hwork w).mono fun l r w' _ hl => ⟨hl, r, rfl⟩)
  refine .log_bind rfl ((hend _).bind ?_ ?_)
  · rintro l r w' ⟨hl, -⟩
    cases r with
    | error f => exact .pure ⟨by rwa [List.append_nil], _, rfl⟩
    | ok outcome => exact .pure ⟨by rwa [List.append_nil], _, rfl⟩
  · rintro l f w' ⟨-, r', hr⟩
    cases hr

/-- Moments in which spells were cast in order, each issuing its own commands only. -/
inductive Casts (dir : String) (c : WorkingCopy) : List Spell → List Moment → Prop where
  | nil : Casts dir c [] []
  | cons {s : Spell} {rest : List Spell} {here : String} {l l' : List Moment}
      (hfirst : (l.map Moment.event).Sublist ((s.commands here dir c).map .ran))
      (hrest : Casts dir c rest l') : Casts dir c (s :: rest) (l ++ l')

end Spell

theorem Run.castAll_yields (p : Plan) (c : WorkingCopy) (v : Variant) (spells : List Spell) (w : World) :
    Yields o isCommand w (castAll o p c v spells) fun l r _ =>
      Spell.Casts p.config.spellsDir c spells l ∧ r = .ok () := by
  induction spells generalizing w with
  | nil => exact .pure ⟨.nil, rfl⟩
  | cons s rest ih =>
    refine (Spell.cast_yields _ s w).bind ?_ ?_
    · rintro l outcome w' ⟨⟨here, hl⟩, -⟩
      have hreport : Within o (fun _ => False) (report v s outcome) := report_within v s outcome
      refine (hreport.quiet (fun _ h => h) fun _ => isCommand_iff.1).skip
        (fun _ w'' _ => (ih w'').mono fun l' r _ _ h => ⟨.cons hl h.1, h.2⟩) ?_
      intro f w'' hf
      obtain ⟨_, _, hok⟩ := report_total v s outcome w'
      cases hok.symm.trans hf
    · rintro l f w' ⟨-, _, h⟩
      cases h

/-! ## Building -/

namespace Build

variable {opts : BuildOptions} {c : WorkingCopy} {label : String}

/-- The commands of a build: one that configures it and one that compiles. -/
def commands (o : Outside) (opts : BuildOptions) (c : WorkingCopy) (t : Toolchain) (label : String) :
    List Command :=
  let p := Profile.derive t opts.profile
  [command o opts c label p .configure (configureArguments opts p),
    command o opts c label p .compile (compileArguments o opts)]

/-- Where a build leaves what it made. -/
def artifact (opts : BuildOptions) (c : WorkingCopy) : String :=
  Path.join [Path.join [c.root, opts.directory], opts.target]

/-- What the disk may answer when a build is made ready: the machine files cannot be written, or the
build directory cannot be cleared. -/
inductive Refused (opts : BuildOptions) (c : WorkingCopy) : DiskFault → Prop where
  | chamber {d : Disk} {fault : DiskFault} (h : (d.makeDirectories opts.chamber).2 = some fault) :
      Refused opts c fault
  | machineFile {d : Disk} {name : String} {bytes : ByteArray} {fault : DiskFault}
      (hname : name = crossFileName ∨ name = nativeFileName)
      (h : d.write (Path.join [opts.chamber, name]) bytes = .error fault) : Refused opts c fault
  | clear {d : Disk} {fault : DiskFault} (h : d.removeAll (Path.join [c.root, opts.directory]) = .error fault) :
      Refused opts c fault

/-- Whether a disk is as building leaves it: what holds once the build directory is removed, and what
the commands of some moments preserve, holds of it. -/
def Inherits (o : Outside) (opts : BuildOptions) (c : WorkingCopy) (l : List Moment) (d : Disk) : Prop :=
  ∀ K : Disk → Prop, (∀ d₀ d₁ : Disk, d₀.removeAll (Path.join [c.root, opts.directory]) = .ok d₁ → K d₁) →
    (∀ m ∈ l, ∀ cmd, m.event = .ran cmd → K m.world.disk → K (o.run m.world cmd).disk) → K d

theorem Inherits.cleared {d₀ d : Disk} (h : d₀.removeAll (Path.join [c.root, opts.directory]) = .ok d) :
    Inherits o opts c [] d :=
  fun _ hK _ => hK d₀ d h

theorem Inherits.command {l l' : List Moment} {w : World} {d d' : Disk} {cmd : Command}
    (h : Inherits o opts c l d) (hl : l' = l ++ [⟨w, .ran cmd⟩]) (hd : d' = (o.run w cmd).disk)
    (hw : w.disk = d) : Inherits o opts c l' d' := by
  subst hl hd hw
  intro K hK hkeep
  refine hkeep ⟨w, .ran cmd⟩ (by simp) cmd rfl (h K hK fun m hm => ?_)
  exact hkeep m (List.mem_append_left _ hm)

theorem logTail_still (path : String) (max : Number) (w : World) : (runOn w (logTail path max)).2 = w := by
  rw [logTail, runOn_bind_ok (runOn_attempt ..), runOn_readFile]
  cases w.disk.read path <;> rfl

/-- What a step fails with: with the log that its command was given, or as the command could not be run. -/
inductive Fails (o : Outside) (step : BuildStep) (label : String) (m : Moment) (cmd : Command) : Failure → Prop where
  | exited {log tail : String} (hlog : cmd.logFile = some log) : Fails o step label m cmd (.build step label log tail)
  | outside {f : Failure} (h : (o.run m.world cmd).result = .error f) : Fails o step label m cmd f

/-- A step issues its command at once and does nothing else to the disk. -/
theorem runStep_yields (p : Profile) (step : BuildStep) (arguments : List String) (tail : Number) (w : World) :
    Yields o isCommand w (runStep o opts c label p step arguments tail) fun l r w' =>
      l = [⟨w, .ran (command o opts c label p step arguments)⟩] ∧
        Chain o [command o opts c label p step arguments] l r.isOk ∧
        w'.disk = (o.run w (command o opts c label p step arguments)).disk ∧
        ∀ f, r = .error f → Fails o step label ⟨w, .ran (command o opts c label p step arguments)⟩
          (command o opts c label p step arguments) f := by
  refine .command_bind rfl (fun r hm hr => ?_) (fun r hm hr => ?_) fun f hm hf =>
    ⟨rfl, .failed hm, rfl, fun e he => ?_⟩
  · rw [if_neg (by simp [hr])]
    exact .pure ⟨rfl, .passed hm .nil, rfl, fun _ h => by cases h⟩
  · rw [if_pos (by simp [hr])]
    have htail : Within o (fun _ => False) (logTail (logPath opts step label) tail) := logTail_within _ _
    have hstill := logTail_still (logPath opts step label) tail
      (afterRun o w (command o opts c label p step arguments))
    refine (htail.quiet (fun _ h => h) fun _ => isCommand_iff.1).skip (fun text w' h => ?_) fun f w' h => ?_
    · rw [h] at hstill
      cases hstill
      refine .log_bind rfl (.throw ⟨rfl, .failed hm, rfl, fun e he => ?_⟩)
      cases he
      exact .exited rfl
    · rw [logTail, runOn_bind_ok (runOn_attempt ..)] at h
      split at h <;> cases h
  · cases he
    exact .outside hf

/-- Made ready, a build issues its two commands. -/
theorem run_yields (t : Toolchain) (w : World) :
    Yields o isCommand w (run o opts c t label) fun l r w' =>
      (∃ fault, Refused opts c fault ∧ l = [] ∧ r = .error (.disk fault)) ∨
        (Chain o (commands o opts c t label) l r.isOk ∧ (∀ built, r = .ok built → built.artifact = artifact opts c) ∧
          Inherits o opts c l w'.disk) := by
  refine .makeDirectories_bind (fun fault _ h => .inl ⟨fault, .chamber h, rfl, rfl⟩) fun w₁ _ => ?_
  refine .change_bind (fun fault h => .inl ⟨fault, .machineFile (.inl rfl) h, rfl, rfl⟩) fun d₂ _ => ?_
  refine .change_bind (fun fault h => .inl ⟨fault, .machineFile (.inr rfl) h, rfl, rfl⟩) fun d₃ _ => ?_
  refine .change_bind (fun fault h => .inl ⟨fault, .clear h, rfl, rfl⟩) fun d₄ hclear => ?_
  have hcleared : Inherits o opts c [] d₄ := .cleared hclear
  refine .log_bind rfl ((runStep_yields _ _ _ _ _).bind ?_ ?_)
  · rintro l _ w₅ ⟨hl, hchain, hdisk, -⟩
    have hfirst : Inherits o opts c l w₅.disk := hcleared.command hl hdisk rfl
    refine .log_bind rfl ((runStep_yields _ _ _ _ _).bind ?_ ?_)
    · rintro l' _ w₆ ⟨hl', hchain', hdisk', -⟩
      refine .pure (.inr ⟨?_, fun built h => ?_, ?_⟩)
      · rw [List.append_nil]
        exact hchain.append hchain' rfl
      · cases h
        rfl
      · rw [List.append_nil]
        exact hfirst.command (congrArg (l ++ ·) hl') hdisk' rfl
    · rintro l' f w₆ ⟨hl', hchain', hdisk', -⟩
      exact .inr ⟨hchain.append hchain' rfl, nofun, hfirst.command (congrArg (l ++ ·) hl') hdisk' rfl⟩
  · rintro l f w₅ ⟨hl, hchain, hdisk, -⟩
    exact .inr ⟨hchain.append_left rfl [_], nofun, hcleared.command hl hdisk rfl⟩

end Build

/-! ## Packaging -/

namespace Package

variable {opts : PackageOptions} {artifact label : String} {c : WorkingCopy}

/-- Where the library is copied to before it is named. -/
def stagedPath (opts : PackageOptions) (artifact label : String) : String :=
  Path.join [stagingDir opts label, Path.basename artifact]

/-- Whether the artifact was a file and has just been copied to its staging directory. -/
def Staged (opts : PackageOptions) (artifact label : String) (m : Moment) : Prop :=
  ∃ d : Disk, d.isFile artifact = true ∧ d.copy artifact (stagedPath opts artifact label) = .ok m.world.disk

/-- What a package fails with before its library is named: there is no artifact, or the disk gives
a fault. -/
inductive Unstaged (artifact label : String) : Failure → Prop where
  | missing : Unstaged artifact label (.artifactMissing artifact)
  | disk (fault : DiskFault) : Unstaged artifact label (.disk fault)
  | packaging (fault : DiskFault) : Unstaged artifact label (.packaging label fault.message)

/-- What packaging issues: nothing, where it fails before that, or the one command that names the
library. Where that command fails packaging does; where it succeeds there is more to do. -/
inductive Named (o : Outside) (opts : PackageOptions) (artifact label : String) (Stops : Failure → Prop) :
    {α : Type} → List Moment → Except Failure α → Prop where
  | unstaged {α : Type} {f : Failure} (hf : Stops f) :
      Named o opts artifact label Stops [] (.error f : Except Failure α)
  | failed {α : Type} {m : Moment} {f : Failure} (hm : Staged opts artifact label m)
      (hc : m.Fails o (command opts (stagedPath opts artifact label))) :
      Named o opts artifact label Stops [m] (.error f : Except Failure α)
  | named {α : Type} {m : Moment} {r : Except Failure α} (hm : Staged opts artifact label m)
      (hc : m.Succeeds o (command opts (stagedPath opts artifact label))) :
      Named o opts artifact label Stops [m] r

variable {Stops Stops' : Failure → Prop} {l : List Moment}

/-- What happens afterwards may fail, but does not turn a failure into a success. -/
theorem Named.later {α β : Type} {r : Except Failure α} {r' : Except Failure β}
    (h : Named o opts artifact label Stops l r)
    (hr : ∀ f, r = .error f → ∃ f', r' = .error f' ∧ (Stops f → Stops' f')) :
    Named o opts artifact label Stops' l r' := by
  cases h with
  | unstaged hf =>
    obtain ⟨f', rfl, hstops⟩ := hr _ rfl
    exact .unstaged (hstops hf)
  | failed hm hc =>
    obtain ⟨f', rfl, -⟩ := hr _ rfl
    exact .failed hm hc
  | named hm hc => exact .named hm hc

theorem stage_yields (w : World) :
    Yields o isCommand w (stage o opts artifact label) fun l r _ =>
      Named o opts artifact label (fun f => ∃ fault, f = .disk fault) l r := by
  refine .makeDirectories_bind (fun fault _ _ => .unstaged ⟨fault, rfl⟩) fun w₁ _ => ?_
  refine .change_bind (fun fault _ => .unstaged ⟨fault, rfl⟩) fun d hd => ?_
  have hstaged : Staged opts artifact label
      ⟨{ w₁ with disk := d }, .ran (command opts (stagedPath opts artifact label))⟩ :=
    ⟨w₁.disk, Disk.isFile_of_copy hd, hd⟩
  refine .command_bind rfl (fun res hm hs => ?_) (fun res hm hs => ?_) fun f hm _ => .failed hstaged hm
  · rw [if_neg (by simp [hs])]
    split
    · exact Quiet.change.yields (.named hstaged hm)
    · exact .pure (.named hstaged hm)
  · rw [if_pos (by simp [hs])]
    exact .throw_bind (.failed hstaged hm)

theorem assemble_yields (w : World) :
    Yields o isCommand w (assemble o opts artifact c label) fun l r _ =>
      Named o opts artifact label (fun f => ∃ fault, f = .disk fault) l r := by
  have hfinish : Within o (fun a => ∀ d, a ≠ .run d) (finish o opts c label) :=
    finish_within (fun _ h => by cases h) fun _ _ h => by cases h <;> exact fun _ h => by cases h
  refine (stage_yields w).bind (fun l _ w' hl => ?_) fun l f w' hl =>
    hl.later fun _ h => ⟨_, congrArg _ (Except.error.inj h), id⟩
  refine (hfinish.quiet (fun d h => h d rfl) fun _ => isCommand_iff.1).yields ?_
  rw [List.append_nil]
  exact hl.later fun _ h => by cases h

/-- A package has its library named at most once, and only after the artifact was found and copied. -/
theorem run_yields (w : World) :
    Yields o isCommand w (run o opts artifact c label) fun l r _ =>
      Named o opts artifact label (Unstaged artifact label) l r := by
  have hlook : Quiet isCommand (look (·.isFile artifact)) := .of_journal fun _ => rfl
  refine hlook.skip (fun there w₁ _ => ?_) fun f w₁ h => by cases h
  cases there with
  | false => exact .throw_bind (.unstaged .missing)
  | true =>
    refine .change_bind (fun fault _ => .unstaged (.disk fault)) fun d _ => ?_
    have hcaught : Yields o isCommand { w₁ with disk := d }
        (tryCatch (assemble o opts artifact c label) fun f => throw (asPackaging label f)) fun l r _ =>
          Named o opts artifact label (Unstaged artifact label) l r := by
      refine (assemble_yields _).tryCatch (fun l a w' hl => hl.later fun _ h => by cases h) fun l f w' hl => .throw ?_
      rw [List.append_nil]
      refine hl.later fun _ h => ⟨_, rfl, ?_⟩
      cases h
      rintro ⟨fault, rfl⟩
      exact .packaging fault
    refine hcaught.finally .change (fun l r w' w'' hl _ => hl) fun l r w' f w'' hl h => ?_
    obtain ⟨fault, -, rfl, -⟩ := change_error h
    refine hl.later fun _ _ => ⟨_, rfl, fun _ => .disk fault⟩

end Package

/-! ## The course of a variant -/

namespace Run

variable {p : Plan} {t : Toolchain} {c : WorkingCopy} {v : Variant}

/-- Moments in which the commands of a variant were issued, and what came of it. A command of the
reset or of the build that failed is the last one. Spells are all cast, whatever their commands come
to. -/
inductive Course (o : Outside) (p : Plan) (t : Toolchain) (c : WorkingCopy) (v : Variant) :
    List Moment → Outcome → Prop where
  | notReset {l : List Moment} {f : Failure} (hreset : Chain o (Source.resetCommands c) l false) :
      Course o p t c v l (.error (.reset, f))
  | notReady {l l' : List Moment} {fault : DiskFault} (hreset : Chain o (Source.resetCommands c) l true)
      (hcast : Spell.Casts p.config.spellsDir c v.spells l')
      (hfault : Build.Refused p.buildOptions c fault) :
      Course o p t c v (l ++ l') (.error (.build, .disk fault))
  | notBuilt {l l' l'' : List Moment} {f : Failure} (hreset : Chain o (Source.resetCommands c) l true)
      (hcast : Spell.Casts p.config.spellsDir c v.spells l')
      (hbuild : Chain o (Build.commands o p.buildOptions c t v.label) l'' false) :
      Course o p t c v (l ++ l' ++ l'') (.error (.build, f))
  | built {l l' l'' k : List Moment} {r : Except Failure PackagedArtifact}
      (hreset : Chain o (Source.resetCommands c) l true)
      (hcast : Spell.Casts p.config.spellsDir c v.spells l')
      (hbuild : Chain o (Build.commands o p.buildOptions c t v.label) l'' true)
      (hname : Package.Named o p.packageOptions (Build.artifact p.buildOptions c) v.label
        (Package.Unstaged (Build.artifact p.buildOptions c) v.label) k r) :
      Course o p t c v (l ++ l' ++ l'' ++ k) (r.mapError fun f => (.package, f))

/-- What is known of the steps of a variant. -/
def Steps (o : Outside) (p : Plan) (t : Toolchain) (c : WorkingCopy) (v : Variant) :
    World → List Moment → Outcome → World → Prop :=
  Stages (fun _ l r _ => Chain o (Source.resetCommands c) l r.isOk)
    (fun _ l r _ => Spell.Casts p.config.spellsDir c v.spells l ∧ r = .ok ())
    (fun _ l r w' => (∃ fault, Build.Refused p.buildOptions c fault ∧ l = [] ∧ r = .error (.disk fault)) ∨
      (Chain o (Build.commands o p.buildOptions c t v.label) l r.isOk ∧
        (∀ built, r = .ok built → built.artifact = Build.artifact p.buildOptions c) ∧
        Build.Inherits o p.buildOptions c l w'.disk))
    (fun artifact w l r w' => Package.Named o p.packageOptions artifact v.label
        (Package.Unstaged artifact v.label) l r ∧
      runOn w (Package.run o p.packageOptions artifact c v.label) = (r, w'))

theorem makeVariant_steps (w : World) :
    Yields o isCommand w (makeVariant o p t c v) fun l r w' =>
      ∃ out, r = .ok out ∧ Steps o p t c v w l out w' :=
  makeVariant_stages (Source.reset_chained c) (castAll_yields p c v v.spells) (Build.run_yields t)
    (fun _ w => (Package.run_yields w).mono fun _ _ _ hrun hname => ⟨hname, hrun⟩) w

theorem Steps.course {w w' : World} {l : List Moment} {out : Outcome} (h : Steps o p t c v w l out w') :
    Course o p t c v l out := by
  cases h with
  | notReset hreset => exact .notReset hreset
  | notBuilt hreset hcast hbuild =>
    obtain ⟨fault, hfault, rfl, hf⟩ | ⟨hchain, -⟩ := hbuild
    · cases hf
      rw [List.append_nil]
      exact .notReady hreset hcast.1 hfault
    · exact .notBuilt hreset hcast.1 hchain
  | built hreset hcast hbuild hpackage =>
    obtain ⟨_, _, _, h⟩ | ⟨hchain, hartifact, -⟩ := hbuild
    · cases h
    · rw [hartifact _ rfl] at hpackage
      exact .built hreset hcast.1 hchain hpackage.1

/-- Every variant takes its course, in whatever world it begins. -/
theorem makeVariant_yields (w : World) :
    Yields o isCommand w (makeVariant o p t c v) fun l r _ =>
      ∃ out, r = .ok out ∧ Course o p t c v l out :=
  (makeVariant_steps w).mono fun _ _ _ _ ⟨out, hr, h⟩ => ⟨out, hr, h.course⟩

/-! ## The course of a run -/

/-- Variants that were begun one after the other, each taking its course. The last one may be one
that failed in a run that was cancelled. -/
inductive Visits (o : Outside) (p : Plan) (t : Toolchain) (c : WorkingCopy) :
    World → List Visit → World → Prop where
  | nil (w : World) : Visits o p t c w [] w
  | cut {v : Variant} {l : List Moment} {e : Stage × Failure} {w w' : World}
      (htrace : Traced o isCommand (said w (opening v)) (makeVariant o p t c v) l (.ok (.error e)) w')
      (hcourse : Course o p t c v l (.error e)) (hcancelled : w'.cancelled = true) :
      Visits o p t c w [⟨v, l, .error e⟩] w'
  | cons {v : Variant} {l : List Moment} {out : Outcome} {rest : List Visit} {w w₁ w₂ : World}
      (htrace : Traced o isCommand (said w (opening v)) (makeVariant o p t c v) l (.ok out) w₁)
      (hcourse : Course o p t c v l out) (hrest : Visits o p t c (said w₁ (closing v out)) rest w₂) :
      Visits o p t c w (⟨v, l, out⟩ :: rest) w₂

/-- What is known of every variant: its trace, and the course that it takes. -/
def Takes (o : Outside) (p : Plan) (t : Toolchain) (c : WorkingCopy) (w : World) (x : Visit) (w' : World) :
    Prop :=
  Traced o isCommand w (makeVariant o p t c x.variant) x.moments (.ok x.outcome) w' ∧
    Course o p t c x.variant x.moments x.outcome

theorem makes_takes : Makes o p t c (Takes o p t c) := .of_yields fun _ w => makeVariant_yields w

theorem Rounds.takes {w w' : World} {visits : List Visit} (h : Rounds o p t c (Takes o p t c) w visits w') :
    Visits o p t c w visits w' := by
  induction h with
  | nil w => exact .nil w
  | cut _ _ hvisit hcancelled => exact .cut hvisit.1 hvisit.2 hcancelled
  | cons _ _ hvisit _ ih => exact .cons hvisit.1 hvisit.2 ih

/-! ## What comes before and after the variants -/

/-- Acts that are no commands. -/
def Silent (a : Act) : Prop := ∀ d, a ≠ .run d

theorem silent_quiet {α : Type} {x : Forge α} (h : Within o Silent x) : Quiet isCommand x :=
  h.quiet (fun d hd => hd d rfl) fun _ => isCommand_iff.1

theorem announce_within {acts : Act → Prop} (s : Registry.Selection) : Within o acts (announce p s) := by
  rw [announce]
  split
  · exact warn_within _
  · exact .pure _

theorem writeReport_within {acts : Act → Prop} (hdir : acts (.makeDirectories p.config.outputDir))
    (hfile : acts (.write (Path.join [p.config.outputDir, Report.fileName]))) (s : Summary) (started : Instant) :
    Within o acts (writeReport o p s c t started) := by
  refine (Within.now o).bind fun ended => ?_
  split
  · exact .throw _
  · have hwrite (report : Data) : Within o acts (Report.write p.config.outputDir report) :=
      (Within.makeDirectories hdir).bind fun _ => (Within.writeText hfile).bind fun _ => .pure _
    refine (hwrite _).attempt.bind fun r => ?_
    cases r with
    | ok file => exact .log _ _ _
    | error f => exact warn_within _

theorem logSummary_within {acts : Act → Prop} (s : Summary) : Within o acts (logSummary s) := by
  have each : Within o acts (do
      for archive in s.archives do
        Forge.log .info s!"archive: {archive}") :=
    (Within.forIn fun a _ => (Within.log _ _ _).bind fun _ => .pure _).bind fun _ => .pure _
  exact (Within.log _ _ _).bind fun _ => .ite ((Within.log _ _ _).bind fun _ => each) each

theorem conclude_within {acts : Act → Prop} (hdir : acts (.makeDirectories p.config.outputDir))
    (hfile : acts (.write (Path.join [p.config.outputDir, Report.fileName]))) (started : Instant) (start : Nat)
    (requested : String) (tally : Tally) : Within o acts (conclude o p t c started start requested tally) := by
  refine Within.get.bind fun w => ?_
  dsimp only
  have last (s : Summary) : Within o acts (do
      let s := { s with warnings := warningsFrom start (← get) }
      logSummary s
      return s) :=
    Within.get.bind fun _ => (logSummary_within _).bind fun _ => .pure _
  split
  · exact (writeReport_within hdir hfile _ _).bind fun _ => last _
  · exact last _

/-- The end of a run issues nothing; the summary that it gives, if it gives one, is that of the lists. -/
theorem conclude_yields (started : Instant) (start : Nat) (requested : String) (tally : Tally) (w : World) :
    Yields o isCommand w (conclude o p t c started start requested tally) fun l r _ =>
      l = [] ∧ ∀ s, r = .ok s → ∃ warnings, s = tally.summary requested warnings := by
  have hget : Quiet isCommand (get : Forge World) := .of_journal fun _ => rfl
  have last (s : Summary) (w : World) : Yields o isCommand w (do
      let s := { s with warnings := warningsFrom start (← get) }
      logSummary s
      return s) fun l r _ => l = [] ∧ ∀ s', r = .ok s' → ∃ warnings, s' = { s with warnings } := by
    refine hget.skip (fun w' w'' _ => ?_) fun f w' h => by cases h
    refine (silent_quiet (o := o) (logSummary_within _)).skip (fun _ _ _ => .pure ⟨rfl, ?_⟩)
      fun f _ _ => ⟨rfl, fun _ h => by cases h⟩
    intro s' h
    cases h
    exact ⟨_, rfl⟩
  refine hget.skip (fun w' w'' _ => ?_) fun f w' h => by cases h
  dsimp only
  split
  · refine (silent_quiet (writeReport_within (fun _ h => by cases h) (fun _ h => by cases h) _ _)).skip
      (fun _ w₁ _ => ?_) fun f _ _ => ⟨rfl, fun _ h => by cases h⟩
    exact (last _ w₁).mono fun l r _ _ h => ⟨h.1, fun s hs => h.2 s hs⟩
  · exact (last _ w'').mono fun l r _ _ h => ⟨h.1, fun s hs => h.2 s hs⟩

theorem Visits.course {w w' : World} {visits : List Visit} (h : Visits o p t c w visits w') :
    ∀ x ∈ visits, Course o p t c x.variant x.moments x.outcome := by
  induction h with
  | nil w => exact fun _ hx => by cases hx
  | cut htrace hcourse hcancelled =>
    intro x hx
    cases List.mem_singleton.1 hx
    exact hcourse
  | cons htrace hcourse hrest ih =>
    intro x hx
    rcases List.mem_cons.1 hx with rfl | hx
    · exact hcourse
    · exact ih x hx

theorem Course.stage_ne {l : List Moment} {e : Stage × Failure} (h : Course o p t c v l (.error e)) :
    e.1 ≠ .transform := by
  generalize hout : (Except.error e : Outcome) = out at h
  cases h with
  | notReset hreset =>
    cases hout
    exact fun h => by cases h
  | notReady hreset hcast hfault =>
    cases hout
    exact fun h => by cases h
  | notBuilt hreset hcast hbuild =>
    cases hout
    exact fun h => by cases h
  | built hreset hcast hbuild hname =>
    rename_i r
    cases r with
    | ok a => cases hout
    | error f =>
      cases hout
      exact fun h => by cases h

theorem Accounts.stage_ne {s : Summary} {w w' : World} {visits : List Visit}
    (hs : Accounts s (visits.map fun x => (x.variant, x.outcome))) (h : Visits o p t c w visits w') :
    ∀ f ∈ s.failed, f.stage ≠ .transform := by
  intro f hf
  rw [hs.failed, List.mem_filterMap] at hf
  obtain ⟨_, hmem, hfailure⟩ := hf
  obtain ⟨⟨v, l, out⟩, hx, rfl⟩ := List.mem_map.1 hmem
  cases out with
  | ok a => cases hfailure
  | error e =>
    cases hfailure
    exact (h.course _ hx).stage_ne

theorem Tally.visited_eq (tally : Tally) (visits : List Visit) :
    tally.visited visits =
      (visits.map fun x => (x.variant, x.outcome)).foldl (fun tally e => tally.add e.1 e.2) tally := by
  rw [List.foldl_map]
  rfl

/-- From the time the source is fetched a run issues no commands but those of its visits. -/
theorem Journey.commands {C : Toolchain → WorkingCopy → World → Visit → World → Prop} {r : RunRequest}
    {w w₀ w₁ w₂ : World} {visits : List Visit} (h : Journey o p r w C t c w₀ w₁ visits w₂)
    (hC : ∀ w x w', C t c w x w' → Shows isCommand w x.moments w') :
    Shows isCommand w₀ (visits.flatMap (·.moments)) (runOn w (run o p r)).2 := by
  have hbefore : Shows isCommand w₀ [] w₁ := by
    have := silent_quiet (o := o) (announce_within (p := p) (p.registry.select r.variant)) w₀
    rw [h.announced] at this
    exact .of_unseen this
  have hafter : Shows isCommand w₂ [] (runOn w (run o p r)).2 := by
    rcases h.ends with ⟨f, hrun, -⟩ | ⟨-, hrun⟩
    · rw [hrun]
      exact .of_unseen (.refl w₂)
    · rw [hrun]
      obtain ⟨l, htrace, rfl, -⟩ := (conclude_yields (o.clock w.readings) w.journal.length
        (requestedName p r) (Tally.visited {} visits) w₂).elim
      exact htrace.journal
  have hall := (hbefore.append (h.rounds.shows (fun _ _ _ _ => rfl) hC)).append hafter
  rwa [List.nil_append, List.append_nil] at hall

/-- The summary of a run accounts for all its visits. -/
theorem Journey.summary {C : Toolchain → WorkingCopy → World → Visit → World → Prop} {r : RunRequest}
    {w w₀ w₁ w₂ : World} {visits : List Visit} (h : Journey o p r w C t c w₀ w₁ visits w₂) {s : Summary}
    (hs : (runOn w (run o p r)).1 = .ok s) :
    visits.map (·.variant) = (p.registry.select r.variant).variants ∧
      Accounts s (visits.map fun x => (x.variant, x.outcome)) := by
  rcases h.ends with ⟨f, hrun, -⟩ | ⟨hall, hrun⟩
  · rw [hrun] at hs
    cases hs
  · rw [hrun] at hs
    obtain ⟨l, -, -, hsummary⟩ := (conclude_yields (o.clock w.readings) w.journal.length
      (requestedName p r) (Tally.visited {} visits) w₂).elim
    obtain ⟨warnings, rfl⟩ := hsummary s hs
    have hlists := Tally.lists_foldl (⟨rfl, rfl, rfl⟩ : Tally.Lists {} [])
      (visits.map fun x => (x.variant, x.outcome))
    rw [← Tally.visited_eq] at hlists
    exact ⟨hall, hlists.summary (requestedName p r) warnings⟩

end Run

end VariantForge
