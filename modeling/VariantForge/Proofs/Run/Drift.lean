import VariantForge.Proofs.Drift
import VariantForge.Run.Forge

/-!
# What a run does in passing

Nothing that a run does to find the toolchain, to fetch the source, to reset, to cast a spell, to build
and to package gives a warning or writes one to the log: each of these operations drifts. Warnings come
of what the run makes of their ends.
-/

namespace VariantForge

open Forge

variable {o : Outside} {see : Event → Bool}

/-! ## Archives -/

namespace Unpack

theorem refuse_or {α β : Type} {c : Prop} [Decidable c] {fault : UnpackFault} {g : α → Forge β} {x : Forge β}
    (hx : Drifting o see x) : Drifting o see (if c then (refuse fault : Forge α) >>= g else x) :=
  .ite_throw hx

theorem content_drifting (c : Archive.Contents) (m : Archive.Member) : Drifting o see (content c m) := by
  rw [content]
  split
  · exact .pure _
  · exact .throw _

theorem makeLink_drifting (outDir name path : String) (bytes : ByteArray) :
    Drifting o see (makeLink outDir name path bytes) :=
  Drifting.here.bind fun _ => refuse_or (.change _)

theorem makeFile_drifting (c : Archive.Contents) (m : Archive.Member) (path : String) :
    Drifting o see (makeFile c m path) := by
  rw [makeFile]
  split
  · exact (Drifting.change _).bind fun _ => .ite (.change _) (.pure _)
  · exact (Drifting.change _).bind fun _ => .throw _
  · exact .throw _

theorem unpackMember_drifting (c : Archive.Contents) (l : UnpackLimits) (outDir : String) (p : Progress)
    (m : Archive.Member) : Drifting o see (unpackMember c l outDir p m) := by
  have hplace (path : String) : Drifting o see (place c outDir m path) := by
    refine (Drifting.makeDirectories _).bind fun _ => .ite ?_ (makeFile_drifting c m path)
    exact (content_drifting c m).bind fun bytes => makeLink_drifting outDir m.name path bytes
  refine refuse_or (refuse_or (refuse_or (Drifting.here.bind fun _ => refuse_or (.ite ?_ ?_))))
  · exact (Drifting.makeDirectories _).bind fun _ => .pure _
  · exact refuse_or (refuse_or ((hplace _).bind fun _ => .pure _))

theorem unpackFrom_drifting (c : Archive.Contents) (l : UnpackLimits) (outDir : String) (p : Progress)
    (n i : Nat) : Drifting o see (unpackFrom c l outDir p n i) := by
  induction n generalizing p i with
  | zero => exact .pure _
  | succ n ih =>
    rw [unpackFrom]
    split
    · exact .throw _
    · exact (unpackMember_drifting c l outDir p _).bind fun p => ih p _

theorem run_drifting (archive outDir : String) (l : UnpackLimits) :
    Drifting o see (run archive outDir l) := by
  refine Drifting.here.bind fun here => (Drifting.makeDirectories _).bind fun _ =>
    (Drifting.readFile _).bind fun bytes => ?_
  split
  · exact .throw _
  · exact (unpackFrom_drifting _ _ _ _ _ _).bind fun _ => .pure _

end Unpack

/-! ## The toolchain -/

variable (hsee : Alert see)

include hsee

namespace Retry

variable {α : Type} {description : String} {p : RetryPolicy} {operation : Nat → Forge α}

theorem pause_drifting (attempt : Nat) (f : Failure) :
    Drifting o see (pause o description p attempt f) :=
  (Drifting.words f).bind fun _ => (hsee.log rfl rfl).bind fun _ => hsee.wait _

theorem attempt_drifting (n : Nat) :
    Drifting o see (Forge.log .info s!"attempt {n}/{(limit p).text}: {description}") :=
  hsee.info (.append (.append (.append (.append (.append (by decide) _) _) _) _) _)

theorem tryFrom_drifting (hop : ∀ n, Drifting o see (operation n)) (more n : Nat) :
    Drifting o see (tryFrom o description p operation more n) := by
  induction more generalizing n with
  | zero =>
    rw [tryFrom]
    refine Drifting.checkCancelled.bind fun _ => (attempt_drifting hsee n).bind fun _ => (hop n).attempt.bind fun r => ?_
    cases r with
    | ok a => exact .pure _
    | error f => exact .pure _
  | succ more ih =>
    rw [tryFrom]
    refine Drifting.checkCancelled.bind fun _ => (attempt_drifting hsee n).bind fun _ => (hop n).attempt.bind fun r => ?_
    cases r with
    | ok a => exact .pure _
    | error f => exact (pause_drifting hsee n f).bind fun _ => ih (n + 1)

theorem run_drifting (hop : ∀ n, Drifting o see (operation n)) :
    Drifting o see (run o description p operation) := by
  have hfailed (f : Failure) : Drifting o see (do
      Forge.log .warn s!"{description} failed after {(limit p).text} attempts"
        (some [("err", .text (← Forge.words f))])
      return .failed f (limit p) : Forge (Retried α)) :=
    (Drifting.words f).bind fun _ => (hsee.log rfl rfl).bind fun _ => .pure _
  rw [run]
  split
  · refine (tryFrom_drifting hsee hop _ 1).bind fun r => ?_
    cases r with
    | ok a => exact .pure _
    | error f => exact hfailed f
  · exact (Drifting.pure _).bind fun r => by
      cases r with
      | ok a => exact .pure _
      | error f => exact hfailed f

end Retry

namespace Download

variable {opts : DownloadOptions}

theorem log_drifting (message : String) (extra : Members Data) :
    Drifting o see (log opts message extra) :=
  .ite (hsee.log rfl rfl) (.pure _)

theorem receive_drifting (total : Option Number) (received : ByteArray) (next : Nat) (chunks : List Chunk) :
    Drifting o see (receive opts total received next chunks) := by
  induction chunks generalizing received next with
  | nil => exact .pure _
  | cons chunk rest ih =>
    cases chunk with
    | broken text => exact .throw _
    | bytes data =>
      rw [receive]
      exact .ite_throw (.ite ((log_drifting hsee _ _).bind fun _ => ih _ _) (ih _ _))

theorem fetchTo_drifting (target part : String) : Drifting o see (fetchTo o opts target part) := by
  refine (hsee.request opts).bind fun r => .ite_throw ?_
  split
  · exact .throw _
  · rename_i body _
    have hrest : Drifting o see (do
        Forge.change (·.write part .empty)
        let bytes ← receive opts (announced? r) .empty reportStep body
        Forge.change (·.write part bytes)
        Forge.change (·.rename part target)
        log opts "NDK archive saved" [("file", .text target), ("bytes", .ofNat bytes.size)]
        return bytes.size : Forge Nat) := by
      refine (Drifting.change _).bind fun _ => (receive_drifting hsee _ _ _ _).bind fun _ => ?_
      exact (Drifting.change _).bind fun _ => (Drifting.change _).bind fun _ =>
        (log_drifting hsee _ _).bind fun _ => .pure _
    dsimp only
    split
    · exact .ite_throw hrest
    · exact hrest

theorem run_drifting : Drifting o see (run o opts) := by
  refine Drifting.here.bind fun here => (Drifting.makeDirectories _).bind fun _ => ?_
  refine (fetchTo_drifting hsee _ _).attempt.bind fun r => ?_
  cases r with
  | ok size => exact .pure _
  | error f => exact (Drifting.change _).bind fun _ => .throw _

end Download

namespace Toolchain

variable {opts : ResolveOptions}

theorem install_drifting : Drifting o see (install o opts) := by
  have hdownload : Drifting o see (download o opts) := by
    refine (hsee.log rfl rfl).bind fun _ => (Retry.run_drifting hsee fun _ => Download.run_drifting hsee).bind
      fun fetched => ?_
    cases fetched with
    | done => exact .pure _
    | failed f => exact .throw _
  have hunpack : Drifting o see (unpack opts) := by
    refine .finally (.tryCatch ?_ fun f => (Drifting.change _).bind fun _ => .throw _) (.change _)
    exact (Unpack.run_drifting _ _ _).bind fun _ => .pure _
  refine hdownload.bind fun _ => hunpack.bind fun _ => (Drifting.look _).bind fun there => .ite_throw ?_
  exact (hsee.info (.append (by decide) _)).bind fun _ => .pure _

theorem resolve_drifting : Drifting o see (resolve o opts) := by
  have hcached : Drifting o see (cachedOrInstalled o opts) :=
    (Drifting.look _).bind fun there =>
      .ite ((hsee.info (.append (by decide) _)).bind fun _ => .pure _) (install_drifting hsee)
  rw [resolve]
  split
  · exact (Drifting.look _).bind fun there => .ite ((hsee.info (.append (by decide) _)).bind fun _ => .pure _) hcached
  · exact hcached

end Toolchain

/-! ## The source -/

namespace Git

theorem output_drifting (directory : Option String) (arguments : List String) :
    Drifting o see (output o directory arguments) :=
  (hsee.run _).bind fun _ => .ite (.pure _) (.throw _)

theorem succeeds_drifting (directory : String) (arguments : List String) :
    Drifting o see (succeeds o directory arguments) :=
  (hsee.run _).bind fun _ => .pure _

end Git

namespace Source

variable {opts : AcquireOptions}

omit hsee in
/-- The attempts to clone a candidate. -/
def attempts (o : Outside) (opts : AcquireOptions) (k : Candidate) : Forge (Retried Unit) :=
  Retry.run o s!"clone from {k.name}" opts.retry fun _ => cloneOnce o opts k

theorem attempts_drifting (k : Candidate) : Drifting o see (attempts o opts k) :=
  Retry.run_drifting hsee fun _ => (Drifting.change _).bind fun _ =>
    (Git.output_drifting hsee _ _).bind fun _ => .pure _

theorem setIdentity_drifting :
    Drifting o see (asStep .identity (Git.setIdentity o (root opts) opts.userName opts.userEmail)) :=
  .tryCatch ((Git.output_drifting hsee _ _).bind fun _ => (Git.output_drifting hsee _ _).bind fun _ => .pure _)
    fun _ => .throw _

omit hsee in
/-- What checking out the revision that was asked for takes. -/
def checkOut (o : Outside) (opts : AcquireOptions) (requested : String) : Forge Unit := do
  Git.fetch o (root opts) "origin" none (some opts.pinDepth)
  Git.checkout o (root opts) requested

theorem checkOut_drifting (requested : String) : Drifting o see (checkOut o opts requested) := by
  have hoff (arguments : List String) : Drifting o see (do
      let _ ← Git.output o (some (root opts)) arguments) :=
    (Git.output_drifting hsee _ _).bind fun _ => .pure _
  exact (hoff _).bind fun _ => hoff _

theorem describe_drifting (source : Candidate) (requested : Option String) (pinned : Bool) :
    Drifting o see (describe o opts source requested pinned) := by
  have hparse (short : Bool) : Drifting o see (Git.revParse o (root opts) "HEAD" short) :=
    (Git.output_drifting hsee _ _).bind fun _ => .pure _
  have hversion : Drifting o see (declaredVersion (root opts)) := by
    refine (Drifting.readFile _).attempt.bind fun r => ?_
    cases r with
    | ok bytes => exact .pure _
    | error f => exact .pure _
  refine (Drifting.tryCatch ((hparse false).bind fun _ => (hparse true).bind fun _ => .pure _)
    fun _ => .throw _).bind fun _ => hversion.bind fun _ => (hsee.info ?_).bind fun _ => .pure _
  exact .append (.append (.append (.append (.append (by decide) _) _) _) _) _

theorem reset_drifting (c : WorkingCopy) : Drifting o see (reset o c) :=
  (hsee.info (by decide)).bind fun _ => (Git.output_drifting hsee _ _).bind fun _ =>
    (Git.output_drifting hsee _ _).bind fun _ => .pure _

end Source

/-! ## Spells -/

namespace Spell

variable {c : WorkingCopy}

theorem castEdit_drifting (s : Spell) (file : String) (marker : Text) (rules : List Rule) :
    Drifting o see (castEdit c s file marker rules) := by
  have hrules (content : Text) : Drifting o see (applyRules content rules) := by
    rw [applyRules]
    split
    · exact .pure _
    · exact .throw _
  refine (Drifting.look _).bind fun there => .ite (.pure _) ?_
  refine (Drifting.readFile _).bind fun bytes => .ite (.pure _) ?_
  refine (hrules _).bind fun edited => ?_
  refine (Drifting.forIn fun rule _ => (hsee.log rfl rfl).bind fun _ => .pure _).bind fun _ => ?_
  exact (Drifting.change _).bind fun _ => .pure _

theorem castPatch_drifting (dir : String) (s : Spell) (file : String) :
    Drifting o see (castPatch o dir c s file) := by
  refine Drifting.here.bind fun here => (Drifting.look _).bind fun there => .ite (.pure _) ?_
  refine (Git.succeeds_drifting hsee _ _).bind fun already => .ite (.pure _) ?_
  have merge : Drifting o see (do
      Forge.log .warn s!"spell may conflict, trying 3-way merge: {s.id}"
      let merged ← Git.apply o c.root (patchPath here dir file) true
      if merged.succeeded then return s.outcome .applied "applied with 3-way merge"
      return s.outcome .partiallyApplied merged.failure) :=
    (hsee.log rfl rfl).bind fun _ => (hsee.run _).bind fun _ => .ite (.pure _) (.pure _)
  refine (Git.succeeds_drifting hsee _ _).bind fun fits => .ite ?_ merge
  exact (hsee.run _).bind fun r => .ite (.pure _) merge

theorem castMerge_drifting (s : Spell) (remote ref : String) :
    Drifting o see (castMerge o c s remote ref) := by
  have hfetch : Drifting o see (Git.fetch o c.root remote (some ref) none) :=
    (Git.output_drifting hsee _ _).bind fun _ => .pure _
  refine hfetch.attempt.bind fun fetched => ?_
  cases fetched with
  | error f => exact .pure _
  | ok _ =>
    refine (Git.succeeds_drifting hsee _ _).bind fun merged => .ite (.pure _) ?_
    refine (hsee.run _).bind fun r => .ite (.pure _) ?_
    exact ((hsee.run _).bind fun _ => .pure _).bind fun _ => .pure _

/-- What a spell does after the log was told that it is cast. -/
theorem work_drifting (dir : String) (s : Spell) : Drifting o see (match s.work with
    | .edit file marker rules => castEdit c s file marker rules
    | .patch file => castPatch o dir c s file
    | .mergeRequest remote ref => castMerge o c s remote ref) := by
  cases s.work with
  | edit file marker rules => exact castEdit_drifting hsee s file marker rules
  | patch file => exact castPatch_drifting hsee dir s file
  | mergeRequest remote ref => exact castMerge_drifting hsee s remote ref

omit hsee in
theorem cast_drifting (hsee : Calm see) (dir : String) (s : Spell) : Drifting o see (cast o dir c s) := by
  refine (hsee.log rfl).bind fun _ => (work_drifting hsee.alert dir s).attempt.bind fun r => ?_
  cases r with
  | ok outcome => exact .pure _
  | error f => exact .pure _

end Spell

/-! ## Building and packaging -/

namespace Build

variable {opts : BuildOptions} {c : WorkingCopy}

theorem runStep_drifting (label : String) (p : Profile) (step : BuildStep) (arguments : List String)
    (tail : Number) : Drifting o see (runStep o opts c label p step arguments tail) := by
  have htail (path : String) : Drifting o see (logTail path tail) := by
    refine (Drifting.readFile path).attempt.bind fun r => ?_
    cases r with
    | ok bytes => exact .pure _
    | error f => exact .pure _
  refine (hsee.run _).bind fun r => .ite ?_ (.pure _)
  exact (htail _).bind fun _ => (hsee.log rfl rfl).bind fun _ => .throw _

theorem run_drifting (t : Toolchain) (label : String) : Drifting o see (run o opts c t label) := by
  refine (Drifting.makeDirectories _).bind fun _ => (Drifting.writeText _ _).bind fun _ => ?_
  refine (Drifting.writeText _ _).bind fun _ => (Drifting.change _).bind fun _ => ?_
  refine (hsee.info (.append (by decide) _)).bind fun _ => (runStep_drifting hsee _ _ _ _ _).bind fun _ => ?_
  refine (hsee.info (.append (.append (.append (.append (by decide) _) _) _) _)).bind fun _ => ?_
  exact (runStep_drifting hsee _ _ _ _ _).bind fun _ => .pure _

end Build

namespace Package

variable {opts : PackageOptions} {c : WorkingCopy}

omit hsee in
theorem writeArchive_drifting (files : List Source) (target : String) :
    Drifting o see (writeArchive files target) := by
  have hname (name : String) : Drifting o see (memberName name) := by
    rw [memberName]
    split
    · exact .pure _
    · exact .throw _
  have hload (path name : String) : Drifting o see (load path name) :=
    (Drifting.readFile path).bind fun _ => (Drifting.look _).bind fun _ => .pure _
  refine Drifting.here.bind fun here => (Drifting.makeDirectories _).bind fun _ => ?_
  refine (Drifting.mapM fun f => hname _).bind fun names => (Drifting.mapM fun f => hload _ _).bind fun _ => ?_
  refine (Drifting.finally ?_ (.change _)).bind fun _ => .pure _
  exact (Drifting.change _).bind fun _ => (Drifting.change _).bind fun _ => .change _

theorem stage_drifting (artifact label : String) : Drifting o see (stage o opts artifact label) := by
  refine (Drifting.makeDirectories _).bind fun _ => (Drifting.change _).bind fun _ => ?_
  exact (hsee.run _).bind fun r => .ite_throw (.ite (.change _) (.pure _))

theorem finish_drifting (label : String) : Drifting o see (finish o opts c label) := by
  refine (Drifting.now o).bind fun builtAt => ?_
  split
  · exact .throw _
  · refine (Drifting.writeText _ _).bind fun _ => (writeArchive_drifting _ _).bind fun _ => ?_
    exact (hsee.log rfl rfl).bind fun _ => .pure _

theorem run_drifting (artifact label : String) : Drifting o see (run o opts artifact c label) := by
  refine (Drifting.look _).bind fun there => .ite_throw ((Drifting.change _).bind fun _ => ?_)
  refine .finally (.tryCatch ?_ fun f => .throw _) (.change _)
  exact (stage_drifting hsee _ _).bind fun _ => finish_drifting hsee _

end Package

end VariantForge
