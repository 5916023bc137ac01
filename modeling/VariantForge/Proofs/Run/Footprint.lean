import VariantForge.Proofs.Footprint
import VariantForge.Run.Forge

/-!
# Footprints of the pipeline

For each operation of a variant's pipeline, the acts that it may do and the proof that it does no
others. Paths that hold a relative part are seen from some directory, so an act on them names one.
-/

namespace VariantForge

open Forge

variable {o : Outside} {acts : Act → Prop}

/-! ## Git -/

/-- Commands of git in a directory. -/
inductive Git.Acts (root : String) : Act → Prop where
  | run (arguments : List String) : Acts root (.run (Git.command (some root) arguments))

namespace Git

variable {root : String}

theorem run_within (arguments : List String) : Within o (Acts root) (run o (some root) arguments) :=
  .run (.run arguments)

theorem output_within (arguments : List String) :
    Within o (Acts root) (output o (some root) arguments) := by
  refine (run_within arguments).bind fun r => ?_
  exact .ite (.pure _) (.throw _)

theorem succeeds_within (arguments : List String) :
    Within o (Acts root) (succeeds o root arguments) :=
  (run_within arguments).bind fun _ => .pure _

theorem fetch_within (remote : String) (ref : Option String) (depth : Option Number) :
    Within o (Acts root) (fetch o root remote ref depth) :=
  (output_within _).bind fun _ => .pure _

theorem resetHard_within (revision : String) : Within o (Acts root) (resetHard o root revision) :=
  (output_within _).bind fun _ => (output_within _).bind fun _ => .pure _

theorem mergeAbort_within : Within o (Acts root) (mergeAbort o root) :=
  (run_within _).bind fun _ => .pure _

end Git

theorem Source.reset_within (w : WorkingCopy) : Within o (Git.Acts w.root) (Source.reset o w) :=
  (Within.log _ _ _).bind fun _ => Git.resetHard_within _

/-! ## Spells -/

/-- Commands of git in a working copy, and edits of the files that some spells name. -/
inductive Spell.Acts (w : WorkingCopy) (spells : List Spell) : Act → Prop where
  | git (arguments : List String) : Acts w spells (.run (Git.command (some w.root) arguments))
  | edit {s : Spell} {file : String} {marker : Text} {rules : List Rule} (hs : s ∈ spells)
      (hw : s.work = .edit file marker rules) : Acts w spells (.write (Spell.editPath w file))

namespace Spell

variable {w : WorkingCopy} {spells : List Spell}

theorem Acts.of_git {a : Act} (h : Git.Acts w.root a) : Acts w spells a := by
  cases h with
  | run arguments => exact .git arguments

theorem applyRules_within (content : Text) (rules : List Rule) :
    Within o acts (applyRules content rules) := by
  rw [applyRules]
  split
  · exact .pure _
  · exact .throw _

theorem castEdit_within (s : Spell) {file : String} (marker : Text) (rules : List Rule)
    (h : acts (.write (editPath w file))) : Within o acts (castEdit w s file marker rules) := by
  refine (Within.look _).bind fun there => .ite (.pure _) ?_
  refine (Within.readFile _).bind fun bytes => .ite (.pure _) ?_
  refine (applyRules_within _ _).bind fun edited => ?_
  refine (Within.forIn fun rule _ => (Within.log _ _ _).bind fun _ => .pure _).bind fun _ => ?_
  exact (Within.change h .write).bind fun _ => .pure _

theorem castPatch_within (dir : String) (s : Spell) (file : String) :
    Within o (Git.Acts w.root) (castPatch o dir w s file) := by
  refine Within.here.bind fun here => (Within.look _).bind fun there => .ite (.pure _) ?_
  refine (Git.succeeds_within _).bind fun already => .ite (.pure _) ?_
  have merge : Within o (Git.Acts w.root) (do
      Forge.log .warn s!"spell may conflict, trying 3-way merge: {s.id}"
      let merged ← Git.apply o w.root (patchPath here dir file) true
      if merged.succeeded then return s.outcome .applied "applied with 3-way merge"
      return s.outcome .partiallyApplied merged.failure) :=
    (Within.log _ _ _).bind fun _ => (Git.run_within _).bind fun _ => .ite (.pure _) (.pure _)
  refine (Git.succeeds_within _).bind fun fits => .ite ?_ merge
  exact (Git.run_within _).bind fun r => .ite (.pure _) merge

theorem castMerge_within (s : Spell) (remote ref : String) :
    Within o (Git.Acts w.root) (castMerge o w s remote ref) := by
  refine (Git.fetch_within _ _ _).attempt.bind fun fetched => ?_
  cases fetched with
  | error f => exact .pure _
  | ok _ =>
    refine (Git.succeeds_within _).bind fun merged => .ite (.pure _) ?_
    refine (Git.run_within _).bind fun r => .ite (.pure _) ?_
    exact Git.mergeAbort_within.bind fun _ => .pure _

theorem cast_within (dir : String) {s : Spell} (hs : s ∈ spells) :
    Within o (Acts w spells) (cast o dir w s) := by
  refine (Within.log _ _ _).bind fun _ => (Within.attempt ?_).bind fun r => ?_
  · cases hw : s.work with
    | edit file marker rules => exact castEdit_within s marker rules (.edit hs hw)
    | patch file => exact (castPatch_within dir s file).mono fun _ => Acts.of_git
    | mergeRequest remote ref => exact (castMerge_within s remote ref).mono fun _ => Acts.of_git
  · cases r with
    | ok outcome => exact .pure _
    | error f => exact .pure _

end Spell

namespace Run

theorem warn_within (v : Warning) : Within o acts (warn v) :=
  (Within.warn v).bind fun _ => .log _ _ _

theorem reportUnmatched_within (v : Variant) (s : Spell) (c : CastOutcome) :
    Within o acts (reportUnmatched v s c) := by
  rw [reportUnmatched]
  split
  · exact warn_within _
  · exact .pure _

theorem report_within (v : Variant) (s : Spell) (c : CastOutcome) : Within o acts (report v s c) := by
  have last : Within o acts (reportUnmatched v s c) := reportUnmatched_within v s c
  rw [report]
  split
  · exact (warn_within _).bind fun _ => last
  · exact (warn_within _).bind fun _ => last
  · exact (Within.log _ _ _).bind fun _ => last

theorem castAll_within (p : Plan) (w : WorkingCopy) (v : Variant) {spells all : List Spell}
    (h : ∀ s ∈ spells, s ∈ all) : Within o (Spell.Acts w all) (castAll o p w v spells) := by
  induction spells with
  | nil => exact .pure _
  | cons s rest ih =>
    refine (Spell.cast_within _ (h s (by simp))).bind fun c => (report_within v s c).bind fun _ => ?_
    exact ih fun t ht => h t (by simp [ht])

end Run

/-! ## Building -/

/-- What building a variant does: it writes the machine files, clears the build directory and runs
the two steps. -/
inductive Build.Acts (o : Outside) (opts : BuildOptions) (w : WorkingCopy) (label : String) :
    Act → Prop where
  | chamber : Acts o opts w label (.makeDirectories opts.chamber)
  | cross : Acts o opts w label (.write (Path.join [opts.chamber, Build.crossFileName]))
  | native : Acts o opts w label (.write (Path.join [opts.chamber, Build.nativeFileName]))
  | clear : Acts o opts w label (.removeAll (Path.join [w.root, opts.directory]))
  | step (p : Profile) (step : BuildStep) (arguments : List String) :
      Acts o opts w label (.run (Build.command o opts w label p step arguments))

namespace Build

variable {opts : BuildOptions} {w : WorkingCopy} {label : String}

theorem logTail_within (path : String) (max : Number) : Within o acts (logTail path max) := by
  refine (Within.readFile path).attempt.bind fun r => ?_
  cases r with
  | ok bytes => exact .pure _
  | error f => exact .pure _

theorem runStep_within (p : Profile) (step : BuildStep) (arguments : List String) (tail : Number) :
    Within o (Acts o opts w label) (runStep o opts w label p step arguments tail) := by
  refine (Within.run (.step p step arguments)).bind fun r => .ite ?_ (.pure _)
  exact (logTail_within _ _).bind fun _ => (Within.log _ _ _).bind fun _ => .throw _

theorem run_within (t : Toolchain) : Within o (Acts o opts w label) (run o opts w t label) := by
  refine (Within.makeDirectories .chamber).bind fun _ => ?_
  refine (Within.writeText .cross).bind fun _ => (Within.writeText .native).bind fun _ => ?_
  refine (Within.change .clear .removeAll).bind fun _ => (Within.log _ _ _).bind fun _ => ?_
  refine (runStep_within _ _ _ _).bind fun _ => (Within.log _ _ _).bind fun _ => ?_
  exact (runStep_within _ _ _ _).bind fun _ => .pure _

end Build

/-! ## Packaging -/

/-- What writing an archive does: it writes beside the archive's place and moves the file there. -/
inductive Package.ArchiveActs (target : String) : Act → Prop where
  | directory : ArchiveActs target (.makeDirectories (Path.dirname target))
  | write : ArchiveActs target (.write (target ++ ".tmp"))
  | clear : ArchiveActs target (.removeFile target)
  | move : ArchiveActs target (.rename (target ++ ".tmp") target)
  | clean : ArchiveActs target (.removeFile (target ++ ".tmp"))

/-- What is done in the staging directory: it is made anew and filled, and the library is named. -/
inductive Package.StageActs (opts : PackageOptions) (artifact label : String) : Act → Prop where
  | clear : StageActs opts artifact label (.removeAll (Package.stagingDir opts label))
  | stage : StageActs opts artifact label (.makeDirectories (Package.stagingDir opts label))
  | copy : StageActs opts artifact label
      (.copy artifact (Path.join [Package.stagingDir opts label, Path.basename artifact]))
  | name : StageActs opts artifact label
      (.run (Package.command opts
        (Path.join [Package.stagingDir opts label, Path.basename artifact])))
  | rename : StageActs opts artifact label
      (.rename (Path.join [Package.stagingDir opts label, Path.basename artifact])
        (Path.join [Package.stagingDir opts label, opts.libraryName]))
  | metadata : StageActs opts artifact label
      (.write (Path.join [Package.stagingDir opts label, Package.metadataFile]))

/-- What packaging a variant does: it fills the staging directory and writes the archive. -/
inductive Package.Acts (opts : PackageOptions) (artifact : String) (w : WorkingCopy) (label : String) :
    Act → Prop where
  | staging {a : Act} (h : Package.StageActs opts artifact label a) : Acts opts artifact w label a
  | archive (here : String) {a : Act}
      (h : Package.ArchiveActs (Path.resolve here
        [Path.join [opts.outputDir, (Package.descriptor opts w label).fileName]]) a) :
      Acts opts artifact w label a

namespace Package

variable {opts : PackageOptions} {artifact : String} {w : WorkingCopy} {label : String}

theorem memberName_within (name : String) : Within o acts (memberName name) := by
  rw [memberName]
  split
  · exact .pure _
  · exact .throw _

theorem load_within (path name : String) : Within o acts (load path name) :=
  (Within.readFile path).bind fun _ => (Within.look _).bind fun _ => .pure _

theorem writeArchive_within (files : List Source) (target : String)
    (h : ∀ here a, ArchiveActs (Path.resolve here [target]) a → acts a) :
    Within o acts (writeArchive files target) := by
  refine Within.here.bind fun here => ?_
  refine (Within.makeDirectories (h here _ .directory)).bind fun _ => ?_
  refine (Within.mapM fun f => memberName_within _).bind fun names => ?_
  refine (Within.mapM fun f => load_within _ _).bind fun packed => ?_
  refine (Within.finally ?_ (Within.change (h here _ .clean) .removeFile)).bind fun _ => .pure _
  refine (Within.change (h here _ .write) .write).bind fun _ => ?_
  exact (Within.change (h here _ .clear) .removeFile).bind fun _ =>
    .change (h here _ .move) .rename

theorem stage_within : Within o (StageActs opts artifact label) (stage o opts artifact label) := by
  refine (Within.makeDirectories .stage).bind fun _ => ?_
  refine (Within.change .copy .copy).bind fun _ => (Within.run .name).bind fun r => ?_
  exact .ite (.bind (.throw _) fun _ => .ite (.change .rename .rename) (.pure _))
    (.ite (.change .rename .rename) (.pure _))

theorem finish_within (hmeta : acts (.write (Path.join [stagingDir opts label, metadataFile])))
    (harchive : ∀ here a,
      ArchiveActs (Path.resolve here [Path.join [opts.outputDir, (descriptor opts w label).fileName]]) a →
        acts a) : Within o acts (finish o opts w label) := by
  refine (Within.now o).bind fun builtAt => ?_
  split
  · exact .throw _
  · refine (Within.writeText hmeta).bind fun _ => ?_
    refine (writeArchive_within _ _ harchive).bind fun _ => ?_
    exact (Within.log _ _ _).bind fun _ => .pure _

theorem assemble_within : Within o (Acts opts artifact w label) (assemble o opts artifact w label) :=
  (stage_within.mono fun _ => .staging).bind fun _ =>
    finish_within (.staging .metadata) fun here _ h => .archive here h

theorem run_within : Within o (Acts opts artifact w label) (run o opts artifact w label) := by
  refine (Within.look _).bind fun there => .ite (.throw _) ?_
  refine (Within.change (.staging .clear) .removeAll).bind fun _ => ?_
  exact Within.finally (assemble_within.tryCatch fun f => .throw _) (.change (.staging .clear) .removeAll)

end Package

end VariantForge
