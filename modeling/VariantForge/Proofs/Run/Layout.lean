import VariantForge.Proofs.Disk.Spared
import VariantForge.Proofs.Run.Fresh
import VariantForge.Proofs.Text.Shown

/-!
# Layout — where a run writes

The paths that variants use go down from the chamber, from the working copy in it, and from the output
directory, by names that tell by their ends what they are for. A variant has a turf, the places that it may
change, and that of another lies apart from its outputs if their labels can be told apart (`Turf.archive`,
`Turf.log`).
-/

namespace VariantForge

open Path Disk

/-! ## Names as they are shown -/

namespace Disk

theorem isPlain_of_ascii {s : List Char} (h : ∀ x ∈ s, x.toNat < 128) : IsPlain s := by
  intro x hx
  have hsmall := h x hx
  refine ⟨?_, ?_⟩
  · have hbase : (decide (Text.halfBase ≤ x.toNat)) = false := decide_eq_false (by unfold Text.halfBase; omega)
    rw [Text.isHalf, Text.isHalfPoint, hbase, Bool.false_and]
  · rintro (rfl | hbig)
    · exact absurd hsmall (by decide)
    · omega

theorem isPlain_of_all {s : List Char} (h : (s.all fun x => x.toNat < 128) = true) : IsPlain s :=
  isPlain_of_ascii fun x hx => of_decide_eq_true (List.all_eq_true.1 h x hx)

theorem shownPart_inj {p s : Part} (hs : IsPlain s) (h : shownPart p = shownPart s) : p = s :=
  (shownPart_eq_iff hs).1 (h.trans ((shownPart_eq_iff hs).2 rfl))

/-- Whether a name ends in some characters. -/
def EndsIn (name : String) (s : List Char) : Prop := ∃ before, name.toList = before ++ s

theorem EndsIn.ne {a b : String} {s t : List Char} (h : EndsIn a s) (h' : EndsIn b t)
    (hlen : s.length = t.length) (hne : s ≠ t) : a ≠ b := by
  rintro rfl
  obtain ⟨x, hx⟩ := h
  obtain ⟨y, hy⟩ := h'
  exact hne (List.append_inj_right' (hx.symm.trans hy) hlen)

/-- A name that ends in a point and plain characters does so as it is shown. -/
theorem endsIn_shownPart (a : List Char) {s : List Char} (hs : IsPlain s) :
    EndsIn (shownPart (a ++ '.' :: s)) ('.' :: s) := by
  refine ⟨Text.shownChars a, ?_⟩
  rw [shownPart, String.toList_ofList, Text.shownChars_append_cons (by decide),
    Text.shownChars_of_plain fun x hx => (hs x hx).1]

theorem endsIn_of_plain (a : List Char) {s : List Char} (h : IsPlain (a ++ s)) : EndsIn (shownPart (a ++ s)) s := by
  refine ⟨a, ?_⟩
  rw [shownPart, String.toList_ofList, Text.shownChars_of_plain fun x hx => (h x hx).1]

/-- The last part of a path is a name unless the path is the root. -/
theorem basename_cases {path : String} {ns : List Part} (h : Through path ns) :
    basename path = "" ∨ IsName (basename path).toList := by
  cases hns : ns using List.reverseRecOn with
  | nil =>
    subst hns
    obtain rfl := h.text.resolve_right fun hc => hc.1 rfl
    exact .inl (by decide)
  | append_singleton before q =>
    subst hns
    right
    rw [h.basename, String.toList_ofList]
    exact h.names q (by simp)

theorem staysBelow_basename {path : String} {ns : List Part} (h : Through path ns) : StaysBelow (basename path) := by
  rcases basename_cases h with h | h
  · rw [h]
    decide
  · exact staysBelow_name h

theorem length_basename {path : String} {ns : List Part} (h : Through path ns) :
    (normalParts true (basename path).toList).length ≤ 1 := by
  rcases basename_cases h with h | h
  · rw [h]
    decide
  · rw [normalParts_name h]
    exact Nat.le_refl 1

end Disk

/-! ## The paths of a run -/

namespace Build

/-- The name of the log of a step. -/
def logName (step : BuildStep) (label : String) : String := s!"{program step}_{Text.slug label}.log"

end Build

namespace Package

/-- Where the archive of a variant's package goes. -/
def archivePath (opts : PackageOptions) (c : WorkingCopy) (label : String) : String :=
  Path.join [opts.outputDir, (descriptor opts c label).fileName]

/-- Where the metadata of a variant's package is written. -/
def metadataPath (opts : PackageOptions) (label : String) : String :=
  Path.join [stagingDir opts label, metadataFile]

end Package

/-- The file that a spell edits. -/
def Spell.edited? (s : Spell) : Option String :=
  match s.work with
  | .edit file _ _ => some file
  | _ => none

namespace Run

/-- The paths that a run works on when it makes some variants. -/
inductive Uses (p : Plan) (c : WorkingCopy) (vs : List Variant) : String → Prop where
  | chamber : Uses p c vs p.config.chamber
  | output : Uses p c vs p.config.outputDir
  | machineFile {name : String} (hname : name = Build.crossFileName ∨ name = Build.nativeFileName) :
      Uses p c vs (Path.join [p.config.chamber, name])
  | build : Uses p c vs (Path.join [c.root, p.buildOptions.directory])
  | edit {v : Variant} {s : Spell} {file : String} {marker : Text} {rules : List Rule} (hv : v ∈ vs)
      (hs : s ∈ v.spells) (hwork : s.work = .edit file marker rules) : Uses p c vs (Spell.editPath c file)
  | log {v : Variant} (hv : v ∈ vs) (step : BuildStep) : Uses p c vs (Build.logPath p.buildOptions step v.label)
  | staging {v : Variant} (hv : v ∈ vs) : Uses p c vs (Package.stagingDir p.packageOptions v.label)
  | staged {v : Variant} (hv : v ∈ vs) :
      Uses p c vs (Package.stagedPath p.packageOptions (Build.artifact p.buildOptions c) v.label)
  | library {v : Variant} (hv : v ∈ vs) : Uses p c vs (Package.libraryPath p.packageOptions v.label)
  | metadata {v : Variant} (hv : v ∈ vs) : Uses p c vs (Package.metadataPath p.packageOptions v.label)
  | archive {v : Variant} (hv : v ∈ vs) : Uses p c vs (Package.archivePath p.packageOptions c v.label)
  | part {v : Variant} (hv : v ∈ vs) : Uses p c vs (Package.archivePath p.packageOptions c v.label ++ ".tmp")
  | report : Uses p c vs (Path.join [p.config.outputDir, Report.fileName])

/-- The places on the ways of these paths. -/
def Ways (p : Plan) (c : WorkingCopy) (vs : List Variant) (q : Place) : Prop :=
  ∃ path, Uses p c vs path ∧ q <+: placeOf path

/-- The places on the ways of the chamber and of the output directory. -/
def Roads (p : Plan) (q : Place) : Prop := q <+: placeOf p.config.chamber ∨ q <+: placeOf p.config.outputDir

/-- Whether the ways of all these paths lie in some places, of which none would be moved together with a library
to where that goes. -/
structure Paves (p : Plan) (c : WorkingCopy) (vs : List Variant) (U : Place → Prop) : Prop where
  opens : ∀ path, Uses p c vs path → Open U path
  low : ∀ v ∈ vs, ¬ placeOf (Package.libraryPath p.packageOptions v.label) <+:
      placeOf (Package.stagedPath p.packageOptions (Build.artifact p.buildOptions c) v.label) →
    ∀ q, U q → placeOf (Package.libraryPath p.packageOptions v.label) <+: q →
      q = placeOf (Package.libraryPath p.packageOptions v.label)

/-- The places that packaging a variant may change. -/
inductive Packs (p : Plan) (c : WorkingCopy) (v : Variant) (q : Place) : Prop where
  | staging (h : placeOf (Package.stagingDir p.packageOptions v.label) <+: q)
  | archive (h : q = placeOf (Package.archivePath p.packageOptions c v.label))
  | part (h : q = placeOf (Package.archivePath p.packageOptions c v.label ++ ".tmp"))

/-- The places that a variant may change when it is made. -/
inductive Turf (p : Plan) (c : WorkingCopy) (v : Variant) (q : Place) : Prop where
  | copy (h : placeOf c.root <+: q)
  | machineFile (name : String) (hname : name = Build.crossFileName ∨ name = Build.nativeFileName)
      (h : q = placeOf (Path.join [p.config.chamber, name]))
  | log (step : BuildStep) (h : q = placeOf (Build.logPath p.buildOptions step v.label))
  | package (h : Packs p c v q)

/-- Whether the outputs of some variants can be told apart: their labels and the slugs of these differ,
their archives have plain names and lie neither in the working copy nor in a staging directory, and no path
of the plan climbs out of the directory that it is meant for. -/
@[mk_iff]
structure Apart (p : Plan) (c : WorkingCopy) (vs : List Variant) : Prop where
  labels : (vs.map fun v => Text.shown v.label).Nodup
  slugs : (vs.map fun v => Text.slug v.label).Nodup
  archives : ∀ v ∈ vs, '/' ∉ (Package.descriptor p.packageOptions c v.label).fileName.toList
  copy : ∀ v ∈ vs, ¬ placeOf c.root <+: placeOf (Package.archivePath p.packageOptions c v.label)
  staging : ∀ v ∈ vs, ∀ v' ∈ vs, ¬ placeOf (Package.stagingDir p.packageOptions v'.label) <+:
    placeOf (Package.archivePath p.packageOptions c v.label)
  directory : StaysBelow p.buildOptions.directory
  edits : ∀ v ∈ vs, ∀ s ∈ v.spells, ∀ file ∈ s.edited?, StaysBelow file
  library : StaysBelow p.packageOptions.libraryName
  metadata : normalParts true p.packageOptions.libraryName.toList ≠ [Package.metadataFile.toList]

instance (p : Plan) (c : WorkingCopy) (vs : List Variant) : Decidable (Apart p c vs) :=
  decidable_of_iff _ (apart_iff p c vs).symm

/-- Whether the outputs of some variants can be told apart, but for those of one variant from each other. -/
@[mk_iff]
structure Separate (p : Plan) (c : WorkingCopy) (vs : List Variant) : Prop where
  labels : (vs.map fun v => Text.shown v.label).Nodup
  slugs : (vs.map fun v => Text.slug v.label).Nodup
  archives : ∀ v ∈ vs, '/' ∉ (Package.descriptor p.packageOptions c v.label).fileName.toList
  copy : ∀ v ∈ vs, ¬ placeOf c.root <+: placeOf (Package.archivePath p.packageOptions c v.label)
  staging : ∀ v ∈ vs, ∀ v' ∈ vs, ¬ placeOf (Package.stagingDir p.packageOptions v'.label) <+:
    placeOf (Package.archivePath p.packageOptions c v.label)
  directory : StaysBelow p.buildOptions.directory
  edits : ∀ v ∈ vs, ∀ s ∈ v.spells, ∀ file ∈ s.edited?, StaysBelow file
  library : StaysBelow p.packageOptions.libraryName

instance (p : Plan) (c : WorkingCopy) (vs : List Variant) : Decidable (Separate p c vs) :=
  decidable_of_iff _ (separate_iff p c vs).symm

theorem Apart.separate {p : Plan} {c : WorkingCopy} {vs : List Variant} (h : Apart p c vs) : Separate p c vs :=
  { h with }

instance {p : Plan} {c : WorkingCopy} {vs : List Variant} : Coe (Apart p c vs) (Separate p c vs) := ⟨Apart.separate⟩

theorem Separate.edit {p : Plan} {c : WorkingCopy} {vs : List Variant} (h : Separate p c vs) {v : Variant} {s : Spell}
    {file : String} {marker : Text} {rules : List Rule} (hv : v ∈ vs) (hs : s ∈ v.spells)
    (hwork : s.work = .edit file marker rules) : StaysBelow file :=
  h.edits v hv s hs file (Option.mem_def.2 (by rw [Spell.edited?, hwork]))

/-! ## Where they are -/

/-- Where the chamber, the output directory and the working copy are. -/
structure Sited (p : Plan) (c : WorkingCopy) (C O : List Part) : Prop where
  chamber : p.config.chamber = absolute C
  output : p.config.outputDir = absolute O
  root : c.root = absolute (C ++ ["mesa".toList])
  chamberNames : ∀ q ∈ C, IsName q
  outputNames : ∀ q ∈ O, IsName q

variable {o : Outside} {p : Plan} {c : WorkingCopy} {C O : List Part} {vs : List Variant} {v v' : Variant}

theorem sited_of_prepare {s : Settings} {here cwd : String} (hplan : Plan.make (s.complete here cwd) = .ok p)
    {t : Toolchain} {revision : Option String} {w w₀ : World}
    (hprepare : Forge.runOn w (prepare o p revision) = (.ok (t, c), w₀)) : ∃ C O, Sited p c C O := by
  obtain ⟨hconfig, -⟩ := Plan.make_ok hplan
  obtain ⟨C, hC, hchamber⟩ := exists_resolve here [cwd, s.chamber]
  obtain ⟨O, hO, houtput⟩ : ∃ O : List Part, (∀ q ∈ O, IsName q) ∧
      (s.outputDir.elim (resolve here [cwd, s.chamber]) fun dir => resolve here [cwd, dir]) = absolute O := by
    cases s.outputDir with
    | none => exact ⟨C, hC, hchamber⟩
    | some dir => exact exists_resolve here [cwd, dir]
  have hchamber' : p.config.chamber = absolute C := by
    rw [hconfig]
    exact hchamber
  refine ⟨C, O, hchamber', ?_, ?_, hC, hO⟩
  · rw [hconfig]
    exact houtput
  · rw [prepare_root _ _ _ _ hprepare]
    show Path.join [p.config.chamber, "mesa"] = _
    rw [hchamber']
    exact join_absolute hC (by decide)

namespace Sited

theorem isName_log (step : BuildStep) (label : String) : IsName (Build.logName step label).toList := by
  have hslug : '/' ∉ (Text.slug label).toList ++ ".log".toList := by
    rw [List.mem_append, not_or]
    exact ⟨Text.ne_slash_of_mem_slug, by decide⟩
  have hname : (Build.logName step label).toList =
      ((Build.program step).toList ++ "_".toList) ++ ((Text.slug label).toList ++ ".log".toList) := by
    simp [Build.logName, toString]
  rw [hname]
  refine isName_append ?_ ?_ ?_ hslug <;> cases step <;> decide

theorem isName_staging (label : String) : IsName ("staging-" ++ Text.slug label).toList := by
  rw [String.toList_append]
  exact isName_append (by decide) (by decide) (by decide) Text.ne_slash_of_mem_slug

/-- The name of an archive, but for its end. -/
def archiveStem (opts : PackageOptions) (c : WorkingCopy) (label : String) : List Char :=
  opts.metadata.namePrefix.toList ++ '-' :: (label.toList ++ '-' :: (c.version.toList ++ '-' :: c.revision.toList))

theorem fileName_eq (opts : PackageOptions) (c : WorkingCopy) (label : String) :
    (Package.descriptor opts c label).fileName.toList = archiveStem opts c label ++ ".zip".toList := by
  simp [Package.descriptor, Descriptor.make, archiveStem, toString]

theorem isName_archive {opts : PackageOptions} {label : String}
    (h : '/' ∉ (Package.descriptor opts c label).fileName.toList) :
    IsName (Package.descriptor opts c label).fileName.toList := by
  have hlong : 4 < (Package.descriptor opts c label).fileName.toList.length := by
    simp [fileName_eq, archiveStem]
    omega
  refine ⟨?_, ?_, ?_, h⟩ <;>
    · intro hc
      rw [hc] at hlong
      exact absurd hlong (by decide)

theorem isName_part {n : Part} (h : IsName n) : IsName (n ++ ".tmp".toList) := by
  refine ⟨by simp, ?_, ?_, ?_⟩
  · intro hc
    have := congrArg List.length hc
    simp at this
  · intro hc
    have := congrArg List.length hc
    simp [up] at this
  · rw [List.mem_append, not_or]
    exact ⟨h.no_slash, by decide⟩

variable (hs : Sited p c C O)
include hs

theorem machineFile {name : String} (hname : name = Build.crossFileName ∨ name = Build.nativeFileName) :
    Path.join [p.config.chamber, name] = absolute (C ++ [name.toList]) := by
  rw [hs.chamber]
  refine join_absolute hs.chamberNames ?_
  rcases hname with rfl | rfl <;> decide

theorem rootNames : ∀ q ∈ C ++ ["mesa".toList], IsName q :=
  List.forall_mem_append.2 ⟨hs.chamberNames, by decide⟩

theorem log (step : BuildStep) (label : String) :
    Build.logPath p.buildOptions step label = absolute (C ++ [(Build.logName step label).toList]) := by
  show Path.join [p.config.chamber, Build.logName step label] = _
  rw [hs.chamber]
  exact join_absolute hs.chamberNames (isName_log step label)

theorem staging (label : String) :
    Package.stagingDir p.packageOptions label = absolute (C ++ [("staging-" ++ Text.slug label).toList]) := by
  show Path.join [p.config.chamber, "staging-" ++ Text.slug label] = _
  rw [hs.chamber]
  exact join_absolute hs.chamberNames (isName_staging label)

theorem stagingNames (label : String) : ∀ q ∈ C ++ [("staging-" ++ Text.slug label).toList], IsName q :=
  List.forall_mem_append.2 ⟨hs.chamberNames, by simpa using isName_staging label⟩

theorem build (h : StaysBelow p.buildOptions.directory) :
    Through (Path.join [c.root, p.buildOptions.directory])
      (C ++ ["mesa".toList] ++ normalParts true p.buildOptions.directory.toList) := by
  rw [hs.root]
  exact (through_absolute hs.rootNames).join h

theorem edit {file : String} (h : StaysBelow file) :
    Through (Spell.editPath c file) (C ++ ["mesa".toList] ++ normalParts true file.toList) := by
  rw [Spell.editPath, hs.root]
  exact (through_absolute hs.rootNames).join h

theorem artifact : ∃ ns, Through (Build.artifact p.buildOptions c) ns := by
  have hroot : isAbsolute c.root = true := by
    rw [hs.root]
    exact isAbsolute_absolute _
  exact ⟨_, through_join _ (through_join p.buildOptions.directory hroot).isAbsolute⟩

theorem staged (label : String) :
    Through (Package.stagedPath p.packageOptions (Build.artifact p.buildOptions c) label)
      (C ++ [("staging-" ++ Text.slug label).toList] ++
        normalParts true (basename (Build.artifact p.buildOptions c)).toList) := by
  obtain ⟨ns, hartifact⟩ := hs.artifact
  rw [Package.stagedPath, hs.staging]
  exact (through_absolute (hs.stagingNames label)).join (staysBelow_basename hartifact)

theorem library (h : StaysBelow p.packageOptions.libraryName) (label : String) :
    Through (Package.libraryPath p.packageOptions label)
      (C ++ [("staging-" ++ Text.slug label).toList] ++ normalParts true p.packageOptions.libraryName.toList) := by
  rw [Package.libraryPath, hs.staging]
  exact (through_absolute (hs.stagingNames label)).join h

theorem metadata (label : String) :
    Package.metadataPath p.packageOptions label =
      absolute (C ++ [("staging-" ++ Text.slug label).toList] ++ [Package.metadataFile.toList]) := by
  rw [Package.metadataPath, hs.staging]
  exact join_absolute (hs.stagingNames label) (by decide)

theorem metadataNames (label : String) :
    ∀ q ∈ C ++ [("staging-" ++ Text.slug label).toList] ++ [Package.metadataFile.toList], IsName q :=
  List.forall_mem_append.2 ⟨hs.stagingNames label, by decide⟩

theorem archive {label : String} (h : '/' ∉ (Package.descriptor p.packageOptions c label).fileName.toList) :
    Package.archivePath p.packageOptions c label =
      absolute (O ++ [(Package.descriptor p.packageOptions c label).fileName.toList]) := by
  show Path.join [p.config.outputDir, _] = _
  rw [hs.output]
  exact join_absolute hs.outputNames (isName_archive h)

theorem part {label : String} (h : '/' ∉ (Package.descriptor p.packageOptions c label).fileName.toList) :
    Package.archivePath p.packageOptions c label ++ ".tmp" =
      absolute (O ++ [(Package.descriptor p.packageOptions c label).fileName.toList ++ ".tmp".toList]) := by
  rw [hs.archive h, absolute_append]

theorem outputNames_append {q : Part} (hq : IsName q) : ∀ r ∈ O ++ [q], IsName r :=
  List.forall_mem_append.2 ⟨hs.outputNames, by simpa using hq⟩

theorem report : Path.join [p.config.outputDir, Report.fileName] = absolute (O ++ [Report.fileName.toList]) := by
  rw [hs.output]
  exact join_absolute hs.outputNames (by decide)

end Sited

end Run

end VariantForge
