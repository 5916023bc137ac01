import VariantForge.Proofs.Package.Contents
import VariantForge.Proofs.Run.Turf

/-!
# Outputs — a variant keeps to its turf

Each step of a variant changes nothing but the variant's turf, however it ends (`package_sparing`, `cast_sparing`,
`build_sparing`).
-/

namespace VariantForge

open Path Disk Forge

namespace Run

variable {o : Outside} {p : Plan} {t : Toolchain} {c : WorkingCopy} {C O : List Part} {vs : List Variant}
  {v : Variant} {a : Act} {α : Type} {U W : Place → Prop}

/-- Whether an operation spares what is outside of some places, where it finds no links on its ways. -/
def Sparing (p : Plan) (U W : Place → Prop) (x : Forge α) : Prop :=
  ∀ d, Keeps (fun w => Spares U (Roads p) W d w.disk) x

theorem Sparing.runOn {x : Forge α} (h : Sparing p U W x) {w w' : World} {r : Except Failure α}
    (hd : Sound U w.disk) (hx : runOn w x = (r, w')) : Spares U (Roads p) W w.disk w'.disk := by
  have := h w.disk w (.refl hd)
  rwa [hx] at this

theorem Sparing.mono {W' : Place → Prop} {x : Forge α} (h : Sparing p U W x) (hW : ∀ q, W q → W' q) :
    Sparing p U W' x :=
  fun _ w hw => hw.trans ((h w.disk w (.refl hw.sound)).mono hW)

theorem Sparing.of_within {acts : Act → Prop} {x : Forge α} (h : Within o acts x) (hrun : Minds o U)
    (hacts : ∀ a, acts a → a.Stays U (Roads p) W) : Sparing p U W x :=
  h.keeps_spares (fun w c _ => hrun w c) hacts

/-! ## What the acts of a variant touch -/

section Acts

variable (hs : Sited p c C O) (ha : Separate p c vs) (hU : Paves p c vs U)

/-- A command that is run in the working copy touches that and its log. -/
theorem stays_command {cmd : Command} {N : Place → Prop} (hdir : cmd.directory = some c.root)
    (hcopy : ∀ q, placeOf c.root <+: q → W q) (hlog : ∀ log, cmd.logFile = some log → W (placeOf log)) :
    (Act.run cmd).Stays U N W := by
  refine ⟨trivial, fun q hq => ?_, fun q hq => hq.elim⟩
  rcases hq with ⟨dir, hdir', hq⟩ | ⟨log, hlog', rfl⟩ | ⟨hnone, -⟩
  · rw [hdir] at hdir'
    cases hdir'
    exact hcopy q hq
  · exact hlog log hlog'
  · rw [hdir] at hnone
    cases hnone

theorem git_stays (h : Git.Acts c.root a) : a.Stays U (Roads p) (placeOf c.root <+: ·) := by
  cases h with
  | run arguments => exact stays_command rfl (fun _ h => h) fun log h => by cases h

include hs

theorem below_copy (n : List Part) {path : String} (h : Through path (C ++ ["mesa".toList] ++ n)) :
    placeOf c.root <+: placeOf path := by
  rw [hs.root, (through_absolute hs.rootNames).placeOf_eq, h.placeOf_eq]
  exact (List.prefix_append _ _).map shownPart

theorem below_staging (n : List Part) {path : String}
    (h : Through path (C ++ [("staging-" ++ Text.slug v.label).toList] ++ n)) :
    placeOf (Package.stagingDir p.packageOptions v.label) <+: placeOf path := by
  rw [hs.staging, (through_absolute (hs.stagingNames v.label)).placeOf_eq, h.placeOf_eq]
  exact (List.prefix_append _ _).map shownPart

theorem metadata_below (v : Variant) : placeOf (Package.stagingDir p.packageOptions v.label) <+:
    placeOf (Package.metadataPath p.packageOptions v.label) := by
  have hthrough := through_absolute (hs.metadataNames v.label)
  rw [← hs.metadata] at hthrough
  exact below_staging hs _ hthrough

include ha hU

theorem spell_stays (hv : v ∈ vs) (h : Spell.Acts c v.spells a) : a.Stays U (Roads p) (placeOf c.root <+: ·) := by
  cases h with
  | git arguments => exact git_stays (.run arguments)
  | edit hspell hwork =>
    refine ⟨hU.opens _ (.edit hv hspell hwork), fun q hq => ?_, fun q hq => hq.elim⟩
    cases hq
    exact below_copy hs _ (hs.edit (ha.edit hv hspell hwork))

theorem build_stays (h : Build.Acts o p.buildOptions c v.label a) : a.Stays U (Roads p) (Turf p c v) := by
  cases h with
  | chamber =>
    exact ⟨⟨C, hs.chamberNames, hs.chamber, hU.opens _ .chamber⟩, fun q hq => hq.elim, fun q hq => .inl (.inl hq)⟩
  | cross =>
    exact ⟨hU.opens _ (.machineFile (.inl rfl)), fun q hq => .machineFile _ (.inl rfl) hq, fun q hq => hq.elim⟩
  | native =>
    exact ⟨hU.opens _ (.machineFile (.inr rfl)), fun q hq => .machineFile _ (.inr rfl) hq, fun q hq => hq.elim⟩
  | clear =>
    have hbelow := below_copy hs _ (hs.build ha.directory)
    exact ⟨hU.opens _ .build, fun q hq => .copy (hbelow.trans hq), fun q hq => hq.elim⟩
  | step profile step arguments =>
    refine stays_command rfl (fun _ => .copy) fun log h => ?_
    cases h
    exact .log step rfl

section Package

variable (hv : v ∈ vs)
include hv

omit hU in
/-- The package of a variant is put together in the chamber, and goes to the output directory. -/
theorem located : Package.Located p.packageOptions c v.label C O
    (Package.descriptor p.packageOptions c v.label).fileName.toList where
  chamberNames := hs.chamberNames
  staging := hs.staging v.label
  directoryNames := hs.outputNames
  name := Sited.isName_archive (ha.archives v hv)
  archive := hs.archive (ha.archives v hv)

omit hU in
theorem package_roads {q : Place} : Package.Roads p.packageOptions c v.label q ↔ Roads p q := by
  rw [Package.Roads, (located hs ha hv).dirname_staging, (located hs ha hv).dirname_archive, ← hs.chamber, ← hs.output,
    Roads]

theorem package_paves : Package.Paves p.packageOptions (Build.artifact p.buildOptions c) c v.label U where
  roads q hq := ((package_roads hs ha hv).1 hq).elim ((hU.opens _ .chamber).way q) ((hU.opens _ .output).way q)
  staged := (hU.opens _ (.staged hv)).way
  library := (hU.opens _ (.library hv)).way
  metadata := (hU.opens _ (.metadata hv)).way
  low := hU.low v hv

theorem stage_stays (h : Package.StageActs p.packageOptions (Build.artifact p.buildOptions c) v.label a) :
    a.Stays U (Roads p) (Packs p c v) := by
  obtain ⟨ns, hartifact⟩ := hs.artifact
  have hstays := (located hs ha hv).stage_stays (package_paves hs ha hU hv) (staysBelow_basename hartifact) ha.library h
  exact hstays.mono (fun q => (package_roads hs ha hv).1) fun q => .staging

end Package

end Acts

/-! ## Writing an archive -/

/-- Moving a file to one that was removed moves nothing else, if it was just written beside that. -/
theorem replaced_kept {U : Place → Prop} {d d₁ d₂ d₃ : Disk} {part target : String} {bytes : ByteArray}
    (hd : Sound U d) (hp : Open U part) (ht : Open U target) (hne : placeOf part ≠ placeOf target)
    (hwrite : d.write part bytes = .ok d₁) (hremove : d₁.removeFile target = .ok d₂)
    (hrename : d₂.rename part target = .ok d₃) :
    Kept U (fun q => q = placeOf part ∨ q = placeOf target) d₂ d₃ := by
  have h₁ := write_kept hd hp hwrite
  have h₂ := removeFile_kept h₁.sound ht hremove
  obtain ⟨mode, hfile⟩ := get?_of_write hd hp hwrite
  rw [← h₂.outside _ hne] at hfile
  exact rename_file_kept h₂.sound hp ht (by rw [hfile]; exact fun h => by cases h) hrename

section Steps

variable (hs : Sited p c C O) (ha : Separate p c vs) (hU : Paves p c vs U) (hrun : Minds o U) (hv : v ∈ vs)
include hs ha hv

theorem resolve_archive (here : String) :
    Path.resolve here [Package.archivePath p.packageOptions c v.label] =
      Package.archivePath p.packageOptions c v.label := by
  have hnames := hs.outputNames_append (Sited.isName_archive (ha.archives v hv))
  rw [hs.archive (ha.archives v hv), resolve_through here (through_absolute hnames)]

theorem part_ne_archive :
    placeOf (Package.archivePath p.packageOptions c v.label ++ ".tmp") ≠
      placeOf (Package.archivePath p.packageOptions c v.label) := by
  rw [place_archive hs ha hv, place_part hs ha hv]
  exact append_ne ((endsIn_part _).ne (endsIn_archive _ c v.label) rfl (by decide))

include hU

/-- An archive is written beside its place, and only then is what is there replaced. -/
theorem replace_sparing (bytes : ByteArray) :
    Sparing p U (Packs p c v) (Forge.putInPlace (Package.archivePath p.packageOptions c v.label ++ ".tmp")
      (Package.archivePath p.packageOptions c v.label) bytes) := by
  have hpart := hU.opens _ (.part hv)
  have harchive := hU.opens _ (.archive hv)
  intro d
  have hwrite {d₁ d₂ : Disk} (hd : Spares U (Roads p) (Packs p c v) d d₁)
      (h : d₁.write (Package.archivePath p.packageOptions c v.label ++ ".tmp") bytes = .ok d₂) :
      Spares U (Roads p) (Packs p c v) d d₂ :=
    hd.trans ((write_kept hd.sound hpart h).mono fun _ => .part).spares
  have hremove {d₁ d₂ : Disk} (hd : Spares U (Roads p) (Packs p c v) d d₁)
      (h : d₁.removeFile (Package.archivePath p.packageOptions c v.label) = .ok d₂) :
      Spares U (Roads p) (Packs p c v) d d₂ :=
    hd.trans ((removeFile_kept hd.sound harchive h).mono fun _ => .archive).spares
  refine (Keeps.change fun w d₁ => hwrite).bind_of fun w _ w₁ hw h₁ hw₁ => ?_
  obtain ⟨d₁, hd₁, rfl⟩ := change_ok h₁
  -- what was written is a file, so moving it moves nothing else
  rw [runOn_bind]
  rcases h₂ : runOn { w with disk := d₁ } (change (·.removeFile (Package.archivePath p.packageOptions c v.label))) with
    ⟨e | _, w₂⟩
  · obtain ⟨-, -, -, rfl⟩ := change_error h₂
    exact hw₁
  obtain ⟨d₂, hd₂, rfl⟩ := change_ok h₂
  dsimp only
  rw [runOn_change]
  cases hd₃ : d₂.rename (Package.archivePath p.packageOptions c v.label ++ ".tmp")
      (Package.archivePath p.packageOptions c v.label) with
  | error e => exact hremove hw₁ hd₂
  | ok d₃ =>
    have hkept := replaced_kept hw.sound hpart harchive (part_ne_archive hs ha hv) hd₁ hd₂ hd₃
    exact (hremove hw₁ hd₂).trans (hkept.mono fun q hq => hq.elim .part .archive).spares

include hrun

theorem writeArchive_sparing (files : List Package.Source) :
    Sparing p U (Packs p c v) (Package.writeArchive files (Package.archivePath p.packageOptions c v.label)) := by
  intro d
  refine Keeps.here.bind fun here => ?_
  rw [resolve_archive hs ha hv here]
  have hnone {β : Type} {x : Forge β} (hx : Within o (fun _ => False) x) : Sparing p U (Packs p c v) x :=
    .of_within hx hrun fun _ h => h.elim
  have hmake : Sparing p U (Packs p c v)
      (Forge.makeDirectories (Path.dirname (Package.archivePath p.packageOptions c v.label))) := by
    have hdir : Path.dirname (Package.archivePath p.packageOptions c v.label) = p.config.outputDir := by
      rw [hs.archive (ha.archives v hv), hs.output]
      exact dirname_absolute hs.outputNames (Sited.isName_archive (ha.archives v hv))
    rw [hdir]
    have hwithin : Within o (· = .makeDirectories p.config.outputDir)
        (Forge.makeDirectories p.config.outputDir) := .makeDirectories rfl
    refine .of_within hwithin hrun ?_
    rintro _ rfl
    exact ⟨⟨O, hs.outputNames, hs.output, hU.opens _ .output⟩, fun q hq => hq.elim, fun q hq => .inl (.inr hq)⟩
  have hclean : Sparing p U (Packs p c v)
      (Forge.change (·.removeFile (Package.archivePath p.packageOptions c v.label ++ ".tmp"))) := by
    have hwithin : Within o (· = .removeFile (Package.archivePath p.packageOptions c v.label ++ ".tmp"))
        (Forge.change (·.removeFile (Package.archivePath p.packageOptions c v.label ++ ".tmp"))) :=
      .change rfl .removeFile
    refine .of_within hwithin hrun ?_
    rintro _ rfl
    exact ⟨hU.opens _ (.part hv), fun q hq => .part hq, fun q hq => hq.elim⟩
  refine (hmake d).bind fun _ => (hnone (.mapM fun f => Package.memberName_within _) d).bind fun names => ?_
  refine (hnone (.mapM fun f => Package.load_within _ _) d).bind fun packed => ?_
  exact (Keeps.finally (replace_sparing hs ha hU hv _ d) (hclean d)).bind fun _ => .pure _

theorem finish_sparing : Sparing p U (Packs p c v) (Package.finish o p.packageOptions c v.label) := by
  intro d
  have hmeta (text : String) : Sparing p U (Packs p c v)
      (Forge.writeText (Package.metadataPath p.packageOptions v.label) text) := by
    have hwithin : Within o (Package.StageActs p.packageOptions (Build.artifact p.buildOptions c) v.label)
        (Forge.writeText (Package.metadataPath p.packageOptions v.label) text) := .writeText .metadata
    exact .of_within hwithin hrun fun _ => stage_stays hs ha hU hv
  have hnone {β : Type} {x : Forge β} (hx : Within o (fun _ => False) x) : Sparing p U (Packs p c v) x :=
    .of_within hx hrun fun _ h => h.elim
  refine (hnone (.now o) d).bind fun builtAt => ?_
  cases Metadata.make p.packageOptions.metadata v.label c.version builtAt with
  | error r => exact .throw _
  | ok metadata =>
    refine (hmeta _ d).bind fun _ => (writeArchive_sparing hs ha hU hrun hv _ d).bind fun _ => ?_
    exact (hnone (.log _ _ _) d).bind fun _ => .pure _

theorem package_sparing : Sparing p U (Packs p c v)
    (Package.run o p.packageOptions (Build.artifact p.buildOptions c) c v.label) := by
  intro d
  have hstage {β : Type} {x : Forge β}
      (hx : Within o (Package.StageActs p.packageOptions (Build.artifact p.buildOptions c) v.label) x) :
      Sparing p U (Packs p c v) x :=
    .of_within hx hrun fun _ => stage_stays hs ha hU hv
  have hclear := hstage (.change .clear .removeAll) d
  refine (hstage (.look _) d).bind fun there => .ite (.throw _) ?_
  refine hclear.bind fun _ => Keeps.finally (Keeps.tryCatch ?_ fun f => .throw _) hclear
  exact (hstage Package.stage_within d).bind fun _ => finish_sparing hs ha hU hrun hv d

end Steps

/-! ## The steps of a variant -/

theorem reset_sparing (hrun : Minds o U) : Sparing p U (placeOf c.root <+: ·) (Source.reset o c) :=
  .of_within (Source.reset_within c) hrun fun _ => git_stays

section Steps

variable (hs : Sited p c C O) (ha : Separate p c vs) (hU : Paves p c vs U) (hrun : Minds o U)
include hs ha hU hrun

theorem cast_sparing (hv : v ∈ vs) : Sparing p U (placeOf c.root <+: ·) (castAll o p c v v.spells) :=
  .of_within (castAll_within p c v fun _ hs => hs) hrun fun _ => spell_stays hs ha hU hv

theorem build_sparing : Sparing p U (Turf p c v) (Build.run o p.buildOptions c t v.label) :=
  .of_within (Build.run_within t) hrun fun _ => build_stays hs ha hU

end Steps

end Run

end VariantForge
