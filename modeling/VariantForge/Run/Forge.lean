import VariantForge.Package.Make
import VariantForge.Run.Report
import VariantForge.Source.Acquire
import VariantForge.Spell.Cast
import VariantForge.Toolchain.Resolve

/-!
A run: the toolchain is found, the source fetched, and each variant that was asked for is reset,
changed by its spells, built and packaged. A variant that fails is recorded and does not stop the
others. At the end the report is written; if that fails there is only a warning.
-/

namespace VariantForge

/-- What a run is to build, and from which revision. -/
structure RunRequest where
  variant : Option String := none
  revision : Option String := none

/-- A configuration with its variants. -/
structure Plan where
  config : Configuration
  registry : Registry

namespace Plan

/-- The plan of a configuration. -/
def make (c : Configuration) : Except Failure Plan :=
  match Registry.build (VariantDefinition.builtIn ++ c.settings.variants)
      (Catalog.withBuiltIn c.settings.spells) c.settings.defaultVariant with
  | .ok registry => .ok ⟨c, registry⟩
  | .error fault => .error (.variants fault)

/-- How often things are tried. -/
def retry (p : Plan) : RetryPolicy :=
  ⟨p.config.settings.retry.maxAttempts, p.config.settings.retry.delaySeconds.times 1000⟩

/-- How the toolchain is found. -/
def resolveOptions (p : Plan) : ResolveOptions :=
  let t := p.config.settings.toolchain
  { chamber := p.config.chamber
    version := t.version
    downloadUrl := p.config.downloadUrl
    systemRoot := t.systemRoot
    downloadTimeoutMs := t.downloadTimeoutSeconds.times 1000
    maxDownloadBytes := t.maxDownloadBytes
    retry := p.retry }

/-- How the source is fetched. -/
def acquireOptions (p : Plan) : AcquireOptions :=
  let s := p.config.settings.source
  { chamber := p.config.chamber
    depth := s.depth
    pinDepth := s.pinFetchDepth
    userName := s.gitUserName
    userEmail := s.gitUserEmail
    retry := p.retry }

/-- How variants are built. -/
def buildOptions (p : Plan) : BuildOptions :=
  let b := p.config.settings.build
  let t := p.config.settings.toolchain
  { chamber := p.config.chamber
    directory := b.directory
    target := b.target
    jobs := b.jobs
    configureLogTail := b.configureLogTail
    compileLogTail := b.compileLogTail
    profile :=
      { apiLevel := t.apiLevel, hostTag := t.hostTag, ccache := t.ccache, mesonOptions := b.mesonOptions
        environment := b.environment } }

/-- How packages are made. -/
def packageOptions (p : Plan) : PackageOptions :=
  let s := p.config.settings.package
  { chamber := p.config.chamber
    outputDir := p.config.outputDir
    soname := s.soname
    libraryName := s.libraryName
    metadata :=
      { namePrefix := s.namePrefix
        author := some (.text s.author)
        vendor := some (.text s.vendor)
        packageVersion := some (.text s.packageVersion)
        minApi := some (.number s.minApi)
        schemaVersion := some (.number s.schemaVersion)
        libraryName := some (.text s.libraryName) } }

end Plan

namespace Run

/-- Gives a warning and writes it to the log. -/
def warn (w : Warning) : Forge Unit := do
  Forge.warn w
  Forge.log .warn w.message
    (some ([("event", .text w.event.name)] ++ Data.given "variant" (w.variant.map .text) ++
      Data.given "transform" (w.spell.map .text)))

/-- The warnings that were given from an event of the journal on. -/
def warningsFrom (start : Nat) (w : World) : List Warning :=
  (w.journal.drop start).filterMap fun e => match e with
    | .warned warning => some warning
    | _ => none

/-- A warning about a spell of a variant. -/
def about (v : Variant) (s : Spell) (event : WarningEvent) (message : String) : Warning :=
  { event, message, variant := some v.name, spell := some s.id }

/-- Says whether rules of a spell found nothing. -/
def reportUnmatched (v : Variant) (s : Spell) (c : CastOutcome) : Forge Unit :=
  match c.unmatchedRules with
  | some (n + 1) => warn (about v s .ruleUnmatched s!"spell {s.id}: {n + 1} rule(s) did not match")
  | _ => pure ()

/-- What is said about the outcome of a spell. -/
def report (v : Variant) (s : Spell) (c : CastOutcome) : Forge Unit := do
  match c.status with
  | .notFound => warn (about v s .spellNotFound s!"spell {s.id} not found: {c.detail}")
  | .partiallyApplied => warn (about v s .spellPartial s!"spell {s.id} partially applied: {c.detail}")
  | status => Forge.log .info s!"spell {s.id}: {status.name}" (some [("detail", .text c.detail)])
  reportUnmatched v s c

/-- Casts the spells of a variant in order. -/
def castAll (o : Outside) (p : Plan) (w : WorkingCopy) (v : Variant) : List Spell → Forge Unit
  | [] => return ()
  | s :: rest => do
    report v s (← Spell.cast o p.config.spellsDir w s)
    castAll o p w v rest

/-- Runs a step of a variant and gives its failure together with the step. -/
def atStage (stage : Stage) (x : Forge α) : Forge (Except (Stage × Failure) α) := do
  match ← Forge.attempt x with
  | .ok a => return .ok a
  | .error f => return .error (stage, f)

/-- Resets, changes, builds and packages a variant; gives its package, or the step that failed. -/
def makeVariant (o : Outside) (p : Plan) (t : Toolchain) (w : WorkingCopy) (v : Variant) :
    Forge (Except (Stage × Failure) PackagedArtifact) := do
  match ← atStage .reset (Source.reset o w) with
  | .error e => return .error e
  | .ok _ =>
    match ← atStage .transform (castAll o p w v v.spells) with
    | .error e => return .error e
    | .ok _ =>
      match ← atStage .build (Build.run o p.buildOptions w t v.label) with
      | .error e => return .error e
      | .ok built => atStage .package (Package.run o p.packageOptions built.artifact w v.label)

/-- What came of the variants so far. -/
structure Tally where
  succeeded : List String := []
  failed : List VariantFailure := []
  archives : List String := []

/-- Records a variant that failed. -/
def recordFailure (v : Variant) (stage : Stage) (f : Failure) (tally : Tally) : Forge Tally := do
  let failure : VariantFailure := ⟨v.name, v.label, stage, f.message, f.code?⟩
  Forge.log .error s!"variant {v.label} failed during {stage.name}"
    (some (Data.given "code" (failure.code.map .text) ++ [("err", .text failure.message)] ++
      Data.given "details" (f.details?.map .text)))
  return { tally with failed := tally.failed ++ [failure] }

/-- Makes one variant and records what came of it. A failure in a run that was cancelled ends the
run. -/
def makeNext (o : Outside) (p : Plan) (t : Toolchain) (w : WorkingCopy) (tally : Tally) (v : Variant) :
    Forge Tally := do
  Forge.checkCancelled
  Forge.log .info s!"=== variant {v.label} ==="
  match ← makeVariant o p t w v with
  | .ok made =>
    return { tally with
      succeeded := tally.succeeded ++ [v.name], archives := tally.archives ++ [made.archive] }
  | .error (stage, f) =>
    if ← Forge.isCancelled then throw f
    recordFailure v stage f tally

/-- Makes variants in order. -/
def makeAll (o : Outside) (p : Plan) (t : Toolchain) (w : WorkingCopy) (tally : Tally) :
    List Variant → Forge Tally
  | [] => return tally
  | v :: rest => do
    let tally ← makeNext o p t w tally v
    makeAll o p t w tally rest

/-- Writes the report of a run, or warns that it could not be written. -/
def writeReport (o : Outside) (p : Plan) (summary : Summary) (w : WorkingCopy) (t : Toolchain)
    (started : Instant) : Forge Unit := do
  match Report.make summary.members w t started (← Forge.now o) with
  | none => throw .invalidTime
  | some report =>
    match ← Forge.attempt (Report.write p.config.outputDir report) with
    | .ok file => Forge.log .info s!"run report written: {file}"
    | .error f =>
      warn { event := .reportFailed, message := s!"could not write run report: {f.message}" }

/-- Tells the log how a run ended. -/
def logSummary (s : Summary) : Forge Unit := do
  Forge.log .info s!"build complete: {s.succeeded.length} succeeded, {s.failed.length} failed"
  if !s.failed.isEmpty then
    Forge.log .warn ("failed variants: " ++ ", ".intercalate (s.failed.map (·.name)))
  for archive in s.archives do
    Forge.log .info s!"archive: {archive}"

/-- Finds the toolchain and fetches the source. -/
def prepare (o : Outside) (p : Plan) (revision : Option String) : Forge (Toolchain × WorkingCopy) := do
  Forge.makeDirectories p.config.chamber
  Forge.makeDirectories p.config.outputDir
  let toolchain ← Toolchain.resolve o p.resolveOptions
  let copy ← Source.acquire o p.acquireOptions p.config.settings.source.candidates revision
  return (toolchain, copy)

/-- Warns about a request that is unknown. -/
def announce (p : Plan) (s : Registry.Selection) : Forge Unit := do
  match s.unknown with
  | some name =>
    warn { event := .unknownVariant
           message := s!"unknown variant {name}, building {p.registry.default.name}", variant := some name }
  | none => pure ()

/-- What came of the variants, as a summary. -/
def Tally.summary (t : Tally) (requested : String) (warnings : List Warning) : Summary :=
  { requested, succeeded := t.succeeded, failed := t.failed, archives := t.archives, warnings
    ok := !t.archives.isEmpty }

/-- Ends a run: the report is written, and the log is told. -/
def conclude (o : Outside) (p : Plan) (t : Toolchain) (w : WorkingCopy) (started : Instant) (start : Nat)
    (requested : String) (tally : Tally) : Forge Summary := do
  let summary := tally.summary requested (warningsFrom start (← get))
  if p.config.settings.report then writeReport o p summary w t started
  let summary := { summary with warnings := warningsFrom start (← get) }
  logSummary summary
  return summary

/-- Runs a plan. -/
def run (o : Outside) (p : Plan) (r : RunRequest) : Forge Summary := do
  let start := (← get).journal.length
  let started ← Forge.now o
  let (toolchain, copy) ← prepare o p r.revision
  let selection := p.registry.select r.variant
  announce p selection
  let tally ← makeAll o p toolchain copy {} selection.variants
  let requested := (r.variant.bind Text.nonBlank?).getD p.registry.default.name
  conclude o p toolchain copy started start requested tally

end Run

end VariantForge
