import VariantForge.Proofs.Run.Footprint

/-!
# Accounting of a run

`Pipeline` says what a variant's steps come to without any list being kept, `Processed` strings the
pipelines of some variants together. A run keeps its lists true to that: one variant adds its entry
to one of them (`makeNext_processed`), so the summary accounts for all of them (`run_accounts`).
-/

namespace VariantForge.Run

open Forge

/-- What came of a variant: its package, or the step that failed and why. -/
abbrev Outcome := Except (Stage × Failure) PackagedArtifact

variable {o : Outside} {p : Plan} {t : Toolchain} {c : WorkingCopy} {v : Variant}

/-! ## The pipeline of a variant -/

/-- The steps of a variant, done in order until one fails. Casting its spells is not among those
that can. -/
inductive Pipeline (o : Outside) (p : Plan) (t : Toolchain) (c : WorkingCopy) (v : Variant) (w : World) :
    Outcome → World → Prop where
  | notReset {f : Failure} {w' : World} (hreset : runOn w (Source.reset o c) = (.error f, w')) :
      Pipeline o p t c v w (.error (.reset, f)) w'
  | notBuilt {f : Failure} {w₁ w₂ w' : World} (hreset : runOn w (Source.reset o c) = (.ok (), w₁))
      (hcast : runOn w₁ (castAll o p c v v.spells) = (.ok (), w₂))
      (hbuild : runOn w₂ (Build.run o p.buildOptions c t v.label) = (.error f, w')) :
      Pipeline o p t c v w (.error (.build, f)) w'
  | notPackaged {f : Failure} {built : BuildResult} {w₁ w₂ w₃ w' : World}
      (hreset : runOn w (Source.reset o c) = (.ok (), w₁))
      (hcast : runOn w₁ (castAll o p c v v.spells) = (.ok (), w₂))
      (hbuild : runOn w₂ (Build.run o p.buildOptions c t v.label) = (.ok built, w₃))
      (hpackage : runOn w₃ (Package.run o p.packageOptions built.artifact c v.label) = (.error f, w')) :
      Pipeline o p t c v w (.error (.package, f)) w'
  | made {a : PackagedArtifact} {built : BuildResult} {w₁ w₂ w₃ w' : World}
      (hreset : runOn w (Source.reset o c) = (.ok (), w₁))
      (hcast : runOn w₁ (castAll o p c v v.spells) = (.ok (), w₂))
      (hbuild : runOn w₂ (Build.run o p.buildOptions c t v.label) = (.ok built, w₃))
      (hpackage : runOn w₃ (Package.run o p.packageOptions built.artifact c v.label) = (.ok a, w')) :
      Pipeline o p t c v w (.ok a) w'

theorem runOn_atStage (w : World) (stage : Stage) {α : Type} (x : Forge α) :
    runOn w (atStage stage x) =
      (.ok ((runOn w x).1.mapError fun f => (stage, f)), (runOn w x).2) := by
  rw [atStage, runOn_bind, runOn_attempt]
  rcases runOn w x with ⟨_ | _, w'⟩ <;> rfl

theorem cast_total (dir : String) (s : Spell) : Total (Spell.cast o dir c s) := by
  refine (Total.log _ _ _).bind fun _ => (Total.attempt _).bind fun r => ?_
  cases r with
  | ok outcome => exact .pure _
  | error f => exact .pure _

theorem warn_total (w : Warning) : Total (warn w) := (Total.warn w).bind fun _ => .log _ _ _

theorem report_total (v : Variant) (s : Spell) (r : CastOutcome) : Total (report v s r) := by
  have last : Total (reportUnmatched v s r) := by
    rw [reportUnmatched]
    split
    · exact warn_total _
    · exact .pure _
  rw [report]
  split
  · exact (warn_total _).bind fun _ => last
  · exact (warn_total _).bind fun _ => last
  · exact (Total.log _ _ _).bind fun _ => last

theorem castAll_total (v : Variant) (spells : List Spell) : Total (castAll o p c v spells) := by
  induction spells with
  | nil => exact .pure _
  | cons s rest ih =>
    exact (cast_total _ s).bind fun r => (report_total v s r).bind fun _ => ih

theorem makeVariant_pipeline (w : World) :
    ∃ out w', runOn w (makeVariant o p t c v) = (.ok out, w') ∧ Pipeline o p t c v w out w' := by
  simp only [makeVariant, runOn_bind, runOn_atStage]
  rcases hreset : runOn w (Source.reset o c) with ⟨f | _, w₁⟩
  · exact ⟨_, _, rfl, .notReset hreset⟩
  obtain ⟨_, w₂, hcast⟩ := castAll_total (o := o) (p := p) (c := c) v v.spells w₁
  simp only [mapError_ok, runOn_bind, runOn_atStage, hcast]
  rcases hbuild : runOn w₂ (Build.run o p.buildOptions c t v.label) with ⟨f | built, w₃⟩
  · exact ⟨_, _, rfl, .notBuilt hreset hcast hbuild⟩
  simp only [mapError_ok, runOn_atStage]
  rcases hpackage : runOn w₃ (Package.run o p.packageOptions built.artifact c v.label) with
    ⟨f | a, w'⟩
  · exact ⟨_, _, rfl, .notPackaged hreset hcast hbuild hpackage⟩
  · exact ⟨_, _, rfl, .made hreset hcast hbuild hpackage⟩

/-! ## No cancelling -/

theorem atStage_within {acts : Act → Prop} (stage : Stage) {α : Type} {x : Forge α}
    (hx : Within o acts x) : Within o acts (atStage stage x) := by
  refine hx.attempt.bind fun r => ?_
  cases r with
  | ok a => exact .pure _
  | error f => exact .pure _

theorem makeVariant_within : Within o (fun _ => True) (makeVariant o p t c v) := by
  refine (atStage_within _ ((Source.reset_within c).mono fun _ _ => trivial)).bind fun r => ?_
  cases r with
  | error e => exact .pure _
  | ok _ =>
    have hcast : Within o (fun _ => True) (castAll o p c v v.spells) :=
      (castAll_within p c v fun _ h => h).mono fun _ _ => trivial
    refine (atStage_within _ hcast).bind fun r => ?_
    cases r with
    | error e => exact .pure _
    | ok _ =>
      refine (atStage_within _ ((Build.run_within t).mono fun _ _ => trivial)).bind fun r => ?_
      cases r with
      | error e => exact .pure _
      | ok built => exact atStage_within _ (Package.run_within.mono fun _ _ => trivial)

/-! ## What is recorded -/

/-- The failure of a variant as it is recorded. -/
def failureOf (v : Variant) (e : Stage × Failure) : VariantFailure :=
  ⟨v.name, v.label, e.1, e.2.message, e.2.code?⟩

/-- The lists after one more variant. -/
def Tally.add (tally : Tally) (v : Variant) (out : Outcome) : Tally :=
  match out with
  | .ok a => { tally with
      succeeded := tally.succeeded ++ [v.name], archives := tally.archives ++ [a.archive] }
  | .error e => { tally with failed := tally.failed ++ [failureOf v e] }

/-- A world in which some lines were added to the journal. -/
def said (w : World) (events : List Event) : World := { w with journal := w.journal ++ events }

/-- What the log is told before a variant. -/
def opening (v : Variant) : List Event := [.logged .info s!"=== variant {v.label} ===" none]

/-- What the log is told after a variant: nothing unless it failed. -/
def closing (v : Variant) (out : Outcome) : List Event :=
  match out with
  | .ok _ => []
  | .error (stage, f) =>
    [.logged .error s!"variant {v.label} failed during {stage.name}"
      (some (Data.given "code" (f.code?.map .text) ++ [("err", .text f.message)] ++
        Data.given "details" (f.details?.map .text)))]

/-- Some variants that were run through their pipelines one after the other, and what came of each. -/
inductive Processed (o : Outside) (p : Plan) (t : Toolchain) (c : WorkingCopy) :
    World → List (Variant × Outcome) → World → Prop where
  | nil (w : World) : Processed o p t c w [] w
  | cons {v : Variant} {out : Outcome} {done : List (Variant × Outcome)} {w w₁ w₂ : World}
      (hfirst : Pipeline o p t c v (said w (opening v)) out w₁)
      (hrest : Processed o p t c (said w₁ (closing v out)) done w₂) :
      Processed o p t c w ((v, out) :: done) w₂

/-- One variant in a run that is not cancelled: its pipeline is run, and one entry is added. -/
theorem makeNext_processed (hrun : ∀ w c, (o.run w c).cancels = false) {w : World}
    (hw : w.cancelled = false) (tally : Tally) (v : Variant) :
    ∃ out w', Pipeline o p t c v (said w (opening v)) out w' ∧ w'.cancelled = false ∧
      runOn w (makeNext o p t c tally v) = (.ok (tally.add v out), said w' (closing v out)) := by
  obtain ⟨out, w', hmade, hpipe⟩ :=
    makeVariant_pipeline (o := o) (p := p) (t := t) (c := c) (v := v) (said w (opening v))
  have hlive : w'.cancelled = false := by
    have hkept := (makeVariant_within (o := o) (p := p) (t := t) (c := c) (v := v)).keeps
      (fun _ _ h => Forge.Step.live hrun h) (said w (opening v)) hw
    rwa [hmade] at hkept
  refine ⟨out, w', hpipe, hlive, ?_⟩
  have hcheck : runOn w checkCancelled = (.ok (), w) := by
    rw [runOn_checkCancelled, hw]
    rfl
  rw [makeNext, runOn_bind_ok hcheck, runOn_bind_ok (runOn_log ..)]
  have hmade' : runOn { w with journal := w.journal ++ [.logged .info s!"=== variant {v.label} ===" none] }
      (makeVariant o p t c v) = (.ok out, w') := hmade
  rw [runOn_bind_ok hmade']
  cases out with
  | ok a => simp [Tally.add, said, closing]
  | error e =>
    simp only [runOn_bind_ok (runOn_isCancelled w'), hlive]
    rfl

/-- All variants in a run that is not cancelled. -/
theorem makeAll_processed (hrun : ∀ w c, (o.run w c).cancels = false) {w : World}
    (hw : w.cancelled = false) (tally : Tally) (vs : List Variant) :
    ∃ done w', Processed o p t c w done w' ∧ done.map Prod.fst = vs ∧
      runOn w (makeAll o p t c tally vs) =
        (.ok (done.foldl (fun tally e => tally.add e.1 e.2) tally), w') := by
  induction vs generalizing w tally with
  | nil => exact ⟨[], w, .nil w, rfl, rfl⟩
  | cons v rest ih =>
    obtain ⟨out, w₁, hpipe, hlive, hnext⟩ := makeNext_processed hrun hw tally v
    obtain ⟨done, w₂, hdone, hvs, hall⟩ := ih (w := said w₁ (closing v out)) hlive (tally.add v out)
    refine ⟨(v, out) :: done, w₂, .cons hpipe hdone, by simp [hvs], ?_⟩
    rw [makeAll, runOn_bind_ok hnext, hall]
    rfl

/-! ## The summary -/

/-- The name and the archive of a variant that came to its end. -/
def made? (e : Variant × Outcome) : Option (String × String) :=
  match e.2 with
  | .ok a => some (e.1.name, a.archive)
  | .error _ => none

/-- The failure of a variant that did not. -/
def failure? (e : Variant × Outcome) : Option VariantFailure :=
  match e.2 with
  | .ok _ => none
  | .error f => some (failureOf e.1 f)

/-- Whether a summary accounts for some variants: those that came to their end and those that did
not stand in two lists, both in order, and each archive stands where its variant does. -/
structure Accounts (s : Summary) (done : List (Variant × Outcome)) : Prop where
  succeeded : s.succeeded = (done.filter fun e => e.2.isOk).map fun e => e.1.name
  failed : s.failed = done.filterMap failure?
  rest : s.failed.map (fun f => (f.name, f.label)) =
    (done.filter fun e => !e.2.isOk).map fun e => (e.1.name, e.1.label)
  archives : s.succeeded.zip s.archives = done.filterMap made?
  length : s.archives.length = s.succeeded.length
  ok : s.ok = true ↔ s.archives ≠ []

/-- The lists of a tally as the entries so far account for them. -/
structure Tally.Lists (tally : Tally) (done : List (Variant × Outcome)) : Prop where
  succeeded : tally.succeeded = (done.filterMap made?).map Prod.fst
  failed : tally.failed = done.filterMap failure?
  archives : tally.archives = (done.filterMap made?).map Prod.snd

theorem Tally.Lists.add {tally : Tally} {done : List (Variant × Outcome)}
    (h : tally.Lists done) (v : Variant) (out : Outcome) :
    (tally.add v out).Lists (done ++ [(v, out)]) := by
  cases out with
  | ok a =>
    exact
      { succeeded := by simp [Tally.add, h.succeeded, made?]
        failed := by simp [Tally.add, h.failed, failure?]
        archives := by simp [Tally.add, h.archives, made?] }
  | error e =>
    exact
      { succeeded := by simp [Tally.add, h.succeeded, made?]
        failed := by simp [Tally.add, h.failed, failure?]
        archives := by simp [Tally.add, h.archives, made?] }

theorem Tally.lists_foldl {tally : Tally} {before : List (Variant × Outcome)}
    (h : tally.Lists before) (done : List (Variant × Outcome)) :
    (done.foldl (fun tally e => tally.add e.1 e.2) tally).Lists (before ++ done) := by
  induction done generalizing tally before with
  | nil => simpa using h
  | cons e rest ih => simpa using ih (h.add e.1 e.2)

theorem map_made? (done : List (Variant × Outcome)) :
    (done.filterMap made?).map Prod.fst = (done.filter fun e => e.2.isOk).map fun e => e.1.name := by
  induction done with
  | nil => rfl
  | cons e rest ih =>
    obtain ⟨v, out⟩ := e
    cases out with
    | ok a => simpa [made?, List.filterMap_cons, Except.isOk, Except.toBool] using ih
    | error f => simpa [made?, List.filterMap_cons, Except.isOk, Except.toBool] using ih

theorem map_failure? (done : List (Variant × Outcome)) :
    (done.filterMap failure?).map (fun f => (f.name, f.label)) =
      (done.filter fun e => !e.2.isOk).map fun e => (e.1.name, e.1.label) := by
  induction done with
  | nil => rfl
  | cons e rest ih =>
    obtain ⟨v, out⟩ := e
    cases out with
    | ok a => simpa [failure?, List.filterMap_cons, Except.isOk, Except.toBool] using ih
    | error f => simpa [failure?, failureOf, List.filterMap_cons, Except.isOk, Except.toBool] using ih

theorem Tally.Lists.summary {tally : Tally} {done : List (Variant × Outcome)}
    (h : tally.Lists done) (requested : String) (warnings : List Warning) :
    Accounts (tally.summary requested warnings) done where
  succeeded := by rw [← map_made?, ← h.succeeded]; rfl
  failed := h.failed
  rest := by rw [← map_failure?, ← h.failed]; rfl
  archives := by
    simp only [Tally.summary, h.succeeded, h.archives]
    exact (List.zip_of_prod rfl rfl).symm
  length := by simp [Tally.summary, h.succeeded, h.archives]
  ok := by simp [Tally.summary]

/-! ## The whole run -/

theorem logSummary_total (s : Summary) : Total (logSummary s) := by
  have each : Total (do
      for archive in s.archives do
        Forge.log .info s!"archive: {archive}") :=
    (Total.forIn fun a _ => (Total.log _ _ _).bind fun _ => .pure _).bind fun _ => .pure _
  exact (Total.log _ _ _).bind fun _ => .ite ((Total.log _ _ _).bind fun _ => each) each

/-- A report whose times are valid is made, and if it cannot be written there is only a warning. -/
theorem writeReport_total (hclock : ∀ n, (o.clock n).isSome) {started : Instant}
    (hs : started.isSome) (s : Summary) : Total (writeReport o p s c t started) := by
  intro w
  obtain ⟨begun, hbegun⟩ := Option.isSome_iff_exists.1 hs
  obtain ⟨ended, hended⟩ := Option.isSome_iff_exists.1 (hclock w.readings)
  rw [writeReport, runOn_bind_ok (runOn_now w o), hended, hbegun]
  refine ((Total.attempt _).bind fun r => ?_) _
  cases r with
  | ok file => exact .log _ _ _
  | error f => exact warn_total _

theorem conclude_ok (hclock : ∀ n, (o.clock n).isSome) {started : Instant} (hs : started.isSome)
    (start : Nat) (requested : String) (tally : Tally) (w : World) :
    ∃ warnings w', runOn w (conclude o p t c started start requested tally) =
      (.ok (tally.summary requested warnings), w') := by
  have last (s : Summary) (w : World) :
      ∃ warnings w', runOn w (do
        let s := { s with warnings := warningsFrom start (← get) }
        logSummary s
        return s) = (.ok { s with warnings }, w') := by
    obtain ⟨_, w', hw'⟩ := logSummary_total { s with warnings := warningsFrom start w } w
    refine ⟨warningsFrom start w, w', ?_⟩
    rw [runOn_bind_ok (runOn_get w), runOn_bind_ok hw']
    rfl
  rw [conclude, runOn_bind_ok (runOn_get w)]
  dsimp only
  split
  · obtain ⟨_, w₁, hw₁⟩ := writeReport_total (p := p) (t := t) (c := c) hclock hs
      (tally.summary requested (warningsFrom start w)) w
    rw [runOn_bind_ok hw₁]
    exact last _ w₁
  · exact last _ w

theorem announce_total (s : Registry.Selection) : Total (announce p s) := by
  rw [announce]
  split
  · exact warn_total _
  · exact .pure _

/-- Announcing a request that is unknown leaves the run as it is but for its journal. -/
theorem announce_live {w w' : World} {s : Registry.Selection} (hw : w.cancelled = false)
    (h : runOn w (announce p s) = (.ok (), w')) : w'.cancelled = false := by
  rw [announce] at h
  split at h
  · rw [warn, runOn_bind_ok (runOn_warn ..), runOn_log] at h
    cases h
    exact hw
  · cases h
    exact hw

/-- An outside in which every command ends well and changes nothing. -/
def obliging : Outside where
  run w _ := ⟨w.disk, false, .ok ⟨some 0, "", ""⟩⟩
  fetch _ _ := (false, .silent)
  cancelsWait _ := false
  clock _ := some 0
  searchPath := none
  processors := 1

/-- A plan in one directory, with a toolchain that is installed and one variant without spells. -/
def bare : Plan where
  config :=
    { settings :=
        { chamber := "/c", outputDir := none, spellsDir := "/s", defaultVariant := "v", report := true
          source := ⟨[⟨"a", "u", none⟩], 1, 1, "n", "e"⟩
          retry := ⟨1, 0⟩
          toolchain := ⟨"t", 1, some "/", none, "h", false, 1, 0⟩
          build := ⟨"b", "x", none, 1, 1, [], []⟩
          package := ⟨"P", "l", "n", "a", "v", "1", 1, 1⟩
          spells := [], variants := [] }
      chamber := "/c", outputDir := "/c", spellsDir := "/s", downloadUrl := "u" }
  registry := ⟨[⟨"v", "V", []⟩], ⟨"v", "V", []⟩⟩

end VariantForge.Run
