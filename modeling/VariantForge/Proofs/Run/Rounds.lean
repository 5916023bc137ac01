import VariantForge.Proofs.Run.Accounting
import VariantForge.Proofs.Trace

/-!
# Rounds — a run taken apart

`Runs` says how a run may go: it ends while things are prepared, or while variants are made, or as
`conclude` ends. `Stages` takes one variant apart in the same way, given what is known of each of its
steps. `Rounds` strings variants together, each of which begins in a run that is not cancelled. What is
known of a variant is left open, so these serve commands as well as warnings.
-/

namespace VariantForge

open Forge

/-- The same plan without a report. -/
def Plan.unreported (p : Plan) : Plan :=
  { p with config := { p.config with settings := { p.config.settings with report := false } } }

namespace Run

variable {o : Outside} {see : Event → Bool} {p : Plan} {r : RunRequest} {t : Toolchain} {c : WorkingCopy}
  {v : Variant}

/-! ## The parts of a run -/

/-- The name under which the summary of a run says what was asked for. -/
def requestedName (p : Plan) (r : RunRequest) : String :=
  (r.variant.bind Text.nonBlank?).getD p.registry.default.name

/-- How a run may go. -/
inductive Runs (o : Outside) (p : Plan) (r : RunRequest) (w : World) : Except Failure Summary → World → Prop where
  | unprepared {f : Failure} {w' : World}
      (hprepare : runOn { w with readings := w.readings + 1 } (prepare o p r.revision) = (.error f, w')) :
      Runs o p r w (.error f) w'
  | stopped {t : Toolchain} {c : WorkingCopy} {f : Failure} {w₀ w₁ w₂ : World}
      (hprepare : runOn { w with readings := w.readings + 1 } (prepare o p r.revision) = (.ok (t, c), w₀))
      (hannounce : runOn w₀ (announce p (p.registry.select r.variant)) = (.ok (), w₁))
      (hmake : runOn w₁ (makeAll o p t c {} (p.registry.select r.variant).variants) = (.error f, w₂)) :
      Runs o p r w (.error f) w₂
  | concluded {t : Toolchain} {c : WorkingCopy} {tally : Tally} {w₀ w₁ w₂ : World}
      (hprepare : runOn { w with readings := w.readings + 1 } (prepare o p r.revision) = (.ok (t, c), w₀))
      (hannounce : runOn w₀ (announce p (p.registry.select r.variant)) = (.ok (), w₁))
      (hmake : runOn w₁ (makeAll o p t c {} (p.registry.select r.variant).variants) = (.ok tally, w₂))
      {res : Except Failure Summary} {w₃ : World}
      (hconclude : runOn w₂ (conclude o p t c (o.clock w.readings) w.journal.length (requestedName p r) tally) =
        (res, w₃)) :
      Runs o p r w res w₃

theorem run_unprepared {f : Failure} {w w' : World}
    (h : runOn { w with readings := w.readings + 1 } (prepare o p r.revision) = (.error f, w')) :
    runOn w (run o p r) = (.error f, w') := by
  rw [run, runOn_bind_ok (runOn_get w), runOn_bind_ok (runOn_now w o), runOn_bind_error h]

theorem run_prepared {w w₀ w₁ : World}
    (hprepare : runOn { w with readings := w.readings + 1 } (prepare o p r.revision) = (.ok (t, c), w₀))
    (hannounce : runOn w₀ (announce p (p.registry.select r.variant)) = (.ok (), w₁)) :
    runOn w (run o p r) = runOn w₁ (do
      let tally ← makeAll o p t c {} (p.registry.select r.variant).variants
      conclude o p t c (o.clock w.readings) w.journal.length (requestedName p r) tally) := by
  rw [run, runOn_bind_ok (runOn_get w), runOn_bind_ok (runOn_now w o), runOn_bind_ok hprepare]
  dsimp only
  rw [runOn_bind_ok hannounce]
  rfl

theorem run_runs (o : Outside) (p : Plan) (r : RunRequest) (w : World) :
    Runs o p r w (runOn w (run o p r)).1 (runOn w (run o p r)).2 := by
  rcases hprepare : runOn { w with readings := w.readings + 1 } (prepare o p r.revision) with ⟨f | ⟨t, c⟩, w₀⟩
  · rw [run_unprepared hprepare]
    exact .unprepared hprepare
  obtain ⟨_, w₁, hannounce⟩ := announce_total (p := p) (p.registry.select r.variant) w₀
  rw [run_prepared hprepare hannounce]
  rcases hmake : runOn w₁ (makeAll o p t c {} (p.registry.select r.variant).variants) with ⟨f | tally, w₂⟩
  · rw [runOn_bind_error hmake]
    exact .stopped hprepare hannounce hmake
  · rw [runOn_bind_ok hmake]
    exact .concluded hprepare hannounce hmake rfl

/-! ## The steps of a variant -/

theorem atStage_yields {α : Type} {x : Forge α} {stage : Stage} {w : World}
    {P : List Moment → Except Failure (Except (Stage × Failure) α) → World → Prop}
    (hx : Yields o see w x fun l r w' => P l (.ok (r.mapError fun f => (stage, f))) w') :
    Yields o see w (atStage stage x) P := by
  have hend : Yields o see w (attempt x) fun l r w' =>
      ∃ r', r = .ok r' ∧ P l (.ok (r'.mapError fun f => (stage, f))) w' :=
    .attempt (hx.mono fun l r w' _ hp => ⟨r, rfl, hp⟩)
  refine hend.bind ?_ ?_
  · rintro l r w' ⟨_, hr, hp⟩
    cases hr
    cases r with
    | ok a => exact .pure (by rwa [List.append_nil])
    | error f => exact .pure (by rwa [List.append_nil])
  · rintro l f w' ⟨r, hr, -⟩
    cases hr

/-- A step of a variant never fails as an operation: the rest is given its failure. -/
theorem atStage_bind {α β : Type} {x : Forge α} {g : Except (Stage × Failure) α → Forge β} {stage : Stage}
    {w : World} {Q : List Moment → Except Failure α → World → Prop}
    {P : List Moment → Except Failure β → World → Prop} (hx : Yields o see w x Q)
    (hok : ∀ l a w', Q l (.ok a) w' → Yields o see w' (g (.ok a)) fun l' r w'' => P (l ++ l') r w'')
    (herror : ∀ l f w', Q l (.error f) w' →
      Yields o see w' (g (.error (stage, f))) fun l' r w'' => P (l ++ l') r w'') :
    Yields o see w (atStage stage x >>= g) P := by
  have hstage : Yields o see w (atStage stage x) fun l r w' =>
      ∃ r', r = .ok (r'.mapError fun f => (stage, f)) ∧ Q l r' w' :=
    atStage_yields (hx.mono fun l r w' _ hq => ⟨r, rfl, hq⟩)
  refine hstage.bind ?_ ?_
  · rintro l _ w' ⟨r, hr, hq⟩
    cases hr
    cases r with
    | ok a => exact hok l a w' hq
    | error f => exact herror l f w' hq
  · rintro l f w' ⟨r, hr, -⟩
    cases hr

/-- The steps of a variant up to the first that fails, given what is known of each: of the reset, of
casting its spells, of the build, and of the package of what was built. -/
inductive Stages (Reset Cast : World → List Moment → Except Failure Unit → World → Prop)
    (Built : World → List Moment → Except Failure BuildResult → World → Prop)
    (Packaged : String → World → List Moment → Except Failure PackagedArtifact → World → Prop) (w : World) :
    List Moment → Outcome → World → Prop where
  | notReset {l : List Moment} {f : Failure} {w₁ : World} (hreset : Reset w l (.error f) w₁) :
      Stages Reset Cast Built Packaged w l (.error (.reset, f)) w₁
  | notBuilt {l l' l'' : List Moment} {f : Failure} {w₁ w₂ w₃ : World} (hreset : Reset w l (.ok ()) w₁)
      (hcast : Cast w₁ l' (.ok ()) w₂) (hbuild : Built w₂ l'' (.error f) w₃) :
      Stages Reset Cast Built Packaged w (l ++ l' ++ l'') (.error (.build, f)) w₃
  | built {l l' l'' k : List Moment} {made : BuildResult} {r : Except Failure PackagedArtifact}
      {w₁ w₂ w₃ w₄ : World} (hreset : Reset w l (.ok ()) w₁) (hcast : Cast w₁ l' (.ok ()) w₂)
      (hbuild : Built w₂ l'' (.ok made) w₃) (hpackage : Packaged made.artifact w₃ k r w₄) :
      Stages Reset Cast Built Packaged w (l ++ l' ++ l'' ++ k) (r.mapError fun f => (.package, f)) w₄

theorem makeVariant_stages {Reset Cast : World → List Moment → Except Failure Unit → World → Prop}
    {Built : World → List Moment → Except Failure BuildResult → World → Prop}
    {Packaged : String → World → List Moment → Except Failure PackagedArtifact → World → Prop}
    (hreset : ∀ w, Yields o see w (Source.reset o c) (Reset w))
    (hcast : ∀ w, Yields o see w (castAll o p c v v.spells) (Cast w))
    (hbuild : ∀ w, Yields o see w (Build.run o p.buildOptions c t v.label) (Built w))
    (hpackage : ∀ artifact w,
      Yields o see w (Package.run o p.packageOptions artifact c v.label) (Packaged artifact w)) (w : World) :
    Yields o see w (makeVariant o p t c v) fun l r w' =>
      ∃ out, r = .ok out ∧ Stages Reset Cast Built Packaged w l out w' := by
  refine atStage_bind (hreset w) (fun l _ w₁ h₁ => ?_) fun l f w₁ h₁ => ?_
  · refine atStage_bind (hcast w₁).traced (fun l' _ w₂ h₂ => ?_) fun l' f w₂ h₂ => ?_
    · refine atStage_bind (hbuild w₂) (fun l'' made w₃ h₃ => ?_) fun l'' f w₃ h₃ => ?_
      · refine atStage_yields ((hpackage made.artifact w₃).mono fun k r w₄ _ h₄ => ⟨_, rfl, ?_⟩)
        simpa using Stages.built h₁ h₂.2 h₃ h₄
      · refine .pure ⟨_, rfl, ?_⟩
        simpa using Stages.notBuilt h₁ h₂.2 h₃
    · obtain ⟨_, _, htotal⟩ := castAll_total (o := o) (p := p) (c := c) v v.spells w₁
      cases htotal.symm.trans h₂.1.runOn_eq
  · refine .pure ⟨_, rfl, ?_⟩
    rw [List.append_nil]
    exact .notReset h₁

/-! ## The variants of a run -/

/-- A variant that was begun, the moments in which its commands were issued, and what came of it. -/
structure Visit where
  variant : Variant
  moments : List Moment
  outcome : Outcome

/-- What the visits of a run add to its lists. -/
def Tally.visited (tally : Tally) (visits : List Visit) : Tally :=
  visits.foldl (fun tally x => tally.add x.variant x.outcome) tally

/-- Variants that were begun one after the other in a run that was not cancelled by then, each as `C`
says. The last one may be one that failed in a run that was cancelled. -/
inductive Rounds (o : Outside) (p : Plan) (t : Toolchain) (c : WorkingCopy) (C : World → Visit → World → Prop) :
    World → List Visit → World → Prop where
  | nil (w : World) : Rounds o p t c C w [] w
  | cut {v : Variant} {l : List Moment} {e : Stage × Failure} {w w' : World} (hlive : w.cancelled = false)
      (hmade : runOn (said w (opening v)) (makeVariant o p t c v) = (.ok (.error e), w'))
      (hvisit : C (said w (opening v)) ⟨v, l, .error e⟩ w') (hcancelled : w'.cancelled = true) :
      Rounds o p t c C w [⟨v, l, .error e⟩] w'
  | cons {v : Variant} {l : List Moment} {out : Outcome} {rest : List Visit} {w w₁ w₂ : World}
      (hlive : w.cancelled = false)
      (hmade : runOn (said w (opening v)) (makeVariant o p t c v) = (.ok out, w₁))
      (hvisit : C (said w (opening v)) ⟨v, l, out⟩ w₁)
      (hrest : Rounds o p t c C (said w₁ (closing v out)) rest w₂) :
      Rounds o p t c C w (⟨v, l, out⟩ :: rest) w₂

/-- What is known of every variant that is made, in whatever world it begins. -/
def Makes (o : Outside) (p : Plan) (t : Toolchain) (c : WorkingCopy) (C : World → Visit → World → Prop) : Prop :=
  ∀ v w, ∃ l out w', runOn w (makeVariant o p t c v) = (.ok out, w') ∧ C w ⟨v, l, out⟩ w'

theorem Makes.of_yields {C : World → Visit → World → Prop}
    (h : ∀ v w, Yields o see w (makeVariant o p t c v) fun l r w' => ∃ out, r = .ok out ∧ C w ⟨v, l, out⟩ w') :
    Makes o p t c fun w x w' =>
      Traced o see w (makeVariant o p t c x.variant) x.moments (.ok x.outcome) w' ∧ C w x w' := by
  intro v w
  obtain ⟨l, r, w', htrace, out, rfl, hC⟩ := h v w
  exact ⟨l, out, w', htrace.runOn_eq, htrace, hC⟩

variable {C : World → Visit → World → Prop} {w w' : World} {visits : List Visit}

/-- A variant that is begun is recorded unless it failed in a run that was cancelled. -/
theorem makeNext_cases (hmake : Makes o p t c C) (tally : Tally) (v : Variant) (w : World) :
    (w.cancelled = true ∧ runOn w (makeNext o p t c tally v) = (.error .cancelled, w)) ∨
      w.cancelled = false ∧ ∃ l out w₁, runOn (said w (opening v)) (makeVariant o p t c v) = (.ok out, w₁) ∧
        C (said w (opening v)) ⟨v, l, out⟩ w₁ ∧
        (runOn w (makeNext o p t c tally v) = (.ok (tally.add v out), said w₁ (closing v out)) ∨
          ∃ e, out = .error e ∧ w₁.cancelled = true ∧ runOn w (makeNext o p t c tally v) = (.error e.2, w₁)) := by
  have hcheck := runOn_checkCancelled w
  cases hw : w.cancelled with
  | true =>
    rw [hw] at hcheck
    exact .inl ⟨rfl, runOn_bind_error hcheck⟩
  | false =>
    rw [hw] at hcheck
    obtain ⟨l, out, w₁, hmade, hvisit⟩ := hmake v (said w (opening v))
    refine .inr ⟨rfl, l, out, w₁, hmade, hvisit, ?_⟩
    rw [makeNext, runOn_bind_ok hcheck, runOn_bind_ok (runOn_log ..)]
    cases out with
    | ok a =>
      refine .inl ((runOn_bind_ok hmade).trans ?_)
      simp [Tally.add, said, closing]
    | error e =>
      cases hc : w₁.cancelled with
      | true =>
        refine .inr ⟨e, rfl, rfl, (runOn_bind_ok hmade).trans ?_⟩
        dsimp only
        rw [runOn_bind_ok (runOn_isCancelled w₁), hc]
        rfl
      | false =>
        refine .inl ((runOn_bind_ok hmade).trans ?_)
        dsimp only
        rw [runOn_bind_ok (runOn_isCancelled w₁), hc]
        rfl

/-- The variants of a run are visited in order. If it goes on to its end all of them are; if it does not
then it was cancelled. -/
theorem makeAll_rounds (hmake : Makes o p t c C) (tally : Tally) (vs : List Variant) (w : World) :
    ∃ r visits w', runOn w (makeAll o p t c tally vs) = (r, w') ∧ Rounds o p t c C w visits w' ∧
      visits.map (·.variant) <+: vs ∧
      (∀ tally', r = .ok tally' → visits.map (·.variant) = vs ∧ tally' = tally.visited visits) ∧
      ∀ f, r = .error f → w'.cancelled = true := by
  induction vs generalizing tally w with
  | nil =>
    refine ⟨_, [], w, rfl, .nil w, List.prefix_rfl, fun tally' h => ⟨rfl, ?_⟩, fun f h => ?_⟩
    · cases h
      rfl
    · cases h
  | cons v rest ih =>
    rw [makeAll]
    rcases makeNext_cases hmake tally v w with ⟨hw, hnext⟩ | ⟨hlive, l, out, w₁, hmade, hvisit, hnext | ⟨e, rfl, hc, hnext⟩⟩
    · refine ⟨_, [], w, runOn_bind_error hnext, .nil w, List.nil_prefix, fun tally' h => ?_, fun _ _ => hw⟩
      cases h
    · obtain ⟨r, visits, w', hrest, hrounds, hvs, hr, hf⟩ := ih (tally.add v out) (said w₁ (closing v out))
      refine ⟨r, ⟨v, l, out⟩ :: visits, w', (runOn_bind_ok hnext).trans hrest, .cons hlive hmade hvisit hrounds,
        by simpa using hvs, fun tally' h => ?_, hf⟩
      obtain ⟨hall, rfl⟩ := hr tally' h
      exact ⟨by simp [hall], rfl⟩
    · refine ⟨_, [⟨v, l, .error e⟩], w₁, runOn_bind_error hnext, .cut hlive hmade hvisit hc, by simp,
        fun tally' h => ?_, fun _ _ => hc⟩
      cases h

/-- What is known of each variant with the worlds left out. -/
theorem Rounds.visit {P : Visit → Prop} (h : Rounds o p t c C w visits w') (hC : ∀ w x w', C w x w' → P x) :
    ∀ x ∈ visits, P x := by
  induction h with
  | nil w => exact fun _ hx => by cases hx
  | cut _ _ hvisit _ =>
    intro x hx
    cases List.mem_singleton.1 hx
    exact hC _ _ _ hvisit
  | cons _ _ hvisit _ ih =>
    intro x hx
    rcases List.mem_cons.1 hx with rfl | hx
    · exact hC _ _ _ hvisit
    · exact ih x hx

theorem Rounds.mono {C' : World → Visit → World → Prop} (h : Rounds o p t c C w visits w')
    (hC : ∀ w x w', C w x w' → C' w x w') : Rounds o p t c C' w visits w' := by
  induction h with
  | nil w => exact .nil w
  | cut hlive hmade hvisit hcancelled => exact .cut hlive hmade (hC _ _ _ hvisit) hcancelled
  | cons hlive hmade hvisit _ ih => exact .cons hlive hmade (hC _ _ _ hvisit) ih

/-! ## What is seen of them -/

/-- Whether only events with some moments were added to the journal, of those that are looked for. -/
def Shows (see : Event → Bool) (w : World) (l : List Moment) (w' : World) : Prop :=
  ∃ events, w'.journal = w.journal ++ events ∧ events.filter see = l.map Moment.event

theorem Shows.append {l l' : List Moment} {w'' : World} (h : Shows see w l w') (h' : Shows see w' l' w'') :
    Shows see w (l ++ l') w'' := by
  obtain ⟨es, hes, hl⟩ := h
  obtain ⟨es', hes', hl'⟩ := h'
  exact ⟨es ++ es', by rw [hes', hes, List.append_assoc], by rw [List.filter_append, hl, hl', List.map_append]⟩

theorem Shows.of_unseen (h : Unseen see w w') : Shows see w [] w' := by
  obtain ⟨es, hes, hnone⟩ := h
  exact ⟨es, hes, List.filter_eq_nil_iff.2 fun e he => by simp [hnone e he]⟩

/-- Whether no lines of the log are looked for but warnings. -/
def Overlooks (see : Event → Bool) : Prop := ∀ level m d, level ≠ .warn → see (.logged level m d) = false

theorem Overlooks.opening (hsee : Overlooks see) (w : World) (v : Variant) :
    Shows see w [] (said w (opening v)) :=
  .of_unseen ⟨_, rfl, List.forall_mem_singleton.2 (hsee _ _ _ (by decide))⟩

theorem Overlooks.closing (hsee : Overlooks see) (w : World) (v : Variant) (out : Outcome) :
    Shows see w [] (said w (closing v out)) := by
  refine .of_unseen ⟨_, rfl, ?_⟩
  cases out with
  | ok a => simp [Run.closing]
  | error e => exact List.forall_mem_singleton.2 (hsee _ _ _ (by decide))

/-- What is seen of variants is what is seen of each, if the lines of the log between them are not looked
for. -/
theorem Rounds.shows_of (hopening : ∀ w v, Shows see w [] (said w (opening v)))
    (hclosing : ∀ w v out, Shows see w [] (said w (closing v out))) (h : Rounds o p t c C w visits w')
    (hC : ∀ w x w', C w x w' → Shows see w x.moments w') : Shows see w (visits.flatMap (·.moments)) w' := by
  induction h with
  | nil w => exact .of_unseen (.refl w)
  | cut _ _ hvisit _ =>
    rw [List.flatMap_singleton]
    exact (hopening _ _).append (hC _ _ _ hvisit)
  | cons _ _ hvisit _ ih =>
    rw [List.flatMap_cons]
    exact ((hopening _ _).append (hC _ _ _ hvisit)).append ((hclosing _ _ _).append ih)

theorem Rounds.shows (hsee : Overlooks see) (h : Rounds o p t c C w visits w')
    (hC : ∀ w x w', C w x w' → Shows see w x.moments w') :
    Shows see w (visits.flatMap (·.moments)) w' :=
  h.shows_of hsee.opening hsee.closing hC

/-! ## Without a report -/

theorem castAll_unreported (spells : List Spell) : castAll o p.unreported c v spells = castAll o p c v spells := by
  induction spells with
  | nil => rfl
  | cons s rest ih => rw [castAll, castAll, ih]; rfl

theorem makeAll_unreported (tally : Tally) (vs : List Variant) :
    makeAll o p.unreported t c tally vs = makeAll o p t c tally vs := by
  induction vs generalizing tally with
  | nil => rfl
  | cons v rest ih =>
    have hvariant : makeVariant o p.unreported t c v = makeVariant o p t c v := by
      rw [makeVariant, makeVariant, castAll_unreported]
      rfl
    have hnext : makeNext o p.unreported t c tally v = makeNext o p t c tally v := by
      rw [makeNext, makeNext, hvariant]
    rw [makeAll, makeAll, hnext]
    exact congrArg _ (funext fun tally => ih tally)

theorem run_unreported {r : RunRequest} {w w₀ w₁ : World}
    (hprepare : runOn { w with readings := w.readings + 1 } (prepare o p r.revision) = (.ok (t, c), w₀))
    (hannounce : runOn w₀ (announce p (p.registry.select r.variant)) = (.ok (), w₁)) :
    runOn w (run o p.unreported r) = runOn w₁ (do
      let tally ← makeAll o p t c {} (p.registry.select r.variant).variants
      conclude o p.unreported t c (o.clock w.readings) w.journal.length (requestedName p r) tally) := by
  have h := run_prepared (p := p.unreported) hprepare hannounce
  rw [makeAll_unreported] at h
  exact h

/-! ## The whole run -/

/-- How a run went whose toolchain was found and whose source was fetched: it visited variants, and
then it was cancelled or went on to its end with what came of all of them. -/
structure Journey (o : Outside) (p : Plan) (r : RunRequest) (w : World)
    (C : Toolchain → WorkingCopy → World → Visit → World → Prop) (t : Toolchain) (c : WorkingCopy)
    (w₀ w₁ : World) (visits : List Visit) (w₂ : World) : Prop where
  prepared : runOn { w with readings := w.readings + 1 } (prepare o p r.revision) = (.ok (t, c), w₀)
  announced : runOn w₀ (announce p (p.registry.select r.variant)) = (.ok (), w₁)
  rounds : Rounds o p t c (C t c) w₁ visits w₂
  variants : visits.map (·.variant) <+: (p.registry.select r.variant).variants
  ends : (∃ f, runOn w (run o p r) = (.error f, w₂) ∧ w₂.cancelled = true ∧
      runOn w₁ (makeAll o p t c {} (p.registry.select r.variant).variants) = (.error f, w₂)) ∨
    visits.map (·.variant) = (p.registry.select r.variant).variants ∧
      runOn w (run o p r) = runOn w₂ (conclude o p t c (o.clock w.readings) w.journal.length
        (requestedName p r) (Tally.visited {} visits))

theorem Journey.mono {C C' : Toolchain → WorkingCopy → World → Visit → World → Prop} {w₀ w₁ w₂ : World}
    (h : Journey o p r w C t c w₀ w₁ visits w₂) (hC : ∀ w x w', C t c w x w' → C' t c w x w') :
    Journey o p r w C' t c w₀ w₁ visits w₂ :=
  { h with rounds := h.rounds.mono hC }

theorem run_journey {C : Toolchain → WorkingCopy → World → Visit → World → Prop}
    (hmake : ∀ t c, Makes o p t c (C t c)) (r : RunRequest) (w : World) :
    (∃ f w', runOn { w with readings := w.readings + 1 } (prepare o p r.revision) = (.error f, w') ∧
      runOn w (run o p r) = (.error f, w')) ∨
    ∃ t c w₀ w₁ visits w₂, Journey o p r w C t c w₀ w₁ visits w₂ := by
  have hruns := run_runs o p r w
  rcases hrun : runOn w (run o p r) with ⟨res, w'⟩
  rw [hrun] at hruns
  cases hruns with
  | unprepared hprepare => exact .inl ⟨_, _, hprepare, rfl⟩
  | stopped hprepare hannounce hstopped =>
    rename_i t c f w₀ w₁
    obtain ⟨r', visits, w₂, hmade, hrounds, hvs, -, hcancelled⟩ :=
      makeAll_rounds (hmake t c) {} (p.registry.select r.variant).variants w₁
    cases hmade.symm.trans hstopped
    exact .inr ⟨t, c, w₀, w₁, visits, w', hprepare, hannounce, hrounds, hvs, .inl ⟨f, hrun, hcancelled f rfl, hstopped⟩⟩
  | concluded hprepare hannounce hall hconclude =>
    rename_i t c tally w₀ w₁ w₂
    obtain ⟨r', visits, w₂', hmade, hrounds, hvs, hvisited, -⟩ :=
      makeAll_rounds (hmake t c) {} (p.registry.select r.variant).variants w₁
    cases hmade.symm.trans hall
    obtain ⟨hvs', rfl⟩ := hvisited tally rfl
    exact .inr ⟨t, c, w₀, w₁, visits, w₂, hprepare, hannounce, hrounds, hvs,
      .inr ⟨hvs', hrun.trans hconclude.symm⟩⟩

end Run

end VariantForge
