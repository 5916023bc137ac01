import VariantForge.Proofs.Run.Course
import VariantForge.Proofs.Run.Drift

/-!
# Cancellation — what a run does once it was cancelled

A run may be cancelled in any moment in which the outside is asked for something, before its variants or
within one of them. Every variant begins in a run that is not cancelled, so none begins after that
moment; and a run that has not begun all its variants fails before it comes to its report, just as one
does that is to write none.
-/

namespace VariantForge

open Forge

/-- Nothing is looked for. -/
def nothing : Event → Bool := fun _ => false

theorem intent_nothing : Intent nothing := ⟨fun _ _ => rfl, fun _ => rfl, fun _ _ _ _ => rfl⟩

theorem calm_nothing : Calm nothing := ⟨fun _ _ => rfl, fun _ _ _ _ => rfl⟩

variable {o : Outside} {see : Event → Bool} {p : Plan} {t : Toolchain} {c : WorkingCopy} {v : Variant}

/-! ## Operations that warn -/

namespace Source

variable {opts : AcquireOptions}

theorem cloneFirst_passing (hsee : Intent see) (failures : List String) (ks : List Candidate) :
    Drifting o see (cloneFirst o opts failures ks) := by
  induction ks generalizing failures with
  | nil => exact .throw _
  | cons k rest ih =>
    rw [cloneFirst]
    refine (attempts_drifting hsee.alert k).bind fun r => ?_
    cases r with
    | done => exact .pure _
    | failed f => exact (hsee.log rfl).bind fun _ => (hsee.warn _).bind fun _ => ih _

theorem acquire_passing (hsee : Intent see) (ks : List Candidate) (revision : Option String) :
    Drifting o see (acquire o opts ks revision) := by
  have hpin (requested : String) : Drifting o see (pin o opts requested) := by
    refine (hsee.alert.info (.append (by decide) _)).bind fun _ =>
      (checkOut_drifting hsee.alert requested).attempt.bind fun r => ?_
    cases r with
    | ok a => exact .pure _
    | error f => exact (hsee.log rfl).bind fun _ => (hsee.warn _).bind fun _ => .pure _
  refine (cloneFirst_passing hsee [] ks).bind fun source => (setIdentity_drifting hsee.alert).bind fun _ => ?_
  have hlast (pinned : Bool) :
      Drifting o see (describe o opts source (revision.bind Text.nonBlank?) pinned) :=
    describe_drifting hsee.alert source _ pinned
  cases h : revision.bind Text.nonBlank? with
  | none => exact (Drifting.pure _).bind fun pinned => h ▸ hlast pinned
  | some requested => exact (hpin requested).bind fun pinned => h ▸ hlast pinned

end Source

namespace Run

theorem prepare_passing (hsee : Intent see) (revision : Option String) :
    Drifting o see (prepare o p revision) := by
  refine (Drifting.makeDirectories _).bind fun _ => (Drifting.makeDirectories _).bind fun _ => ?_
  refine (Toolchain.resolve_drifting hsee.alert).bind fun _ => ?_
  exact (Source.acquire_passing hsee _ _).bind fun _ => .pure _

theorem warn_passing (hsee : Intent see) (x : Warning) : Drifting o see (warn x) :=
  (hsee.warn x).bind fun _ => hsee.log rfl

theorem report_passing (hsee : Intent see) (v : Variant) (s : Spell) (out : CastOutcome) :
    Drifting o see (report v s out) := by
  have hlast : Drifting o see (reportUnmatched v s out) := by
    rw [reportUnmatched]
    split
    · exact warn_passing hsee _
    · exact .pure _
  rw [report]
  split
  · exact (warn_passing hsee _).bind fun _ => hlast
  · exact (warn_passing hsee _).bind fun _ => hlast
  · exact (hsee.log rfl).bind fun _ => hlast

theorem castAll_passing (spells : List Spell) : Drifting o nothing (castAll o p c v spells) := by
  induction spells with
  | nil => exact .pure _
  | cons s rest ih =>
    exact (Spell.cast_drifting calm_nothing _ s).bind fun out => (report_passing intent_nothing v s out).bind fun _ => ih

theorem atStage_passing {α : Type} {x : Forge α} (stage : Stage) (hx : Drifting o nothing x) :
    Drifting o nothing (atStage stage x) := by
  refine hx.attempt.bind fun r => ?_
  cases r with
  | ok a => exact .pure _
  | error f => exact .pure _

theorem makeVariant_passing : Drifting o nothing (makeVariant o p t c v) := by
  refine (atStage_passing _ (Source.reset_drifting calm_nothing.alert c)).bind fun r => ?_
  cases r with
  | error e => exact .pure _
  | ok _ =>
    refine (atStage_passing _ (castAll_passing v.spells)).bind fun r => ?_
    cases r with
    | error e => exact .pure _
    | ok _ =>
      refine (atStage_passing _ (Build.run_drifting calm_nothing.alert t v.label)).bind fun r => ?_
      cases r with
      | error e => exact .pure _
      | ok built => exact atStage_passing _ (Package.run_drifting calm_nothing.alert _ _)

/-! ## Variants -/

/-- What is known of each variant: it asks the outside for something in some moments, and the commands
among them are its own. -/
def Asks (o : Outside) (w : World) (x : Visit) (w' : World) : Prop :=
  ∃ l, Passes o nothing w l w' ∧ x.moments = l.filter fun m => isCommand m.event

theorem makes_asks : Makes o p t c (Asks o) := by
  intro v w
  obtain ⟨_, r, w', htrace, out, rfl, -⟩ := makeVariant_yields (o := o) (p := p) (t := t) (c := c) (v := v) w
  obtain ⟨l, hl⟩ := makeVariant_passing (o := o) (p := p) (t := t) (c := c) (v := v) w
  rw [htrace.runOn_eq] at hl
  exact ⟨_, out, w', htrace.runOn_eq, l, hl, rfl⟩

theorem Asks.shows {w w' : World} {x : Visit} (h : Asks o w x w') : Shows isCommand w x.moments w' := by
  obtain ⟨l, hl, hx⟩ := h
  obtain ⟨es, hes, -, hasked⟩ := hl.journal
  refine ⟨es, hes, ?_⟩
  have hall : es.filter isCommand = (es.filter isAsked).filter isCommand := by
    rw [List.filter_filter]
    refine List.filter_congr fun e _ => ?_
    cases e <;> rfl
  rw [hall, hasked, hx, List.filter_map]
  rfl

theorem Asks.cancelled {w w' : World} {x : Visit} (h : Asks o w x w') {m : Moment} (hm : m ∈ x.moments)
    (hc : m.cancels o = true) : w'.cancelled = true := by
  obtain ⟨l, hl, hx⟩ := h
  rw [hx] at hm
  exact hl.cancelled_iff.2 (.inr ⟨m, (List.mem_filter.1 hm).1, hc⟩)

variable {w w' : World} {visits : List Visit}

/-- No variant is begun in a run that was cancelled. -/
theorem Rounds.none_of_cancelled {C : World → Visit → World → Prop} (h : Rounds o p t c C w visits w')
    (hw : w.cancelled = true) : visits = [] := by
  cases h with
  | nil => rfl
  | cut hlive => simp [hw] at hlive
  | cons hlive => simp [hw] at hlive

/-- No variant is begun after one that was cancelled. -/
theorem Rounds.last_of_cancels (h : Rounds o p t c (Asks o) w visits w') {before after : List Visit}
    {x : Visit} (hvisits : visits = before ++ x :: after) (hx : ∃ m ∈ x.moments, m.cancels o = true) :
    after = [] := by
  induction h generalizing before with
  | nil w => exact absurd hvisits.symm (by simp)
  | cut hlive hmade hvisit hcancelled =>
    cases before with
    | nil =>
      cases hvisits
      rfl
    | cons y before => exact absurd (List.cons.inj hvisits).2.symm (by simp)
  | cons hlive hmade hvisit hrest ih =>
    cases before with
    | nil =>
      obtain ⟨rfl, rfl⟩ := List.cons.inj hvisits
      obtain ⟨m, hm, hc⟩ := hx
      exact hrest.none_of_cancelled (hvisit.cancelled hm hc)
    | cons y before => exact ih (List.cons.inj hvisits).2

/-! ## The whole run -/

variable {r : RunRequest} {w₀ w₁ w₂ : World}

/-- A run that did not begin all its variants fails, and as one without a report does. -/
theorem Journey.rejects {C : Toolchain → WorkingCopy → World → Visit → World → Prop}
    (h : Journey o p r w C t c w₀ w₁ visits w₂)
    (hfew : visits.length < (p.registry.select r.variant).variants.length) :
    ∃ f, runOn w (run o p r) = (.error f, w₂) ∧ runOn w (run o p.unreported r) = (.error f, w₂) := by
  rcases h.ends with ⟨f, hrun, -, hmake⟩ | ⟨hall, -⟩
  · exact ⟨f, hrun, (run_unreported h.prepared h.announced).trans (runOn_bind_error hmake)⟩
  · rw [← hall, List.length_map] at hfew
    exact absurd hfew (Nat.lt_irrefl _)

/-- How a run heeds that it was cancelled, once its source was fetched: it passed through some moments before
its variants, and through others in each of them. -/
structure Heeds (o : Outside) (p : Plan) (r : RunRequest) (w : World) (t : Toolchain) (c : WorkingCopy)
    (moments : List Moment) (w₀ w₁ : World) (visits : List Visit) (w₂ : World) : Prop where
  journey : Journey o p r w (fun _ _ => Asks o) t c w₀ w₁ visits w₂
  passed : Passes o nothing { w with readings := w.readings + 1 } moments w₀
  commands : Shows isCommand w₀ (visits.flatMap (·.moments)) (runOn w (run o p r)).2
  early : w.cancelled = true ∨ (∃ m ∈ moments, m.cancels o = true) → visits = []
  late : ∀ before x after, visits = before ++ x :: after → (∃ m ∈ x.moments, m.cancels o = true) → after = []
  fewer : visits.length < (p.registry.select r.variant).variants.length →
    ∃ f, runOn w (run o p r) = (.error f, w₂) ∧ runOn w (run o p.unreported r) = (.error f, w₂)

/-- A run whose toolchain or source cannot be had fails, with or without a report. If any other was cancelled
before its variants it begins none of them; if it was cancelled in a command of one it begins none after that.
It issues no commands but those of the variants that it began. Unless it began all of them it fails, in the
world that it would leave if it were to write no report. -/
theorem run_cancelled (o : Outside) (p : Plan) (r : RunRequest) (w : World) :
    (∃ f w', runOn { w with readings := w.readings + 1 } (prepare o p r.revision) = (.error f, w') ∧
      runOn w (run o p r) = (.error f, w') ∧ runOn w (run o p.unreported r) = (.error f, w')) ∨
    ∃ t c moments w₀ w₁ visits w₂, Heeds o p r w t c moments w₀ w₁ visits w₂ := by
  obtain ⟨f, w', hprepare, hrun⟩ | ⟨t, c, w₀, w₁, visits, w₂, h⟩ :=
    run_journey (C := fun _ _ => Asks o) (fun _ _ => makes_asks) r w
  · exact .inl ⟨f, w', hprepare, hrun, run_unprepared hprepare⟩
  obtain ⟨moments, hpassed⟩ :=
    prepare_passing (o := o) (p := p) intent_nothing r.revision { w with readings := w.readings + 1 }
  rw [h.prepared] at hpassed
  have hannounced : w₁.cancelled = w₀.cancelled := by
    have hw₁ := h.announced
    rw [announce] at hw₁
    split at hw₁ <;>
      · cases hw₁
        rfl
  exact .inr ⟨t, c, moments, w₀, w₁, visits, w₂,
    { journey := h
      passed := hpassed
      commands := h.commands fun _ _ _ => Asks.shows
      early := fun hc => h.rounds.none_of_cancelled (hannounced.trans (hpassed.cancelled_iff.2 hc))
      late := fun _ _ _ => h.rounds.last_of_cancels
      fewer := h.rejects }⟩

end Run

end VariantForge
