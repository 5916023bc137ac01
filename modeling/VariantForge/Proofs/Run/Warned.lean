import VariantForge.Proofs.Run.Drift
import VariantForge.Proofs.Run.Rounds
import VariantForge.Proofs.Source.Candidates

/-!
# Warnings — what a run warns about, and in which order

A warning is given to whoever asked for the run and written to the log, side by side. `Warns` says
that just some warnings were given between two worlds, and that the log has their lines in the same
order; it passes through sequences, and what only drifts adds nothing. So the warnings of a whole run are
those of its parts in order (`run_warnings`): of fetching the source, of the request, of the spells of each
variant, and of the report.
-/

namespace VariantForge

open Forge

variable {o : Outside} {p : Plan} {t : Toolchain} {c : WorkingCopy} {v : Variant} {w w' w'' : World}

/-! ## Warnings in the journal -/

/-- The warnings among events. -/
def told (events : List Event) : List Warning :=
  events.filterMap fun e => match e with
    | .warned warning => some warning
    | _ => none

/-- What the log says of a warning: its event, and its message. -/
def Warning.line (x : Warning) : Data × String := (.text x.event.name, x.message)

/-- Whether just some warnings were given between two worlds, and the log has a line for each of them in
the same order and no other line that names an event. -/
def Warns (w : World) (ws : List Warning) (w' : World) : Prop :=
  ∃ events, w'.journal = w.journal ++ events ∧ told events = ws ∧
    events.filterMap warningLine? = ws.map Warning.line

/-- Warnings, and lines of the log that are warnings. -/
def isWarning : Event → Bool
  | .warned _ => true
  | e => (warningLine? e).isSome

theorem calm_isWarning : Calm isWarning := by
  refine ⟨fun e he => ?_, fun level m extra h => ?_⟩
  · cases e <;> first | rfl | cases he
  · rw [isWarning, h]
    · rfl
    · exact nofun

theorem Warns.append {ws ws' : List Warning} (h : Warns w ws w') (h' : Warns w' ws' w'') :
    Warns w (ws ++ ws') w'' := by
  obtain ⟨es, hes, rfl, hl⟩ := h
  obtain ⟨es', hes', rfl, hl'⟩ := h'
  refine ⟨es ++ es', by rw [hes', hes, List.append_assoc], List.filterMap_append .., ?_⟩
  rw [List.filterMap_append, hl, hl', List.map_append]

theorem Warns.of_unseen (h : Unseen isWarning w w') : Warns w [] w' := by
  obtain ⟨es, hes, hnone⟩ := h
  refine ⟨es, hes, List.filterMap_eq_nil_iff.2 fun e he => ?_, List.filterMap_eq_nil_iff.2 fun e he => ?_⟩
  · have := hnone e he
    cases e <;> first | rfl | cases this
  · have := hnone e he
    cases e <;> simp_all [isWarning, warningLine?]

/-- What only drifts adds no warnings. -/
theorem Forge.Drifting.warns {α : Type} {x : Forge α} {r : Except Failure α} (hx : Drifting o isWarning x)
    (h : runOn w x = (r, w')) : Warns w [] w' := by
  have := (hx w).unseen
  rw [h] at this
  exact .of_unseen this

theorem Warns.skip {α : Type} {x : Forge α} {r : Except Failure α} {ws : List Warning}
    (hx : Drifting o isWarning x) (h : runOn w x = (r, w')) (hrest : Warns w' ws w'') : Warns w ws w'' :=
  (hx.warns h).append hrest

theorem Warns.of_log {level : Level} {m : String} {extra : Option (Members Data)} {r : Except Failure Unit}
    (hlog : warningLine? (.logged level m extra) = none) (h : runOn w (log level m extra) = (r, w')) :
    Warns w [] w' := by
  cases h
  refine ⟨_, rfl, rfl, ?_⟩
  rw [List.filterMap_cons_none hlog]
  rfl

theorem Warns.pair {es : List Event} {x : Warning} (htold : told es = [x])
    (hline : es.filterMap warningLine? = [x.line]) (w : World) : Warns w [x] (Run.said w es) :=
  ⟨es, rfl, htold, hline⟩

theorem Forge.runOn_log_said (w : World) (l : Level) (m : String) (x : Option (Members Data)) :
    runOn w (log l m x) = (.ok (), Run.said w [.logged l m x]) := rfl

theorem Forge.runOn_warn_said (w : World) (x : Warning) :
    runOn w (Forge.warn x) = (.ok (), Run.said w [.warned x]) := rfl

theorem Run.said_said (w : World) (es es' : List Event) : said (said w es) es' = said w (es ++ es') := by
  rw [said, said, said, List.append_assoc]

/-! ## Fetching the source -/

namespace Source

variable {opts : AcquireOptions} {ks : List Candidate} {k : Candidate} {ws : List Warning}

/-- What is said of a candidate that could not be cloned. -/
def complaint (k : Candidate) (f : Failure) : List Event :=
  [.logged .warn (unavailable k f).message
      (some [("event", .text WarningEvent.candidateFailed.name), ("url", .text k.url)]),
    .warned (unavailable k f)]

/-- Candidates were tried in order until one was cloned, with a warning for each that could not be. -/
inductive Clones (o : Outside) (opts : AcquireOptions) :
    World → List Candidate → List Warning → Candidate → World → Prop where
  | first {k : Candidate} {rest : List Candidate} {n : Nat} {w w' : World}
      (h : runOn w (attempts o opts k) = (.ok (.done () n), w')) : Clones o opts w (k :: rest) [] k w'
  | next {k found : Candidate} {rest : List Candidate} {f : Failure} {n : Number} {ws : List Warning}
      {w w₁ w' : World} (h : runOn w (attempts o opts k) = (.ok (.failed f n), w₁))
      (hrest : Clones o opts (Run.said w₁ (complaint k f)) rest ws found w') :
      Clones o opts w (k :: rest) (unavailable k f :: ws) found w'

theorem cloneFirst_cons (failures : List String) (k : Candidate) (rest : List Candidate) :
    cloneFirst o opts failures (k :: rest) = (do
      match ← attempts o opts k with
      | .done .. => return k
      | .failed f _ =>
        Forge.log .warn (unavailable k f).message
          (some [("event", .text WarningEvent.candidateFailed.name), ("url", .text k.url)])
        Forge.warn (unavailable k f)
        cloneFirst o opts (failures ++ [(unavailable k f).message]) rest) := rfl

theorem cloneFirst_clones {failures : List String} (h : runOn w (cloneFirst o opts failures ks) = (.ok k, w')) :
    ∃ ws, Clones o opts w ks ws k w' := by
  induction ks generalizing failures w with
  | nil => cases h
  | cons k₀ rest ih =>
    rw [cloneFirst_cons] at h
    rcases hr : runOn w (attempts o opts k₀) with ⟨f | ⟨_, n⟩ | ⟨f, n⟩, w₁⟩
    · rw [runOn_bind_error hr] at h
      cases h
    · rw [runOn_bind_ok hr] at h
      cases h
      exact ⟨[], .first hr⟩
    · rw [runOn_bind_ok hr] at h
      dsimp only at h
      rw [runOn_bind_ok (runOn_log_said ..), runOn_bind_ok (runOn_warn_said ..), Run.said_said] at h
      obtain ⟨ws, hws⟩ := ih h
      exact ⟨_, .next hr hws⟩

theorem Clones.warns (h : Clones o opts w ks ws k w') : Warns w ws w' := by
  induction h with
  | first h => exact (attempts_drifting calm_isWarning.alert _).warns h
  | next h _ ih =>
    exact .skip (attempts_drifting calm_isWarning.alert _) h ((Warns.pair rfl rfl _).append ih)

/-- The warning that the revision which was asked for could not be checked out, if it could not. -/
def fallbacks (c : WorkingCopy) : List Warning :=
  match c.requestedRevision with
  | some requested => if c.pinned then [] else [fallback requested]
  | none => []

theorem pin_eq (requested : String) : pin o opts requested = (do
    Forge.log .info s!"checking out {requested}"
    match ← Forge.attempt (checkOut o opts requested) with
    | .ok _ => return true
    | .error f =>
      Forge.log .warn (fallback requested).message
        (some [("event", .text WarningEvent.revisionFallback.name), ("err", .text f.message)])
      Forge.warn (fallback requested)
      return false) := rfl

theorem pin_warns {requested : String} {pinned : Bool}
    (h : runOn w (pin o opts requested) = (.ok pinned, w')) :
    Warns w (if pinned then [] else [fallback requested]) w' := by
  rw [pin_eq] at h
  obtain ⟨_, w₁, hlog, h⟩ := of_bind_ok h
  refine (Warns.of_log rfl hlog).append ?_
  rw [runOn_bind_ok (runOn_attempt ..)] at h
  rcases hr : runOn w₁ (checkOut o opts requested) with ⟨f | _, w₂⟩
  · rw [hr] at h
    dsimp only at h
    rw [runOn_bind_ok (runOn_log_said ..), runOn_bind_ok (runOn_warn_said ..), Run.said_said] at h
    cases h
    exact .skip (checkOut_drifting calm_isWarning.alert _) hr (.pair rfl rfl w₂)
  · rw [hr] at h
    cases h
    exact (checkOut_drifting calm_isWarning.alert _).warns hr

theorem of_describe_ok {requested : Option String} {pinned : Bool}
    (h : runOn w (describe o opts k requested pinned) = (.ok c, w')) :
    c.source = k ∧ c.requestedRevision = requested ∧ c.pinned = pinned := by
  obtain ⟨-, -, -, -, hcopy⟩ := (@describe_yields o opts k requested pinned w).elim
  exact (hcopy c (by rw [h])).2

theorem acquire_warns {revision : Option String} (h : runOn w (acquire o opts ks revision) = (.ok c, w')) :
    c.requestedRevision = revision.bind Text.nonBlank? ∧
      ∃ ws w₁, Clones o opts w ks ws c.source w₁ ∧ Warns w (ws ++ fallbacks c) w' := by
  obtain ⟨k, w₁, hclone, h⟩ := of_bind_ok h
  obtain ⟨ws, hws⟩ := cloneFirst_clones hclone
  obtain ⟨_, w₂, hidentity, h⟩ := of_bind_ok h
  have hend : ∃ pinned w₃, runOn w₃ (describe o opts k (revision.bind Text.nonBlank?) pinned) = (.ok c, w') ∧
      Warns w₂ (match revision.bind Text.nonBlank? with
        | some requested => if pinned then [] else [fallback requested]
        | none => []) w₃ := by
    cases hr : revision.bind Text.nonBlank? with
    | none =>
      rw [hr] at h
      exact ⟨false, w₂, h, .of_unseen (.refl _)⟩
    | some requested =>
      rw [hr] at h
      obtain ⟨pinned, w₃, hpin, h⟩ := of_bind_ok h
      exact ⟨pinned, w₃, h, pin_warns hpin⟩
  obtain ⟨pinned, w₃, h, hfallback⟩ := hend
  obtain ⟨rfl, hrequested, rfl⟩ := of_describe_ok h
  refine ⟨hrequested, ws, w₁, hws, hws.warns.append (.skip (setIdentity_drifting calm_isWarning.alert) hidentity ?_)⟩
  have hdescribe : Warns w₃ [] w' := (describe_drifting calm_isWarning.alert _ _ _).warns h
  rw [fallbacks, hrequested]
  have := hfallback.append hdescribe
  rwa [List.append_nil] at this

end Source

/-! ## The request -/

namespace Registry

/-- Whether a request is a name that is not blank, does not ask for all variants, and is that of none. -/
def Unmatched (r : Registry) (request : Option String) (name : String) : Prop :=
  request.bind Text.nonBlank? = some name ∧ Variant.normalName name ≠ Variant.allName ∧
    find? r.variants (Variant.normalName name) = none

theorem select_unknown_iff (r : Registry) (request : Option String) (name : String) :
    (r.select request).unknown = some name ↔ r.Unmatched request name := by
  rw [select, Unmatched]
  cases hname : request.bind Text.nonBlank? with
  | none => simp
  | some requested =>
    by_cases hall : Variant.normalName requested = Variant.allName
    · simp only [hall, if_true, Option.some.injEq]
      exact ⟨nofun, by rintro ⟨rfl, h, -⟩; exact absurd hall h⟩
    · simp only [hall, if_false, Option.some.injEq, resolve]
      cases hfind : find? r.variants (Variant.normalName requested) with
      | some v => exact ⟨nofun, by rintro ⟨rfl, -, h⟩; simp [hfind] at h⟩
      | none => exact ⟨by rintro ⟨⟩; exact ⟨rfl, hall, hfind⟩, fun h => by rw [h.1]⟩

end Registry

/-! ## Casting spells -/

namespace Run

/-- The warnings about the outcome of a spell: one if it was not found or only partly applied, and one if
rules of it found nothing. -/
def spellWarnings (v : Variant) (s : Spell) (out : CastOutcome) : List Warning :=
  (match out.status with
    | .notFound => [about v s .spellNotFound s!"spell {s.id} not found: {out.detail}"]
    | .partiallyApplied => [about v s .spellPartial s!"spell {s.id} partially applied: {out.detail}"]
    | _ => []) ++
  if 0 < out.unmatchedRules.getD 0 then
    [about v s .ruleUnmatched s!"spell {s.id}: {out.unmatchedRules.getD 0} rule(s) did not match"]
  else []

theorem runOn_warn_line (x : Warning) (w : World) :
    ∃ extra, runOn w (warn x) = (.ok (), said w [.warned x, .logged .warn x.message (some extra)]) ∧
      Members.get? extra "event" = some (.text x.event.name) := by
  refine ⟨[("event", .text x.event.name)] ++ Data.given "variant" (x.variant.map .text) ++
    Data.given "transform" (x.spell.map .text), ?_, rfl⟩
  rw [warn, runOn_bind_ok (runOn_warn_said ..), runOn_log_said, said_said]
  rfl

theorem warn_warns {x : Warning} {r : Except Failure Unit} (h : runOn w (warn x) = (r, w')) :
    Warns w [x] w' := by
  obtain ⟨extra, hwarn, hevent⟩ := runOn_warn_line x w
  cases h.symm.trans hwarn
  have hline : warningLine? (.logged .warn x.message (some extra)) = some x.line := by
    show (Members.get? extra "event").map _ = _
    rw [hevent]
    rfl
  refine .pair rfl ?_ w
  rw [List.filterMap_cons_none rfl, List.filterMap_cons_some hline]
  rfl

theorem reportUnmatched_warns {s : Spell} {out : CastOutcome} {r : Except Failure Unit}
    (h : runOn w (reportUnmatched v s out) = (r, w')) :
    Warns w (if 0 < out.unmatchedRules.getD 0 then
      [about v s .ruleUnmatched s!"spell {s.id}: {out.unmatchedRules.getD 0} rule(s) did not match"]
    else []) w' := by
  rw [reportUnmatched] at h
  split at h
  · rename_i n hn
    rw [hn]
    exact warn_warns h
  · rename_i hn
    cases h
    rw [if_neg]
    · exact .of_unseen (.refl _)
    · rcases hu : out.unmatchedRules with _ | _ | n
      · exact Nat.lt_irrefl 0
      · exact Nat.lt_irrefl 0
      · exact absurd hu (hn n)

theorem report_warns {s : Spell} {out : CastOutcome} (h : runOn w (report v s out) = (.ok (), w')) :
    Warns w (spellWarnings v s out) w' := by
  rw [report] at h
  rw [spellWarnings]
  cases hstatus : out.status with
  | notFound =>
    rw [hstatus] at h
    obtain ⟨_, w₁, hwarn, h⟩ := of_bind_ok h
    exact (warn_warns hwarn).append (reportUnmatched_warns h)
  | partiallyApplied =>
    rw [hstatus] at h
    obtain ⟨_, w₁, hwarn, h⟩ := of_bind_ok h
    exact (warn_warns hwarn).append (reportUnmatched_warns h)
  | applied =>
    rw [hstatus] at h
    obtain ⟨_, w₁, hlog, h⟩ := of_bind_ok h
    exact (Warns.of_log rfl hlog).append (reportUnmatched_warns h)
  | alreadyApplied =>
    rw [hstatus] at h
    obtain ⟨_, w₁, hlog, h⟩ := of_bind_ok h
    exact (Warns.of_log rfl hlog).append (reportUnmatched_warns h)

/-- Spells of a variant that were cast in order, each with its outcome. -/
inductive Outcomes (o : Outside) (p : Plan) (c : WorkingCopy) (v : Variant) :
    World → List Spell → List CastOutcome → World → Prop where
  | nil (w : World) : Outcomes o p c v w [] [] w
  | cons {s : Spell} {rest : List Spell} {out : CastOutcome} {outs : List CastOutcome} {w w₁ w₂ w₃ : World}
      (hcast : runOn w (Spell.cast o p.config.spellsDir c s) = (.ok out, w₁))
      (hreport : runOn w₁ (report v s out) = (.ok (), w₂)) (hrest : Outcomes o p c v w₂ rest outs w₃) :
      Outcomes o p c v w (s :: rest) (out :: outs) w₃

theorem castAll_outcomes {spells : List Spell} (h : runOn w (castAll o p c v spells) = (.ok (), w')) :
    ∃ outs, Outcomes o p c v w spells outs w' := by
  induction spells generalizing w with
  | nil =>
    cases h
    exact ⟨[], .nil _⟩
  | cons s rest ih =>
    obtain ⟨out, w₁, hcast, h⟩ := of_bind_ok h
    obtain ⟨_, w₂, hreport, h⟩ := of_bind_ok h
    obtain ⟨outs, houts⟩ := ih h
    exact ⟨out :: outs, .cons hcast hreport houts⟩

/-- The warnings about spells, each by its outcome. -/
def castWarnings (v : Variant) (spells : List Spell) (outs : List CastOutcome) : List Warning :=
  (spells.zip outs).flatMap fun e => spellWarnings v e.1 e.2

theorem Outcomes.warns {spells : List Spell} {outs : List CastOutcome} (h : Outcomes o p c v w spells outs w') :
    Warns w (castWarnings v spells outs) w' := by
  induction h with
  | nil w => exact .of_unseen (.refl _)
  | cons hcast hreport _ ih =>
    have hspell := ((Spell.cast_drifting calm_isWarning _ _).warns hcast).append (report_warns hreport)
    exact hspell.append ih

/-! ## Variants -/

/-- The warnings that are given of a variant: none unless its reset succeeds, and those of its spells if
it does. -/
inductive Complains (o : Outside) (p : Plan) (c : WorkingCopy) (v : Variant) (w : World) :
    List Warning → Prop where
  | notReset {f : Failure} {w' : World} (hreset : runOn w (Source.reset o c) = (.error f, w')) :
      Complains o p c v w []
  | cast {outs : List CastOutcome} {w₁ w₂ : World} (hreset : runOn w (Source.reset o c) = (.ok (), w₁))
      (hcast : Outcomes o p c v w₁ v.spells outs w₂) : Complains o p c v w (castWarnings v v.spells outs)

/-- Resetting, building and packaging add no warnings to those of the spells. -/
theorem Pipeline.warns {out : Outcome} (h : Pipeline o p t c v w out w') :
    ∃ ws, Complains o p c v w ws ∧ Warns w ws w' := by
  have hreset : Drifting o isWarning (Source.reset o c) := Source.reset_drifting calm_isWarning.alert c
  have hbuild : Drifting o isWarning (Build.run o p.buildOptions c t v.label) :=
    Build.run_drifting calm_isWarning.alert t v.label
  have hpackage (artifact : String) : Drifting o isWarning (Package.run o p.packageOptions artifact c v.label) :=
    Package.run_drifting calm_isWarning.alert artifact v.label
  cases h with
  | notReset h => exact ⟨[], .notReset h, hreset.warns h⟩
  | notBuilt h hcast hb =>
    obtain ⟨outs, houts⟩ := castAll_outcomes hcast
    refine ⟨_, .cast h houts, .skip hreset h ?_⟩
    simpa using houts.warns.append (hbuild.warns hb)
  | notPackaged h hcast hb hp =>
    obtain ⟨outs, houts⟩ := castAll_outcomes hcast
    refine ⟨_, .cast h houts, .skip hreset h ?_⟩
    simpa using (houts.warns.append (hbuild.warns hb)).append ((hpackage _).warns hp)
  | made h hcast hb hp =>
    obtain ⟨outs, houts⟩ := castAll_outcomes hcast
    refine ⟨_, .cast h houts, .skip hreset h ?_⟩
    simpa using (houts.warns.append (hbuild.warns hb)).append ((hpackage _).warns hp)

/-- Variants that were made one after the other, and the warnings that were given of them. -/
inductive Warned (o : Outside) (p : Plan) (t : Toolchain) (c : WorkingCopy) :
    World → List Variant → List Warning → World → Prop where
  | nil (w : World) : Warned o p t c w [] [] w
  | cons {v : Variant} {rest : List Variant} {out : Outcome} {ws ws' : List Warning} {w w₁ w₂ : World}
      (hmade : runOn (said w (opening v)) (makeVariant o p t c v) = (.ok out, w₁))
      (hws : Complains o p c v (said w (opening v)) ws)
      (hrest : Warned o p t c (said w₁ (closing v out)) rest ws' w₂) :
      Warned o p t c w (v :: rest) (ws ++ ws') w₂

theorem makes_complains : Makes o p t c fun w x w' =>
    ∃ ws, Complains o p c x.variant w ws ∧ Warns w ws w' := by
  intro v w
  obtain ⟨out, w', hmade, hpipe⟩ := makeVariant_pipeline (o := o) (p := p) (t := t) (c := c) (v := v) w
  exact ⟨[], out, w', hmade, hpipe.warns⟩

theorem opening_warns (v : Variant) (w : World) : Warns w [] (said w (opening v)) := ⟨_, rfl, rfl, rfl⟩

theorem closing_warns (v : Variant) (out : Outcome) (w : World) : Warns w [] (said w (closing v out)) := by
  cases out with
  | ok a => exact ⟨_, rfl, rfl, rfl⟩
  | error e => exact ⟨_, rfl, rfl, rfl⟩

theorem makeAll_warned {tally tally' : Tally} {vs : List Variant}
    (h : runOn w (makeAll o p t c tally vs) = (.ok tally', w')) :
    ∃ ws, Warned o p t c w vs ws w' ∧ Warns w ws w' := by
  induction vs generalizing tally w with
  | nil =>
    cases h
    exact ⟨[], .nil _, .of_unseen (.refl _)⟩
  | cons v rest ih =>
    obtain ⟨tally₁, w₁, hnext, h⟩ := of_bind_ok h
    rcases makeNext_cases (makes_complains (o := o) (p := p) (t := t) (c := c)) tally v w with
      ⟨-, hstop⟩ | ⟨-, l, out, w₂, hmade, ⟨ws, hws, hwarns⟩, hgo | ⟨e, -, -, hstop⟩⟩
    · cases hnext.symm.trans hstop
    · cases hnext.symm.trans hgo
      obtain ⟨ws', hrest, hwarns'⟩ := ih h
      refine ⟨ws ++ ws', .cons hmade hws hrest, ?_⟩
      have hvariant := ((opening_warns v w).append hwarns).append (closing_warns v out w₂)
      rw [List.nil_append, List.append_nil] at hvariant
      exact hvariant.append hwarns'
    · cases hnext.symm.trans hstop

/-! ## The request and the report -/

/-- The warning that the request is unknown. -/
def unknownWarning (p : Plan) (name : String) : Warning :=
  { event := .unknownVariant
    message := s!"unknown variant {name}, building {p.registry.default.name}", variant := some name }

/-- The warning that the report could not be written. -/
def unwritten (f : Failure) : Warning :=
  { event := .reportFailed, message := s!"could not write run report: {f.message}" }

theorem announce_warns {s : Registry.Selection} (h : runOn w (announce p s) = (.ok (), w')) :
    Warns w (s.unknown.toList.map (unknownWarning p)) w' := by
  rw [announce] at h
  split at h
  · rename_i name hname
    rw [hname]
    exact warn_warns h
  · rename_i hname
    cases h
    rw [hname]
    exact .of_unseen (.refl w)

/-- The warnings of the end of a run: one if there is to be a report and it cannot be written. -/
inductive Reports (o : Outside) (p : Plan) (t : Toolchain) (c : WorkingCopy) (started : Instant) (s : Summary)
    (w : World) : List Warning → Prop where
  | off (hoff : p.config.settings.report = false) : Reports o p t c started s w []
  | written {report : Data} {file : String} {w' : World} (hon : p.config.settings.report = true)
      (hmake : Report.make s.members c t started (o.clock w.readings) = some report)
      (hwrite : runOn { w with readings := w.readings + 1 } (Report.write p.config.outputDir report) =
        (.ok file, w')) : Reports o p t c started s w []
  | unwritten {report : Data} {f : Failure} {w' : World} (hon : p.config.settings.report = true)
      (hmake : Report.make s.members c t started (o.clock w.readings) = some report)
      (hwrite : runOn { w with readings := w.readings + 1 } (Report.write p.config.outputDir report) =
        (.error f, w')) : Reports o p t c started s w [unwritten f]

theorem reportWrite_drifting {see : Event → Bool} (dir : String) (report : Data) :
    Drifting o see (Report.write dir report) :=
  (Drifting.makeDirectories _).bind fun _ => (Drifting.writeText _ _).bind fun _ => .pure _

theorem writeReport_reports {started : Instant} {s : Summary} (hon : p.config.settings.report = true)
    (h : runOn w (writeReport o p s c t started) = (.ok (), w')) :
    ∃ ws, Reports o p t c started s w ws ∧ Warns w ws w' := by
  rw [writeReport, runOn_bind_ok (runOn_now w o)] at h
  have hclock : Warns w [] { w with readings := w.readings + 1 } := ⟨[], by simp, rfl, rfl⟩
  split at h
  · cases h
  · rename_i report hmake
    rw [runOn_bind_ok (runOn_attempt ..)] at h
    rcases hwrite : runOn { w with readings := w.readings + 1 } (Report.write p.config.outputDir report) with
      ⟨f | file, w₁⟩
    · rw [hwrite] at h
      refine ⟨_, .unwritten hon hmake hwrite, hclock.append ?_⟩
      exact .skip (reportWrite_drifting (o := o) _ _) hwrite (warn_warns h)
    · rw [hwrite] at h
      refine ⟨_, .written hon hmake hwrite, hclock.append ?_⟩
      exact .skip (reportWrite_drifting (o := o) _ _) hwrite (.of_log rfl h)

theorem logSummary_warns (o : Outside) {s : Summary} (h : runOn w (logSummary s) = (.ok (), w')) : Warns w [] w' := by
  have each : Drifting o isWarning (do
      for archive in s.archives do
        Forge.log .info s!"archive: {archive}") :=
    (Drifting.forIn fun a _ => (calm_isWarning.log rfl).bind fun _ => .pure _).bind fun _ => .pure _
  have hall : Drifting o isWarning (logSummary s) :=
    (calm_isWarning.log rfl).bind fun _ => .ite ((calm_isWarning.log rfl).bind fun _ => each) each
  exact hall.warns h

theorem warningsFrom_eq {ws : List Warning} (h : Warns w ws w') : warningsFrom w.journal.length w' = ws := by
  obtain ⟨es, hes, rfl, -⟩ := h
  rw [warningsFrom, hes, List.drop_left]
  rfl

theorem conclude_warns {started : Instant} {requested : String} {tally : Tally} {s : Summary} {w₀ : World}
    {before : List Warning} (hbefore : Warns w₀ before w)
    (h : runOn w (conclude o p t c started w₀.journal.length requested tally) = (.ok s, w')) :
    ∃ ws, Reports o p t c started (tally.summary requested before) w ws ∧ Warns w ws w' ∧
      s = tally.summary requested (before ++ ws) := by
  have last {ws : List Warning} {w₁ : World} (hws : Warns w ws w₁) (h : runOn w₁ (do
      let s := { tally.summary requested before with warnings := warningsFrom w₀.journal.length (← get) }
      logSummary s
      return s) = (.ok s, w')) : Warns w ws w' ∧ s = tally.summary requested (before ++ ws) := by
    rw [runOn_bind_ok (runOn_get w₁), warningsFrom_eq (hbefore.append hws)] at h
    obtain ⟨_, w₂, hlog, h⟩ := of_bind_ok h
    cases h
    have := hws.append (logSummary_warns o hlog)
    rw [List.append_nil] at this
    exact ⟨this, rfl⟩
  rw [conclude, runOn_bind_ok (runOn_get w), warningsFrom_eq hbefore] at h
  dsimp only at h
  split at h
  · rename_i hon
    obtain ⟨_, w₁, hreport, h⟩ := of_bind_ok h
    obtain ⟨ws, hws, hwarns⟩ := writeReport_reports hon hreport
    exact ⟨ws, hws, last hwarns h⟩
  · rename_i hoff
    exact ⟨[], .off (by simpa using hoff), last (.of_unseen (.refl w)) h⟩

theorem conclude_unreported {started : Instant} {requested : String} {tally : Tally} {w₀ : World}
    {before : List Warning} (hbefore : Warns w₀ before w) :
    ∃ w', runOn w (conclude o p.unreported t c started w₀.journal.length requested tally) =
      (.ok (tally.summary requested before), w') := by
  obtain ⟨_, w', hlog⟩ := logSummary_total (tally.summary requested before) w
  refine ⟨w', ?_⟩
  rw [conclude, runOn_bind_ok (runOn_get w), warningsFrom_eq hbefore]
  dsimp only
  rw [if_neg (by exact Bool.false_ne_true), runOn_bind_ok (runOn_get w), warningsFrom_eq hbefore]
  exact runOn_bind_ok hlog

/-! ## The whole run -/

/-- What comes before the source is fetched. -/
def equip (o : Outside) (p : Plan) : Forge Toolchain := do
  Forge.makeDirectories p.config.chamber
  Forge.makeDirectories p.config.outputDir
  Toolchain.resolve o p.resolveOptions

theorem equip_drifting : Drifting o isWarning (equip o p) :=
  (Drifting.makeDirectories _).bind fun _ => (Drifting.makeDirectories _).bind fun _ =>
    Toolchain.resolve_drifting calm_isWarning.alert

theorem of_prepare_ok {revision : Option String} (h : runOn w (prepare o p revision) = (.ok (t, c), w')) :
    ∃ w₁, runOn w (equip o p) = (.ok t, w₁) ∧
      runOn w₁ (Source.acquire o p.acquireOptions p.config.settings.source.candidates revision) = (.ok c, w') := by
  obtain ⟨_, w₁, hchamber, h⟩ := of_bind_ok h
  obtain ⟨_, w₂, houtput, h⟩ := of_bind_ok h
  obtain ⟨t', w₃, hresolve, h⟩ := of_bind_ok h
  obtain ⟨c', w₄, hacquire, h⟩ := of_bind_ok h
  cases h
  refine ⟨w₃, ?_, hacquire⟩
  rw [equip, runOn_bind_ok hchamber, runOn_bind_ok houtput]
  exact hresolve

/-- How the warnings of a run came about: those before its report, which a summary holds, and those of the
report. The source was fetched from the first candidate that could be cloned, the request was found to be
unknown or not, and variants were made in order. -/
inductive Explains (o : Outside) (p : Plan) (r : RunRequest) (w : World) : Summary → List Warning → Prop where
  | intro {t : Toolchain} {c : WorkingCopy} {tally : Tally} {unknown : Option String}
      {candidates spells report : List Warning} {w₀ w₁ w₂ w₃ w₄ : World}
      (hequip : runOn { w with readings := w.readings + 1 } (equip o p) = (.ok t, w₀))
      (hclones : Source.Clones o p.acquireOptions w₀ p.config.settings.source.candidates candidates c.source w₁)
      (hacquire : runOn w₀ (Source.acquire o p.acquireOptions p.config.settings.source.candidates r.revision) =
        (.ok c, w₂)) (hrevision : c.requestedRevision = r.revision.bind Text.nonBlank?)
      (hunknown : ∀ name, unknown = some name ↔ p.registry.Unmatched r.variant name)
      (hannounce : runOn w₂ (announce p (p.registry.select r.variant)) = (.ok (), w₃))
      (hspells : Warned o p t c w₃ (p.registry.select r.variant).variants spells w₄)
      (hreport : Reports o p t c (o.clock w.readings) (tally.summary (requestedName p r)
        (candidates ++ Source.fallbacks c ++ unknown.toList.map (unknownWarning p) ++ spells)) w₄ report) :
      Explains o p r w (tally.summary (requestedName p r)
        (candidates ++ Source.fallbacks c ++ unknown.toList.map (unknownWarning p) ++ spells)) report

end Run

end VariantForge
