import VariantForge.Proofs.Run.Cancelled
import VariantForge.Proofs.Variant.Definitions

/-!
# Casting — the order in which spells are cast

The log has a line for each spell that is cast, and for nothing else one like it. Every variant that is begun
either has none of its spells cast, as its reset fails, or all of them in order (`run_casts`). A registry that
could be built has the spells that a spell requires before it, so in every run they are cast before it.
-/

namespace VariantForge

open Forge

variable {o : Outside} {p : Plan} {t : Toolchain} {c : WorkingCopy} {v : Variant}

theorem Forge.Drifting.yields {α : Type} {see : Event → Bool} {x : Forge α} (h : Drifting o see x) (w : World) :
    Yields o see w x fun l _ _ => l = [] :=
  Quiet.yields (fun w => (h w).unseen) rfl

/-! ## One variant -/

namespace Spell

/-- The line of the log that says that a spell is cast. -/
def castingLine (s : Spell) : Event := .logged .info s!"casting spell: {s.id}" none

theorem isCasting_castingLine (s : Spell) : isCasting s.castingLine = true := by
  rw [castingLine, isCasting, Text.startsWith, List.isPrefixOf_iff_prefix]
  exact ⟨s.id.toList, (String.toList_append ..).symm⟩

theorem cast_casting (dir : String) (s : Spell) (w : World) :
    Yields o isCasting w (cast o dir c s) fun l _ _ => l.map Moment.event = [s.castingLine] := by
  have hline : Yields o isCasting w (Forge.log .info s!"casting spell: {s.id}") fun l _ _ =>
      l.map Moment.event = [s.castingLine] :=
    ⟨_, _, _, .note (isCasting_castingLine s), rfl⟩
  refine hline.bind (fun l _ w' hl => ?_) fun l f w' hl => hl
  have hwork := (work_drifting (o := o) (c := c) intent_isCasting.alert dir s).attempt
  refine Yields.mono (Drifting.yields (hwork.bind fun r => ?_) w') fun l' _ _ _ hl' => ?_
  · cases r with
    | ok outcome => exact .pure _
    | error f => exact .pure _
  · rw [hl', List.append_nil, hl]

end Spell

namespace Run

theorem castAll_casting (spells : List Spell) (w : World) :
    Yields o isCasting w (castAll o p c v spells) fun l _ _ =>
      l.map Moment.event = spells.map Spell.castingLine := by
  induction spells generalizing w with
  | nil => exact .pure rfl
  | cons s rest ih =>
    have hcast : Yields o isCasting w (Spell.cast o p.config.spellsDir c s) fun l r _ =>
        l.map Moment.event = [s.castingLine] ∧ ∃ out, r = .ok out :=
      (Spell.cast_casting p.config.spellsDir s w).mono fun l r w' hrun hl => by
        obtain ⟨out, _, hok⟩ := cast_total (o := o) (c := c) p.config.spellsDir s w
        cases hok.symm.trans hrun
        exact ⟨hl, out, rfl⟩
    refine hcast.bind (fun l out w₁ hl => ?_) ?_
    · have hreport : Drifting o isCasting (report v s out) := report_passing intent_isCasting v s out
      refine Quiet.skip (fun w => (hreport w).unseen) (fun _ w₂ _ => ?_) fun f w₂ hf => ?_
      · refine (ih w₂).mono fun l' _ _ _ hl' => ?_
        rw [List.map_append, hl.1, hl', List.map_cons, List.singleton_append]
      · obtain ⟨_, _, hok⟩ := report_total v s out w₁
        cases hok.symm.trans hf
    · rintro l f w₁ ⟨-, out, hr⟩
      cases hr

/-- What is seen of a variant: none of its spells is cast, or all of them in order. -/
def Casts (w : World) (x : Visit) (w' : World) : Prop :=
  Shows isCasting w x.moments w' ∧
    (x.moments = [] ∨ x.moments.map Moment.event = x.variant.spells.map Spell.castingLine)

theorem makes_casts : Makes o p t c Casts := by
  have hvariant (v : Variant) (w : World) : Yields o isCasting w (makeVariant o p t c v) fun l r _ =>
      ∃ out, r = .ok out ∧ (l = [] ∨ l.map Moment.event = v.spells.map Spell.castingLine) := by
    refine (makeVariant_stages (fun w => (Source.reset_drifting intent_isCasting.alert c).yields w)
      (castAll_casting v.spells) (fun w => (Build.run_drifting intent_isCasting.alert t v.label).yields w)
      (fun _ w => (Package.run_drifting intent_isCasting.alert _ _).yields w) w).mono ?_
    rintro l r w' - ⟨out, rfl, hstages⟩
    refine ⟨out, rfl, ?_⟩
    cases hstages with
    | notReset hreset => exact .inl hreset
    | notBuilt hreset hcast hbuild =>
      rw [hreset, hbuild, List.nil_append, List.append_nil]
      exact .inr hcast
    | built hreset hcast hbuild hpackage =>
      rw [hreset, hbuild, hpackage, List.nil_append, List.append_nil, List.append_nil]
      exact .inr hcast
  intro v w
  obtain ⟨l, r, w', htrace, out, rfl, hl⟩ := hvariant v w
  exact ⟨l, out, w', htrace.runOn_eq, htrace.journal, hl⟩

/-! ## A whole run -/

theorem announce_casting (s : Registry.Selection) : Drifting o isCasting (announce p s) := by
  rw [announce]
  split
  · exact warn_passing intent_isCasting _
  · exact .pure _

theorem writeReport_casting (s : Summary) (started : Instant) :
    Drifting o isCasting (writeReport o p s c t started) := by
  refine (Drifting.now o).bind fun ended => ?_
  split
  · exact .throw _
  · have hwrite (report : Data) : Drifting o isCasting (Report.write p.config.outputDir report) :=
      (Drifting.makeDirectories _).bind fun _ => (Drifting.writeText _ _).bind fun _ => .pure _
    refine (hwrite _).attempt.bind fun r => ?_
    cases r with
    | ok file => exact intent_isCasting.alert.info (.append (by decide) _)
    | error f => exact warn_passing intent_isCasting _

theorem logSummary_casting (s : Summary) : Drifting o isCasting (logSummary s) := by
  have each : Drifting o isCasting (do
      for archive in s.archives do
        Forge.log .info s!"archive: {archive}") :=
    (Drifting.forIn fun a _ => (intent_isCasting.alert.info (.append (by decide) _)).bind fun _ => .pure _).bind
      fun _ => .pure _
  refine (intent_isCasting.alert.info (.append (.append (.append (.append (by decide) _) _) _) _)).bind fun _ => ?_
  exact .ite ((intent_isCasting.log rfl).bind fun _ => each) each

theorem conclude_casting (started : Instant) (start : Nat) (requested : String) (tally : Tally) :
    Drifting o isCasting (conclude o p t c started start requested tally) := by
  have hget : Drifting o isCasting (get : Forge World) := .of_still fun _ => rfl
  refine hget.bind fun w => ?_
  dsimp only
  have last (s : Summary) : Drifting o isCasting (do
      let s := { s with warnings := warningsFrom start (← get) }
      logSummary s
      return s) :=
    hget.bind fun _ => (logSummary_casting _).bind fun _ => .pure _
  split
  · exact (writeReport_casting _ _).bind fun _ => last _
  · exact last _

theorem opening_shows (w : World) (v : Variant) : Shows isCasting w [] (said w (opening v)) :=
  .of_unseen ⟨_, rfl, List.forall_mem_singleton.2
    (Unlike.not_casting (.append (.append (by decide) _) _))⟩

theorem closing_shows (w : World) (v : Variant) (out : Outcome) : Shows isCasting w [] (said w (closing v out)) := by
  refine .of_unseen ⟨_, rfl, ?_⟩
  cases out with
  | ok a => exact nofun
  | error e => exact List.forall_mem_singleton.2 rfl

theorem shows_of_drifting {α : Type} {x : Forge α} {w w' : World} {r : Except Failure α}
    (h : Drifting o isCasting x) (hx : runOn w x = (r, w')) : Shows isCasting w [] w' := by
  have := (h w).unseen
  rw [hx] at this
  exact .of_unseen this

/-- A variant that was begun, and those of its spells that were cast. -/
def Visit.spellsCast (x : Visit) : Variant × List Spell :=
  (x.variant, if x.moments.isEmpty then [] else x.variant.spells)

/-- The variants of a run that were begun, in order, each with its spells that were cast: none or all of
them. The log tells of no others. -/
theorem run_casts (o : Outside) (p : Plan) (r : RunRequest) (w : World) :
    ∃ (events : List Event) (casts : List (Variant × List Spell)),
      (runOn w (run o p r)).2.journal = w.journal ++ events ∧
      events.filter isCasting = casts.flatMap (fun x => x.2.map Spell.castingLine) ∧
      casts.map (·.1) <+: (p.registry.select r.variant).variants ∧
      ∀ x ∈ casts, x.2 = [] ∨ x.2 = x.1.spells := by
  have hprepare := prepare_passing (o := o) (p := p) intent_isCasting r.revision
  have hclock : Shows isCasting w [] { w with readings := w.readings + 1 } := ⟨[], by simp, rfl⟩
  obtain ⟨f, w', hfails, hrun⟩ | ⟨t, c, w₀, w₁, visits, w₂, h⟩ :=
    run_journey (C := fun _ _ => Casts) (fun _ _ => makes_casts) r w
  · obtain ⟨events, hjournal, hnone⟩ := hclock.append (shows_of_drifting hprepare hfails)
    rw [hrun]
    exact ⟨events, [], hjournal, hnone, List.nil_prefix, nofun⟩
  have hafter : Shows isCasting w₂ [] (runOn w (run o p r)).2 := by
    rcases h.ends with ⟨f, hrun, -⟩ | ⟨-, hrun⟩
    · rw [hrun]
      exact .of_unseen (.refl w₂)
    · rw [hrun]
      exact .of_unseen (conclude_casting _ _ _ _ w₂).unseen
  have hvisits : Shows isCasting w₁ (visits.flatMap (·.moments)) w₂ :=
    h.rounds.shows_of opening_shows closing_shows fun _ _ _ hx => hx.1
  obtain ⟨events, hjournal, hevents⟩ := (((hclock.append (shows_of_drifting hprepare h.prepared)).append
    (shows_of_drifting (announce_casting (o := o) _) h.announced)).append hvisits).append hafter
  have hcast : ∀ x ∈ visits, x.spellsCast.2.map Spell.castingLine = x.moments.map Moment.event := by
    refine h.rounds.visit fun _ x _ hx => ?_
    rw [Visit.spellsCast]
    rcases hx.2 with hnone | hall
    · rw [hnone]
      rfl
    · cases hmoments : x.moments with
      | nil => rfl
      | cons m l => rw [← hmoments, hall, hmoments]; rfl
  refine ⟨events, visits.map Visit.spellsCast, hjournal, ?_, ?_, fun x hx => ?_⟩
  · rw [List.flatMap_map, List.flatMap_congr hcast, ← List.map_flatMap]
    simpa using hevents
  · rw [List.map_map]
    exact h.variants
  · obtain ⟨y, -, rfl⟩ := List.mem_map.1 hx
    rw [Visit.spellsCast]
    split
    · exact .inl rfl
    · exact .inr rfl

end Run

/-! ## Registries in runs -/

namespace Registry

/-- Where the files of spells are plain a registry can be built of sound definitions, and of no others. It
stands for them, and whatever runs with it casts a spell only after those that it requires. -/
theorem build_faithful (spells : List Spell) (ds : List VariantDefinition) (fallback : String)
    (hplain : PlainFiles spells ds) :
    ((∃ r, build ds (Catalog.ofList spells) fallback = .ok r) ↔ Sound spells ds fallback) ∧
    ∀ r, build ds (Catalog.ofList spells) fallback = .ok r → Represents spells ds fallback r ∧
      ∀ (o : Outside) (config : Configuration) (request : RunRequest) (w : World),
        ∃ (events : List Event) (casts : List (Variant × List Spell)),
          (runOn w (Run.run o ⟨config, r⟩ request)).2.journal = w.journal ++ events ∧
          events.filter isCasting = casts.flatMap (fun x => x.2.map Spell.castingLine) ∧
          ∀ x ∈ casts, x.1 ∈ r.variants ∧ (x.2 = [] ∨ x.2 = x.1.spells) ∧ InOrder x.2 := by
  refine ⟨build_ok_iff hplain, fun r h => ⟨represents_of_build h, fun o config request w => ?_⟩⟩
  obtain ⟨events, casts, hjournal, hevents, hvariants, hcasts⟩ := Run.run_casts o ⟨config, r⟩ request w
  refine ⟨events, casts, hjournal, hevents, fun x hx => ?_⟩
  have hmem : x.1 ∈ r.variants :=
    mem_of_mem_select (represents_of_build h).default.1 (hvariants.subset (List.mem_map_of_mem hx))
  refine ⟨hmem, hcasts x hx, ?_⟩
  rcases hcasts x hx with hnone | hall
  · rw [hnone]
    intro before s after hsplit
    exact absurd hsplit.symm (List.append_ne_nil_of_right_ne_nil _ (by simp))
  · rw [hall]
    exact inOrder_of_build h hmem

/-- Two spells; the first one requires the second, which is a patch of another name. -/
def paired : List Spell :=
  [{ id := "glide", requires := some ["lift"], work := .edit "src/wing.c" (Text.ofString "// glide") [] },
    { id := "lift", work := .patch "air/lift.patch" }]

/-- A variant that is defined twice, the first time with its spells in the wrong order, and one between. -/
def redefined : List VariantDefinition :=
  [⟨"Wing_One", "Old", ["glide", "lift"]⟩, ⟨"tail", "Tail", ["fin"]⟩, ⟨" wing-ONE ", "New", ["lift", "glide"]⟩]

/-- Only the last definition of a name is looked at, and it takes the place of the first. -/
theorem redefined_faithful : PlainFiles paired redefined ∧
    ∃ r, build redefined (Catalog.ofList paired) "WING_one" = .ok r ∧
      r.variants.map (·.label) = ["New", "Tail"] ∧ Represents paired redefined "WING_one" r := by
  have hplain : PlainFiles paired redefined := by
    unfold PlainFiles
    decide
  have hwing : Variant.normalName "Wing_One" = "wing-one" := by decide
  have hagain : Variant.normalName " wing-ONE " = "wing-one" := by decide
  have hdefault : Variant.normalName "WING_one" = "wing-one" := by decide
  have htail : Variant.normalName "tail" = "tail" := by decide
  have hbuilt : ∃ r, build redefined (Catalog.ofList paired) "WING_one" = .ok r ∧
      r.variants.map (·.label) = ["New", "Tail"] := by
    simp only [build, redefined, define, variantOf, hwing, hagain, htail, hdefault]
    exact ⟨_, rfl, rfl⟩
  obtain ⟨r, hr, hlabels⟩ := hbuilt
  exact ⟨hplain, r, hr, hlabels, ((build_faithful paired redefined "WING_one" hplain).2 r hr).1⟩

end Registry

end VariantForge
