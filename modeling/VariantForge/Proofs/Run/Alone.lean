import VariantForge.Proofs.Run.Fresh
import VariantForge.Proofs.Run.Likewise

/-!
# Alone — a variant that is made with others, and made alone

What a run records for a variant is its archive or its failure, and the warnings about it. That comes of the
variant's own steps in the world in which it is begun (`run_recorded`), and whatever others did before then, they
did it aside (`Rounds.meets`). So a run of all variants records the same for each of them as a run of it alone
(`run_alone`), unless it reads a patch where another one writes (`run_not_alone`).
-/

namespace VariantForge

open Path Disk Forge

/-- Whether a warning is about the variant of some name. -/
def Warning.isAbout (x : Warning) (name : String) : Bool := x.variant == some name

/-- What is recorded for one variant. -/
structure Recorded where
  archives : List String
  failures : List VariantFailure
  warnings : List Warning
  deriving DecidableEq

/-- What a summary says of the variant of some name. -/
def Summary.recorded (s : Summary) (name : String) : Recorded where
  archives := ((s.succeeded.zip s.archives).filter (·.1 == name)).map Prod.snd
  failures := s.failed.filter (·.name == name)
  warnings := s.warnings.filter (·.isAbout name)

/-- Warnings about candidates are about no variant. -/
theorem Source.Clones.about {o : Outside} {opts : AcquireOptions} {w w' : World} {ks : List Candidate} {k : Candidate}
    {ws : List Warning} (h : Clones o opts w ks ws k w') : ∀ x ∈ ws, x.variant = none := by
  induction h with
  | first _ => exact fun _ hx => by cases hx
  | next _ _ ih =>
    intro x hx
    rcases List.mem_cons.1 hx with rfl | hx
    · rfl
    · exact ih x hx

namespace Run

variable {o : Outside} {p : Plan} {t : Toolchain} {c : WorkingCopy} {C O : List Part} {vs : List Variant}
  {v : Variant} {s : Summary} {U : Place → Prop} {w w' w₀ : World} {visits : List Visit} {ws : List Warning}

/-! ## What is recorded -/

/-- What a variant has recorded: its archive or its failure, and its warnings. -/
def recordOf (v : Variant) (out : Outcome) (ws : List Warning) : Recorded where
  archives := ((made? (v, out)).map Prod.snd).toList
  failures := (failure? (v, out)).toList
  warnings := ws

theorem recordOf_single (v : Variant) (out : Outcome) (ws : List Warning) :
    (recordOf v out ws).archives.length + (recordOf v out ws).failures.length = 1 := by
  cases out <;> rfl

/-- Outcomes that are alike are recorded alike. -/
theorem recordOf_both {out out' : Outcome} (h : Both (fun a a' => a.archive = a'.archive) out out')
    (ws : List Warning) : recordOf v out ws = recordOf v out' ws := by
  cases h with
  | ok h => simp [recordOf, made?, failure?, h]
  | error e => rfl

/-- Of what comes of a list whose members have different keys, one member gives what has its key. -/
theorem filter_filterMap {α β : Type} {l : List α} {f : α → Option β} {g : α → String} {k : β → String}
    (hkey : ∀ a b, f a = some b → k b = g a) (hnodup : (l.map g).Nodup) {a : α} (ha : a ∈ l) :
    (l.filterMap f).filter (k · == g a) = (f a).toList := by
  have hnone {l : List α} (hl : ∀ x ∈ l, g x ≠ g a) : (l.filterMap f).filter (k · == g a) = [] := by
    refine List.filter_eq_nil_iff.2 fun b hb => ?_
    obtain ⟨x, hx, hfx⟩ := List.mem_filterMap.1 hb
    rw [hkey x b hfx, beq_iff_eq]
    exact hl x hx
  obtain ⟨before, after, rfl⟩ := List.append_of_mem ha
  rw [List.map_append, List.map_cons, List.nodup_append, List.nodup_cons] at hnodup
  obtain ⟨-, ⟨hafter, -⟩, hbefore⟩ := hnodup
  rw [List.filterMap_append, List.filter_append,
    hnone fun x hx heq => hbefore _ (List.mem_map_of_mem hx) _ (List.mem_cons_self ..) heq, List.nil_append]
  have hrest := hnone fun x hx heq => hafter (heq ▸ List.mem_map_of_mem hx)
  cases hf : f a with
  | none =>
    rw [List.filterMap_cons_none hf]
    exact hrest
  | some b =>
    rw [List.filterMap_cons_some hf, List.filter_cons_of_pos (by simp [hkey a b hf]), hrest]
    rfl

/-- What a summary says of a variant that is accounted for is what came of it. -/
theorem Accounts.recorded {done : List (Variant × Outcome)} (h : Accounts s done)
    (hnodup : (done.map fun e => e.1.name).Nodup) {out : Outcome} (he : (v, out) ∈ done)
    (hws : s.warnings.filter (·.isAbout v.name) = ws) : s.recorded v.name = recordOf v out ws := by
  have hmade : (done.filterMap made?).filter (·.1 == v.name) = (made? (v, out)).toList := by
    refine filter_filterMap (g := fun e => e.1.name) (k := Prod.fst) (fun e b hb => ?_) hnodup he
    obtain ⟨u, out⟩ := e
    cases out <;> cases hb
    rfl
  have hfailure : (done.filterMap failure?).filter (·.name == v.name) = (failure? (v, out)).toList := by
    refine filter_filterMap (g := fun e => e.1.name) (k := VariantFailure.name) (fun e b hb => ?_) hnodup he
    obtain ⟨u, out⟩ := e
    cases out <;> cases hb
    rfl
  rw [Summary.recorded, recordOf, h.archives, h.failed, hmade, hfailure, hws]
  cases made? (v, out) <;> rfl

/-! ## Whom warnings are about -/

theorem spellWarnings_about {sp : Spell} {out : CastOutcome} : ∀ x ∈ spellWarnings v sp out, x.variant = some v.name := by
  intro x hx
  rw [spellWarnings, List.mem_append] at hx
  rcases hx with hx | hx
  · split at hx
    · rw [List.mem_singleton.1 hx, about]
    · rw [List.mem_singleton.1 hx, about]
    · cases hx
  · split at hx
    · rw [List.mem_singleton.1 hx, about]
    · cases hx

/-- The warnings that are given of a variant are about it. -/
theorem Complains.about (h : Complains o p c v w ws) : ∀ x ∈ ws, x.variant = some v.name := by
  cases h with
  | notReset hreset => exact fun _ hx => by cases hx
  | cast hreset hcast =>
    intro x hx
    obtain ⟨e, -, hx⟩ := List.mem_flatMap.1 hx
    exact spellWarnings_about x hx

theorem filter_about {name : String} (h : ∀ x ∈ ws, x.variant = some name) : ws.filter (·.isAbout name) = ws :=
  List.filter_eq_self.2 fun x hx => by simp [Warning.isAbout, h x hx]

theorem filter_not_about {name : String} (h : ∀ x ∈ ws, x.variant ≠ some name) : ws.filter (·.isAbout name) = [] :=
  List.filter_eq_nil_iff.2 fun x hx => by simpa [Warning.isAbout] using h x hx

/-- Finding the toolchain and fetching the source gives no warning about a variant. -/
theorem prepare_warns {revision : Option String} (h : runOn w (prepare o p revision) = (.ok (t, c), w')) :
    ∃ ws, Warns w ws w' ∧ ∀ x ∈ ws, x.variant = none := by
  obtain ⟨w₁, hequip, hacquire⟩ := of_prepare_ok h
  obtain ⟨-, ws, w₂, hclones, hwarns⟩ := Source.acquire_warns hacquire
  refine ⟨_, .skip equip_drifting hequip hwarns, List.forall_mem_append.2 ⟨?_, ?_⟩⟩
  · exact hclones.about
  · intro x hx
    rw [Source.fallbacks] at hx
    split at hx
    · split at hx
      · cases hx
      · rw [List.mem_singleton.1 hx, Source.fallback]
    · cases hx

theorem Reports.about {started : Instant} (h : Reports o p t c started s w ws) : ∀ x ∈ ws, x.variant = none := by
  cases h with
  | unwritten _ _ _ =>
    intro x hx
    rw [List.mem_singleton.1 hx, Run.unwritten]
  | _ => exact fun _ hx => by cases hx

/-! ## Variants in order -/

/-- Whether a visit went through the pipeline of its variant. -/
def Piped (o : Outside) (p : Plan) (t : Toolchain) (c : WorkingCopy) (w : World) (x : Visit) (w' : World) : Prop :=
  Pipeline o p t c x.variant w x.outcome w'

theorem makes_piped : Makes o p t c (Piped o p t c) := by
  intro v w
  obtain ⟨out, w', hmade, hpipe⟩ := makeVariant_pipeline (o := o) (p := p) (t := t) (c := c) (v := v) w
  exact ⟨[], out, w', hmade, hpipe⟩

/-- Warnings that are given while variants are made are about these. -/
theorem Rounds.warns (h : Rounds o p t c (Piped o p t c) w visits w') :
    ∃ ws, Warns w ws w' ∧ ∀ x ∈ ws, ∃ y ∈ visits, x.variant = some y.variant.name := by
  induction h with
  | nil w => exact ⟨[], .of_unseen (.refl w), fun _ hx => by cases hx⟩
  | @cut v l e w w' _ _ hvisit _ =>
    obtain ⟨ws, hws, hwarns⟩ := hvisit.warns
    exact ⟨ws, (opening_warns v w).append hwarns, fun x hx => ⟨_, List.mem_singleton_self _, hws.about x hx⟩⟩
  | @cons v l out rest w w₁ w₂ _ _ hvisit _ ih =>
    obtain ⟨ws, hws, hwarns⟩ := hvisit.warns
    obtain ⟨ws', hwarns', habout⟩ := ih
    have hall := (((opening_warns v w).append hwarns).append (closing_warns v out w₁)).append hwarns'
    refine ⟨_, hall, fun x hx => ?_⟩
    rw [List.nil_append, List.append_nil] at hx
    rcases List.mem_append.1 hx with hx | hx
    · exact ⟨_, List.mem_cons_self .., hws.about x hx⟩
    · obtain ⟨y, hy, hxy⟩ := habout x hx
      exact ⟨y, List.mem_cons_of_mem _ hy, hxy⟩

section Meets

variable (hs : Sited p c C O) (ha : Separate p c vs) (hp : Spread p c vs) (hU : Paves p c vs U) (hrun : Minds o U)
include hs ha hp hU hrun

/-- A variant that is visited is begun when others were made aside. -/
theorem Rounds.meets (h : Rounds o p t c (Piped o p t c) w visits w') (hvs : ∀ x ∈ visits, x.variant ∈ vs)
    (hnodup : (visits.map fun x => x.variant.name).Nodup) {d₀ : Disk}
    (hroads : ∀ q, Roads p q → d₀.get? q = some .directory) {x : Visit} (hx : x ∈ visits)
    (hd : Aside p c vs x.variant U d₀ w.disk) :
    ∃ w₁ w₂ ws all, w₁.cancelled = false ∧ Aside p c vs x.variant U d₀ w₁.disk ∧
      runOn w₁ (makeVariant o p t c x.variant) = (.ok x.outcome, w₂) ∧ Complains o p c x.variant w₁ ws ∧
      Warns w all w' ∧ all.filter (·.isAbout x.variant.name) = ws := by
  induction h with
  | nil w => cases hx
  | @cut v l e w w' hlive hmade hvisit _ =>
    cases List.mem_singleton.1 hx
    obtain ⟨ws, hws, hwarns⟩ := hvisit.warns
    exact ⟨said w (opening v), _, ws, ws, hlive, hd, hmade, hws, (opening_warns v w).append hwarns, filter_about hws.about⟩
  | @cons v l out rest w w₁ w₂ hlive hmade hvisit hrest ih =>
    rw [List.map_cons, List.nodup_cons] at hnodup
    obtain ⟨ws, hws, hwarns⟩ := hvisit.warns
    have hfirst := ((opening_warns v w).append hwarns).append (closing_warns v out w₁)
    rw [List.nil_append, List.append_nil] at hfirst
    rcases List.mem_cons.1 hx with rfl | hx
    · obtain ⟨all, hall, habout⟩ := hrest.warns
      refine ⟨said w (opening v), _, ws, ws ++ all, hlive, hd, hmade, hws, hfirst.append hall, ?_⟩
      rw [List.filter_append, filter_about hws.about, filter_not_about fun x hx => ?_, List.append_nil]
      obtain ⟨y, hy, hxy⟩ := habout x hx
      rw [hxy]
      intro heq
      exact hnodup.1 (Option.some.inj heq ▸ List.mem_map_of_mem hy)
    · have hname : v.name ≠ x.variant.name := by
        intro heq
        have hmem : x.variant.name ∈ rest.map fun x => x.variant.name := List.mem_map_of_mem hx
        exact hnodup.1 (heq ▸ hmem)
      have hd₁ : Aside p c vs x.variant U d₀ w₁.disk :=
        Pipeline.aside (w := said w (opening v)) hs ha hp hU hrun (hvs x (List.mem_cons_of_mem _ hx))
          (hvs _ (List.mem_cons_self ..)) (fun heq => hname (congrArg Variant.name heq)) hroads hd hvisit
      obtain ⟨w₃, w₄, ws', all, hlive', haside, hmade', hws', hall, hfilter⟩ :=
        ih (fun x hx => hvs x (List.mem_cons_of_mem _ hx)) hnodup.2 hx hd₁
      refine ⟨w₃, w₄, ws', ws ++ all, hlive', haside, hmade', hws', hfirst.append hall, ?_⟩
      rw [List.filter_append, filter_not_about fun y hy => ?_, List.nil_append, hfilter]
      rw [hws.about y hy]
      exact fun heq => hname (Option.some.inj heq)

end Meets

/-! ## Whole runs -/

/-- What a run records for a variant that it chose is what comes of it in a world in which it was begun, when others
were made aside. -/
theorem run_recorded {r : RunRequest} {chosen : List Variant} (hs : Sited p c C O) (ha : Separate p c vs)
    (hp : Spread p c vs) (hU : Paves p c vs U) (hrun : Minds o U) (hcancels : ∀ w cmd, (o.run w cmd).cancels = false)
    (hclock : ∀ n, (o.clock n).isSome)
    (hprepare : runOn { w with readings := w.readings + 1 } (prepare o p r.revision) = (.ok (t, c), w₀))
    (hlive : w₀.cancelled = false) (hselect : p.registry.select r.variant = ⟨chosen, none⟩)
    (hchosen : ∀ u ∈ chosen, u ∈ vs) (hnodup : (chosen.map (·.name)).Nodup) (hv : v ∈ chosen) (hd : Sound U w₀.disk)
    (hroads : ∀ q, Roads p q → w₀.disk.get? q = some .directory) :
    ∃ s w' w₁ w₂ out ws, runOn w (run o p r) = (.ok s, w') ∧ w₁.cancelled = false ∧
      Aside p c vs v U w₀.disk w₁.disk ∧ runOn w₁ (makeVariant o p t c v) = (.ok out, w₂) ∧
      Complains o p c v w₁ ws ∧ s.recorded v.name = recordOf v out ws := by
  obtain ⟨f, w', hfail, -⟩ | ⟨t', c', w₀', w₁, visits, w₂, h⟩ :=
    run_journey (C := fun t c => Piped o p t c) (fun _ _ => makes_piped) r w
  · cases hfail.symm.trans hprepare
  cases h.prepared.symm.trans hprepare
  obtain rfl : w₁ = w₀ := by
    have := h.announced
    rw [hselect] at this
    cases this
    rfl
  rcases h.ends with ⟨f, -, -, hstopped⟩ | ⟨hall, hend⟩
  · obtain ⟨done, w', -, -, hgo⟩ :=
      makeAll_processed (p := p) (t := t) (c := c) hcancels hlive {} (p.registry.select r.variant).variants
    cases hgo.symm.trans hstopped
  have hall : visits.map (·.variant) = chosen := by rw [hall, hselect]
  rw [← hall] at hv
  obtain ⟨x, hx, rfl⟩ := List.mem_map.1 hv
  have hnames : (visits.map fun x => x.variant.name).Nodup := by
    rwa [← hall, List.map_map] at hnodup
  have hvs : ∀ x ∈ visits, x.variant ∈ vs := fun x hx => hchosen _ (hall ▸ List.mem_map_of_mem hx)
  obtain ⟨wᵥ, wₑ, ws, all, hliveᵥ, haside, hmade, hws, hwarns, hfilter⟩ :=
    h.rounds.meets hs ha hp hU hrun hvs hnames hroads hx (.refl hd)
  obtain ⟨before, hbefore, hbeforeAbout⟩ := prepare_warns hprepare
  have hclocked : Warns w [] { w with readings := w.readings + 1 } := ⟨[], by simp, rfl, rfl⟩
  obtain ⟨_, w₃, hconclude⟩ := conclude_ok (p := p) (t := t) (c := c) hclock (hclock w.readings) w.journal.length
    (requestedName p r) (Tally.visited {} visits) w₂
  obtain ⟨report, hreport, -, hsummary⟩ := conclude_warns ((hclocked.append hbefore).append hwarns) hconclude
  rw [hsummary] at hconclude
  have haccounts := (h.summary (by rw [hend, hconclude])).2
  refine ⟨_, w₃, wᵥ, wₑ, x.outcome, ws, hend.trans hconclude, hliveᵥ, haside, hmade, hws, ?_⟩
  refine haccounts.recorded (by rw [List.map_map]; exact hnames) (List.mem_map_of_mem hx) ?_
  have hnone {ws : List Warning} (h : ∀ y ∈ ws, y.variant = none) : ws.filter (·.isAbout x.variant.name) = [] :=
    filter_not_about fun y hy => by simp [h y hy]
  show List.filter _ ([] ++ before ++ all ++ report) = ws
  rw [List.filter_append, List.filter_append, List.nil_append, hnone hbeforeAbout, hnone hreport.about, hfilter,
    List.nil_append, List.append_nil]

/-- If the outputs of all variants can be told apart, nothing that a run writes is on the way to the chamber and the
output directory, and there are no links on the ways of a variant, whose patches are where no variant writes,
and if commands do as they should, then a run of all variants records the same for that variant as a run of it
alone: one archive or one failure, and the same warnings. -/
theorem run_alone {st : Settings} {here cwd : String} (hplan : Plan.make (st.complete here cwd) = .ok p)
    {all alone : RunRequest} (hrevision : alone.revision = all.revision)
    (hprepare : runOn { w with readings := w.readings + 1 } (prepare o p all.revision) = (.ok (t, c), w₀))
    (hlive : w₀.cancelled = false) (hclock : ∀ n, (o.clock n).isSome)
    (hall : p.registry.select all.variant = ⟨p.registry.variants, none⟩)
    (halone : p.registry.select alone.variant = ⟨[v], none⟩) (hv : v ∈ p.registry.variants)
    (ha : Separate p c p.registry.variants) (hp : Spread p c p.registry.variants)
    (hsec : Secluded p c p.registry.variants v w₀.disk)
    (hpatches : PatchesApart p c p.registry.variants v (home w₀.disk))
    (ho : Isolated o p t c p.registry.variants v w₀.disk) :
    ∃ s s' w₁ w₂, runOn w (run o p all) = (.ok s, w₁) ∧ runOn w (run o p alone) = (.ok s', w₂) ∧
      s.recorded v.name = s'.recorded v.name ∧
      (s.recorded v.name).archives.length + (s.recorded v.name).failures.length = 1 := by
  obtain ⟨C, O, hs⟩ := sited_of_prepare hplan hprepare
  have hU := paves_tracks hs ha hp hsec.target hpatches
  have hroads : ∀ q, Roads p q → w₀.disk.get? q = some .directory := by
    have habove {q r : Place} (hr : w₀.disk.get? r = some .directory) (hq : q <+: r) :
        w₀.disk.get? q = some .directory := by
      by_cases hne : q = r
      · rw [hne, hr]
      · exact hsec.sound.tree.directory (by rw [hr]; exact fun h => by cases h) hq hne
    exact fun q hq => hq.elim (habove hsec.chamber) (habove hsec.output)
  have hnodup := (Plan.make_ok hplan).2
  obtain ⟨s, w₁, wᵥ, wₑ, out, ws, hrun, hliveᵥ, haside, hmade, hws, hrecorded⟩ :=
    run_recorded hs ha hp hU ho.minds ho.cancels hclock hprepare hlive hall (fun _ h => h) hnodup hv hsec.sound hroads
  obtain ⟨s', w₂, wᵥ', wₑ', out', ws', hrun', hliveᵥ', haside', hmade', hws', hrecorded'⟩ :=
    run_recorded hs ha hp hU ho.minds ho.cancels hclock (hrevision ▸ hprepare) hlive halone
      (fun u hu => List.mem_singleton.1 hu ▸ hv) (by simp) (List.mem_singleton_self v) hsec.sound hroads
  obtain ⟨out₁, out₁', _, _, hmade₁, hmade₁', hboth⟩ :=
    makeVariant_likewise hs ha hp hv ho hsec hpatches hroads hliveᵥ hliveᵥ' haside haside'
  cases hmade.symm.trans hmade₁
  cases hmade'.symm.trans hmade₁'
  obtain rfl := Complains.likewise hs ha hp hv ho hsec hpatches hroads hliveᵥ hliveᵥ' haside haside' hws hws'
  refine ⟨s, s', w₁, w₂, hrun, hrun', ?_, ?_⟩
  · rw [hrecorded, hrecorded', recordOf_both hboth]
  · rw [hrecorded]
    exact recordOf_single v out ws

/-! ## Runs that keep their variants apart, and one that does not -/

/-- An outside in which every command ends well, and none changes anything but that which cleans a working copy: it
leaves nothing of it. -/
def tidy : Outside :=
  { obliging with
    run := fun w cmd =>
      ⟨if cmd.arguments = ["clean", "-fd"] then
          cmd.directory.elim w.disk fun dir => w.disk.cut (placeOf dir)
        else w.disk, false, .ok ⟨some 0, "", ""⟩⟩ }

theorem tidy_disk {cmd : Command} (h : cmd.arguments ≠ ["clean", "-fd"]) : (tidy.run w cmd).disk = w.disk := if_neg h

theorem minds_tidy (U : Place → Prop) : Minds tidy U := by
  intro w cmd hd
  by_cases h : cmd.arguments = ["clean", "-fd"]
  · cases hdir : cmd.directory with
    | none =>
      have hdisk : (tidy.run w cmd).disk = w.disk := by simp [tidy, h, hdir]
      rw [hdisk]
      exact .refl hd
    | some dir =>
      have hdisk : (tidy.run w cmd).disk = w.disk.cut (placeOf dir) := by simp [tidy, h, hdir]
      rw [hdisk]
      exact (hd.cut (placeOf dir)).mono fun q hq => .inl ⟨dir, hdir, hq⟩
  · rw [tidy_disk h]
    exact .refl hd

theorem blind_tidy {V : Place → Prop} {cmd : Command} (h : cmd.arguments ≠ ["clean", "-fd"]) : Blind tidy U V cmd := by
  intro w w' hw
  refine ⟨rfl, ?_⟩
  rw [tidy_disk h, tidy_disk h]
  exact hw.disks.toLooks

/-- Whether a disk holds directories alone, those of the chamber and of the output among them, and nothing of the
working copy. -/
@[mk_iff]
structure Blank (p : Plan) (c : WorkingCopy) (d : Disk) : Prop where
  directories : ∀ e ∈ d.entries, e.2.isDirectory = true ∧ (d.get? e.1.dropLast).isSome = true
  chamber : (d.get? (placeOf p.config.chamber)).any Entry.isDirectory = true
  output : (d.get? (placeOf p.config.outputDir)).any Entry.isDirectory = true
  copy : ∀ e ∈ d.entries, ¬ placeOf c.root <+: e.1

instance (p : Plan) (c : WorkingCopy) (d : Disk) : Decidable (Blank p c d) := decidable_of_iff _ (blank_iff p c d).symm

theorem Blank.get?_copy (h : Blank p c w.disk) {q : Place} (hne : q ≠ []) (hq : placeOf c.root <+: q) :
    w.disk.get? q = none := by
  rw [get?, if_neg (by simpa using hne), Option.map_eq_none_iff, List.find?_eq_none]
  rintro e he heq
  exact h.copy e he (by rwa [beq_iff_eq.1 heq])

theorem get?_of_any {d : Disk} {q : Place} (h : (d.get? q).any Entry.isDirectory = true) :
    d.get? q = some .directory := by
  obtain ⟨e, he, hdir⟩ := (Option.any_eq_true ..).1 h
  rw [he, Entry.isDirectory_iff.1 hdir]

theorem Blank.secluded (h : Blank p c w.disk) (htarget : StaysBelow p.buildOptions.target)
    (hedits : ∀ s ∈ v.spells, ∀ file ∈ s.edited?,
      ¬ placeOf (Path.join [c.root, p.buildOptions.directory]) <+: placeOf (Spell.editPath c file)) :
    Secluded p c vs v w.disk where
  sound := sound_of_directories h.directories
  chamber := get?_of_any h.chamber
  output := get?_of_any h.output
  target := htarget
  edits := hedits

theorem Blank.isolated (hs : Sited p c C O) (ha : Separate p c vs) (h : Blank p c w.disk) :
    Isolated tidy p t c vs v w.disk where
  cancels _ _ := rfl
  minds := minds_tidy _
  reset w' _ := by
    refine ⟨⟨_, rfl, rfl⟩, fun w₁ hw₁ => ⟨⟨_, rfl, rfl⟩, ?_⟩⟩
    have hne {q : Place} (hq : placeOf c.root <+: q) : q ≠ [] := by
      rintro rfl
      rw [place_root hs] at hq
      simp at hq
    have hgone {q : Place} (hq : placeOf c.root <+: q) : (w₁.disk.cut (placeOf c.root)).get? q = w.disk.get? q := by
      rw [get?_cut_of_below hq (hne hq), h.get?_copy (hne hq) hq]
    exact ⟨fun q hq _ => hgone hq, .inl (hgone (build_below hs ha)).symm⟩
  spells s _ cmd hcmd := by
    have hne : cmd.arguments ≠ ["clean", "-fd"] := by
      rw [Spell.commands] at hcmd
      split at hcmd
      · cases hcmd
      all_goals
        simp only [List.map_cons, List.map_nil, List.mem_cons, List.not_mem_nil, or_false] at hcmd
        rcases hcmd with rfl | rfl | rfl | rfl <;> simp [Git.command, Git.fetchArguments]
    refine ⟨blind_tidy hne, fun w _ q _ => ?_⟩
    rw [tidy_disk hne]
  build cmd hcmd := by
    refine blind_tidy ?_
    rcases List.mem_pair.1 hcmd with rfl | rfl <;>
      simp [Build.command, Build.configureArguments, Build.compileArguments]
  naming := blind_tidy (by simp [Package.command])

/-- All outlets. -/
def Outlet.all : List Outlet := [.log .configure, .log .compile, .staging, .archive, .part]

theorem Outlet.mem_all (k : Outlet) : k ∈ Outlet.all := by
  rcases k with (_ | _) | _ | _ | _ <;> simp [Outlet.all]

instance (p : Plan) (c : WorkingCopy) (vs : List Variant) (path : String) : Decidable (Untouched p c vs path) :=
  decidable_of_iff
    ((∀ name ∈ [Build.crossFileName, Build.nativeFileName],
        ¬ placeOf (Path.join [p.config.chamber, name]) <+: placeOf path) ∧
      ∀ v ∈ vs, ∀ k ∈ Outlet.all, ¬ placeOf (k.path p c v.label) <+: placeOf path)
    ⟨fun h => ⟨by rintro _ ⟨name, hname, rfl⟩; exact h.1 name (by simpa using hname),
        fun v hv k => h.2 v hv k k.mem_all⟩,
      fun h => ⟨fun name hname => h.machine _ ⟨name, by simpa using hname, rfl⟩, fun v hv k _ => h.outlets v hv k⟩⟩

instance (p : Plan) (c : WorkingCopy) (vs : List Variant) : Decidable (Spread p c vs) :=
  decidable_of_iff _ (spread_iff p c vs).symm

instance (p : Plan) (c : WorkingCopy) (vs : List Variant) (v : Variant) (here : String) :
    Decidable (PatchesApart p c vs v here) :=
  inferInstanceAs (Decidable (∀ s ∈ v.spells, ∀ file ∈ s.patch?, _ ∧ _))

/-- Settings in which a variant is cast from a patch that is a machine file, as the spells are in the chamber. -/
def lentSettings : Settings :=
  { tigerSettings with
    spellsDir := "/c"
    spells := [{ id := "lent", work := .patch Build.crossFileName }]
    variants := [⟨"last", "Last", ["lent"]⟩] }

/-- Whether something holds of a plan that is made of settings, of what is fetched for it onto an empty disk, and of
one of its variants. -/
def Checks (st : Settings) (name : String) (P : Plan → WorkingCopy → Variant → World → Bool) : Bool :=
  (Plan.make (st.complete "/" "/")).toOption.any fun p =>
    (runOn { disk := ⟨[], []⟩, readings := 1 } (prepare tidy p none)).1.toOption.any fun e =>
      (Registry.find? p.registry.variants name).any fun v =>
        P p e.2 v (runOn { disk := ⟨[], []⟩, readings := 1 } (prepare tidy p none)).2

/-- Whether a variant may be made beside all the others, but for its patches. -/
def Fits (p : Plan) (c : WorkingCopy) (v : Variant) (w : World) : Prop :=
  w.cancelled = false ∧ Blank p c w.disk ∧ Separate p c p.registry.variants ∧ Spread p c p.registry.variants ∧
    StaysBelow p.buildOptions.target ∧
    ∀ s ∈ v.spells, ∀ file ∈ s.edited?,
      ¬ placeOf (Path.join [c.root, p.buildOptions.directory]) <+: placeOf (Spell.editPath c file)

instance (p : Plan) (c : WorkingCopy) (v : Variant) (w : World) : Decidable (Fits p c v w) :=
  inferInstanceAs (Decidable (_ ∧ _ ∧ _ ∧ _ ∧ _ ∧ _))

theorem of_checks {st : Settings} {name : String} {P : Plan → WorkingCopy → Variant → World → Bool}
    (h : Checks st name P = true) : ∃ p t c w₀ v, Plan.make (st.complete "/" "/") = .ok p ∧
      runOn { disk := ⟨[], []⟩, readings := 1 } (prepare tidy p none) = (.ok (t, c), w₀) ∧
      Registry.find? p.registry.variants name = some v ∧ P p c v w₀ = true := by
  rw [Checks] at h
  cases hplan : Plan.make (st.complete "/" "/") with
  | error f =>
    rw [hplan] at h
    cases h
  | ok p =>
    rw [hplan] at h
    rcases hprepare : runOn { disk := ⟨[], []⟩, readings := 1 } (prepare tidy p none) with ⟨f | ⟨t, c⟩, w₀⟩
    · simp [Except.toOption, hprepare] at h
    · simp only [Except.toOption, hprepare, Option.any_some] at h
      obtain ⟨v, hv, hP⟩ := (Option.any_eq_true ..).1 h
      exact ⟨p, t, c, w₀, v, rfl, hprepare, hv, hP⟩

theorem ok_of_toOption {ε α : Type} {x : Except ε α} {a : α} (h : x.toOption = some a) : x = .ok a := by
  cases x with
  | error e => cases h
  | ok b => rw [Option.some.inj h]

theorem select_all (r : Registry) : r.select (some "all") = ⟨r.variants, none⟩ := rfl

theorem select_of_find? {r : Registry} {name : String} (hname : Text.nonBlank? name = some name)
    (hnormal : Variant.normalName name = name) (hall : name ≠ Variant.allName)
    (h : Registry.find? r.variants name = some v) : r.select (some name) = ⟨[v], none⟩ := by
  rw [Registry.select, Option.bind_some, hname]
  dsimp only
  rw [hnormal, if_neg hall, Registry.resolve, hnormal, h]

theorem run_alone_hawk :
    ∃ p t c w₀ v, Plan.make (tigerSettings.complete "/" "/") = .ok p ∧
      runOn { disk := ⟨[], []⟩, readings := 1 } (prepare tidy p none) = (.ok (t, c), w₀) ∧ w₀.cancelled = false ∧
      (∀ n, (tidy.clock n).isSome) ∧ p.registry.select (some "all") = ⟨p.registry.variants, none⟩ ∧
      p.registry.select (some "hawk") = ⟨[v], none⟩ ∧ v ∈ p.registry.variants ∧ Separate p c p.registry.variants ∧
      Spread p c p.registry.variants ∧ Secluded p c p.registry.variants v w₀.disk ∧
      PatchesApart p c p.registry.variants v (home w₀.disk) ∧ Isolated tidy p t c p.registry.variants v w₀.disk ∧
      ∃ s s' w₁ w₂, runOn { disk := ⟨[], []⟩ } (run tidy p { variant := some "all" }) = (.ok s, w₁) ∧
        runOn { disk := ⟨[], []⟩ } (run tidy p { variant := some "hawk" }) = (.ok s', w₂) ∧
        s.recorded v.name = s'.recorded v.name ∧
        (s.recorded v.name).archives.length + (s.recorded v.name).failures.length = 1 := by
  have hcheck : Checks tigerSettings "hawk" (fun p c v w => decide (Fits p c v w ∧
      PatchesApart p c p.registry.variants v (home w.disk))) = true := by
    decide +kernel
  obtain ⟨p, t, c, w₀, v, hplan, hprepare, hv, hfit⟩ := of_checks hcheck
  obtain ⟨⟨hlive, hblank, ha, hp, htarget, hedits⟩, hpatches⟩ := of_decide_eq_true hfit
  obtain ⟨C, O, hs⟩ := sited_of_prepare hplan hprepare
  have halone : p.registry.select (some "hawk") = ⟨[v], none⟩ :=
    select_of_find? (by decide +kernel) (by decide +kernel) (by decide) hv
  have hmem : v ∈ p.registry.variants := List.mem_of_find?_eq_some hv
  have hsec : Secluded p c p.registry.variants v w₀.disk := hblank.secluded htarget hedits
  have ho : Isolated tidy p t c p.registry.variants v w₀.disk := hblank.isolated hs ha
  refine ⟨p, t, c, w₀, v, hplan, hprepare, hlive, fun _ => rfl, select_all _, halone, hmem, ha, hp, hsec,
    hpatches, ho, ?_⟩
  exact run_alone (w := { disk := ⟨[], []⟩ }) hplan rfl hprepare hlive (fun _ => rfl) (select_all _) halone hmem ha hp hsec hpatches ho

/-- A variant that is cast from a machine file finds it where another was made before, and not in a run of its own. -/
theorem run_not_alone :
    ∃ p t c w₀ v, Plan.make (lentSettings.complete "/" "/") = .ok p ∧
      runOn { disk := ⟨[], []⟩, readings := 1 } (prepare tidy p none) = (.ok (t, c), w₀) ∧ w₀.cancelled = false ∧
      (∀ n, (tidy.clock n).isSome) ∧ p.registry.select (some "all") = ⟨p.registry.variants, none⟩ ∧
      p.registry.select (some "last") = ⟨[v], none⟩ ∧ v ∈ p.registry.variants ∧ Separate p c p.registry.variants ∧
      Spread p c p.registry.variants ∧ Secluded p c p.registry.variants v w₀.disk ∧
      Isolated tidy p t c p.registry.variants v w₀.disk ∧
      ∃ s s' w₁ w₂, runOn { disk := ⟨[], []⟩ } (run tidy p { variant := some "all" }) = (.ok s, w₁) ∧
        runOn { disk := ⟨[], []⟩ } (run tidy p { variant := some "last" }) = (.ok s', w₂) ∧
        s.recorded v.name ≠ s'.recorded v.name := by
  have hcheck : Checks lentSettings "last" (fun p c v w => decide (Fits p c v w) &&
      (runOn { disk := ⟨[], []⟩ } (run tidy p { variant := some "all" })).1.toOption.any fun s =>
        (runOn { disk := ⟨[], []⟩ } (run tidy p { variant := some "last" })).1.toOption.any fun s' =>
          decide (s.recorded v.name ≠ s'.recorded v.name)) = true := by
    decide +kernel
  obtain ⟨p, t, c, w₀, v, hplan, hprepare, hv, hfit⟩ := of_checks hcheck
  rw [Bool.and_eq_true] at hfit
  obtain ⟨hfit, hruns⟩ := hfit
  obtain ⟨hlive, hblank, ha, hp, htarget, hedits⟩ := of_decide_eq_true hfit
  obtain ⟨C, O, hs⟩ := sited_of_prepare hplan hprepare
  obtain ⟨s, hall, hruns⟩ := (Option.any_eq_true ..).1 hruns
  obtain ⟨s', halone, hne⟩ := (Option.any_eq_true ..).1 hruns
  refine ⟨p, t, c, w₀, v, hplan, hprepare, hlive, fun _ => rfl, select_all _,
    select_of_find? (by decide +kernel) (by decide +kernel) (by decide) hv, List.mem_of_find?_eq_some hv, ha, hp,
    hblank.secluded htarget hedits, hblank.isolated hs ha, s, s', _, _, Prod.ext (ok_of_toOption hall) rfl,
    Prod.ext (ok_of_toOption halone) rfl, of_decide_eq_true hne⟩

end Run

end VariantForge
