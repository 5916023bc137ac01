import VariantForge.Proofs.Run.Course
import VariantForge.Proofs.Spell.Recast

/-!
# Truthful — what the status of a spell says

Casting a patch or a merge goes down a ladder of commands. `Patches` and `Merges` have one case for each way
that the ladder may end, with the moments in which commands were issued and the status that is reported; an
edit issues none, and `Edits` says what becomes of it. What a status tells of the commands is read off them.
-/

namespace VariantForge

open Forge

variable {o : Outside} {see : Event → Bool}

/-! ## Commands -/

namespace Forge

/-- What failed did not succeed, whatever it was. -/
theorem Moment.Fails.not_succeeds {m : Moment} {c c' : Command} (h : m.Fails o c) : ¬ m.Succeeds o c' := by
  rintro ⟨hevent, r, hr, hcode⟩
  cases h.1.symm.trans hevent
  exact h.2 r hr hcode

theorem Moment.Succeeds.command_eq {m : Moment} {c c' : Command} (h : m.Succeeds o c) (h' : m.Succeeds o c') :
    c = c' := by
  cases h.1.symm.trans h'.1
  rfl

end Forge

namespace Git

@[simp] theorem command_inj {directory : Option String} {as as' : List String} :
    command directory as = command directory as' ↔ as = as' := by
  simp [command]

/-- A question to git: yes, no, or it could not be asked. -/
theorem succeeds_bind {β : Type} {w : World} {root : String} {as : List String} {g : Bool → Forge β}
    {P : List Moment → Except Failure β → World → Prop}
    (hyes : (⟨w, .ran (command (some root) as)⟩ : Moment).Succeeds o (command (some root) as) →
      Yields o isCommand (afterRun o w (command (some root) as)) (g true) fun l r w' =>
        P (⟨w, .ran (command (some root) as)⟩ :: l) r w')
    (hno : (⟨w, .ran (command (some root) as)⟩ : Moment).Fails o (command (some root) as) →
      Yields o isCommand (afterRun o w (command (some root) as)) (g false) fun l r w' =>
        P (⟨w, .ran (command (some root) as)⟩ :: l) r w')
    (hunasked : ∀ f, (⟨w, .ran (command (some root) as)⟩ : Moment).Fails o (command (some root) as) →
      P [⟨w, .ran (command (some root) as)⟩] (.error f) (afterRun o w (command (some root) as))) :
    Yields o isCommand w (succeeds o root as >>= g) P := by
  have hassoc : succeeds o root as >>= g = Forge.run o (command (some root) as) >>= fun r => g r.succeeded := by
    rw [succeeds, bind_assoc]
    rfl
  rw [hassoc]
  refine .command_bind rfl (fun r hm hr => ?_) (fun r hm hr => ?_) fun f hm _ => hunasked f hm
  · rw [hr]
    exact hyes hm
  · rw [hr]
    exact hno hm

end Git

namespace Spell

variable {c : WorkingCopy} {s : Spell} {w : World}

/-! ## Outcomes -/

/-- Whether an outcome is one of a spell. -/
def IsOf (s : Spell) (out : CastOutcome) : Prop := out.id = s.id ∧ out.kind = s.kind

theorem isOf_outcome (s : Spell) (status : CastStatus) (detail : String) : IsOf s (s.outcome status detail) :=
  ⟨rfl, rfl⟩

theorem castEdit_gives (s : Spell) (file : String) (marker : Text) (rules : List Rule) :
    Gives (castEdit c s file marker rules) (IsOf s) := by
  refine .bind fun there => .ite (.pure (isOf_outcome ..)) ?_
  refine .bind fun bytes => .ite (.pure (isOf_outcome ..)) ?_
  exact .bind fun edited => .bind fun _ => .bind fun _ => .pure ⟨rfl, rfl⟩

theorem castPatch_gives (dir : String) (s : Spell) (file : String) :
    Gives (castPatch o dir c s file) (IsOf s) := by
  have merge (patch : String) : Gives (do
      Forge.log .warn s!"spell may conflict, trying 3-way merge: {s.id}"
      let merged ← Git.apply o c.root patch true
      if merged.succeeded then return s.outcome .applied "applied with 3-way merge"
      return s.outcome .partiallyApplied merged.failure) (IsOf s) :=
    .bind fun _ => .bind fun _ => .ite (.pure (isOf_outcome ..)) (.pure (isOf_outcome ..))
  refine .bind fun here => .bind fun there => .ite (.pure (isOf_outcome ..)) ?_
  refine .bind fun back => .ite (.pure (isOf_outcome ..)) (.bind fun fits => .ite ?_ (merge _))
  exact .bind fun r => .ite (.pure (isOf_outcome ..)) (merge _)

theorem castMerge_gives (s : Spell) (remote ref : String) : Gives (castMerge o c s remote ref) (IsOf s) := by
  refine .bind fun fetched => ?_
  cases fetched with
  | error f => exact .pure (isOf_outcome ..)
  | ok _ =>
    refine .bind fun already => .ite (.pure (isOf_outcome ..)) ?_
    exact .bind fun r => .ite (.pure (isOf_outcome ..)) (.bind fun _ => .pure (isOf_outcome ..))

theorem cast_gives (dir : String) (s : Spell) : Gives (cast o dir c s) (IsOf s) := by
  refine .bind fun _ => Gives.then (Q := fun r => ∀ out, r = .ok out → IsOf s out) (.attempt ?_) fun r hr => ?_
  · cases s.work with
    | edit file marker rules => exact castEdit_gives s file marker rules
    | patch file => exact castPatch_gives dir s file
    | mergeRequest remote ref => exact castMerge_gives s remote ref
  · cases r with
    | ok out => exact .pure (hr out rfl)
    | error f => exact .pure (isOf_outcome ..)

/-! ## Patches -/

/-- Commands that found that a patch does not go in as it is: it does not fit, or it does and yet fails. -/
inductive Misfits (o : Outside) (root patch : String) : List Moment → Prop where
  | unfit {m : Moment} (hfits : m.Fails o (Git.command (some root) ["apply", "--check", patch])) :
      Misfits o root patch [m]
  | fails {m m' : Moment} (hfits : m.Succeeds o (Git.command (some root) ["apply", "--check", patch]))
      (happly : m'.Fails o (Git.command (some root) ["apply", patch])) : Misfits o root patch [m, m']

/-- How the commands of a patch may end, and what its status is then. A command that cannot be run is the last
one. -/
inductive Patches (o : Outside) (root patch : String) : List Moment → CastStatus → Prop where
  | absent : Patches o root patch [] .notFound
  | present {m : Moment}
      (hback : m.Succeeds o (Git.command (some root) ["apply", "--reverse", "--check", patch])) :
      Patches o root patch [m] .alreadyApplied
  | unasked {m : Moment}
      (hback : m.Fails o (Git.command (some root) ["apply", "--reverse", "--check", patch])) :
      Patches o root patch [m] .partiallyApplied
  | untried {m : Moment} {l : List Moment}
      (hback : m.Fails o (Git.command (some root) ["apply", "--reverse", "--check", patch]))
      (hl : Misfits o root patch l) : Patches o root patch (m :: l) .partiallyApplied
  | applied {m m₁ m₂ : Moment}
      (hback : m.Fails o (Git.command (some root) ["apply", "--reverse", "--check", patch]))
      (hfits : m₁.Succeeds o (Git.command (some root) ["apply", "--check", patch]))
      (happly : m₂.Succeeds o (Git.command (some root) ["apply", patch])) :
      Patches o root patch [m, m₁, m₂] .applied
  | merged {m m' : Moment} {l : List Moment}
      (hback : m.Fails o (Git.command (some root) ["apply", "--reverse", "--check", patch]))
      (hl : Misfits o root patch l)
      (hmerge : m'.Succeeds o (Git.command (some root) ["apply", "--3way", patch])) :
      Patches o root patch (m :: l ++ [m']) .applied
  | conflicts {m m' : Moment} {l : List Moment}
      (hback : m.Fails o (Git.command (some root) ["apply", "--reverse", "--check", patch]))
      (hl : Misfits o root patch l)
      (hmerge : m'.Fails o (Git.command (some root) ["apply", "--3way", patch])) :
      Patches o root patch (m :: l ++ [m']) .partiallyApplied

theorem castPatch_patches (dir : String) (s : Spell) (file : String) (w : World) :
    Yields o isCommand w (castPatch o dir c s file) fun l r _ =>
      Patches o c.root (patchPath ("/" ++ "/".intercalate w.disk.here) dir file) l (statusOf r) := by
  let patch := patchPath ("/" ++ "/".intercalate w.disk.here) dir file
  -- what is tried last, once the patch is known not to go in as it is
  have merge {m : Moment} {l : List Moment} (w : World)
      (hback : m.Fails o (Git.command (some c.root) ["apply", "--reverse", "--check", patch]))
      (hl : Misfits o c.root patch l) : Yields o isCommand w (do
        Forge.log .warn s!"spell may conflict, trying 3-way merge: {s.id}"
        let merged ← Git.apply o c.root patch true
        if merged.succeeded then return s.outcome .applied "applied with 3-way merge"
        return s.outcome .partiallyApplied merged.failure) fun l' r _ =>
          Patches o c.root patch (m :: l ++ l') (statusOf r) := by
    refine .log_bind rfl (.command_bind rfl (fun r hm hr => ?_) (fun r hm hr => ?_) fun f hm _ => ?_)
    · rw [if_pos hr]
      exact .pure (.merged hback hl hm)
    · rw [hr]
      exact .pure (.conflicts hback hl hm)
    · exact Patches.conflicts hback hl hm
  refine Quiet.skip_ok (.of_journal fun _ => rfl) (runOn_here w) ?_
  refine Quiet.skip_ok (.of_journal fun _ => rfl) (runOn_look ..) ?_
  cases hthere : w.disk.isFile patch with
  | false => exact .pure .absent
  | true =>
    rw [if_neg (by simp)]
    refine Git.succeeds_bind (fun hback => .pure (.present hback)) (fun hback => ?_) fun f hback => .unasked hback
    refine Git.succeeds_bind (fun hfits => ?_) (fun hfits => merge _ hback (.unfit hfits)) fun f hfits =>
      .untried hback (.unfit hfits)
    rw [if_pos rfl]
    refine .command_bind rfl (fun r hm hr => ?_) (fun r hm hr => ?_) fun f hm _ => .untried hback (.fails hfits hm)
    · rw [if_pos hr]
      exact .pure (.applied hback hfits hm)
    · rw [hr]
      exact merge _ hback (.fails hfits hm)

/-! ## Merge requests -/

/-- The commands of a merge request: to fetch it, whether it is merged already, to merge it, and to give the
merge up. -/
structure MergeCommands where
  fetch : Command
  ask : Command
  merge : Command
  abort : Command

/-- The commands that a request from a remote takes. -/
def mergeCommands (root remote ref : String) : MergeCommands where
  fetch := Git.command (some root) (Git.fetchArguments remote (some ref) none)
  ask := Git.command (some root) ["merge-base", "--is-ancestor", "FETCH_HEAD", "HEAD"]
  merge := Git.command (some root) ["merge", "--no-edit", "FETCH_HEAD"]
  abort := Git.command (some root) ["merge", "--abort"]

/-- How the commands of a merge request may end, and what its status is then. A command that cannot be run is
the last one. -/
inductive Merges (o : Outside) (cs : MergeCommands) : List Moment → CastStatus → Prop where
  | unfetched {m : Moment} (hfetch : m.Fails o cs.fetch) : Merges o cs [m] .notFound
  | present {m m₁ : Moment} (hfetch : m.Succeeds o cs.fetch) (hask : m₁.Succeeds o cs.ask) :
      Merges o cs [m, m₁] .alreadyApplied
  | unasked {m m₁ : Moment} (hfetch : m.Succeeds o cs.fetch) (hask : m₁.Fails o cs.ask) :
      Merges o cs [m, m₁] .partiallyApplied
  | applied {m m₁ m₂ : Moment} (hfetch : m.Succeeds o cs.fetch) (hask : m₁.Fails o cs.ask)
      (hmerge : m₂.Succeeds o cs.merge) : Merges o cs [m, m₁, m₂] .applied
  | unmerged {m m₁ m₂ : Moment} {f : Failure} (hfetch : m.Succeeds o cs.fetch) (hask : m₁.Fails o cs.ask)
      (hmerge : m₂.event = .ran cs.merge) (herror : (o.run m₂.world cs.merge).result = .error f) :
      Merges o cs [m, m₁, m₂] .partiallyApplied
  | aborted {m m₁ m₂ m₃ : Moment} (hfetch : m.Succeeds o cs.fetch) (hask : m₁.Fails o cs.ask)
      (hmerge : m₂.Fails o cs.merge) (habort : m₃.event = .ran cs.abort) :
      Merges o cs [m, m₁, m₂, m₃] .partiallyApplied

theorem mergeAbort_yields (root : String) (w : World) :
    Yields o isCommand w (Git.mergeAbort o root) fun l _ _ =>
      ∃ m, l = [m] ∧ m.event = .ran (Git.command (some root) ["merge", "--abort"]) :=
  .command_bind rfl (fun _ hm _ => .pure ⟨_, rfl, hm.1⟩) (fun _ hm _ => .pure ⟨_, rfl, hm.1⟩)
    fun _ hm _ => ⟨_, rfl, hm.1⟩

theorem castMerge_merges (s : Spell) (remote ref : String) (w : World) :
    Yields o isCommand w (castMerge o c s remote ref) fun l r _ =>
      Merges o (mergeCommands c.root remote ref) l (statusOf r) := by
  have hfetch : Yields o isCommand w (Forge.attempt (Git.fetch o c.root remote (some ref) none)) fun l r _ =>
      ∃ r', r = .ok r' ∧ Chain o [(mergeCommands c.root remote ref).fetch] l r'.isOk :=
    .attempt ((((Git.output_chained (fun _ => rfl) _ _).bind fun _ => .pure _) w).mono
      fun l r w' _ h => ⟨r, rfl, h⟩)
  refine hfetch.bind ?_ ?_
  · rintro l r w₁ ⟨r', hr, hchain⟩
    cases hr
    cases r with
    | error f =>
      cases hchain with
      | failed hm => exact .pure (.unfetched hm)
      | passed hm hrest => cases hrest
    | ok _ =>
      cases hchain with
      | passed hm hrest =>
        cases hrest
        refine Git.succeeds_bind (fun hask => .pure (.present hm hask)) (fun hask => ?_) fun f hask => .unasked hm hask
        refine .command_bind rfl (fun r hmerge hr => ?_) (fun r hmerge hr => ?_) fun f hmerge hf =>
          .unmerged hm hask hmerge.1 hf
        · rw [if_pos hr]
          exact .pure (.applied hm hask hmerge)
        · rw [hr]
          refine (mergeAbort_yields c.root _).bind ?_ ?_
          · rintro l _ w₂ ⟨m₃, rfl, habort⟩
            exact .pure (.aborted hm hask hmerge habort)
          · rintro l f w₂ ⟨m₃, rfl, habort⟩
            exact Merges.aborted hm hask hmerge habort
  · rintro l f w₁ ⟨r', hr, -⟩
    cases hr

/-! ## What a status says -/

/-- What the status of a patch says of its commands. -/
structure PatchTruth (o : Outside) (root patch : String) (l : List Moment) (status : CastStatus) : Prop where
  applied_iff : status = .applied ↔ ∃ m, l.getLast? = some m ∧
    (m.Succeeds o (Git.command (some root) ["apply", patch]) ∨
      m.Succeeds o (Git.command (some root) ["apply", "--3way", patch]))
  only_asked : status = .alreadyApplied ∨ status = .notFound →
    ∀ m ∈ l, m.event = .ran (Git.command (some root) ["apply", "--reverse", "--check", patch])

theorem Patches.truth {root patch : String} {l : List Moment} {status : CastStatus}
    (h : Patches o root patch l status) : PatchTruth o root patch l status := by
  have hnone {m : Moment} {as : List String} (hm : m.Fails o (Git.command (some root) as)) :
      ¬ (m.Succeeds o (Git.command (some root) ["apply", patch]) ∨
        m.Succeeds o (Git.command (some root) ["apply", "--3way", patch])) :=
    fun h => h.elim hm.not_succeeds hm.not_succeeds
  cases h with
  | absent => exact ⟨⟨nofun, by simp⟩, fun _ => nofun⟩
  | present hback =>
    refine ⟨⟨nofun, ?_⟩, fun _ m hm => ?_⟩
    · rintro ⟨m, hlast, h⟩
      cases hlast
      rcases h with h | h
      · exact absurd (hback.command_eq h) (by simp)
      · exact absurd (hback.command_eq h) (by simp)
    · rw [List.mem_singleton.1 hm]
      exact hback.1
  | unasked hback =>
    refine ⟨⟨nofun, ?_⟩, by rintro (h | h) <;> cases h⟩
    rintro ⟨m, hlast, h⟩
    cases hlast
    exact absurd h (hnone hback)
  | untried hback hl =>
    refine ⟨⟨nofun, ?_⟩, by rintro (h | h) <;> cases h⟩
    rintro ⟨m, hlast, h⟩
    cases hl with
    | unfit hfits =>
      cases hlast
      exact absurd h (hnone hfits)
    | fails hfits happly =>
      cases hlast
      exact absurd h (hnone happly)
  | applied hback hfits happly =>
    exact ⟨iff_of_true rfl ⟨_, rfl, .inl happly⟩, by rintro (h | h) <;> cases h⟩
  | merged hback hl hmerge =>
    exact ⟨iff_of_true rfl ⟨_, List.getLast?_concat, .inr hmerge⟩, by rintro (h | h) <;> cases h⟩
  | conflicts hback hl hmerge =>
    refine ⟨⟨nofun, ?_⟩, by rintro (h | h) <;> cases h⟩
    rintro ⟨m, hlast, h⟩
    rw [List.getLast?_concat] at hlast
    cases hlast
    exact absurd h (hnone hmerge)

/-- What the status of a merge request says of its commands. -/
structure MergeTruth (o : Outside) (cs : MergeCommands) (l : List Moment) (status : CastStatus) : Prop where
  applied_iff : status = .applied ↔ ∃ m ∈ l, m.Succeeds o cs.merge
  unfetched : status = .notFound → ∃ m, l = [m] ∧ m.Fails o cs.fetch
  unmerged : status = .alreadyApplied → ∀ m ∈ l, m.event ≠ .ran cs.merge
  aborted : ∀ m ∈ l, ∀ r, m.event = .ran cs.merge → (o.run m.world cs.merge).result = .ok r → r.code ≠ some 0 →
    status = .partiallyApplied ∧ ∃ m', l.getLast? = some m' ∧ m'.event = .ran cs.abort

/-- Whether no other command is the one that merges. -/
structure MergeCommands.Distinct (cs : MergeCommands) : Prop where
  fetch : cs.fetch ≠ cs.merge
  ask : cs.ask ≠ cs.merge
  abort : cs.abort ≠ cs.merge

theorem mergeCommands_distinct (root remote ref : String) : (mergeCommands root remote ref).Distinct := by
  refine ⟨?_, ?_, ?_⟩ <;> simp [mergeCommands, Git.fetchArguments]

/-- Where nothing was merged there is little to say. -/
theorem MergeTruth.of_none {cs : MergeCommands} {l : List Moment} {status : CastStatus}
    (hnone : ∀ m ∈ l, m.event ≠ .ran cs.merge) (hstatus : status ≠ .applied)
    (hfetch : status = .notFound → ∃ m, l = [m] ∧ m.Fails o cs.fetch) : MergeTruth o cs l status where
  applied_iff := ⟨fun h => absurd h hstatus, fun ⟨m, hm, h⟩ => absurd h.1 (hnone m hm)⟩
  unfetched := hfetch
  unmerged := fun _ => hnone
  aborted := fun m hm _ h => absurd h (hnone m hm)

/-- Of three moments the one with a command is the last if the others have none like it. -/
theorem eq_last {m m₁ m₂ x : Moment} {c : Command} (hm : m.event ≠ .ran c) (hm₁ : m₁.event ≠ .ran c)
    (hx : x ∈ [m, m₁, m₂]) (hevent : x.event = .ran c) : x = m₂ := by
  simp only [List.mem_cons, List.not_mem_nil, or_false] at hx
  rcases hx with rfl | rfl | rfl
  · exact absurd hevent hm
  · exact absurd hevent hm₁
  · rfl

theorem Merges.truth {cs : MergeCommands} (hcs : cs.Distinct) {l : List Moment} {status : CastStatus}
    (h : Merges o cs l status) : MergeTruth o cs l status := by
  -- no other command is the merge, whatever came of it
  have hother {m : Moment} {c : Command} (hm : m.event = .ran c) (hc : c ≠ cs.merge) : m.event ≠ .ran cs.merge := by
    rw [hm]
    exact fun h => hc (Event.ran.inj h)
  cases h with
  | unfetched hfetch =>
    refine .of_none (List.forall_mem_singleton.2 (hother hfetch.1 hcs.fetch)) nofun fun _ => ⟨_, rfl, hfetch⟩
  | present hfetch hask =>
    exact .of_none (List.forall_mem_cons.2 ⟨hother hfetch.1 hcs.fetch,
      List.forall_mem_singleton.2 (hother hask.1 hcs.ask)⟩) nofun nofun
  | unasked hfetch hask =>
    exact .of_none (List.forall_mem_cons.2 ⟨hother hfetch.1 hcs.fetch,
      List.forall_mem_singleton.2 (hother hask.1 hcs.ask)⟩) nofun nofun
  | @applied m m₁ m₂ hfetch hask hmerge =>
    refine ⟨iff_of_true rfl ⟨m₂, by simp, hmerge⟩, nofun, nofun, fun x hx r hevent hr hcode => ?_⟩
    rw [eq_last (hother hfetch.1 hcs.fetch) (hother hask.1 hcs.ask) hx hevent] at hr
    obtain ⟨-, r', hr', hcode'⟩ := hmerge
    cases hr.symm.trans hr'
    exact absurd hcode' hcode
  | @unmerged m m₁ m₂ f hfetch hask hmerge herror =>
    have hlast (x : Moment) : x ∈ [m, m₁, m₂] → x.event = .ran cs.merge → x = m₂ :=
      eq_last (hother hfetch.1 hcs.fetch) (hother hask.1 hcs.ask)
    refine ⟨⟨nofun, fun ⟨x, hx, h⟩ => ?_⟩, nofun, nofun, fun x hx r hevent hr _ => ?_⟩
    · obtain ⟨r, hr, -⟩ := h.2
      rw [hlast x hx h.1, herror] at hr
      cases hr
    · rw [hlast x hx hevent, herror] at hr
      cases hr
  | @aborted m m₁ m₂ m₃ hfetch hask hmerge habort =>
    refine ⟨⟨nofun, fun ⟨x, hx, h⟩ => ?_⟩, nofun, nofun, fun _ _ _ _ _ _ => ⟨rfl, m₃, rfl, habort⟩⟩
    simp only [List.mem_cons, List.not_mem_nil, or_false] at hx
    rcases hx with rfl | rfl | rfl | rfl
    · exact absurd h.1 (hother hfetch.1 hcs.fetch)
    · exact absurd h.1 (hother hask.1 hcs.ask)
    · exact absurd h hmerge.not_succeeds
    · exact absurd h.1 (hother habort hcs.abort)

/-- What the status of a spell says: of an edit, what it left on the disk; of a patch and of a merge request,
the commands that were issued. -/
def Tells (o : Outside) (dir : String) (c : WorkingCopy) (s : Spell) (w : World) (l : List Moment)
    (status : CastStatus) (w' : World) : Prop :=
  match s.work with
  | .edit .. => l = [] ∧ (status ≠ .applied → w'.disk = w.disk)
  | .patch file => PatchTruth o c.root (patchPath ("/" ++ "/".intercalate w.disk.here) dir file) l status
  | .mergeRequest remote ref => MergeTruth o (mergeCommands c.root remote ref) l status

theorem cast_yields_status {dir : String} {Q : List Moment → CastStatus → World → Prop}
    (hwork : ∀ w₁ : World, w₁.disk = w.disk → Yields o isCommand w₁ (match s.work with
      | .edit file marker rules => castEdit c s file marker rules
      | .patch file => castPatch o dir c s file
      | .mergeRequest remote ref => castMerge o c s remote ref) fun l r w' => Q l (statusOf r) w') :
    Yields o isCommand w (cast o dir c s) fun l r w' => ∃ out, r = .ok out ∧ Q l out.status w' := by
  have hend (w₁ : World) (hw₁ : w₁.disk = w.disk) : Yields o isCommand w₁ (attempt _) fun l r w' =>
      ∃ r', r = .ok r' ∧ Q l (statusOf r') w' :=
    .attempt ((hwork w₁ hw₁).mono fun l r w' _ hq => ⟨r, rfl, hq⟩)
  let w₁ : World := { w with journal := w.journal ++ [.logged .info s!"casting spell: {s.id}" none] }
  refine .log_bind rfl ((hend w₁ rfl).bind ?_ ?_)
  · rintro l r w' ⟨r', hr, hq⟩
    cases hr
    cases r with
    | ok out => exact .pure ⟨out, rfl, by rwa [List.append_nil]⟩
    | error f => exact .pure ⟨_, rfl, by rwa [List.append_nil]⟩
  · rintro l f w' ⟨r', hr, -⟩
    cases hr

end Spell

end VariantForge
