import VariantForge.Proofs.Footprint

/-!
# Traces — what an operation goes through

A moment is an event of the journal together with the world in which it came about. `Traced o see w x
l r w'` says that `x`, begun in `w`, goes through the moments `l` and ends with `r` in `w'`; `see`
picks the events that are looked for, all others leave no moment. So a trace tells what the outside
was asked, and in which state of things it answered.

`Yields o see w x P` says that `x` has a trace that satisfies `P`. It passes through sequences as a
precondition does, so the course of a long operation is found by going through its steps.
-/

namespace VariantForge.Forge

/-- An event of the journal, and the world in which it came about. -/
structure Moment where
  world : World
  event : Event

/-- Whether only events that are not looked for were added to the journal. -/
def Unseen (see : Event → Bool) (w w' : World) : Prop :=
  ∃ es, w'.journal = w.journal ++ es ∧ ∀ e ∈ es, see e = false

/-- Whether an operation goes through some moments, ends with a result and leaves a world. Between
two moments it may do what does not show. -/
inductive Traced (o : Outside) (see : Event → Bool) :
    {α : Type} → World → Forge α → List Moment → Except Failure α → World → Prop where
  | still {α : Type} {w : World} {x : Forge α} (h : Unseen see w (runOn w x).2) :
      Traced o see w x [] (runOn w x).1 (runOn w x).2
  | note {w : World} {e : Event} (he : see e = true) :
      Traced o see w (note e) [⟨w, e⟩] (.ok ()) { w with journal := w.journal ++ [e] }
  | run {w : World} {c : Command} (hc : see (.ran c) = true) :
      Traced o see w (run o c) [⟨w, .ran c⟩] (o.run w c).result (afterRun o w c)
  | bind {α β : Type} {w w₁ w' : World} {x : Forge α} {g : α → Forge β} {l l' : List Moment} {a : α}
      {r : Except Failure β} (hx : Traced o see w x l (.ok a) w₁)
      (hg : Traced o see w₁ (g a) l' r w') : Traced o see w (x >>= g) (l ++ l') r w'
  | stop {α β : Type} {w w' : World} {x : Forge α} {g : α → Forge β} {l : List Moment} {f : Failure}
      (hx : Traced o see w x l (.error f) w') : Traced o see w (x >>= g) l (.error f) w'
  | kept {α : Type} {w w' : World} {x : Forge α} {g : Failure → Forge α} {l : List Moment} {a : α}
      (hx : Traced o see w x l (.ok a) w') : Traced o see w (tryCatch x g) l (.ok a) w'
  | caught {α : Type} {w w₁ w' : World} {x : Forge α} {g : Failure → Forge α} {l l' : List Moment}
      {f : Failure} {r : Except Failure α} (hx : Traced o see w x l (.error f) w₁)
      (hg : Traced o see w₁ (g f) l' r w') : Traced o see w (tryCatch x g) (l ++ l') r w'

/-- Whether an event is a command. -/
def isCommand : Event → Bool
  | .ran _ => true
  | _ => false

theorem isCommand_iff {e : Event} : isCommand e = true ↔ ∃ c, e = .ran c := by
  cases e <;> simp [isCommand]

/-- Whether a command was issued at a moment and exited with the code 0. -/
def Moment.Succeeds (o : Outside) (m : Moment) (c : Command) : Prop :=
  m.event = .ran c ∧ ∃ r, (o.run m.world c).result = .ok r ∧ r.code = some 0

/-- Whether a command was issued at a moment and failed: it exited with another code or with none,
or could not be run. -/
def Moment.Fails (o : Outside) (m : Moment) (c : Command) : Prop :=
  m.event = .ran c ∧ ∀ r, (o.run m.world c).result = .ok r → r.code ≠ some 0

variable {α β : Type} {o : Outside} {see : Event → Bool} {w w' w'' w₁ : World} {x : Forge α}
  {g : α → Forge β} {l : List Moment} {r : Except Failure α} {e : Event} {c : Command} {f : Failure}

/-- A trace ends as the operation does. -/
theorem Traced.runOn_eq (h : Traced o see w x l r w') : runOn w x = (r, w') := by
  induction h with
  | still h => rfl
  | note he => rfl
  | run hc => exact runOn_run _ o _
  | bind hx hg ihx ihg => rw [runOn_bind_ok ihx, ihg]
  | stop hx ih => rw [runOn_bind_error ih]
  | kept hx ih => rw [runOn_tryCatch, ih]
  | caught hx hg ihx ihg =>
    rw [runOn_tryCatch, ihx]
    exact ihg

/-- The moments of a trace are all that is added to the journal of what is looked for. -/
theorem Traced.journal (h : Traced o see w x l r w') :
    ∃ es, w'.journal = w.journal ++ es ∧ es.filter see = l.map Moment.event := by
  induction h with
  | still h =>
    obtain ⟨es, hes, hnone⟩ := h
    exact ⟨es, hes, List.filter_eq_nil_iff.2 fun e he => by simp [hnone e he]⟩
  | note he => exact ⟨_, rfl, List.filter_cons_of_pos he⟩
  | run hc => exact ⟨_, rfl, List.filter_cons_of_pos hc⟩
  | bind hx hg ihx ihg =>
    obtain ⟨es, hes, hl⟩ := ihx
    obtain ⟨es', hes', hl'⟩ := ihg
    exact ⟨es ++ es', by rw [hes', hes, List.append_assoc], by rw [List.filter_append, hl, hl', List.map_append]⟩
  | stop hx ih => exact ih
  | kept hx ih => exact ih
  | caught hx hg ihx ihg =>
    obtain ⟨es, hes, hl⟩ := ihx
    obtain ⟨es', hes', hl'⟩ := ihg
    exact ⟨es ++ es', by rw [hes', hes, List.append_assoc], by rw [List.filter_append, hl, hl', List.map_append]⟩

/-- The commands of a trace are among the acts that the operation may do. -/
theorem Traced.within {acts : Act → Prop} (h : Traced o isCommand w x l r w') (hx : Within o acts x) :
    ∀ m ∈ l, ∃ c, m.event = .ran c ∧ acts (.run c) := by
  have hissued : ∃ es, (runOn w x).2.journal = w.journal ++ es ∧ ∀ c, .ran c ∈ es → acts (.run c) := by
    refine hx.keeps (I := fun w₁ => ∃ es, w₁.journal = w.journal ++ es ∧ ∀ c, .ran c ∈ es → acts (.run c))
      (fun w₁ w₂ hs h₁ => ?_) w ⟨[], by simp, by simp⟩
    obtain ⟨es, hes, hacts⟩ := h₁
    cases hs with
    | noted w e he =>
      refine ⟨es ++ [e], by simp [hes], fun c hc => ?_⟩
      rcases List.mem_append.1 hc with hc | hc
      · exact hacts c hc
      · exact absurd (List.mem_singleton.1 hc).symm (he c)
    | clocked w => exact ⟨es, hes, hacts⟩
    | changed ha hd => exact ⟨es, hes, hacts⟩
    | @ran cmd ha w =>
      refine ⟨es ++ [.ran cmd], by simp [afterRun, hes], fun c hc => ?_⟩
      rcases List.mem_append.1 hc with hc | hc
      · exact hacts c hc
      · cases List.mem_singleton.1 hc
        exact ha
  rw [h.runOn_eq] at hissued
  obtain ⟨es, hes, hacts⟩ := hissued
  obtain ⟨es', hes', hl⟩ := h.journal
  cases List.append_cancel_left (hes.symm.trans hes')
  intro m hm
  have hmem : m.event ∈ es.filter isCommand := hl ▸ List.mem_map_of_mem hm
  obtain ⟨hmem, hcommand⟩ := List.mem_filter.1 hmem
  obtain ⟨c, hc⟩ := isCommand_iff.1 hcommand
  exact ⟨c, hc, hacts c (hc ▸ hmem)⟩

/-! ## Operations that do not show -/

theorem Unseen.refl (w : World) : Unseen see w w := ⟨[], by simp, by simp⟩

theorem Unseen.trans (h : Unseen see w w') (h' : Unseen see w' w'') : Unseen see w w'' := by
  obtain ⟨es, hes, hnone⟩ := h
  obtain ⟨es', hes', hnone'⟩ := h'
  refine ⟨es ++ es', by rw [hes', hes, List.append_assoc], fun e he => ?_⟩
  rcases List.mem_append.1 he with he | he
  · exact hnone e he
  · exact hnone' e he

/-- Whether an operation never shows, however it ends. -/
def Quiet (see : Event → Bool) (x : Forge α) : Prop := ∀ w, Unseen see w (runOn w x).2

theorem Quiet.of_journal (h : ∀ w, (runOn w x).2.journal = w.journal) : Quiet see x :=
  fun w => ⟨[], by rw [h, List.append_nil], by simp⟩

theorem Quiet.log {v : Level} {m : String} {d : Option (Members Data)}
    (h : see (.logged v m d) = false) : Quiet see (log v m d) :=
  fun w => ⟨_, rfl, by simpa using h⟩

theorem Quiet.change {f : Disk → Except DiskFault Disk} : Quiet see (change f) := by
  refine .of_journal fun w => ?_
  rw [runOn_change]
  cases f w.disk <;> rfl

theorem Quiet.makeDirectories {path : String} : Quiet see (makeDirectories path) :=
  .of_journal fun w => by rw [runOn_makeDirectories]

theorem Quiet.wait {ms : Number} (h : see (.waited ms) = false) : Quiet see (wait o ms) := by
  intro w
  rw [runOn_wait]
  exact ⟨_, rfl, by simpa using h⟩

theorem Quiet.checkCancelled : Quiet see checkCancelled :=
  .of_journal fun w => by rw [runOn_checkCancelled]

/-- What is found by its footprint to run no commands does not show among them. -/
theorem Within.quiet {acts : Act → Prop} (h : Within o acts x) (hacts : ∀ c, ¬ acts (.run c))
    (hsee : ∀ e, see e = true → ∃ c, e = .ran c) : Quiet see x := by
  intro w
  refine h.keeps (I := Unseen see w) (fun w₁ w₂ hs hw => hw.trans ?_) w (.refl w)
  cases hs with
  | noted w e he =>
    refine ⟨[e], rfl, fun e' he' => ?_⟩
    rw [List.mem_singleton.1 he']
    cases hs : see e with
    | false => rfl
    | true =>
      obtain ⟨c, hc⟩ := hsee e hs
      exact absurd hc (he c)
  | clocked w => exact .refl _
  | changed ha hd => exact .refl _
  | ran ha w => exact absurd ha (hacts _)

/-! ## Going through an operation -/

/-- Whether an operation has a trace that satisfies a condition. -/
def Yields (o : Outside) (see : Event → Bool) (w : World) (x : Forge α)
    (P : List Moment → Except Failure α → World → Prop) : Prop :=
  ∃ l r w', Traced o see w x l r w' ∧ P l r w'

variable {P : List Moment → Except Failure β → World → Prop}
  {Q Q' : List Moment → Except Failure α → World → Prop}

theorem Yields.elim (h : Yields o see w x Q) :
    ∃ l, Traced o see w x l (runOn w x).1 (runOn w x).2 ∧ Q l (runOn w x).1 (runOn w x).2 := by
  obtain ⟨l, r, w', ht, hq⟩ := h
  rw [ht.runOn_eq]
  exact ⟨l, ht, hq⟩

theorem Yields.traced (h : Yields o see w x Q) :
    Yields o see w x fun l r w' => Traced o see w x l r w' ∧ Q l r w' := by
  obtain ⟨l, r, w', ht, hq⟩ := h
  exact ⟨l, r, w', ht, ht, hq⟩

theorem Yields.mono (h : Yields o see w x Q)
    (hq : ∀ l r w', runOn w x = (r, w') → Q l r w' → Q' l r w') : Yields o see w x Q' := by
  obtain ⟨l, r, w', ht, hp⟩ := h
  exact ⟨l, r, w', ht, hq l r w' ht.runOn_eq hp⟩

/-- Some trace there is, and what is known of one under a condition is known of it. -/
theorem Yields.imp {H : Prop} (hx : Yields o see w x Q) (h : H → Yields o see w x Q') :
    Yields o see w x fun l r w' => H → Q' l r w' := by
  by_cases hH : H
  · exact (h hH).mono fun _ _ _ _ hq _ => hq
  · exact hx.mono fun _ _ _ _ _ h => absurd h hH

theorem Quiet.yields (h : Quiet see x) (hq : Q [] (runOn w x).1 (runOn w x).2) :
    Yields o see w x Q :=
  ⟨[], _, _, .still (h w), hq⟩

theorem Yields.pure {a : α} (h : Q [] (.ok a) w) : Yields o see w (pure a) Q :=
  Quiet.yields (.of_journal fun _ => rfl) h

theorem Yields.throw (h : Q [] (.error f) w) : Yields o see w (throw f) Q :=
  Quiet.yields (.of_journal fun _ => rfl) h

theorem Yields.run {Q : List Moment → Except Failure CommandResult → World → Prop}
    (hc : see (.ran c) = true) (h : Q [⟨w, .ran c⟩] (o.run w c).result (afterRun o w c)) :
    Yields o see w (run o c) Q :=
  ⟨_, _, _, .run hc, h⟩

theorem Yields.bind (hx : Yields o see w x Q)
    (hok : ∀ l a w', Q l (.ok a) w' → Yields o see w' (g a) fun l' r w'' => P (l ++ l') r w'')
    (herror : ∀ l f w', Q l (.error f) w' → P l (.error f) w') : Yields o see w (x >>= g) P := by
  obtain ⟨l, r, w₁, hx, hq⟩ := hx
  cases r with
  | error f => exact ⟨l, _, w₁, hx.stop, herror l f w₁ hq⟩
  | ok a =>
    obtain ⟨l', r, w', hg, hp⟩ := hok l a w₁ hq
    exact ⟨l ++ l', r, w', hx.bind hg, hp⟩

/-- A step that does not show is passed over; what it gave may be relied on. -/
theorem Quiet.skip (hx : Quiet see x)
    (hok : ∀ a w', runOn w x = (.ok a, w') → Yields o see w' (g a) P)
    (herror : ∀ f w', runOn w x = (.error f, w') → P [] (.error f) w') :
    Yields o see w (x >>= g) P := by
  have hstep : Yields o see w x fun l r w' => l = [] ∧ runOn w x = (r, w') := hx.yields ⟨rfl, rfl⟩
  refine hstep.bind ?_ ?_
  · rintro l a w' ⟨rfl, hr⟩
    exact hok a w' hr
  · rintro l f w' ⟨rfl, hr⟩
    exact herror f w' hr

theorem Yields.change {f : Disk → Except DiskFault Disk} {Q : List Moment → Except Failure Unit → World → Prop}
    (herror : ∀ fault, f w.disk = .error fault → Q [] (.error (.disk fault)) w)
    (hok : ∀ d, f w.disk = .ok d → Q [] (.ok ()) { w with disk := d }) : Yields o see w (Forge.change f) Q := by
  refine Quiet.change.yields ?_
  rw [runOn_change]
  cases h : f w.disk with
  | error fault => exact herror fault h
  | ok d => exact hok d h

/-- What a change of the disk is refused with ends the operation. -/
theorem Yields.change_bind {f : Disk → Except DiskFault Disk} {g : Unit → Forge β}
    (herror : ∀ fault, f w.disk = .error fault → P [] (.error (.disk fault)) w)
    (hok : ∀ d, f w.disk = .ok d → Yields o see { w with disk := d } (g ()) P) :
    Yields o see w (Forge.change f >>= g) P := by
  refine Quiet.change.skip (fun _ w' h => ?_) fun e w' h => ?_
  · obtain ⟨d, hd, rfl⟩ := change_ok h
    exact hok d hd
  · obtain ⟨fault, hd, rfl, rfl⟩ := change_error h
    exact herror fault hd

theorem Yields.makeDirectories_bind {path : String} {g : Unit → Forge β}
    (herror : ∀ fault w', (w.disk.makeDirectories path).2 = some fault → P [] (.error (.disk fault)) w')
    (hok : ∀ w', w'.disk = (w.disk.makeDirectories path).1 → Yields o see w' (g ()) P) :
    Yields o see w (Forge.makeDirectories path >>= g) P := by
  refine Quiet.makeDirectories.skip (fun _ w' h => hok w' ?_) fun e w' h => ?_
  · rw [runOn_makeDirectories] at h
    exact (congrArg (fun x => x.2.disk) h).symm
  rw [runOn_makeDirectories] at h
  cases hd : (w.disk.makeDirectories path).2 with
  | none => simp [hd] at h
  | some fault =>
    rw [hd] at h
    cases h
    exact herror fault _ hd

theorem Yields.throw_bind {α : Type} {g : α → Forge β} (h : P [] (.error f) w) :
    Yields o see w ((MonadExcept.throw f : Forge α) >>= g) P :=
  ⟨[], _, w, .stop (.still (.refl w)), h⟩

theorem Quiet.skip_ok {a : α} (hx : Quiet see x) (h : runOn w x = (.ok a, w'))
    (hg : Yields o see w' (g a) P) : Yields o see w (x >>= g) P := by
  refine hx.skip (fun _ _ hr => ?_) fun _ _ hr => ?_
  · cases h.symm.trans hr
    exact hg
  · cases h.symm.trans hr

theorem Yields.log_bind {v : Level} {m : String} {d : Option (Members Data)} {g : Unit → Forge β}
    (hs : see (.logged v m d) = false)
    (h : Yields o see { w with journal := w.journal ++ [.logged v m d] } (g ()) P) :
    Yields o see w (log v m d >>= g) P := by
  refine (Quiet.log hs).skip (fun a w' hr => ?_) fun f w' hr => ?_
  · cases hr
    exact h
  · cases hr

theorem Yields.map {h : α → β} (hx : Yields o see w x fun l r w' => P l (r.map h) w') :
    Yields o see w (h <$> x) P := by
  rw [map_eq_pure_bind]
  refine hx.bind (fun l a w' hp => .pure ?_) fun l f w' hp => hp
  rw [List.append_nil]
  exact hp

theorem Yields.tryCatch {g : Failure → Forge α} (hx : Yields o see w x Q)
    (hok : ∀ l a w', Q l (.ok a) w' → Q' l (.ok a) w')
    (herror : ∀ l f w', Q l (.error f) w' →
      Yields o see w' (g f) fun l' r w'' => Q' (l ++ l') r w'') :
    Yields o see w (tryCatch x g) Q' := by
  obtain ⟨l, r, w₁, hx, hq⟩ := hx
  cases r with
  | ok a => exact ⟨l, _, w₁, hx.kept, hok l a w₁ hq⟩
  | error f =>
    obtain ⟨l', r, w', hg, hp⟩ := herror l f w₁ hq
    exact ⟨l ++ l', r, w', hx.caught hg, hp⟩

theorem Yields.attempt {P : List Moment → Except Failure (Except Failure α) → World → Prop}
    (hx : Yields o see w x fun l r w' => P l (.ok r) w') : Yields o see w (attempt x) P := by
  have hmap : Yields o see w (Except.ok <$> x) fun l r w' =>
      (∀ a, r = .ok a → P l (.ok a) w') ∧ ∀ f, r = .error f → P l (.ok (.error f)) w' := by
    refine .map (hx.mono fun l r w' _ hp => ?_)
    cases r with
    | ok a =>
      refine ⟨fun _ h => ?_, fun _ h => by cases h⟩
      cases h
      exact hp
    | error f =>
      refine ⟨(fun _ h => by cases h), fun _ h => ?_⟩
      cases h
      exact hp
  refine hmap.tryCatch (fun l a w' hq => hq.1 a rfl) fun l f w' hq => .pure ?_
  rw [List.append_nil]
  exact hq.2 f rfl

/-- What comes last and does not show adds nothing, but its failure takes the place of the result. -/
theorem Yields.finally {last : Forge Unit} (hx : Yields o see w x Q) (hl : Quiet see last)
    (hok : ∀ l r w' w'', Q l r w' → runOn w' last = (.ok (), w'') → Q' l r w'')
    (herror : ∀ l r w' f w'', Q l r w' → runOn w' last = (.error f, w'') → Q' l (.error f) w'') :
    Yields o see w (finally_ x last) Q' := by
  have hend : Yields o see w (Forge.attempt x) fun l r w' => ∃ r', r = .ok r' ∧ Q l r' w' :=
    Yields.attempt (hx.mono fun l r w' _ hq => ⟨r, rfl, hq⟩)
  refine hend.bind ?_ ?_
  · rintro l r w' ⟨r', hr, hq⟩
    cases hr
    cases r with
    | ok a =>
      refine hl.skip (fun u w'' hu => .pure ?_) fun f w'' hf => ?_
      · rw [List.append_nil]
        exact hok l _ w' w'' hq hu
      · rw [List.append_nil]
        exact herror l _ w' f w'' hq hf
    | error e =>
      refine hl.skip (fun u w'' hu => .throw ?_) fun f w'' hf => ?_
      · rw [List.append_nil]
        exact hok l _ w' w'' hq hu
      · rw [List.append_nil]
        exact herror l _ w' f w'' hq hf
  · rintro l f w' ⟨r', hr, -⟩
    cases hr

/-! ## Commands in order -/

/-- Whether moments are commands issued in order up to the first that fails, and whether all of them
succeeded. -/
inductive Chain (o : Outside) : List Command → List Moment → Bool → Prop where
  | nil : Chain o [] [] true
  | failed {c : Command} {cs : List Command} {m : Moment} (h : m.Fails o c) : Chain o (c :: cs) [m] false
  | passed {c : Command} {cs : List Command} {m : Moment} {l : List Moment} {ok : Bool}
      (h : m.Succeeds o c) (hrest : Chain o cs l ok) : Chain o (c :: cs) (m :: l) ok

theorem Chain.append {cs cs' : List Command} {l l' : List Moment} {ok ok' : Bool}
    (h : Chain o cs l ok) (h' : Chain o cs' l' ok') (hok : ok = true) :
    Chain o (cs ++ cs') (l ++ l') ok' := by
  induction h with
  | nil => exact h'
  | failed h => cases hok
  | passed h hrest ih => exact .passed h (ih hok)

theorem Chain.append_left {cs : List Command} {l : List Moment} {ok : Bool} (h : Chain o cs l ok)
    (hok : ok = false) (cs' : List Command) : Chain o (cs ++ cs') l false := by
  induction h with
  | nil => cases hok
  | failed h => exact .failed h
  | passed h hrest ih => exact .passed h (ih hok)

theorem Chain.mem {cs : List Command} {l : List Moment} {ok : Bool} (h : Chain o cs l ok) :
    ∀ m ∈ l, ∃ c ∈ cs, m.event = .ran c := by
  induction h with
  | nil => exact fun _ hm => by cases hm
  | failed h =>
    intro m hm
    cases List.mem_singleton.1 hm
    exact ⟨_, List.mem_cons_self .., h.1⟩
  | passed h _ ih =>
    intro m hm
    rcases List.mem_cons.1 hm with rfl | hm
    · exact ⟨_, List.mem_cons_self .., h.1⟩
    · obtain ⟨c, hc, hevent⟩ := ih m hm
      exact ⟨c, List.mem_cons_of_mem _ hc, hevent⟩

/-- Commands that all succeeded, among those that were issued in order, did not stop at one. -/
theorem Chain.ok_of_succeeds {cs : List Command} {l : List Moment} {ok : Bool} (h : Chain o cs l ok)
    (hdistinct : cs.Nodup) (hall : ∀ c ∈ cs, ∃ m ∈ l, m.Succeeds o c) : ok = true := by
  induction h with
  | nil => rfl
  | failed h =>
    obtain ⟨m, hm, hevent, res, hres, hcode⟩ := hall _ (List.mem_cons_self ..)
    cases List.mem_singleton.1 hm
    exact absurd hcode (h.2 res hres)
  | passed h _ ih =>
    rw [List.nodup_cons] at hdistinct
    refine ih hdistinct.2 fun c hc => ?_
    obtain ⟨m, hm, hs⟩ := hall c (List.mem_cons_of_mem _ hc)
    rcases List.mem_cons.1 hm with rfl | hm
    · cases h.1.symm.trans hs.1
      exact absurd hc hdistinct.1
    · exact ⟨m, hm, hs⟩

/-- A command, on whose end the rest depends. -/
theorem Yields.command_bind {c : Command} {g : CommandResult → Forge β} (hc : see (.ran c) = true)
    (hok : ∀ res, (⟨w, .ran c⟩ : Moment).Succeeds o c → res.succeeded = true →
      Yields o see (afterRun o w c) (g res) fun l r w' => P (⟨w, .ran c⟩ :: l) r w')
    (hfail : ∀ res, (⟨w, .ran c⟩ : Moment).Fails o c → res.succeeded = false →
      Yields o see (afterRun o w c) (g res) fun l r w' => P (⟨w, .ran c⟩ :: l) r w')
    (herror : ∀ f, (⟨w, .ran c⟩ : Moment).Fails o c → (o.run w c).result = .error f →
      P [⟨w, .ran c⟩] (.error f) (afterRun o w c)) :
    Yields o see w (Forge.run o c >>= g) P := by
  have hrun : Yields o see w (Forge.run o c) fun l r w' =>
      l = [⟨w, .ran c⟩] ∧ r = (o.run w c).result ∧ w' = afterRun o w c :=
    .run hc ⟨rfl, rfl, rfl⟩
  refine hrun.bind ?_ ?_
  · rintro l res w' ⟨rfl, hr, rfl⟩
    cases hs : res.succeeded with
    | true => exact hok res ⟨rfl, res, hr.symm, succeeded_iff.1 hs⟩ hs
    | false =>
      refine hfail res ⟨rfl, fun res' h => ?_⟩ hs
      cases hr.trans h
      exact fun hcode => by simp [succeeded_iff.2 hcode] at hs
  · rintro l f w' ⟨rfl, hr, rfl⟩
    refine herror f ⟨rfl, fun res h => ?_⟩ hr.symm
    cases hr.trans h

/-- Whether an operation issues commands in order up to the first that fails, and fails if and only
if one of them does. -/
def Chained (o : Outside) (see : Event → Bool) (cs : List Command) (x : Forge α) : Prop :=
  ∀ w, Yields o see w x fun l r _ => Chain o cs l r.isOk

theorem Chained.pure (a : α) : Chained o see [] (pure a) := fun _ => .pure .nil

theorem Chained.bind {cs cs' : List Command} (hx : Chained o see cs x)
    (hg : ∀ a, Chained o see cs' (g a)) : Chained o see (cs ++ cs') (x >>= g) := by
  intro w
  refine (hx w).bind (fun l a w' hl => (hg a w').mono fun l' r w'' _ hl' => ?_) fun l f w' hl => ?_
  · exact hl.append hl' rfl
  · exact hl.append_left rfl cs'

/-- A command whose failure is noticed and ends the operation. -/
theorem Chained.run {cs : List Command} {g : CommandResult → Forge β} (hc : see (.ran c) = true)
    (hok : ∀ r, r.succeeded = true → Chained o see cs (g r))
    (hfail : ∀ r w, r.succeeded = false →
      Yields o see w (g r) fun l res _ => l = [] ∧ res.isOk = false) :
    Chained o see (c :: cs) (Forge.run o c >>= g) := by
  intro w
  refine .command_bind hc (fun res hm hs => ?_) (fun res hm hs => ?_) fun f hm _ => .failed hm
  · exact (hok res hs _).mono fun l r w' _ hl => .passed hm hl
  · refine (hfail res _ hs).mono fun l r w' _ hl => ?_
    rw [hl.1, hl.2]
    exact .failed hm

/-- Whether an operation issues only some commands, in order, each at most once. -/
def Issues (o : Outside) (cs : List Command) (x : Forge α) : Prop :=
  ∀ w, Yields o isCommand w x fun l _ _ => (l.map Moment.event).Sublist (cs.map .ran)

theorem Issues.of_quiet (h : Quiet isCommand x) (cs : List Command) : Issues o cs x :=
  fun _ => h.yields (List.nil_sublist _)

theorem Issues.run (c : Command) : Issues o [c] (run o c) := fun _ => .run rfl (List.Sublist.refl _)

theorem Issues.mono {cs cs' : List Command} (h : Issues o cs x) (hcs : cs.Sublist cs') :
    Issues o cs' x :=
  fun w => (h w).mono fun _ _ _ _ hl => hl.trans (hcs.map _)

theorem Issues.bind {cs cs' : List Command} (hx : Issues o cs x) (hg : ∀ a, Issues o cs' (g a)) :
    Issues o (cs ++ cs') (x >>= g) := by
  intro w
  refine (hx w).bind (fun l a w' hl => (hg a w').mono fun l' r w'' _ hl' => ?_) fun l f w' hl => ?_
  · rw [List.map_append, List.map_append]
    exact hl.append hl'
  · rw [List.map_append]
    exact hl.trans (List.sublist_append_left _ _)

theorem Issues.pure {a : α} (cs : List Command) : Issues o cs (pure a) :=
  .of_quiet (.of_journal fun _ => rfl) cs

theorem Issues.log {v : Level} {m : String} {d : Option (Members Data)} (cs : List Command) :
    Issues o cs (log v m d) :=
  .of_quiet (.log rfl) cs

theorem Issues.ite {p : Prop} [Decidable p] {cs : List Command} {y : Forge α} (hx : Issues o cs x)
    (hy : Issues o cs y) : Issues o cs (if p then x else y) := by
  split
  · exact hx
  · exact hy

theorem Issues.attempt {cs : List Command} (hx : Issues o cs x) : Issues o cs (attempt x) :=
  fun w => .attempt (hx w)

end VariantForge.Forge
