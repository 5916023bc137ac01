import VariantForge.Proofs.Retry
import VariantForge.Proofs.Trace
import VariantForge.Source.Acquire

/-!
# Candidates — what is tried when the source is fetched, and in which order

Fetching the source is a loop over candidates around a loop over attempts. `Tries` says what the
inner loop issues, `Cloned` what the outer one does: so many failures for each candidate and one
warning, until a clone succeeds. `Acquired` adds what follows the clone (`acquire_acquired`).
-/

namespace VariantForge

open Forge

variable {o : Outside}

/-! ## Git -/

/-- A git command that must not fail. -/
theorem Git.output_chained {see : Event → Bool} (hsee : ∀ c, see (.ran c) = true)
    (directory : Option String) (arguments : List String) :
    Chained o see [command directory arguments] (output o directory arguments) := by
  refine .run (hsee _) (fun r hr => ?_) fun r w hr => ?_
  · rw [if_pos hr]
    exact .pure _
  · rw [if_neg (by simp [hr])]
    exact .throw ⟨rfl, rfl⟩

/-! ## Attempts -/

/-- Moments in which a command was tried up to so many times, and whether it succeeded in the last
of them. Without success it was tried just so many times. -/
inductive Tries (o : Outside) (c : Command) : Nat → List Moment → Bool → Prop where
  | spent : Tries o c 0 [] false
  | done {n : Nat} {m : Moment} (h : m.Succeeds o c) : Tries o c (n + 1) [m] true
  | again {n : Nat} {m : Moment} {l : List Moment} {ok : Bool} (h : m.Fails o c)
      (hrest : Tries o c n l ok) : Tries o c (n + 1) (m :: l) ok

namespace Source

variable {opts : AcquireOptions} {k : Candidate} {w : World}

/-- The command that clones a candidate. -/
def cloneCommand (opts : AcquireOptions) (k : Candidate) : Command :=
  Git.command none (Git.cloneArguments k.url (root opts) opts.depth k.ref)

/-- Commands and warnings. -/
def shown : Event → Bool
  | .ran _ => true
  | .warned _ => true
  | _ => false

/-- Whether the outside never cancels, leaves no disk on which the old source tree cannot be removed,
and puts in words why a command could not be run. -/
structure Steady (o : Outside) (opts : AcquireOptions) : Prop where
  runs : ∀ w c, (o.run w c).cancels = false
  waits : ∀ w, o.cancelsWait w = false
  words : ∀ w c f, (o.run w c).result = .error f → f.hasWords = true
  removes : ∀ w k, ∃ d, (o.run w (cloneCommand opts k)).disk.removeAll (root opts) = .ok d

/-- Whether an attempt may begin: the run is not cancelled, and the old source tree can be removed. -/
structure Ready (opts : AcquireOptions) (w : World) : Prop where
  live : w.cancelled = false
  removes : ∃ d, w.disk.removeAll (root opts) = .ok d

theorem Ready.noted (hw : Ready opts w) (events : List Event) : Ready opts { w with journal := events } :=
  ⟨hw.live, hw.removes⟩

/-- Whether an operation is one attempt at a command: it issues just that, and ends ready for another. -/
def IsAttempt (o : Outside) (opts : AcquireOptions) (c : Command) {α : Type} (x : Forge α) : Prop :=
  ∀ w, Ready opts w → Yields o shown w x fun l r w' => Ready opts w' ∧ ∃ m, l = [m] ∧
    ((m.Succeeds o c ∧ r.isOk = true) ∨ (m.Fails o c ∧ ∃ f, r = .error f ∧ f.hasWords = true))

/-- An attempt removes the old source tree and issues one command. -/
theorem cloneOnce_isAttempt (ho : Steady o opts) :
    IsAttempt o opts (cloneCommand opts k) (cloneOnce o opts k) := by
  intro w hw
  obtain ⟨d, hd⟩ := hw.removes
  refine .change_bind (fun fault h => ?_) fun d' _ => ?_
  · cases hd.symm.trans h
  have hready : Ready opts (afterRun o { w with disk := d' } (cloneCommand opts k)) :=
    ⟨by simp [afterRun, hw.live, ho.runs], ho.removes _ k⟩
  have hclone : Yields o shown { w with disk := d' }
      (Git.output o none (Git.cloneArguments k.url (root opts) opts.depth k.ref)) fun l r w' =>
        Ready opts w' ∧ ∃ m, l = [m] ∧ ((m.Succeeds o (cloneCommand opts k) ∧ r.isOk = true) ∨
          (m.Fails o (cloneCommand opts k) ∧ ∃ f, r = .error f ∧ f.hasWords = true)) := by
    refine .command_bind rfl (fun res hm hs => ?_) (fun res hm hs => ?_) fun f hm hf => ?_
    · rw [if_pos hs]
      exact .pure ⟨hready, _, rfl, .inl ⟨hm, rfl⟩⟩
    · rw [if_neg (by simp [hs])]
      exact .throw ⟨hready, _, rfl, .inr ⟨hm, _, rfl, rfl⟩⟩
    · exact ⟨hready, _, rfl, .inr ⟨hm, f, rfl, ho.words _ _ _ hf⟩⟩
  refine hclone.bind ?_ ?_
  · rintro l a w' ⟨hw', m, rfl, ⟨hm, -⟩ | ⟨-, _, h, -⟩⟩
    · exact .pure ⟨hw', m, rfl, .inl ⟨hm, rfl⟩⟩
    · cases h
  · rintro l f w' ⟨hw', m, rfl, ⟨-, h⟩ | ⟨hm, _, h, hwords⟩⟩
    · cases h
    · cases h
      exact ⟨hw', m, rfl, .inr ⟨hm, f, rfl, hwords⟩⟩

/-- Between two attempts there is a wait, and nothing else. -/
theorem pause_yields (ho : Steady o opts) (hw : Ready opts w) {description : String} {p : RetryPolicy}
    {n : Nat} {f : Failure} (hf : f.hasWords = true) :
    Yields o shown w (Retry.pause o description p n f) fun l r w' =>
      l = [] ∧ r = .ok () ∧ Ready opts w' := by
  have hwords (w : World) : runOn w (words f) = (.ok f.message, w) := by rw [words, if_pos hf]; rfl
  have hquiet : Quiet shown (words f) := .of_journal fun w => by rw [hwords]
  refine hquiet.skip_ok (hwords w) (.log_bind rfl (Quiet.yields (.wait rfl) ?_))
  rw [runOn_wait]
  simp only [hw.live, ho.waits, Bool.or_self, Bool.false_eq_true, if_false, true_and]
  exact ⟨rfl, hw.removes⟩

variable {α : Type} {c : Command} {description : String} {p : RetryPolicy} {x : Nat → Forge α}

theorem tryFrom_bind {P : List Moment → Except Failure (Except Failure (α × Nat)) → World → Prop}
    (hx : ∀ n, IsAttempt o opts c (x n)) (more n : Nat) (hw : Ready opts w)
    (hdone : ∀ m a w', m.Succeeds o c → Ready opts w' → P [m] (.ok (.ok (a, n))) w')
    (hlast : more = 0 → ∀ m f w', m.Fails o c → f.hasWords = true → Ready opts w' →
      P [m] (.ok (.error f)) w')
    (hmore : ∀ rest, more = rest + 1 → ∀ m f w', m.Fails o c → f.hasWords = true → Ready opts w' →
      Yields o shown w' (do
        Retry.pause o description p n f
        Retry.tryFrom o description p x rest (n + 1)) fun l r w'' => P (m :: l) r w'') :
    Yields o shown w (Retry.tryFrom o description p x more n) P := by
  have hcheck : runOn w checkCancelled = (.ok (), w) := by
    rw [runOn_checkCancelled, hw.live]
    rfl
  rw [Retry.tryFrom]
  refine Quiet.checkCancelled.skip_ok hcheck (.log_bind rfl ?_)
  have hend (w : World) (hw : Ready opts w) : Yields o shown w (attempt (x n)) fun l r w' =>
      ∃ r', r = .ok r' ∧ Ready opts w' ∧ ∃ m, l = [m] ∧ ((m.Succeeds o c ∧ r'.isOk = true) ∨
        (m.Fails o c ∧ ∃ f, r' = .error f ∧ f.hasWords = true)) :=
    .attempt ((hx n w hw).mono fun l r w' _ h => ⟨r, rfl, h⟩)
  refine (hend _ (hw.noted _)).bind ?_ ?_
  · rintro l r w' ⟨_, hr, hw', m, rfl, ⟨hm, hok⟩ | ⟨hm, f, rfl, hf⟩⟩
    · cases hr
      cases r with
      | ok a => exact .pure (hdone m a w' hm hw')
      | error f => cases hok
    · cases hr
      cases more with
      | zero => exact .pure (hlast rfl m f w' hm hf hw')
      | succ rest => exact hmore rest rfl m f w' hm hf hw'
  · rintro l f w' ⟨_, hr, -⟩
    cases hr

/-- What the attempts at an operation come to that issues one command. -/
theorem tryFrom_tries (ho : Steady o opts) (hx : ∀ n, IsAttempt o opts c (x n)) (more n : Nat)
    (hw : Ready opts w) :
    Yields o shown w (Retry.tryFrom o description p x more n) fun l r w' => ∃ out, r = .ok out ∧
      Ready opts w' ∧ Tries o c (more + 1) l out.isOk ∧ ∀ f, out = .error f → f.hasWords = true := by
  induction more generalizing n w with
  | zero =>
    refine tryFrom_bind hx 0 n hw (fun m a w' hm hw' => ⟨_, rfl, hw', .done hm, fun _ h => by cases h⟩)
      ?_ fun _ h => by cases h
    intro _ m f w' hm hf hw'
    refine ⟨_, rfl, hw', .again hm .spent, fun f' h => ?_⟩
    cases h
    exact hf
  | succ more ih =>
    refine tryFrom_bind hx (more + 1) n hw (fun m a w' hm hw' => ⟨_, rfl, hw', .done hm, fun _ h => by cases h⟩)
      (fun h => by cases h) ?_
    rintro _ ⟨⟩ m f w' hm hf hw'
    refine (pause_yields ho hw' hf).bind ?_ ?_
    · rintro l _ w₁ ⟨rfl, -, hw₁⟩
      refine (ih (n + 1) hw₁).mono ?_
      rintro l r w₂ - ⟨out, rfl, hw₂, htries, hwords⟩
      exact ⟨out, rfl, hw₂, .again hm htries, hwords⟩
    · rintro l f w₁ ⟨-, h, -⟩
      cases h

/-- Trying an operation that issues one command tells whether the command succeeded at last. -/
theorem run_tries (ho : Steady o opts) (hx : ∀ n, IsAttempt o opts c (x n)) {q : Rat}
    (hq : p.maxAttempts = .finite q) (hw : Ready opts w) :
    Yields o shown w (Retry.run o description p x) fun l r w' => Ready opts w' ∧
      ((∃ a n, r = .ok (.done a n) ∧ Tries o c (max 1 q.floor).toNat l true) ∨
        ∃ f n, r = .ok (.failed f n) ∧ Tries o c (max 1 q.floor).toNat l false) := by
  obtain ⟨more, hmore, hn⟩ := Retry.more?_limit hq
  rw [← hn, Retry.run, hmore]
  refine (tryFrom_tries ho hx more 1 hw).bind ?_ ?_
  · rintro l out w' ⟨_, hout, hw', htries, hwords⟩
    cases hout
    cases out with
    | ok a =>
      refine .pure ⟨hw', .inl ⟨a.1, a.2, rfl, ?_⟩⟩
      rwa [List.append_nil]
    | error f =>
      have hf (w : World) : runOn w (words f) = (.ok f.message, w) := by
        rw [words, if_pos (hwords f rfl)]
        rfl
      have hquiet : Quiet shown (words f) := .of_journal fun w => by rw [hf]
      refine hquiet.skip_ok (hf w') (.log_bind rfl (.pure ⟨⟨hw'.live, hw'.removes⟩, .inr ⟨f, _, rfl, ?_⟩⟩))
      rwa [List.append_nil]
  · rintro l f w' ⟨_, h, -⟩
    cases h

/-! ## Candidates -/

/-- The warning that a candidate could not be cloned. -/
def unavailable (k : Candidate) (f : Failure) : Warning :=
  { event := .candidateFailed, message := s!"{k.name} unavailable: {f.message}" }

/-- Moments in which candidates were tried in order, each so many times, and the first one that was
cloned. There is one warning for each before it, and nothing for any after it. -/
inductive Cloned (o : Outside) (opts : AcquireOptions) (n : Nat) :
    List Candidate → List Moment → Option Candidate → Prop where
  | none : Cloned o opts n [] [] none
  | first {k : Candidate} {rest : List Candidate} {l : List Moment}
      (htries : Tries o (cloneCommand opts k) n l true) : Cloned o opts n (k :: rest) l (some k)
  | next {k : Candidate} {rest : List Candidate} {l l' : List Moment} {m : Moment} {f : Failure}
      {found : Option Candidate} (htries : Tries o (cloneCommand opts k) n l false)
      (hwarned : m.event = .warned (unavailable k f)) (hrest : Cloned o opts n rest l' found) :
      Cloned o opts n (k :: rest) (l ++ m :: l') found

/-- Candidates are tried in order until one is cloned; if none is, fetching the source fails. -/
theorem cloneFirst_cloned (ho : Steady o opts) {q : Rat} (hq : opts.retry.maxAttempts = .finite q)
    (failures : List String) (ks : List Candidate) (hw : Ready opts w) :
    Yields o shown w (cloneFirst o opts failures ks) fun l r _ =>
      (∃ k, r = .ok k ∧ Cloned o opts (max 1 q.floor).toNat ks l (some k)) ∨
        ∃ details, r = .error (.acquisition .clone details) ∧
          Cloned o opts (max 1 q.floor).toNat ks l none := by
  induction ks generalizing failures w with
  | nil => exact .throw (.inr ⟨_, rfl, .none⟩)
  | cons k rest ih =>
    refine (run_tries ho (fun _ => cloneOnce_isAttempt ho) hq hw).bind ?_ ?_
    · rintro l ret w₁ ⟨hw₁, ⟨_, _, hret, htries⟩ | ⟨f, _, hret, htries⟩⟩
      · cases hret
        refine .pure (.inl ⟨k, rfl, ?_⟩)
        rw [List.append_nil]
        exact .first htries
      · cases hret
        refine .log_bind rfl ?_
        have hwarn (w : World) : Yields o shown w (Forge.warn (unavailable k f)) fun l r w' =>
            l = [⟨w, .warned (unavailable k f)⟩] ∧ r = .ok () ∧
              w' = { w with journal := w.journal ++ [.warned (unavailable k f)] } :=
          ⟨_, _, _, .note rfl, rfl, rfl, rfl⟩
        refine (hwarn _).bind ?_ ?_
        · rintro _ _ w₂ ⟨rfl, -, rfl⟩
          refine (ih _ ((hw₁.noted _).noted _)).mono ?_
          rintro l' r w₃ - (⟨k', rfl, hcloned⟩ | ⟨details, rfl, hcloned⟩)
          · exact .inl ⟨k', rfl, .next htries rfl hcloned⟩
          · exact .inr ⟨details, rfl, .next htries rfl hcloned⟩
        · rintro _ _ w₂ ⟨-, h, -⟩
          cases h
    · rintro l f w₁ ⟨-, ⟨_, _, h, -⟩ | ⟨_, _, h, -⟩⟩
      · cases h
      · cases h

/-! ## After the clone -/

/-- The commands that set the name and the address for commits. -/
def identityCommands (opts : AcquireOptions) : List Command :=
  [["config", "user.name", opts.userName], ["config", "user.email", opts.userEmail]].map
    (Git.command (some (root opts)))

/-- The commands that check a revision out. -/
def pinCommands (opts : AcquireOptions) (requested : String) : List Command :=
  [Git.fetchArguments "origin" none (some opts.pinDepth), ["checkout", requested]].map
    (Git.command (some (root opts)))

/-- The commands that tell which revision was obtained. -/
def headCommands (opts : AcquireOptions) : List Command :=
  [["rev-parse", "HEAD"], ["rev-parse", "--short", "HEAD"]].map (Git.command (some (root opts)))

/-- The warning that a revision could not be checked out. -/
def fallback (requested : String) : Warning :=
  { event := .revisionFallback, message := s!"could not check out {requested}, using HEAD" }

/-- Moments in which the revision that was asked for was checked out, or a warning was given that it
could not be. -/
inductive Pinned (o : Outside) (opts : AcquireOptions) : Option String → List Moment → Bool → Prop where
  | unasked : Pinned o opts none [] false
  | pinned {requested : String} {l : List Moment} (h : Chain o (pinCommands opts requested) l true) :
      Pinned o opts (some requested) l true
  | fellBack {requested : String} {l : List Moment} {m : Moment}
      (h : Chain o (pinCommands opts requested) l false) (hwarned : m.event = .warned (fallback requested)) :
      Pinned o opts (some requested) (l ++ [m]) false

theorem shown_ran (c : Command) : shown (.ran c) = true := rfl

theorem pin_pinned (requested : String) (w : World) :
    Yields o shown w (pin o opts requested) fun l r _ =>
      ∃ pinned, r = .ok pinned ∧ Pinned o opts (some requested) l pinned := by
  have hcheckout : Chained o shown (pinCommands opts requested) (do
      Git.fetch o (root opts) "origin" none (some opts.pinDepth)
      Git.checkout o (root opts) requested) :=
    (Chained.bind (Git.output_chained shown_ran _ _) fun _ => .pure _).bind fun _ =>
      (Git.output_chained shown_ran _ _).bind fun _ => .pure _
  have hend (w : World) : Yields o shown w (attempt _) fun l r _ =>
      ∃ r', r = .ok r' ∧ Chain o (pinCommands opts requested) l r'.isOk :=
    .attempt ((hcheckout w).mono fun l r w' _ h => ⟨r, rfl, h⟩)
  refine .log_bind rfl ((hend _).bind ?_ ?_)
  · rintro l r w₁ ⟨_, hr, hchain⟩
    cases hr
    cases r with
    | ok _ =>
      refine .pure ⟨true, rfl, ?_⟩
      rw [List.append_nil]
      exact .pinned hchain
    | error f =>
      refine .log_bind rfl ?_
      have hwarn (w : World) : Yields o shown w (Forge.warn (fallback requested)) fun l r _ =>
          l = [⟨w, .warned (fallback requested)⟩] ∧ r = .ok () :=
        ⟨_, _, _, .note rfl, rfl, rfl⟩
      refine (hwarn _).bind ?_ ?_
      · rintro _ _ w₂ ⟨rfl, -⟩
        refine .pure ⟨false, rfl, ?_⟩
        rw [List.append_nil]
        exact .fellBack hchain rfl
      · rintro _ _ w₂ ⟨-, h⟩
        cases h
  · rintro l f w₁ ⟨_, h, -⟩
    cases h

/-- Moments in which the source was fetched, and what came of it. -/
inductive Acquired (o : Outside) (opts : AcquireOptions) (n : Nat) (ks : List Candidate)
    (revision : Option String) : List Moment → Except Failure WorkingCopy → Prop where
  | notCloned {l : List Moment} {details : String} (hclone : Cloned o opts n ks l none) :
      Acquired o opts n ks revision l (.error (.acquisition .clone details))
  | notIdentified {l l' : List Moment} {k : Candidate} {details : String}
      (hclone : Cloned o opts n ks l (some k)) (hidentity : Chain o (identityCommands opts) l' false) :
      Acquired o opts n ks revision (l ++ l') (.error (.acquisition .identity details))
  | notResolved {l l' l'' l₃ : List Moment} {k : Candidate} {pinned : Bool} {details : String}
      (hclone : Cloned o opts n ks l (some k)) (hidentity : Chain o (identityCommands opts) l' true)
      (hpin : Pinned o opts (revision.bind Text.nonBlank?) l'' pinned)
      (hhead : Chain o (headCommands opts) l₃ false) :
      Acquired o opts n ks revision (l ++ l' ++ l'' ++ l₃) (.error (.acquisition .revision details))
  | acquired {l l' l'' l₃ : List Moment} {copy : WorkingCopy}
      (hclone : Cloned o opts n ks l (some copy.source))
      (hidentity : Chain o (identityCommands opts) l' true)
      (hpin : Pinned o opts copy.requestedRevision l'' copy.pinned)
      (hrequested : copy.requestedRevision = revision.bind Text.nonBlank?)
      (hhead : Chain o (headCommands opts) l₃ true) (hroot : copy.root = root opts) :
      Acquired o opts n ks revision (l ++ l' ++ l'' ++ l₃) (.ok copy)

/-- A step that issues commands in order fails as that step if one of them does. -/
theorem asStep_yields {step : AcquisitionStep} {cs : List Command} {y : Forge α}
    (hy : Chained o shown cs y) (w : World) :
    Yields o shown w (asStep step y) fun l r _ =>
      Chain o cs l r.isOk ∧ ∀ f, r = .error f → ∃ details, f = .acquisition step details := by
  refine (hy w).tryCatch (fun l a w' hl => ⟨hl, fun _ h => by cases h⟩) fun l f w' hl => .throw ⟨?_, fun f' h => ?_⟩
  · rw [List.append_nil]
    exact hl
  · cases h
    exact ⟨_, rfl⟩

theorem setIdentity_chained :
    Chained o shown (identityCommands opts) (Git.setIdentity o (root opts) opts.userName opts.userEmail) :=
  (Git.output_chained shown_ran _ _).bind fun _ => (Git.output_chained shown_ran _ _).bind fun _ => .pure _

theorem revParse_chained : Chained o shown (headCommands opts) (do
    let base ← Git.revParse o (root opts) "HEAD" false
    let short ← Git.revParse o (root opts) "HEAD" true
    return (base, short)) :=
  (Chained.bind (Git.output_chained shown_ran _ _) fun _ => .pure _).bind fun _ =>
    (Chained.bind (Git.output_chained shown_ran _ _) fun _ => .pure _).bind fun _ => .pure _

/-- The version that a source tree declares can always be told, and nothing is issued for it. -/
theorem declaredVersion_ok (path : String) (w : World) :
    ∃ version, runOn w (declaredVersion path) = (.ok version, w) := by
  rw [declaredVersion, runOn_bind, runOn_attempt, runOn_readFile]
  cases (w.disk.read (Path.join [path, "VERSION"])) <;> exact ⟨_, rfl⟩

theorem describe_yields (requested : Option String) (pinned : Bool) (w : World) :
    Yields o shown w (describe o opts k requested pinned) fun l r _ =>
      Chain o (headCommands opts) l r.isOk ∧
        (∀ f, r = .error f → ∃ details, f = .acquisition .revision details) ∧
        ∀ copy, r = .ok copy → copy.root = root opts ∧ copy.source = k ∧
          copy.requestedRevision = requested ∧ copy.pinned = pinned := by
  refine (asStep_yields revParse_chained w).bind (fun l hashes w' hhead => ?_) fun l f w' hhead => ?_
  · obtain ⟨version, hversion⟩ := declaredVersion_ok (root opts) w'
    have hquiet : Quiet shown (declaredVersion (root opts)) := .of_journal fun w => by
      obtain ⟨_, h⟩ := declaredVersion_ok (root opts) w
      rw [h]
    refine hquiet.skip_ok hversion (.log_bind rfl (.pure ⟨?_, fun _ h => ?_, fun copy h => ?_⟩))
    · rw [List.append_nil]
      exact hhead.1
    · cases h
    · cases h
      exact ⟨rfl, rfl, rfl, rfl⟩
  · refine ⟨hhead.1, fun f' h => ?_, fun copy h => ?_⟩
    · cases h
      exact hhead.2 f rfl
    · cases h

/-- What a clone is followed by, once it is settled whether the revision was checked out. -/
theorem describe_acquired {n : Nat} {ks : List Candidate} {revision requested : Option String}
    {pinned : Bool} {l₁ l₂ l₃ : List Moment} (hclone : Cloned o opts n ks l₁ (some k))
    (hidentity : Chain o (identityCommands opts) l₂ true)
    (hrequested : revision.bind Text.nonBlank? = requested) (hpin : Pinned o opts requested l₃ pinned)
    (w : World) :
    Yields o shown w (describe o opts k requested pinned) fun l r _ =>
      Acquired o opts n ks revision (l₁ ++ (l₂ ++ (l₃ ++ l))) r := by
  refine (describe_yields _ _ w).mono ?_
  rintro l r w' - ⟨hhead, hfailed, hcopy⟩
  cases r with
  | error f =>
    obtain ⟨details, rfl⟩ := hfailed f rfl
    rw [← hrequested] at hpin
    simpa using Acquired.notResolved hclone hidentity hpin hhead
  | ok copy =>
    obtain ⟨hroot, rfl, rfl, rfl⟩ := hcopy copy rfl
    simpa using Acquired.acquired hclone hidentity hpin hrequested.symm hhead hroot

theorem acquire_yields (ho : Steady o opts) {q : Rat} (hq : opts.retry.maxAttempts = .finite q)
    (ks : List Candidate) (revision : Option String) (hw : Ready opts w) :
    Yields o shown w (acquire o opts ks revision) fun l r _ =>
      Acquired o opts (max 1 q.floor).toNat ks revision l r := by
  refine (cloneFirst_cloned ho hq [] ks hw).bind (fun l₁ k w₁ hk => ?_) fun l₁ f w₁ hk => ?_
  · obtain ⟨_, h, hclone⟩ | ⟨_, h, -⟩ := hk
    · cases h
      refine (asStep_yields setIdentity_chained w₁).bind (fun l₂ _ w₂ hidentity => ?_)
        fun l₂ f w₂ hidentity => ?_
      · cases hrequested : revision.bind Text.nonBlank? with
        | none =>
          refine Quiet.skip_ok (.of_journal fun _ => rfl) (runOn_pure w₂ false) ?_
          exact describe_acquired hclone hidentity.1 hrequested .unasked w₂
        | some requested =>
          refine (pin_pinned requested w₂).bind ?_ ?_
          · rintro l₃ pinned w₃ ⟨_, h, hpin⟩
            cases h
            exact describe_acquired hclone hidentity.1 hrequested hpin w₃
          · rintro l₃ f w₃ ⟨_, h, -⟩
            cases h
      · obtain ⟨details, rfl⟩ := hidentity.2 f rfl
        exact .notIdentified hclone hidentity.1
    · cases h
  · obtain ⟨_, h, -⟩ | ⟨details, h, hclone⟩ := hk
    · cases h
    · cases h
      exact .notCloned hclone

/-- With attempts bounded, no run cancelled and no old source tree in the way, candidates are tried in
order and none after the first that is cloned; a revision that cannot be checked out costs a warning
and nothing else. What is issued, and with what result, is all that the journal shows of it. -/
theorem acquire_acquired (ho : Steady o opts) {q : Rat} (hq : opts.retry.maxAttempts = .finite q)
    (hlive : w.cancelled = false) (hremove : ∃ d, w.disk.removeAll (root opts) = .ok d)
    (ks : List Candidate) (revision : Option String) :
    ∃ l, Traced o shown w (acquire o opts ks revision) l (runOn w (acquire o opts ks revision)).1
        (runOn w (acquire o opts ks revision)).2 ∧
      Acquired o opts (max 1 q.floor).toNat ks revision l (runOn w (acquire o opts ks revision)).1 ∧
      ∃ events, (runOn w (acquire o opts ks revision)).2.journal = w.journal ++ events ∧
        events.filter shown = l.map Moment.event := by
  obtain ⟨l, htrace, hacquired⟩ := (acquire_yields ho hq ks revision ⟨hlive, hremove⟩).elim
  exact ⟨l, htrace, hacquired, htrace.journal⟩

/-- An outside that has one address which cannot be reached, and can check nothing out. -/
def unreliable : Outside where
  run _ c :=
    let code := if c.arguments.contains "down" || c.arguments.contains "checkout" then 1 else 0
    ⟨⟨[], []⟩, false, .ok ⟨some code, "", ""⟩⟩
  fetch _ _ := (false, .silent)
  cancelsWait _ := false
  clock _ := some 0
  searchPath := none
  processors := 1

/-- Two attempts for each candidate. -/
def twice : AcquireOptions :=
  { chamber := "/c", depth := 1, pinDepth := 1, userName := "n", userEmail := "e", retry := ⟨2, 0⟩ }

theorem acquire_acquired_unreliable :
    Steady unreliable twice ∧ twice.retry.maxAttempts = .finite 2 ∧
      (∃ d, (⟨[], []⟩ : Disk).removeAll (root twice) = .ok d) ∧
      ((runOn { disk := ⟨[], []⟩ } (acquire unreliable twice
        [⟨"a", "down", none⟩, ⟨"b", "up", none⟩] (some "r"))).1.toOption.map
          fun c => (c.source.name, c.pinned)) = some ("b", false) ∧
      ∃ l, Acquired unreliable twice (max 1 (2 : Rat).floor).toNat
        [⟨"a", "down", none⟩, ⟨"b", "up", none⟩] (some "r") l
        (runOn { disk := ⟨[], []⟩ } (acquire unreliable twice
          [⟨"a", "down", none⟩, ⟨"b", "up", none⟩] (some "r"))).1 := by
  have hremove : ∃ d, (⟨[], []⟩ : Disk).removeAll (root twice) = .ok d := by
    have hok : ((⟨[], []⟩ : Disk).removeAll (root twice)).isOk = true := by decide +kernel
    cases h : (⟨[], []⟩ : Disk).removeAll (root twice) with
    | ok d => exact ⟨d, rfl⟩
    | error fault =>
      rw [h] at hok
      cases hok
  have ho : Steady unreliable twice :=
    { runs := fun _ _ => rfl
      waits := fun _ => rfl
      words := fun _ _ _ h => by cases h
      removes := fun _ _ => hremove }
  have hq : twice.retry.maxAttempts = .finite 2 := by decide
  obtain ⟨l, -, hacquired, -⟩ := acquire_acquired (w := { disk := ⟨[], []⟩ }) ho hq rfl hremove
    [⟨"a", "down", none⟩, ⟨"b", "up", none⟩] (some "r")
  exact ⟨ho, hq, hremove, by decide +kernel, l, hacquired⟩

end Source

end VariantForge
