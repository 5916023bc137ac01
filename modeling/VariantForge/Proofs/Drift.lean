import Mathlib.Tactic.ByContra
import VariantForge.Proofs.Trace
import VariantForge.Toolchain.Download

/-!
# Drift — what operations do in passing

The outside is asked to run commands, to wait and to answer requests, and nothing but its answers
cancels a run. A world `Passes` to another through the moments in which the outside was asked, so that
the other one is cancelled if and only if it was before or became so in one of them
(`Passes.cancelled_iff`).

An operation drifts while nothing else shows of it that is looked for (`Drifting`). That passes through
sequences, so it is shown once for each primitive.
-/

namespace VariantForge.Forge

variable {α β : Type} {o : Outside} {see : Event → Bool} {w w' w'' : World} {l l' : List Moment} {x : Forge α}

/-! ## Asking the outside -/

/-- Whether an event is something that the outside was asked for. -/
def isAsked : Event → Bool
  | .ran _ => true
  | .waited _ => true
  | .fetched .. => true
  | _ => false

/-- Whether a run is cancelled after a moment in which the outside was asked for something. -/
def Moment.cancels (o : Outside) (m : Moment) : Bool :=
  m.world.cancelled || match m.event with
    | .ran c => (o.run m.world c).cancels
    | .waited _ => o.cancelsWait m.world
    | .fetched url _ => (o.fetch m.world url).1
    | _ => false

/-- Whether a world comes from another one through some moments in which the outside was asked, while
nothing else was seen to happen. -/
inductive Passes (o : Outside) (see : Event → Bool) : World → List Moment → World → Prop where
  | still {w w' : World} (hlive : w'.cancelled = w.cancelled)
      (h : Unseen (fun e => see e || isAsked e) w w') : Passes o see w [] w'
  | asked {w w' : World} {e : Event} (he : isAsked e = true) (hsee : see e = false)
      (hcancelled : w'.cancelled = (⟨w, e⟩ : Moment).cancels o) (hjournal : w'.journal = w.journal ++ [e]) :
      Passes o see w [⟨w, e⟩] w'
  | trans {w w' w'' : World} {l l' : List Moment} (h : Passes o see w l w') (h' : Passes o see w' l' w'') :
      Passes o see w (l ++ l') w''

/-- Nothing but the answers of the outside cancels a run, and nothing revives it. -/
theorem Passes.cancelled_iff (h : Passes o see w l w') :
    w'.cancelled = true ↔ w.cancelled = true ∨ ∃ m ∈ l, m.cancels o = true := by
  induction h with
  | still hlive h => simp [hlive]
  | asked he hsee hcancelled hjournal =>
    rename_i w w' e
    have hstays : w.cancelled = true → (⟨w, e⟩ : Moment).cancels o = true := fun hw => by
      rw [Moment.cancels, hw, Bool.true_or]
    rw [hcancelled]
    exact ⟨fun h => .inr ⟨_, List.mem_singleton_self _, h⟩, fun h => h.elim hstays fun ⟨m, hm, hc⟩ => by
      rwa [List.mem_singleton.1 hm] at hc⟩
  | trans h h' ih ih' =>
    rw [ih', ih, or_assoc]
    simp only [List.mem_append, or_and_right, exists_or]

/-- The moments are all that the journal shows of what the outside was asked. -/
theorem Passes.journal (h : Passes o see w l w') :
    ∃ es, w'.journal = w.journal ++ es ∧ (∀ e ∈ es, see e = false) ∧ es.filter isAsked = l.map Moment.event := by
  induction h with
  | still hlive h =>
    obtain ⟨es, hes, hnone⟩ := h
    simp only [Bool.or_eq_false_iff] at hnone
    exact ⟨es, hes, fun e he => (hnone e he).1,
      List.filter_eq_nil_iff.2 fun e he => by simp [(hnone e he).2]⟩
  | asked he hsee hcancelled hjournal =>
    exact ⟨_, hjournal, List.forall_mem_singleton.2 hsee, List.filter_cons_of_pos he⟩
  | trans h h' ih ih' =>
    obtain ⟨es, hes, hnone, hl⟩ := ih
    obtain ⟨es', hes', hnone', hl'⟩ := ih'
    refine ⟨es ++ es', by rw [hes', hes, List.append_assoc], fun e he => ?_, by
      rw [List.filter_append, hl, hl', List.map_append]⟩
    exact (List.mem_append.1 he).elim (hnone e) (hnone' e)

/-! ## Drifting -/

/-- Whether a world may have come from another one in which nothing was seen to happen. -/
def Drifts (o : Outside) (see : Event → Bool) (w w' : World) : Prop := ∃ l, Passes o see w l w'

theorem Drifts.refl (w : World) : Drifts o see w w := ⟨[], .still rfl (.refl w)⟩

theorem Drifts.trans (h : Drifts o see w w') (h' : Drifts o see w' w'') : Drifts o see w w'' := by
  obtain ⟨l, h⟩ := h
  obtain ⟨l', h'⟩ := h'
  exact ⟨l ++ l', h.trans h'⟩

theorem Drifts.unseen (h : Drifts o see w w') : Unseen see w w' := by
  obtain ⟨l, h⟩ := h
  obtain ⟨es, hes, hnone, -⟩ := h.journal
  exact ⟨es, hes, hnone⟩

theorem Drifts.quiet (hc : w'.cancelled = w.cancelled) (hj : w'.journal = w.journal) : Drifts o see w w' :=
  ⟨[], .still hc ⟨[], by rw [hj, List.append_nil], nofun⟩⟩

/-- Whether nothing is seen of an operation but what it asks the outside for. -/
def Drifting (o : Outside) (see : Event → Bool) (x : Forge α) : Prop := ∀ w, Drifts o see w (runOn w x).2

theorem Drifting.keeps (h : ∀ w₀, Keeps (Drifts o see w₀) x) : Drifting o see x := fun w => h w w (.refl w)

theorem Drifting.from (h : Drifting o see x) (w₀ : World) : Keeps (Drifts o see w₀) x :=
  fun w hw => hw.trans (h w)

theorem Drifting.pure (a : α) : Drifting o see (pure a) := fun w => .refl w

theorem Drifting.throw (f : Failure) : Drifting o see (throw f : Forge α) := fun w => .refl w

theorem Drifting.bind {f : α → Forge β} (hx : Drifting o see x) (hf : ∀ a, Drifting o see (f a)) :
    Drifting o see (x >>= f) :=
  .keeps fun w₀ => (hx.from w₀).bind fun a => (hf a).from w₀

theorem Drifting.tryCatch {f : Failure → Forge α} (hx : Drifting o see x) (hf : ∀ e, Drifting o see (f e)) :
    Drifting o see (tryCatch x f) :=
  .keeps fun w₀ => (hx.from w₀).tryCatch fun e => (hf e).from w₀

theorem Drifting.attempt (hx : Drifting o see x) : Drifting o see (attempt x) :=
  .keeps fun w₀ => (hx.from w₀).attempt

theorem Drifting.finally {last : Forge Unit} (hx : Drifting o see x) (hl : Drifting o see last) :
    Drifting o see (finally_ x last) :=
  .keeps fun w₀ => (hx.from w₀).finally (hl.from w₀)

theorem Drifting.ite {c : Prop} [Decidable c] {y : Forge α} (hx : Drifting o see x)
    (hy : Drifting o see y) : Drifting o see (if c then x else y) := by
  split
  · exact hx
  · exact hy

/-- What comes after a failure is never reached. -/
theorem Drifting.ite_throw {c : Prop} [Decidable c] {f : Failure} {g : β → Forge α}
    (hx : Drifting o see x) : Drifting o see (if c then (MonadExcept.throw f : Forge β) >>= g else x) :=
  .ite (fun w => .refl w) hx

theorem Drifting.forIn {l : List α} {b : β} {f : α → β → Forge (ForInStep β)}
    (hf : ∀ a b, Drifting o see (f a b)) : Drifting o see (forIn l b f) := by
  induction l generalizing b with
  | nil => exact .pure b
  | cons a l ih =>
    rw [List.forIn_cons]
    refine (hf a b).bind fun r => ?_
    cases r with
    | done b => exact .pure b
    | yield b => exact ih

theorem Drifting.mapM {l : List α} {f : α → Forge β} (hf : ∀ a, Drifting o see (f a)) :
    Drifting o see (l.mapM f) := by
  induction l with
  | nil => exact .pure []
  | cons a l ih =>
    rw [List.mapM_cons]
    exact (hf a).bind fun b => ih.bind fun bs => .pure (b :: bs)

/-! ## Single steps -/

theorem Drifting.of_still (h : ∀ w, (runOn w x).2 = w) : Drifting o see x := by
  intro w
  rw [h w]
  exact .refl w

theorem Drifting.look (f : Disk → α) : Drifting o see (look f) := .of_still fun _ => rfl

theorem Drifting.here : Drifting o see here := .of_still fun _ => rfl

theorem Drifting.checkCancelled : Drifting o see checkCancelled :=
  .of_still fun w => by rw [runOn_checkCancelled]

theorem Drifting.readFile (path : String) : Drifting o see (readFile path) :=
  .of_still fun w => by rw [runOn_readFile]

theorem Drifting.now (o' : Outside) : Drifting o see (now o') := fun _ => .quiet rfl rfl

theorem Drifting.words (f : Failure) : Drifting o see (words f) := .ite (.pure _) (.throw _)

theorem Drifting.change (f : Disk → Except DiskFault Disk) : Drifting o see (change f) := by
  intro w
  rw [runOn_change]
  cases f w.disk with
  | ok d => exact .quiet rfl rfl
  | error fault => exact .refl w

theorem Drifting.makeDirectories (path : String) : Drifting o see (makeDirectories path) := by
  intro w
  rw [runOn_makeDirectories]
  exact .quiet rfl rfl

theorem Drifting.writeText (path text : String) : Drifting o see (writeText path text) := .change _

theorem Drifting.note {e : Event} (he : see e = false) (hask : isAsked e = false) :
    Drifting o see (note e) :=
  fun _ => ⟨[], .still rfl ⟨[e], rfl, List.forall_mem_singleton.2 (by simp [he, hask])⟩⟩

/-! ## What is looked for -/

/-- A line of the log that is a warning and names an event: the name, and what the line says. -/
def warningLine? : Event → Option (Data × String)
  | .logged .warn message extra => (Members.get? (extra.getD []) "event").map fun name => (name, message)
  | _ => none

/-- Whether nothing is looked for but warnings, given or in the log. -/
structure Calm (see : Event → Bool) : Prop where
  asked : ∀ e, isAsked e = true → see e = false
  logged : ∀ level m extra, warningLine? (.logged level m extra) = none → see (.logged level m extra) = false

theorem Calm.log (hsee : Calm see) {level : Level} {m : String} {extra : Option (Members Data)}
    (h : warningLine? (.logged level m extra) = none) : Drifting o see (log level m extra) :=
  .note (hsee.logged level m extra h) rfl

/-- Whether an event is the line of the log that says that a spell is cast. -/
def isCasting : Event → Bool
  | .logged .info m none => Text.startsWith m "casting spell: "
  | _ => false

/-- Whether nothing is looked for but warnings, given or in the log, and lines that say that a spell is
cast. -/
structure Alert (see : Event → Bool) : Prop where
  asked : ∀ e, isAsked e = true → see e = false
  logged : ∀ level m extra, warningLine? (.logged level m extra) = none →
    isCasting (.logged level m extra) = false → see (.logged level m extra) = false

theorem Calm.alert (h : Calm see) : Alert see := ⟨h.asked, fun level m extra hw _ => h.logged level m extra hw⟩

/-- Whether nothing is looked for but lines of the log that say that a spell is cast. -/
structure Intent (see : Event → Bool) : Prop where
  asked : ∀ e, isAsked e = true → see e = false
  warned : ∀ x, see (.warned x) = false
  logged : ∀ level m extra, isCasting (.logged level m extra) = false → see (.logged level m extra) = false

theorem Intent.alert (h : Intent see) : Alert see := ⟨h.asked, fun level m extra _ => h.logged level m extra⟩

theorem intent_isCasting : Intent isCasting := by
  refine ⟨fun e he => ?_, fun _ => rfl, fun _ _ _ h => h⟩
  cases e <;> first | rfl | cases he

theorem Intent.log (h : Intent see) {level : Level} {m : String} {extra : Option (Members Data)}
    (hcast : isCasting (.logged level m extra) = false) : Drifting o see (log level m extra) :=
  .note (h.logged level m extra hcast) rfl

theorem Intent.warn (h : Intent see) (x : Warning) : Drifting o see (Forge.warn x) := .note (h.warned x) rfl

/-- Whether a message begins otherwise than one that says that a spell is cast. -/
def Unlike (m : String) : Prop := 2 ≤ m.toList.length ∧ m.toList.take 2 ≠ ['c', 'a']

instance : DecidablePred Unlike := fun m =>
  inferInstanceAs (Decidable (2 ≤ m.toList.length ∧ m.toList.take 2 ≠ ['c', 'a']))

theorem Unlike.append {m : String} (h : Unlike m) (rest : String) : Unlike (m ++ rest) := by
  rw [Unlike, String.toList_append, List.length_append, List.take_append_of_le_length h.1]
  exact ⟨Nat.le_add_right_of_le h.1, h.2⟩

theorem Unlike.not_casting {m : String} (h : Unlike m) : isCasting (.logged .info m none) = false := by
  rw [isCasting, Text.startsWith]
  by_contra hc
  rw [Bool.not_eq_false, List.isPrefixOf_iff_prefix] at hc
  obtain ⟨rest, hrest⟩ := hc
  exact h.2 (by rw [← hrest]; rfl)

variable (hsee : Alert see)

include hsee

theorem Alert.log {level : Level} {m : String} {extra : Option (Members Data)}
    (h : warningLine? (.logged level m extra) = none) (hcast : isCasting (.logged level m extra) = false) :
    Drifting o see (log level m extra) :=
  .note (hsee.logged level m extra h hcast) rfl

theorem Alert.info {m : String} (h : Unlike m) : Drifting o see (Forge.log .info m) :=
  hsee.log rfl h.not_casting

theorem Alert.run (c : Command) : Drifting o see (run o c) := by
  intro w
  rw [runOn_run]
  exact ⟨_, .asked (e := .ran c) rfl (hsee.asked _ rfl) rfl rfl⟩

theorem Alert.wait (ms : Number) : Drifting o see (wait o ms) := by
  intro w
  rw [runOn_wait]
  exact ⟨_, .asked (e := .waited ms) rfl (hsee.asked _ rfl) rfl rfl⟩

theorem Alert.request (opts : DownloadOptions) : Drifting o see (Download.request o opts) := by
  intro w
  rw [Download.request, runOn_bind_ok (runOn_get w)]
  dsimp only
  cases hbefore : opts.heedsCancel && w.cancelled with
  | true =>
    have hw : w.cancelled = true := (Bool.and_eq_true_iff.1 hbefore).2
    rw [if_pos rfl, runOn_bind_ok (runOn_set ..)]
    exact ⟨_, .asked (e := .fetched opts.url true) rfl (hsee.asked _ rfl) (by simp [Moment.cancels, hw]) rfl⟩
  | false =>
    rw [if_neg Bool.false_ne_true, runOn_bind_ok (runOn_set ..)]
    have hsent : Drifts o see w
        { w with
          cancelled := w.cancelled || (o.fetch w opts.url).1
          journal := w.journal ++ [.fetched opts.url false] } :=
      ⟨_, .asked (e := .fetched opts.url false) rfl (hsee.asked _ rfl) rfl rfl⟩
    cases (o.fetch w opts.url).2 with
    | response r => exact hsent
    | failed text => exact hsent
    | silent =>
      exact hsent.trans (Drifting.ite_throw (.throw _) _)

end VariantForge.Forge
