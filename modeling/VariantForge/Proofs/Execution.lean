import VariantForge.World

/-!
# Execution — what an operation does to a world

`Forge.runOn w x` is the end of `x` and the world it leaves. These equations take it through the
constructs that operations are written with, so that no other proof opens the monad.

`Forge.Keeps I x` says that `x` leaves a world in `I` if it finds one there, also when it fails.
It passes through sequences, so an invariant is shown once for each primitive and holds of
whatever is made of them. A frame condition is the invariant that relates the world to a fixed
earlier one.
-/

namespace VariantForge.Forge

variable {α β : Type}

/-! ## Equations -/

@[simp] theorem runOn_pure (w : World) (a : α) : runOn w (pure a) = (.ok a, w) := rfl

@[simp] theorem runOn_throw (w : World) (f : Failure) :
    runOn w (throw f : Forge α) = (.error f, w) := rfl

theorem runOn_bind (w : World) (x : Forge α) (f : α → Forge β) :
    runOn w (x >>= f) =
      match runOn w x with
      | (.ok a, w') => runOn w' (f a)
      | (.error e, w') => (.error e, w') := by
  show (ExceptT.run (x >>= f)).run w = _
  simp only [ExceptT.run_bind, StateT.run_bind, runOn]
  rcases h : StateT.run (ExceptT.run x) w with ⟨r, w'⟩
  cases r <;> rfl

theorem runOn_bind_ok {w w' : World} {x : Forge α} {f : α → Forge β} {a : α}
    (h : runOn w x = (.ok a, w')) : runOn w (x >>= f) = runOn w' (f a) := by
  rw [runOn_bind, h]

theorem runOn_bind_error {w w' : World} {x : Forge α} {f : α → Forge β} {e : Failure}
    (h : runOn w x = (.error e, w')) : runOn w (x >>= f) = (.error e, w') := by
  rw [runOn_bind, h]

/-- A sequence that ends well ends well in each of its parts. -/
theorem of_bind_ok {w w' : World} {x : Forge α} {f : α → Forge β} {b : β}
    (h : runOn w (x >>= f) = (.ok b, w')) :
    ∃ a w₁, runOn w x = (.ok a, w₁) ∧ runOn w₁ (f a) = (.ok b, w') := by
  rw [runOn_bind] at h
  rcases hx : runOn w x with ⟨e | a, w₁⟩
  · rw [hx] at h
    cases h
  · rw [hx] at h
    exact ⟨a, w₁, rfl, h⟩

/-- A sequence that fails does so in its first part or in the rest. -/
theorem of_bind_error {w w' : World} {x : Forge α} {f : α → Forge β} {e : Failure}
    (h : runOn w (x >>= f) = (.error e, w')) :
    runOn w x = (.error e, w') ∨ ∃ a w₁, runOn w x = (.ok a, w₁) ∧ runOn w₁ (f a) = (.error e, w') := by
  rw [runOn_bind] at h
  rcases hx : runOn w x with ⟨e | a, w₁⟩
  · rw [hx] at h
    cases h
    exact .inl rfl
  · rw [hx] at h
    exact .inr ⟨a, w₁, rfl, h⟩

theorem runOn_map (w : World) (g : α → β) (x : Forge α) :
    runOn w (g <$> x) = ((runOn w x).1.map g, (runOn w x).2) := by
  rw [map_eq_pure_bind, runOn_bind]
  rcases runOn w x with ⟨_ | _, w'⟩ <;> rfl

theorem runOn_tryCatch (w : World) (x : Forge α) (f : Failure → Forge α) :
    runOn w (tryCatch x f) =
      match runOn w x with
      | (.ok a, w') => (.ok a, w')
      | (.error e, w') => runOn w' (f e) := by
  show (ExceptT.run (ExceptT.tryCatch x f)).run w = _
  simp only [ExceptT.tryCatch, ExceptT.run_mk, StateT.run_bind, runOn]
  rcases h : StateT.run (ExceptT.run x) w with ⟨r, w'⟩
  have h' : (StateT.run x w : Id (Except Failure α × World)) = (r, w') := h
  rw [h']
  cases r <;> rfl

@[simp] theorem runOn_get (w : World) : runOn w get = (.ok w, w) := rfl

@[simp] theorem runOn_set (w w' : World) : runOn w (set w') = (.ok (), w') := rfl

@[simp] theorem runOn_note (w : World) (e : Event) :
    runOn w (note e) = (.ok (), { w with journal := w.journal ++ [e] }) := rfl

@[simp] theorem runOn_log (w : World) (l : Level) (m : String) (x : Option (Members Data)) :
    runOn w (log l m x) = (.ok (), { w with journal := w.journal ++ [.logged l m x] }) := rfl

@[simp] theorem runOn_warn (w : World) (v : Warning) :
    runOn w (warn v) = (.ok (), { w with journal := w.journal ++ [.warned v] }) := rfl

@[simp] theorem runOn_isCancelled (w : World) : runOn w isCancelled = (.ok w.cancelled, w) := rfl

theorem runOn_checkCancelled (w : World) :
    runOn w checkCancelled = (if w.cancelled then .error .cancelled else .ok (), w) := by
  rw [checkCancelled, runOn_bind, runOn_isCancelled]
  cases w.cancelled <;> rfl

@[simp] theorem runOn_look (w : World) (f : Disk → α) : runOn w (look f) = (.ok (f w.disk), w) := rfl

@[simp] theorem runOn_here (w : World) :
    runOn w here = (.ok ("/" ++ "/".intercalate w.disk.here), w) := rfl

@[simp] theorem runOn_now (w : World) (o : Outside) :
    runOn w (now o) = (.ok (o.clock w.readings), { w with readings := w.readings + 1 }) := rfl

theorem runOn_change (w : World) (f : Disk → Except DiskFault Disk) :
    runOn w (change f) =
      match f w.disk with
      | .ok disk => (.ok (), { w with disk })
      | .error fault => (.error (.disk fault), w) := by
  rw [change, runOn_bind, runOn_get]
  dsimp only
  cases f w.disk <;> rfl

theorem change_ok {w w' : World} {f : Disk → Except DiskFault Disk} {u : Unit}
    (h : runOn w (change f) = (.ok u, w')) : ∃ d, f w.disk = .ok d ∧ w' = { w with disk := d } := by
  rw [runOn_change] at h
  cases hd : f w.disk with
  | error fault => simp [hd] at h
  | ok d =>
    rw [hd] at h
    cases h
    exact ⟨d, rfl, rfl⟩

theorem change_error {w w' : World} {f : Disk → Except DiskFault Disk} {e : Failure}
    (h : runOn w (change f) = (.error e, w')) :
    ∃ fault, f w.disk = .error fault ∧ e = .disk fault ∧ w' = w := by
  rw [runOn_change] at h
  cases hd : f w.disk with
  | error fault =>
    rw [hd] at h
    cases h
    exact ⟨fault, rfl, rfl, rfl⟩
  | ok d => simp [hd] at h

theorem runOn_makeDirectories (w : World) (path : String) :
    runOn w (makeDirectories path) =
      ((w.disk.makeDirectories path).2.elim (.ok ()) fun f => .error (.disk f),
        { w with disk := (w.disk.makeDirectories path).1 }) := by
  rw [makeDirectories, runOn_bind, runOn_get]
  dsimp only
  rcases w.disk.makeDirectories path with ⟨disk, _ | f⟩ <;> rfl

theorem makeDirectories_ok {w w' : World} {path : String} {u : Unit}
    (h : runOn w (makeDirectories path) = (.ok u, w')) : w.disk.makeDirectories path = (w'.disk, none) := by
  rw [runOn_makeDirectories] at h
  cases hfault : (w.disk.makeDirectories path).2 with
  | some f => simp [hfault] at h
  | none => exact Prod.ext (congrArg (fun x => x.2.disk) h) hfault

@[simp] theorem mapError_ok {ε ε' : Type} (f : ε → ε') (a : α) :
    (Except.ok a : Except ε α).mapError f = .ok a := rfl

@[simp] theorem mapError_error {ε ε' : Type} (f : ε → ε') (e : ε) :
    (Except.error e : Except ε α).mapError f = .error (f e) := rfl

theorem runOn_readFile (w : World) (path : String) :
    runOn w (readFile path) = ((w.disk.read path).mapError .disk, w) := by
  rw [readFile, runOn_bind, runOn_get]
  dsimp only
  cases w.disk.read path <;> rfl

/-- The world after the outside has run a command. -/
def afterRun (o : Outside) (w : World) (c : Command) : World :=
  { w with
    disk := (o.run w c).disk
    cancelled := w.cancelled || (o.run w c).cancels
    journal := w.journal ++ [.ran c] }

theorem succeeded_iff {r : CommandResult} : r.succeeded = true ↔ r.code = some 0 := beq_iff_eq

@[simp] theorem runOn_run (w : World) (o : Outside) (c : Command) :
    runOn w (run o c) = ((o.run w c).result, afterRun o w c) := by
  rw [run, runOn_bind, runOn_get]
  dsimp only
  rw [runOn_bind, runOn_set]
  cases (o.run w c).result <;> rfl

theorem runOn_wait (w : World) (o : Outside) (ms : Number) :
    runOn w (wait o ms) =
      (if w.cancelled || o.cancelsWait w then .error .cancelledWait else .ok (),
        { w with
          cancelled := w.cancelled || o.cancelsWait w
          journal := w.journal ++ [.waited ms] }) := by
  rw [wait, runOn_bind, runOn_get]
  dsimp only
  rw [runOn_bind, runOn_set]
  cases w.cancelled || o.cancelsWait w <;> rfl

theorem runOn_attempt (w : World) (x : Forge α) :
    runOn w (attempt x) = (.ok (runOn w x).1, (runOn w x).2) := by
  rw [attempt, runOn_tryCatch, runOn_map]
  rcases runOn w x with ⟨_ | _, w'⟩ <;> rfl

theorem runOn_finally (w : World) (x : Forge α) (last : Forge Unit) :
    runOn w (finally_ x last) =
      match runOn (runOn w x).2 last with
      | (.ok _, w') => ((runOn w x).1, w')
      | (.error e, w') => (.error e, w') := by
  rw [finally_, runOn_bind, runOn_attempt]
  rcases runOn w x with ⟨_ | _, w'⟩ <;>
    · simp only [runOn_bind]
      rcases runOn w' last with ⟨_ | _, w''⟩ <;> rfl

/-- What ends well with something done last ended well itself, and so did that. -/
theorem of_finally_ok {w w' : World} {x : Forge α} {last : Forge Unit} {a : α}
    (h : runOn w (finally_ x last) = (.ok a, w')) :
    ∃ w₁, runOn w x = (.ok a, w₁) ∧ runOn w₁ last = (.ok (), w') := by
  rw [runOn_finally] at h
  rcases hx : runOn w x with ⟨r, w₁⟩
  rw [hx] at h
  dsimp only at h
  rcases hl : runOn w₁ last with ⟨e | _, w₂⟩
  · rw [hl] at h
    cases h
  · rw [hl] at h
    cases h
    exact ⟨w₁, rfl, hl⟩

/-- What fails with something done last failed itself, or that did. -/
theorem of_finally_error {w w' : World} {x : Forge α} {last : Forge Unit} {e : Failure}
    (h : runOn w (finally_ x last) = (.error e, w')) :
    ∃ r w₁, runOn w x = (r, w₁) ∧
      (r = .error e ∧ runOn w₁ last = (.ok (), w') ∨ runOn w₁ last = (.error e, w')) := by
  rw [runOn_finally] at h
  rcases hx : runOn w x with ⟨r, w₁⟩
  rw [hx] at h
  dsimp only at h
  refine ⟨r, w₁, rfl, ?_⟩
  rcases hl : runOn w₁ last with ⟨e | _, w₂⟩
  · rw [hl] at h
    cases h
    exact .inr rfl
  · rw [hl] at h
    cases h
    exact .inl ⟨rfl, rfl⟩

/-! ## Invariants -/

/-- Whether an operation that finds a world in `I` leaves one there, however it ends. -/
def Keeps (I : World → Prop) (x : Forge α) : Prop := ∀ w, I w → I (runOn w x).2

variable {I : World → Prop}

theorem Keeps.pure (a : α) : Keeps I (pure a) := fun _ h => h

theorem Keeps.throw (f : Failure) : Keeps I (throw f : Forge α) := fun _ h => h

/-- The rest of a sequence may rely on what its first part gave in the world it left. -/
theorem Keeps.bind_of {x : Forge α} {f : α → Forge β} (hx : Keeps I x)
    (hf : ∀ w a w', I w → runOn w x = (.ok a, w') → I w' → I (runOn w' (f a)).2) :
    Keeps I (x >>= f) := by
  intro w h
  have hx := hx w h
  rw [runOn_bind]
  rcases hr : runOn w x with ⟨e | a, w'⟩
  · rwa [hr] at hx
  · rw [hr] at hx
    exact hf w a w' h hr hx

theorem Keeps.bind {x : Forge α} {f : α → Forge β} (hx : Keeps I x) (hf : ∀ a, Keeps I (f a)) :
    Keeps I (x >>= f) :=
  hx.bind_of fun _ a w' _ _ h => hf a w' h

theorem Keeps.tryCatch {x : Forge α} {f : Failure → Forge α} (hx : Keeps I x)
    (hf : ∀ e, Keeps I (f e)) : Keeps I (tryCatch x f) := by
  intro w h
  have hx := hx w h
  rw [runOn_tryCatch]
  rcases hr : runOn w x with ⟨e | a, w'⟩
  · rw [hr] at hx
    exact hf e w' hx
  · rwa [hr] at hx

theorem Keeps.attempt {x : Forge α} (hx : Keeps I x) : Keeps I (attempt x) := by
  intro w h
  rw [runOn_attempt]
  exact hx w h

theorem Keeps.finally {x : Forge α} {last : Forge Unit} (hx : Keeps I x) (hl : Keeps I last) :
    Keeps I (finally_ x last) := by
  intro w h
  have hl := hl _ (hx w h)
  rw [runOn_finally]
  rcases hr : runOn (runOn w x).2 last with ⟨e | a, w'⟩ <;> rwa [hr] at hl

theorem Keeps.ite {c : Prop} [Decidable c] {x y : Forge α} (hx : Keeps I x) (hy : Keeps I y) :
    Keeps I (if c then x else y) := by
  split
  · exact hx
  · exact hy

/-- What comes after a failure is never reached. -/
theorem Keeps.ite_throw {c : Prop} [Decidable c] {f : Failure} {g : β → Forge α} {x : Forge α}
    (hx : ¬ c → Keeps I x) : Keeps I (if c then (MonadExcept.throw f : Forge β) >>= g else x) := by
  split
  · exact fun _ h => h
  · rename_i hc
    exact hx hc

theorem Keeps.here : Keeps I here := fun _ h => h

theorem Keeps.change {f : Disk → Except DiskFault Disk}
    (h : ∀ w d, I w → f w.disk = .ok d → I { w with disk := d }) : Keeps I (change f) := by
  intro w hw
  rw [runOn_change]
  cases hd : f w.disk with
  | error e => exact hw
  | ok d => exact h w d hw hd

theorem Keeps.makeDirectories {path : String}
    (h : ∀ w, I w → I { w with disk := (w.disk.makeDirectories path).1 }) :
    Keeps I (makeDirectories path) := by
  intro w hw
  rw [runOn_makeDirectories]
  exact h w hw

/-! ## Ends -/

/-- Whether an operation that finds a world in `I` ends as `Q` says. -/
def Ends (I : World → Prop) (x : Forge α) (Q : Except Failure α → World → Prop) : Prop :=
  ∀ w, I w → Q (runOn w x).1 (runOn w x).2

section Ends

variable {J : World → Prop} {Q Q' : Except Failure α → World → Prop}
  {R : Except Failure β → World → Prop} {x : Forge α} {f : α → Forge β}

theorem ends_iff : Ends I x Q ↔ ∀ w, I w → Q (runOn w x).1 (runOn w x).2 := Iff.rfl

theorem Ends.of_imp (h : Ends I x Q) (hi : ∀ w, J w → I w) : Ends J x Q := fun w hw => h w (hi w hw)

theorem Keeps.ends (h : Keeps I x) : Ends I x fun _ => I := h

theorem Ends.pure {a : α} (h : ∀ w, I w → Q (.ok a) w) : Ends I (Pure.pure a) Q := h

theorem Ends.throw {e : Failure} (h : ∀ w, I w → Q (.error e) w) : Ends I (MonadExcept.throw e) Q := h

theorem Ends.bind (hx : Ends I x Q) (hf : ∀ a, Ends (Q (.ok a)) (f a) R)
    (herror : ∀ e w, Q (.error e) w → R (.error e) w) : Ends I (x >>= f) R := by
  intro w hw
  have hx := hx w hw
  rw [runOn_bind]
  rcases hr : runOn w x with ⟨e | a, w'⟩
  · rw [hr] at hx
    exact herror e w' hx
  · rw [hr] at hx
    exact hf a w' hx

theorem Ends.attempt_bind {f : Except Failure α → Forge β} (hx : Ends I x Q)
    (hok : ∀ a, Ends (Q (.ok a)) (f (.ok a)) R) (herror : ∀ e, Ends (Q (.error e)) (f (.error e)) R) :
    Ends I (attempt x >>= f) R := by
  intro w hw
  have hx := hx w hw
  rw [runOn_bind, runOn_attempt]
  rcases hr : runOn w x with ⟨e | a, w'⟩
  · rw [hr] at hx
    exact herror e w' hx
  · rw [hr] at hx
    exact hok a w' hx

theorem Ends.change {g : Disk → Except DiskFault Disk} {Q : Except Failure Unit → World → Prop}
    (hok : ∀ w d, I w → g w.disk = .ok d → Q (.ok ()) { w with disk := d })
    (herror : ∀ w e, I w → g w.disk = .error e → Q (.error (.disk e)) w) : Ends I (change g) Q := by
  intro w hw
  rw [runOn_change]
  cases hd : g w.disk with
  | error e => exact herror w e hw hd
  | ok d => exact hok w d hw hd

theorem Ends.makeDirectories {path : String} {Q : Except Failure Unit → World → Prop}
    (hok : ∀ w d, I w → w.disk.makeDirectories path = (d, none) → Q (.ok ()) { w with disk := d })
    (herror : ∀ w d e, I w → w.disk.makeDirectories path = (d, some e) → Q (.error (.disk e)) { w with disk := d }) :
    Ends I (makeDirectories path) Q := by
  intro w hw
  rw [runOn_makeDirectories]
  rcases hd : w.disk.makeDirectories path with ⟨d, _ | e⟩
  · exact hok w d hw hd
  · exact herror w d e hw hd

-- what an operation ends with is found step by step and never by unfolding it
attribute [irreducible] Ends

end Ends

/-! ## Operations that do not fail -/

/-- Whether an operation ends well in every world. -/
def Total (x : Forge α) : Prop := ∀ w, ∃ a w', runOn w x = (.ok a, w')

theorem Total.pure (a : α) : Total (pure a) := fun w => ⟨a, w, rfl⟩

theorem Total.bind {x : Forge α} {f : α → Forge β} (hx : Total x) (hf : ∀ a, Total (f a)) :
    Total (x >>= f) := by
  intro w
  obtain ⟨a, w', h⟩ := hx w
  rw [runOn_bind_ok h]
  exact hf a w'

theorem Total.attempt (x : Forge α) : Total (attempt x) := fun w => ⟨_, _, runOn_attempt w x⟩

theorem Total.log (l : Level) (m : String) (x : Option (Members Data)) : Total (log l m x) :=
  fun w => ⟨(), _, runOn_log w l m x⟩

theorem Total.warn (v : Warning) : Total (warn v) := fun w => ⟨(), _, runOn_warn w v⟩

theorem Total.ite {c : Prop} [Decidable c] {x y : Forge α} (hx : Total x) (hy : Total y) :
    Total (if c then x else y) := by
  split
  · exact hx
  · exact hy

theorem Total.forIn {l : List α} {b : β} {f : α → β → Forge (ForInStep β)}
    (hf : ∀ a b, Total (f a b)) : Total (forIn l b f) := by
  induction l generalizing b with
  | nil => exact .pure b
  | cons a l ih =>
    rw [List.forIn_cons]
    refine (hf a b).bind fun r => ?_
    cases r with
    | done b => exact .pure b
    | yield b => exact ih

/-! ## Values -/

/-- Whether every value that an operation gives is of some kind. -/
def Gives (x : Forge α) (P : α → Prop) : Prop := ∀ w a w', runOn w x = (.ok a, w') → P a

theorem Gives.pure {a : α} {P : α → Prop} (h : P a) : Gives (pure a) P := by
  intro w b w' hb
  cases hb
  exact h

theorem Gives.bind {x : Forge α} {f : α → Forge β} {P : β → Prop} (hf : ∀ a, Gives (f a) P) :
    Gives (x >>= f) P := by
  intro w b w' h
  obtain ⟨a, w₁, -, hb⟩ := of_bind_ok h
  exact hf a w₁ b w' hb

/-- What is known of the first value is known to what comes after it. -/
theorem Gives.then {x : Forge α} {f : α → Forge β} {Q : α → Prop} {P : β → Prop} (hx : Gives x Q)
    (hf : ∀ a, Q a → Gives (f a) P) : Gives (x >>= f) P := by
  intro w b w' h
  obtain ⟨a, w₁, ha, hb⟩ := of_bind_ok h
  exact hf a (hx w a w₁ ha) w₁ b w' hb

theorem Gives.throw {e : Failure} {P : α → Prop} : Gives (throw e) P := fun _ _ _ h => nomatch h

theorem Gives.ite {c : Prop} [Decidable c] {x y : Forge α} {P : α → Prop} (hx : Gives x P) (hy : Gives y P) :
    Gives (if c then x else y) P := by
  split
  · exact hx
  · exact hy

theorem Gives.ite_throw {c : Prop} [Decidable c] {e : Failure} {g : β → Forge α} {x : Forge α} {P : α → Prop}
    (hx : ¬ c → Gives x P) : Gives (if c then (MonadExcept.throw e : Forge β) >>= g else x) P := by
  split
  · exact fun _ _ _ h => nomatch h
  · rename_i hc
    exact hx hc

/-- What is put in the place of a failure is known as well. -/
theorem Gives.tryCatch {x : Forge α} {f : Failure → Forge α} {P : α → Prop} (hx : Gives x P)
    (hf : ∀ e, Gives (f e) P) : Gives (tryCatch x f) P := by
  intro w a w' h
  rw [runOn_tryCatch] at h
  rcases hr : runOn w x with ⟨e | b, w₁⟩
  · rw [hr] at h
    exact hf e w₁ a w' h
  · rw [hr] at h
    cases h
    exact hx w a _ hr

theorem Gives.finally {x : Forge α} {last : Forge Unit} {P : α → Prop} (hx : Gives x P) :
    Gives (finally_ x last) P := by
  intro w a w' h
  obtain ⟨w₁, ha, -⟩ := of_finally_ok h
  exact hx w a w₁ ha

theorem Gives.attempt {x : Forge α} {P : α → Prop} (hx : Gives x P) :
    Gives (attempt x) fun r => ∀ a, r = .ok a → P a := by
  rintro w r w' h a rfl
  rw [runOn_attempt] at h
  rcases hr : runOn w x with ⟨e | b, w₁⟩
  · rw [hr] at h
    cases h
  · rw [hr] at h
    cases h
    exact hx w a _ hr

end VariantForge.Forge
