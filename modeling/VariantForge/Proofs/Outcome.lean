import VariantForge.Proofs.Disk.Ground
import VariantForge.Proofs.Execution

/-!
# Outcome — what an operation leaves on the disk

An operation that may be done or fail leaves one kind of disk or another (`Ended`). That is found
step by step: what comes before the step that gets it done, and does not change the disk or keeps it
as it must be, decides nothing.
-/

namespace VariantForge.Forge

open Disk

variable {α β : Type} {G I J : Disk → Prop} {done : α → Bool} {done' : β → Bool}

/-- Whether the disk of a world is of some kind. -/
def On (I : Disk → Prop) (w : World) : Prop := I w.disk

/-- Whether an end with a value that counts as done leaves one kind of disk, any other another. -/
def Ended (done : α → Bool) (G I : Disk → Prop) (r : Except Failure α) (w : World) : Prop :=
  if r.toOption.any done then G w.disk else I w.disk

theorem Ended.error {e : Failure} {w : World} :
    Ended done G I (.error e) w ↔ I w.disk := Iff.rfl

theorem Ended.ok {a : α} {w : World} :
    Ended done G I (.ok a) w ↔ if done a then G w.disk else I w.disk := Iff.rfl

theorem Ended.mono {G' I' : Disk → Prop} {r : Except Failure α} {w : World} (h : Ended done G I r w)
    (hG : ∀ d, G d → G' d) (hI : ∀ d, I d → I' d) : Ended done G' I' r w := by
  rw [Ended] at h ⊢
  split at h
  · rename_i hdone
    rw [if_pos hdone]
    exact hG _ h
  · rename_i hdone
    rw [if_neg hdone]
    exact hI _ h

-- an end is told by these lemmas and never by running the operation
attribute [irreducible] Ended

/-- Whether an operation never changes the disk. -/
def Still (x : Forge α) : Prop := ∀ w, (runOn w x).2.disk = w.disk

theorem Still.log {v : Level} {m : String} {d : Option (Members Data)} : Still (log v m d) := fun _ => rfl

theorem Still.wait (o : Outside) (ms : Number) : Still (wait o ms) := fun w => by rw [runOn_wait]

theorem Still.checkCancelled : Still checkCancelled := fun w => by rw [runOn_checkCancelled]

theorem Still.pure (a : α) : Still (Pure.pure a) := fun _ => rfl

theorem Still.throw (e : Failure) : Still (MonadExcept.throw e : Forge α) := fun _ => rfl

theorem Still.ite {c : Prop} [Decidable c] {x y : Forge α} (hx : Still x) (hy : Still y) :
    Still (if c then x else y) := by
  split
  · exact hx
  · exact hy

theorem Still.bind {x : Forge α} {f : α → Forge β} (hx : Still x) (hf : ∀ a, Still (f a)) :
    Still (x >>= f) := by
  intro w
  rw [runOn_bind]
  have hx := hx w
  rcases hr : runOn w x with ⟨e | a, w'⟩
  · rwa [hr] at hx
  · rw [hr] at hx
    exact (hf a w').trans hx

theorem Still.forIn {l : List α} {b : β} {f : α → β → Forge (ForInStep β)} (hf : ∀ a b, Still (f a b)) :
    Still (forIn l b f) := by
  induction l generalizing b with
  | nil => exact .pure b
  | cons a l ih =>
    rw [List.forIn_cons]
    refine (hf a b).bind fun r => ?_
    cases r with
    | done b => exact .pure b
    | yield b => exact ih

/-- What an operation that neither fails nor changes the disk gives is passed on. -/
theorem Still.skip {x : Forge α} {f : α → Forge β} (hx : Still x) (ht : Total x) (w : World) :
    ∃ a w', w'.disk = w.disk ∧ runOn w (x >>= f) = runOn w' (f a) := by
  obtain ⟨a, w', h⟩ := ht w
  have hdisk : w'.disk = w.disk := by
    have := hx w
    rwa [h] at this
  exact ⟨a, w', hdisk, runOn_bind_ok h⟩

theorem Still.keeps {x : Forge α} (hx : Still x) : Keeps (On I) x := by
  intro w hw
  rwa [On, hx w]

theorem Keeps.makeDirectories_on {path : String} (h : ∀ d, I d → I (d.makeDirectories path).1) :
    Keeps (On I) (Forge.makeDirectories path) :=
  .makeDirectories fun w hw => h w.disk hw

theorem Keeps.change_on {f : Disk → Except DiskFault Disk} (h : ∀ d d', I d → f d = .ok d' → I d') :
    Keeps (On I) (Forge.change f) :=
  .change fun w d hw hd => h w.disk d hw hd

/-- What comes after an operation that keeps the disk as it must be decides how the two end. -/
theorem Keeps.then_ends {x : Forge α} {f : α → Forge β} (hx : Keeps (On I) x)
    (hf : ∀ a, Ends (On I) (f a) (Ended done' G I)) :
    Ends (On I) (x >>= f) (Ended done' G I) :=
  hx.ends.bind hf fun _ _ h => Ended.error.2 h

theorem Ends.here {f : String → Forge β} {cwd : String} {R : Except Failure β → World → Prop}
    (hcwd : ∀ d, I d → d.hereText = cwd) (hf : Ends (On I) (f cwd) R) :
    Ends (On I) (Forge.here >>= f) R := by
  refine ends_iff.2 fun w hw => ?_
  have htext : "/" ++ "/".intercalate w.disk.here = cwd := hcwd w.disk hw
  rw [runOn_bind_ok (runOn_here w), htext]
  exact ends_iff.1 hf w hw

theorem Ends.give {a : α} (h : ∀ d, I d → if done a then G d else J d) :
    Ends (On I) (Pure.pure a) (Ended done G J) :=
  .pure fun w hw => Ended.ok.2 (h w.disk hw)

theorem Ends.fail {e : Failure} (h : ∀ d, I d → J d) :
    Ends (On I) (MonadExcept.throw e : Forge α) (Ended done G J) :=
  .throw fun w hw => Ended.error.2 (h w.disk hw)

theorem Ends.fail_if {c : Prop} [Decidable c] {e : Failure} {g : β → Forge α} {x : Forge α}
    (hx : ¬ c → Ends (On I) x (Ended done G I)) :
    Ends (On I) (if c then (MonadExcept.throw e : Forge β) >>= g else x) (Ended done G I) := by
  split
  · exact ends_iff.2 fun _ h => Ended.error.2 h
  · rename_i hc
    exact hx hc

theorem Ends.change_on {f : Disk → Except DiskFault Disk} (hok : ∀ d d', I d → f d = .ok d' → G d')
    (herror : ∀ d, I d → J d) : Ends (On I) (Forge.change f) (Ended (fun _ => true) G J) :=
  .change (fun w d hw hd => Ended.ok.2 (hok w.disk d hw hd)) fun w _ hw _ => Ended.error.2 (herror w.disk hw)

/-- An operation that neither fails nor changes the disk is done. -/
theorem Still.ends_total {x : Forge α} (hx : Still x) (ht : Total x) :
    Ends (On G) x (Ended (fun _ => true) G I) := by
  refine ends_iff.2 fun w hw => ?_
  obtain ⟨a, w', hr⟩ := ht w
  have hdisk : w'.disk = w.disk := by
    have := hx w
    rwa [hr] at this
  rw [hr, Ended.ok, if_pos rfl, hdisk]
  exact hw

/-- The value that an operation gives decides what the rest of a sequence finds. -/
theorem Ends.split {x : Forge α} {f : α → Forge β} {K : Disk → Prop}
    (hx : Ends (On I) x (Ended done G J))
    (hdone : ∀ a, done a = true → Ends (On G) (f a) (Ended done' K J))
    (hnot : ∀ a, done a = false → Ends (On J) (f a) (Ended done' K J)) :
    Ends (On I) (x >>= f) (Ended done' K J) := by
  refine hx.bind (fun a => ?_) fun _ _ h => Ended.error.2 (Ended.error.1 h)
  cases ha : done a with
  | true => exact (hdone a ha).of_imp fun w h => by simpa [Ended.ok, ha, On] using h
  | false => exact (hnot a ha).of_imp fun w h => by simpa [Ended.ok, ha, On] using h

/-- Two operations one after the other are done if both are. -/
theorem Ends.then {x : Forge α} {f : α → Forge β} {K : Disk → Prop}
    (hx : Ends (On I) x (Ended (fun _ => true) G J))
    (hf : ∀ a, Ends (On G) (f a) (Ended done' K J)) : Ends (On I) (x >>= f) (Ended done' K J) :=
  hx.split (fun a _ => hf a) nofun

theorem Ends.attempt_on {x : Forge α} {f : Except Failure α → Forge β}
    {R : Except Failure β → World → Prop} (hx : Ends (On I) x (Ended (fun _ => true) G J))
    (hok : ∀ a, Ends (On G) (f (.ok a)) R) (herror : ∀ e, Ends (On J) (f (.error e)) R) :
    Ends (On I) (attempt x >>= f) R :=
  hx.attempt_bind (fun a => (hok a).of_imp fun w h => by simpa [Ended.ok, On] using h)
    fun e => (herror e).of_imp fun w h => Ended.error.1 h

end VariantForge.Forge
