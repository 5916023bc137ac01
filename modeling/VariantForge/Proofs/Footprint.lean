import Mathlib.Logic.Relation
import VariantForge.Proofs.Execution

/-!
# Footprint — what an operation may do to a world

A world goes from state to state in small steps: the journal grows, the clock is read, or one act is
done to the disk, by the forge itself or by a command it has run. An operation is `Within` some
acts if it takes every world only through steps with those acts. Whatever each of these steps
preserves the operation preserves, so footprints are found once and serve every invariant.
-/

namespace VariantForge.Forge

/-- Something that is done to the disk, with the paths that it names. -/
inductive Act where
  | makeDirectories (path : String)
  | write (path : String)
  | copy (source target : String)
  | rename (source target : String)
  | removeFile (path : String)
  | removeAll (path : String)
  | run (c : Command)

/-- How an act of the forge itself changes the disk. -/
inductive Act.Does : Act → Disk → Disk → Prop where
  | makeDirectories (path : String) (d : Disk) : Does (.makeDirectories path) d (d.makeDirectories path).1
  | write {path : String} {bytes : ByteArray} {d d' : Disk} (h : d.write path bytes = .ok d') :
      Does (.write path) d d'
  | copy {source target : String} {d d' : Disk} (h : d.copy source target = .ok d') :
      Does (.copy source target) d d'
  | rename {source target : String} {d d' : Disk} (h : d.rename source target = .ok d') :
      Does (.rename source target) d d'
  | removeFile {path : String} {d d' : Disk} (h : d.removeFile path = .ok d') :
      Does (.removeFile path) d d'
  | removeAll {path : String} {d d' : Disk} (h : d.removeAll path = .ok d') :
      Does (.removeAll path) d d'

/-- One step of a world in which only some acts may be done. -/
inductive Step (o : Outside) (acts : Act → Prop) : World → World → Prop where
  | noted (w : World) (e : Event) (he : ∀ c, e ≠ .ran c) :
      Step o acts w { w with journal := w.journal ++ [e] }
  | clocked (w : World) : Step o acts w { w with readings := w.readings + 1 }
  | changed {w : World} {a : Act} {d : Disk} (h : acts a) (hd : a.Does w.disk d) :
      Step o acts w { w with disk := d }
  | ran {c : Command} (h : acts (.run c)) (w : World) : Step o acts w (afterRun o w c)

/-- Whether an operation takes every world only through steps with some acts, however it ends. -/
def Within (o : Outside) (acts : Act → Prop) (x : Forge α) : Prop :=
  ∀ w₀, Keeps (Relation.ReflTransGen (Step o acts) w₀) x

variable {α β : Type} {o : Outside} {acts acts' : Act → Prop} {x : Forge α}

theorem Within.reaches (h : Within o acts x) (w : World) :
    Relation.ReflTransGen (Step o acts) w (runOn w x).2 :=
  h w w .refl

/-- What every step preserves an operation preserves. -/
theorem Within.keeps (h : Within o acts x) {I : World → Prop}
    (hstep : ∀ w w', Step o acts w w' → I w → I w') : Keeps I x := by
  intro w hw
  have hr := h.reaches w
  generalize (runOn w x).2 = w' at hr
  induction hr with
  | refl => exact hw
  | tail _ hs ih => exact hstep _ _ hs ih

/-- What may do no act leaves the disk as it is. -/
theorem Within.disk_eq (h : Within o (fun _ => False) x) (w : World) : (runOn w x).2.disk = w.disk := by
  refine h.keeps (I := fun w' => w'.disk = w.disk) (fun w₁ w₂ hs h₁ => ?_) w rfl
  cases hs with
  | noted w e he => exact h₁
  | clocked w => exact h₁
  | changed ha hd => exact ha.elim
  | ran ha w => exact ha.elim

theorem Step.mono (h : ∀ a, acts a → acts' a) {w w' : World} (hs : Step o acts w w') :
    Step o acts' w w' := by
  cases hs with
  | noted w e he => exact .noted w e he
  | clocked w => exact .clocked w
  | changed ha hd => exact .changed (h _ ha) hd
  | ran ha w => exact .ran (h _ ha) w

/-- Of the steps of a footprint only a command may cancel the run. -/
theorem Step.live (hrun : ∀ w c, (o.run w c).cancels = false) {w w' : World}
    (hs : Step o acts w w') (hw : w.cancelled = false) : w'.cancelled = false := by
  cases hs with
  | noted w e he => exact hw
  | clocked w => exact hw
  | changed ha hd => exact hw
  | ran ha w => simp [afterRun, hw, hrun]

theorem Within.mono (hx : Within o acts x) (h : ∀ a, acts a → acts' a) : Within o acts' x :=
  fun _ => hx.keeps fun _ _ hs hw => hw.tail (hs.mono h)

/-! ## Sequences -/

theorem Within.pure (a : α) : Within o acts (pure a) := fun _ => .pure a

theorem Within.throw (f : Failure) : Within o acts (throw f : Forge α) := fun _ => .throw f

theorem Within.bind {f : α → Forge β} (hx : Within o acts x) (hf : ∀ a, Within o acts (f a)) :
    Within o acts (x >>= f) :=
  fun w => (hx w).bind fun a => hf a w

theorem Within.tryCatch {f : Failure → Forge α} (hx : Within o acts x)
    (hf : ∀ e, Within o acts (f e)) : Within o acts (tryCatch x f) :=
  fun w => (hx w).tryCatch fun e => hf e w

theorem Within.attempt (hx : Within o acts x) : Within o acts (attempt x) := fun w => (hx w).attempt

theorem Within.finally {last : Forge Unit} (hx : Within o acts x) (hl : Within o acts last) :
    Within o acts (finally_ x last) :=
  fun w => (hx w).finally (hl w)

theorem Within.ite {c : Prop} [Decidable c] {y : Forge α} (hx : Within o acts x)
    (hy : Within o acts y) : Within o acts (if c then x else y) :=
  fun w => (hx w).ite (hy w)

theorem Within.forIn {l : List α} {b : β} {f : α → β → Forge (ForInStep β)}
    (hf : ∀ a b, Within o acts (f a b)) : Within o acts (forIn l b f) := by
  induction l generalizing b with
  | nil => exact .pure b
  | cons a l ih =>
    rw [List.forIn_cons]
    refine (hf a b).bind fun r => ?_
    cases r with
    | done b => exact .pure b
    | yield b => exact ih

theorem Within.mapM {l : List α} {f : α → Forge β} (hf : ∀ a, Within o acts (f a)) :
    Within o acts (l.mapM f) := by
  induction l with
  | nil => exact .pure []
  | cons a l ih =>
    rw [List.mapM_cons]
    exact (hf a).bind fun b => ih.bind fun bs => .pure (b :: bs)

/-! ## Single steps -/

theorem Within.of_step (h : ∀ w, Step o acts w (runOn w x).2) : Within o acts x :=
  fun _ w hw => hw.tail (h w)

theorem Within.of_still (h : ∀ w, (runOn w x).2 = w) : Within o acts x := by
  intro w₀ w hw
  rwa [h w]

theorem Within.log (l : Level) (m : String) (e : Option (Members Data)) : Within o acts (log l m e) :=
  .of_step fun w => .noted w _ nofun

theorem Within.warn (v : Warning) : Within o acts (warn v) :=
  .of_step fun w => .noted w _ nofun

theorem Within.get : Within o acts get := .of_still fun _ => rfl

theorem Within.look (f : Disk → α) : Within o acts (look f) := .of_still fun _ => rfl

theorem Within.here : Within o acts here := .of_still fun _ => rfl

theorem Within.now (o' : Outside) : Within o acts (now o') := .of_step fun w => .clocked w

theorem Within.readFile (path : String) : Within o acts (readFile path) :=
  .of_still fun w => by rw [runOn_readFile]

theorem Within.run {c : Command} (h : acts (.run c)) : Within o acts (run o c) :=
  .of_step fun w => by
    rw [runOn_run]
    exact .ran h w

theorem Within.makeDirectories {path : String} (h : acts (.makeDirectories path)) :
    Within o acts (makeDirectories path) :=
  .of_step fun w => by
    rw [runOn_makeDirectories]
    exact .changed h (.makeDirectories path w.disk)

theorem Within.change {f : Disk → Except DiskFault Disk} {a : Act} (h : acts a)
    (hf : ∀ {d d'}, f d = .ok d' → a.Does d d') : Within o acts (change f) := by
  intro w₀ w hw
  rw [runOn_change]
  cases hd : f w.disk with
  | error e => exact hw
  | ok d => exact hw.tail (.changed h (hf hd))

theorem Within.writeText {path text : String} (h : acts (.write path)) :
    Within o acts (writeText path text) :=
  .change h .write

end VariantForge.Forge
