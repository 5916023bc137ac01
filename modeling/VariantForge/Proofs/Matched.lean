import VariantForge.Proofs.Disk.Twin
import VariantForge.Proofs.Execution

/-!
# Matched operations — what cannot tell two worlds apart

Two operations are matched if, in related worlds, they fail in the same way or end with related
values, and leave related worlds however they end. Matching passes through sequences, so it is shown
once for each primitive. Where it takes the good end of one step to relate the worlds of the next,
the step `Leads` there.
-/

namespace VariantForge.Forge

open Disk

/-- Whether two operations take worlds related by `R` to worlds related by `S`, and end with values
related by `E` or with the same failure. -/
def Matched {α : Type} (R S : World → World → Prop) (E : α → α → Prop) (x x' : Forge α) : Prop :=
  ∀ w w', R w w' → Both E (runOn w x).1 (runOn w' x').1 ∧ S (runOn w x).2 (runOn w' x').2

/-- Whether an operation takes worlds related by `R` to the same failure or to the same value and
worlds related by `S`. -/
def Leads {α : Type} (R S : World → World → Prop) (x : Forge α) : Prop :=
  ∀ w w', R w w' →
    (∃ a w₁ w₁', runOn w x = (.ok a, w₁) ∧ runOn w' x = (.ok a, w₁') ∧ S w₁ w₁') ∨
      ∃ f w₁ w₁', runOn w x = (.error f, w₁) ∧ runOn w' x = (.error f, w₁')

/-- Worlds of runs that are not cancelled, whose disks are related. -/
structure Live (Q : Disk → Disk → Prop) (w w' : World) : Prop where
  disks : Q w.disk w'.disk
  live : w.cancelled = false
  live' : w'.cancelled = false

variable {α β : Type} {R S T : World → World → Prop} {E : α → α → Prop} {F : β → β → Prop}
  {Q Q' : Disk → Disk → Prop} {w w' : World}

/-! ## Sequences -/

theorem Matched.mono {R' S' : World → World → Prop} {E' : α → α → Prop} {x x' : Forge α}
    (h : Matched R S E x x') (hR : ∀ w w', R' w w' → R w w') (hS : ∀ w w', S w w' → S' w w')
    (hE : ∀ a a', E a a' → E' a a') : Matched R' S' E' x x' := by
  intro w w' hw
  obtain ⟨hr, hs⟩ := h w w' (hR w w' hw)
  exact ⟨hr.mono hE, hS _ _ hs⟩

/-- What matched operations give when both end well. -/
theorem Matched.of_ok {x x' : Forge α} (h : Matched R S E x x') (hw : R w w') {a a' : α} {w₁ w₁' : World}
    (hx : runOn w x = (.ok a, w₁)) (hx' : runOn w' x' = (.ok a', w₁')) : E a a' ∧ S w₁ w₁' := by
  obtain ⟨hr, hs⟩ := h w w' hw
  rw [hx, hx'] at hr hs
  cases hr with
  | ok he => exact ⟨he, hs⟩

theorem Matched.pure {a a' : α} (h : E a a') : Matched R R E (pure a) (pure a') :=
  fun _ _ hw => ⟨.ok h, hw⟩

theorem Matched.throw (f : Failure) : Matched R R E (throw f) (throw f) :=
  fun _ _ hw => ⟨.error f, hw⟩

theorem Matched.bind {x x' : Forge α} {g g' : α → Forge β} (hx : Matched R S E x x')
    (hg : ∀ a a', E a a' → Matched S T F (g a) (g' a')) (hst : ∀ w w', S w w' → T w w') :
    Matched R T F (x >>= g) (x' >>= g') := by
  intro w w' hw
  obtain ⟨hr, hs⟩ := hx w w' hw
  rw [runOn_bind, runOn_bind]
  rcases h : runOn w x with ⟨r, w₁⟩
  rcases h' : runOn w' x' with ⟨r', w₁'⟩
  rw [h, h'] at hr hs
  rcases hr.cases with ⟨a, a', rfl, rfl, ha⟩ | ⟨f, rfl, rfl⟩
  · exact hg a a' ha w₁ w₁' hs
  · exact ⟨.error f, hst _ _ hs⟩

/-- A sequence whose first part gives the same on both sides. -/
theorem Matched.then {x : Forge α} {g g' : α → Forge β} (hx : Matched R R Eq x x)
    (hg : ∀ a, Matched R R F (g a) (g' a)) : Matched R R F (x >>= g) (x >>= g') := by
  refine hx.bind (fun a a' ha => ?_) fun _ _ h => h
  subst ha
  exact hg a

theorem Matched.attempt {x x' : Forge α} (hx : Matched R S E x x') :
    Matched R S (Both E) (attempt x) (attempt x') := by
  intro w w' hw
  rw [runOn_attempt, runOn_attempt]
  obtain ⟨hr, hs⟩ := hx w w' hw
  exact ⟨.ok hr, hs⟩

theorem Matched.tryCatch {x x' : Forge α} {g : Failure → Forge α} (hx : Matched R S E x x')
    (hg : ∀ f, Matched S S E (g f) (g f)) : Matched R S E (tryCatch x g) (tryCatch x' g) := by
  intro w w' hw
  obtain ⟨hr, hs⟩ := hx w w' hw
  rw [runOn_tryCatch, runOn_tryCatch]
  rcases h : runOn w x with ⟨r, w₁⟩
  rcases h' : runOn w' x' with ⟨r', w₁'⟩
  rw [h, h'] at hr hs
  rcases hr.cases with ⟨a, a', rfl, rfl, ha⟩ | ⟨f, rfl, rfl⟩
  · exact ⟨.ok ha, hs⟩
  · exact hg f w₁ w₁' hs

theorem Matched.finally {x x' : Forge α} {last : Forge Unit} (hx : Matched R S E x x')
    (hl : Matched S S Eq last last) : Matched R S E (finally_ x last) (finally_ x' last) := by
  intro w w' hw
  obtain ⟨hr, hs⟩ := hx w w' hw
  obtain ⟨hlast, hs⟩ := hl _ _ hs
  rw [runOn_finally, runOn_finally]
  rcases h : runOn (runOn w x).2 last with ⟨r, w₁⟩
  rcases h' : runOn (runOn w' x').2 last with ⟨r', w₁'⟩
  rw [h, h'] at hlast hs
  rcases hlast.cases with ⟨a, a', rfl, rfl, -⟩ | ⟨f, rfl, rfl⟩
  · exact ⟨hr, hs⟩
  · exact ⟨.error f, hs⟩

theorem Matched.ite {c : Prop} [Decidable c] {x x' y y' : Forge α} (hx : Matched R S E x x')
    (hy : Matched R S E y y') : Matched R S E (if c then x else y) (if c then x' else y') := by
  split
  · exact hx
  · exact hy

/-- What comes after a failure is never reached. -/
theorem Matched.ite_throw {c : Prop} [Decidable c] {f : Failure} {g g' : α → Forge β} {x x' : Forge β}
    (hx : Matched R S F x x') (hRS : ∀ w w', R w w' → S w w') :
    Matched R S F (if c then (MonadExcept.throw f : Forge α) >>= g else x)
      (if c then (MonadExcept.throw f : Forge α) >>= g' else x') :=
  .ite (fun w w' hw => ⟨.error f, hRS w w' hw⟩) hx

theorem Matched.forIn {l : List α} {b : β} {f : α → β → Forge (ForInStep β)}
    (hf : ∀ a b, Matched R R Eq (f a b) (f a b)) : Matched R R Eq (forIn l b f) (forIn l b f) := by
  induction l generalizing b with
  | nil => exact .pure rfl
  | cons a l ih =>
    rw [List.forIn_cons]
    refine (hf a b).then fun r => ?_
    cases r with
    | done b => exact .pure rfl
    | yield b => exact ih

theorem Matched.mapM {l : List α} {f f' : α → Forge β} (hf : ∀ a ∈ l, Matched R R F (f a) (f' a)) :
    Matched R R (List.Forall₂ F) (l.mapM f) (l.mapM f') := by
  induction l with
  | nil => exact .pure .nil
  | cons a l ih =>
    rw [List.mapM_cons, List.mapM_cons]
    refine (hf a (List.mem_cons_self ..)).bind (fun b b' hb => ?_) fun _ _ h => h
    have hrest := ih fun a ha => hf a (List.mem_cons_of_mem _ ha)
    exact hrest.bind (fun bs bs' hbs => .pure (.cons hb hbs)) fun _ _ h => h

/-! ## Primitives -/

theorem Live.mono (h : Live Q w w') (hQ : ∀ d d', Q d d' → Q' d d') : Live Q' w w' := { h with disks := hQ _ _ h.disks }

theorem Live.change (h : Live Q w w') {d d' : Disk} (hd : Q' d d') : Live Q' { w with disk := d } { w' with disk := d' } :=
  { h with disks := hd }

theorem Matched.note (e e' : Event) : Matched (Live Q) (Live Q) Eq (note e) (note e') :=
  fun _ _ hw => ⟨.ok rfl, ⟨hw.disks, hw.live, hw.live'⟩⟩

theorem Matched.log (l : Level) (m : String) (x x' : Option (Members Data)) :
    Matched (Live Q) (Live Q) Eq (log l m x) (log l m x') := .note _ _

theorem Matched.warn (v : Warning) : Matched (Live Q) (Live Q) Eq (warn v) (warn v) :=
  .note _ _

theorem Matched.now (o : Outside) :
    Matched (Live Q) (Live Q) (fun _ _ => True) (now o) (now o) :=
  fun _ _ hw => ⟨.ok trivial, ⟨hw.disks, hw.live, hw.live'⟩⟩

/-- Whether a relation of worlds follows one of their disks, also where those change. -/
structure Over (R : World → World → Prop) (Q : Disk → Disk → Prop) : Prop where
  disks : ∀ {w w'}, R w w' → Q w.disk w'.disk
  onward : ∀ {w w' d d'}, R w w' → Q d d' → R { w with disk := d } { w' with disk := d' }

theorem over_live : Over (Live Q) Q := ⟨Live.disks, fun h hd => h.change hd⟩

theorem over_disks : Over (fun w w' => Q w.disk w'.disk) Q := ⟨id, fun _ h => h⟩

section Over

variable (hR : Over R Q)
include hR

theorem Over.look {f : Disk → α} (h : ∀ d d', Q d d' → f d = f d') : Matched R R Eq (look f) (look f) :=
  fun _ _ hw => ⟨.ok (h _ _ (hR.disks hw)), hw⟩

theorem Over.here (h : ∀ d d', Q d d' → d.here = d'.here) : Matched R R Eq here here :=
  hR.look fun d d' hd => by rw [h d d' hd]

theorem Over.readFile {path : String} {E : ByteArray → ByteArray → Prop}
    (h : ∀ d d', Q d d' → Both E (d.read path) (d'.read path)) :
    Matched R R E (readFile path) (readFile path) := by
  intro w w' hw
  rw [runOn_readFile, runOn_readFile]
  refine ⟨?_, hw⟩
  rcases (h _ _ (hR.disks hw)).cases with ⟨b, b', hb, hb', he⟩ | ⟨f, hb, hb'⟩
  · rw [hb, hb']
    exact .ok he
  · rw [hb, hb']
    exact .error _

theorem Over.change {f f' : Disk → Except DiskFault Disk} (h : ∀ d d', Q d d' → Both Q (f d) (f' d')) :
    Matched R R Eq (change f) (change f') := by
  intro w w' hw
  rw [runOn_change, runOn_change]
  rcases (h _ _ (hR.disks hw)).cases with ⟨d, d', hd, hd', hq⟩ | ⟨e, hd, hd'⟩
  · rw [hd, hd']
    exact ⟨.ok rfl, hR.onward hw hq⟩
  · rw [hd, hd']
    exact ⟨.error _, hw⟩

theorem Over.makeDirectories {path : String}
    (h : ∀ d d', Q d d' → (d.makeDirectories path).2 = (d'.makeDirectories path).2 ∧
      Q (d.makeDirectories path).1 (d'.makeDirectories path).1) :
    Matched R R Eq (makeDirectories path) (makeDirectories path) := by
  intro w w' hw
  obtain ⟨hfault, hq⟩ := h _ _ (hR.disks hw)
  rw [runOn_makeDirectories, runOn_makeDirectories, ← hfault]
  refine ⟨?_, hR.onward hw hq⟩
  cases (w.disk.makeDirectories path).2 with
  | none => exact .ok rfl
  | some f => exact .error _

end Over

theorem Matched.look {f : Disk → α} (h : ∀ d d', Q d d' → f d = f d') :
    Matched (Live Q) (Live Q) Eq (look f) (look f) := over_live.look h

theorem Matched.here (h : ∀ d d', Q d d' → d.here = d'.here) : Matched (Live Q) (Live Q) Eq here here := over_live.here h

theorem Matched.readFile {path : String} {E : ByteArray → ByteArray → Prop}
    (h : ∀ d d', Q d d' → Both E (d.read path) (d'.read path)) :
    Matched (Live Q) (Live Q) E (readFile path) (readFile path) := over_live.readFile h

theorem Matched.change {f f' : Disk → Except DiskFault Disk} (h : ∀ d d', Q d d' → Both Q (f d) (f' d')) :
    Matched (Live Q) (Live Q) Eq (change f) (change f') := over_live.change h

theorem Matched.makeDirectories {path : String}
    (h : ∀ d d', Q d d' → (d.makeDirectories path).2 = (d'.makeDirectories path).2 ∧
      Q (d.makeDirectories path).1 (d'.makeDirectories path).1) :
    Matched (Live Q) (Live Q) Eq (makeDirectories path) (makeDirectories path) := over_live.makeDirectories h

theorem Live.run {o : Outside} (hcancels : ∀ w c, (o.run w c).cancels = false) (h : Live Q w w') {c : Command}
    (hQ : Q' (o.run w c).disk (o.run w' c).disk) : Live Q' (afterRun o w c) (afterRun o w' c) where
  disks := hQ
  live := by simp [afterRun, h.live, hcancels]
  live' := by simp [afterRun, h.live', hcancels]

theorem Matched.run {o : Outside} {c : Command} (hcancels : ∀ w c, (o.run w c).cancels = false)
    (h : ∀ w w', Live Q w w' →
      (o.run w c).result = (o.run w' c).result ∧ Q (o.run w c).disk (o.run w' c).disk) :
    Matched (Live Q) (Live Q) Eq (run o c) (run o c) := by
  intro w w' hw
  obtain ⟨hresult, hq⟩ := h w w' hw
  rw [runOn_run, runOn_run, ← hresult]
  refine ⟨?_, hw.run hcancels hq⟩
  cases (o.run w c).result with
  | ok r => exact .ok rfl
  | error f => exact .error f

/-! ## Steps that lead on -/

theorem Matched.leads {x : Forge α} (h : Matched R S Eq x x) : Leads R S x := by
  intro w w' hw
  obtain ⟨hr, hs⟩ := h w w' hw
  rcases hx : runOn w x with ⟨r, w₁⟩
  rcases hx' : runOn w' x with ⟨r', w₁'⟩
  rw [hx, hx'] at hr hs
  rcases hr.cases with ⟨a, a', rfl, rfl, rfl⟩ | ⟨f, rfl, rfl⟩
  · exact .inl ⟨a, w₁, w₁', rfl, rfl, hs⟩
  · exact .inr ⟨f, w₁, w₁', rfl, rfl⟩

theorem Leads.bind {x : Forge α} {g : α → Forge β} (hx : Leads R S x) (hg : ∀ a, Leads S T (g a)) :
    Leads R T (x >>= g) := by
  intro w w' hw
  rcases hx w w' hw with ⟨a, w₁, w₁', h, h', hs⟩ | ⟨f, w₁, w₁', h, h'⟩
  · rw [runOn_bind_ok h, runOn_bind_ok h']
    exact hg a w₁ w₁' hs
  · rw [runOn_bind_error h, runOn_bind_error h']
    exact .inr ⟨f, w₁, w₁', rfl, rfl⟩

/-- A change leads to what its good ends have in common. -/
theorem Leads.change {f : Disk → Except DiskFault Disk} (h : ∀ d d', Q d d' → Both Q' (f d) (f d')) :
    Leads (Live Q) (Live Q') (change f) := by
  intro w w' hw
  rw [runOn_change, runOn_change]
  rcases (h _ _ hw.disks).cases with ⟨d, d', hd, hd', hs⟩ | ⟨e, hd, hd'⟩
  · rw [hd, hd']
    exact .inl ⟨_, _, _, rfl, rfl, hw.change hs⟩
  · rw [hd, hd']
    exact .inr ⟨_, _, _, rfl, rfl⟩

end VariantForge.Forge
