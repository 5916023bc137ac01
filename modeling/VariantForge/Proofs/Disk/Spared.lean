import VariantForge.Proofs.Disk.Tree
import VariantForge.Proofs.Footprint

/-!
# Spared places — what stays as it is where nothing is done

An operation spares what is outside of some places if what was there still is, and nothing came to be there but
directories on the roads to its paths (`Spares`). Each act touches few places, those of its paths or below them,
and a command those that it is told to work on; so what an operation spares follows from its footprint
(`Within.keeps_spares`). Where the roads were there before, nothing else changed at all (`Spares.kept`).
-/

namespace VariantForge.Disk

open Path

/-- Whether what was on a disk still is, but for some places, what is new there are directories on some roads,
and the disk is sound. -/
structure Spares (U N W : Place → Prop) (d d' : Disk) : Prop where
  here : d'.here = d.here
  stays : ∀ q e, ¬ W q → d.get? q = some e → d'.get? q = some e
  new : ∀ q, ¬ W q → d.get? q = none → d'.get? q = none ∨ N q ∧ d'.get? q = some .directory
  sound : Sound U d'

variable {d d' d'' : Disk} {here : Place} {U N W W' : Place → Prop} {ns : List Part} {path : String} {e : Entry}

theorem Spares.refl (hd : Sound U d) : Spares U N W d d := ⟨rfl, fun _ _ _ h => h, fun _ _ h => .inl h, hd⟩

theorem Spares.trans (h : Spares U N W d d') (h' : Spares U N W d' d'') : Spares U N W d d'' where
  here := h'.here.trans h.here
  stays q e hq he := h'.stays q e hq (h.stays q e hq he)
  new q hq hnone := by
    rcases h.new q hq hnone with hnone | ⟨hN, hdir⟩
    · exact h'.new q hq hnone
    · exact .inr ⟨hN, h'.stays q _ hq hdir⟩
  sound := h'.sound

theorem Spares.mono (h : Spares U N W d d') (hW : ∀ q, W q → W' q) : Spares U N W' d d' :=
  ⟨h.here, fun q e hq he => h.stays q e (fun hw => hq (hW q hw)) he,
    fun q hq hnone => h.new q (fun hw => hq (hW q hw)) hnone, h.sound⟩

theorem Kept.spares (h : Kept U W d d') : Spares U N W d d' :=
  ⟨h.here, fun q _ hq he => (h.outside q hq).trans he, fun q hq hnone => .inl ((h.outside q hq).trans hnone), h.sound⟩

/-- What is spared is as it was, if nothing was made there that was not. -/
theorem Spares.get?_eq_of {q : Place} (h : Spares U N W d d') (hW : ¬ W q) (hN : N q → d.get? q ≠ none) :
    d'.get? q = d.get? q := by
  cases he : d.get? q with
  | some e => exact h.stays q e hW he
  | none => exact (h.new q hW he).resolve_right fun hn => hN hn.1 he

/-- What is spared and lies on no road is as it was. -/
theorem Spares.get?_eq {q : Place} (h : Spares U N W d d') (hW : ¬ W q) (hN : ¬ N q) : d'.get? q = d.get? q :=
  h.get?_eq_of hW fun hn => absurd hn hN

/-- A file that is spared was there before. -/
theorem Spares.get?_file {q : Place} {bytes : ByteArray} {mode : Nat} (h : Spares U N W d d') (hW : ¬ W q)
    (hq : d'.get? q = some (.file bytes mode)) : d.get? q = some (.file bytes mode) := by
  cases he : d.get? q with
  | some e => exact (h.stays q e hW he).symm.trans hq
  | none =>
    rcases h.new q hW he with hnone | ⟨-, hdir⟩
    · cases hnone.symm.trans hq
    · cases hdir.symm.trans hq

/-- Where all roads are directories, none is made. -/
theorem Spares.kept (h : Spares U N W d d') (hN : ∀ q, N q → d.get? q = some .directory) : Kept U W d d' where
  here := h.here
  outside q hq := by
    cases he : d.get? q with
    | some e => exact h.stays q e hq he
    | none =>
      rcases h.new q hq he with hnone | ⟨hroad, -⟩
      · exact hnone
      · rw [hN q hroad] at he
        cases he
  sound := h.sound

/-- Making directories spares everything but the way to the last of them. -/
theorem makeDirectories_spares (hns : ∀ q ∈ ns, IsName q) (hd : Sound U d) (ho : Open U (absolute ns))
    (hN : ∀ q, q <+: ns.map shownPart → N q ∨ W q) : Spares U N W d (d.makeDirectories (absolute ns)).1 := by
  refine makeDirectories_keeps (OnWay ns) (fun _ => OnWay.above hns) ?_ (.refl hd)
    (.inr ⟨ns, List.prefix_refl ns, rfl⟩)
  rintro d₁ path made hd₁ (rfl | ⟨ps, hps, rfl⟩) hmade
  · cases hmade
  have hnames : ∀ q ∈ ps, IsName q := fun q hq => hns q (hps.subset hq)
  have hops : Open U (absolute ps) := ho.above hns hps
  have hplace : placeOf (absolute ps) = ps.map shownPart := (through_absolute hnames).placeOf_eq
  have hdir : made.get? (placeOf (absolute ps)) = some .directory := by
    obtain ⟨hne, -, -, rfl⟩ := hd₁.sound.makeDirectory_eq hops hmade
    exact get?_put_self hne
  have hmade := hd₁.sound.makeDirectory hops hmade
  refine hd₁.trans ⟨hmade.here, fun q e _ he => ?_, fun q hq hnone => ?_, hmade.sound⟩
  · -- only where there was nothing there is something new
    rw [hmade.outside q fun hq => by simp [hq.2] at he]
    exact he
  · by_cases heq : q = placeOf (absolute ps)
    · rw [heq]
      refine .inr ⟨(hN _ (hplace ▸ hps.map shownPart)).resolve_right (heq ▸ hq), hdir⟩
    · exact .inl ((hmade.outside q fun h => heq h.1).trans hnone)

theorem Sound.makeDirectories (hd : Sound U d) (hns : ∀ q ∈ ns, IsName q) (ho : Open U (absolute ns)) :
    Sound U (d.makeDirectories (absolute ns)).1 :=
  (makeDirectories_spares (N := (· <+: ns.map shownPart)) (W := fun _ => False) hns hd ho fun _ => .inl).sound

/-! ## Looking -/

/-- Whether a path or one of its names is too long. -/
def Overlong (path : String) : Prop := isLongPath path = true ∨ ∃ n ∈ names path, isLongName n = true

instance : DecidablePred Overlong := fun path =>
  inferInstanceAs (Decidable (isLongPath path = true ∨ ∃ n ∈ names path, isLongName n = true))

/-- What names lead to in a tree without links on the way. -/
theorem leg_tree {ns : List String} (hns : ∀ n ∈ ns, IsStep n) (hd : d.Tree) (hc : Clear d (here ++ ns))
    (hlong : ∀ n ∈ ns, isLongName n = false) (he : d.get? (here ++ ns) = some e) :
    d.leg true here ns = .arrived (here ++ ns) := by
  induction ns generalizing here with
  | nil => rw [leg, List.append_nil]
  | cons n rest ih =>
    rw [List.append_cons] at hc he ⊢
    rw [leg_step (hns n (by simp)), if_neg (by simp [hlong n (by simp)])]
    by_cases hrest : rest = []
    · subst hrest
      rw [List.append_nil] at hc he ⊢
      rw [he]
      cases e with
      | file bytes mode => rfl
      | directory =>
        dsimp only
        rw [leg]
      | link target => exact absurd he (hc _ (List.prefix_refl _) target)
    · have hdir : d.get? (here ++ [n]) = some .directory :=
        hd.directory (by rw [he]; exact fun h => by cases h) (List.prefix_append _ rest) (by simpa using Ne.symm hrest)
      rw [hdir]
      exact ih (fun m hm => hns m (by simp [hm])) hc (fun m hm => hlong m (by simp [hm])) he

/-- A walk that gets to its end has met no name that is too long. -/
theorem leg_short {follow : Bool} {ns : List String} {p : Place} (hns : ∀ n ∈ ns, n = "" ∨ IsStep n)
    (h : d.leg follow here ns = .arrived p) : ∀ n ∈ ns, isLongName n = false := by
  induction ns generalizing here with
  | nil => simp
  | cons n rest ih =>
    have hrest : ∀ m ∈ rest, m = "" ∨ IsStep m := fun m hm => hns m (List.mem_cons_of_mem _ hm)
    rcases hns n (List.mem_cons_self ..) with rfl | hn
    · rw [leg_blank (.inl rfl)] at h
      exact List.forall_mem_cons.2 ⟨by decide, ih hrest h⟩
    rw [leg_step hn] at h
    split at h
    · cases h
    rename_i hshort
    have hempty {l : List String} (hl : l.isEmpty = true) : ∀ m ∈ l, isLongName m = false := by
      simp [List.isEmpty_iff.1 hl]
    refine List.forall_mem_cons.2 ⟨by simpa using hshort, ?_⟩
    split at h
    · split at h
      · exact hempty ‹_›
      · cases h
    · exact ih hrest h
    · split at h
      · exact hempty ‹_›
      · cases h
    · split at h
      · rename_i hl
        exact hempty (by simp_all)
      · cases h

theorem not_overlong {follow : Bool} {p : Place} (hs : Straight path) (hc : Clear d (placeOf path))
    (h : d.walkPath follow path = .ok p) : ¬ Overlong path := by
  rw [walkPath, hs.root, if_pos rfl] at h
  split at h
  · cases h
  split at h
  · cases h
  rename_i hpath
  rw [← nil_append_placeOf] at hc
  rcases walk_ok h with hleg | ⟨_, _, _, _, _, hleg, _⟩
  · rintro (hlong | ⟨n, hn, hlong⟩)
    · exact hpath hlong
    · rw [leg_short hs.steps hleg n hn] at hlong
      cases hlong
  · rcases leg_straight follow hs.steps hc with hs | ⟨r, hs⟩ <;>
      · rw [hs] at hleg
        cases hleg

/-- Nothing is written to by a path that ends in a slash. -/
theorem locateFile_absolute {p : Place} (hpath : Through path ns) (h : d.locateFile path = .ok p) :
    path = absolute ns := by
  rcases hpath.text with htext | ⟨-, htext⟩
  · exact htext
  · have hslash : endsInSlash path = true := by
      rw [endsInSlash, htext, List.getLast?_concat]
      rfl
    rw [not_endsInSlash_of_locateFile h] at hslash
    cases hslash

/-- A path that is open leads to what is at its place. -/
theorem Sound.look?_eq (hd : Sound U d) (hns : ∀ q ∈ ns, IsName q) (hne : ns ≠ []) (ho : Open U (absolute ns)) :
    d.look? (absolute ns) = if Overlong (absolute ns) then none else d.get? (placeOf (absolute ns)) := by
  have hplace : placeOf (absolute ns) = ns.map shownPart := (through_absolute hns).placeOf_eq
  have hlook {p : Place} (hp : d.locate (absolute ns) = .ok p) :
      ¬ Overlong (absolute ns) ∧ p = placeOf (absolute ns) :=
    ⟨not_overlong ho.straight (ho.clear hd) hp, walkPath_straight ho.straight (ho.clear hd) hp⟩
  rw [look?]
  cases hp : d.locate (absolute ns) with
  | ok p =>
    obtain ⟨hshort, rfl⟩ := hlook hp
    rw [if_neg hshort]
  | error r =>
    dsimp only
    by_cases hshort : Overlong (absolute ns)
    · rw [if_pos hshort]
    rw [if_neg hshort]
    cases he : d.get? (placeOf (absolute ns)) with
    | none => rfl
    | some e =>
      -- then the walk gets there
      rw [Overlong, not_or, not_exists] at hshort
      have hnames := names_absolute (fun q hq => (hns q hq).no_slash) hne
      have hleg : d.leg true [] (ns.map shownPart) = .arrived ([] ++ ns.map shownPart) := by
        refine leg_tree (e := e) (fun n hn => ?_) hd.tree (hplace ▸ ho.clear hd) (fun n hn => ?_) (hplace ▸ he)
        · obtain ⟨q, hq, rfl⟩ := List.mem_map.1 hn
          exact isStep_shownPart (hns q hq)
        · have := hshort.2 n
          rw [hnames] at this
          simpa [hn] using this
      have hempty : (absolute ns).isEmpty = false := by simp [absolute, ← String.toList_inj]
      have hroot : fromRoot (absolute ns) = true := isAbsolute_absolute ns
      rw [locate, walkPath, hempty, if_neg (by simp), if_neg hshort.1, hroot, if_pos rfl, hnames,
        walk_of_arrived (p := [] ++ ns.map shownPart) _ (by rw [leg_blank (.inl rfl)]; exact hleg)] at hp
      cases hp

theorem Sound.look?_iff (hd : Sound U d) (hns : ∀ q ∈ ns, IsName q) (hne : ns ≠ []) (ho : Open U (absolute ns)) :
    d.look? (absolute ns) = some e ↔ ¬ Overlong (absolute ns) ∧ d.get? (placeOf (absolute ns)) = some e := by
  rw [hd.look?_eq hns hne ho]
  split <;> simp [*]

theorem Spares.look? (h : Spares U N W d d') (hd : Sound U d) (hns : ∀ q ∈ ns, IsName q) (hne : ns ≠ [])
    (ho : Open U (absolute ns)) (hW : ¬ W (placeOf (absolute ns))) (he : d.look? (absolute ns) = some e) :
    d'.look? (absolute ns) = some e := by
  obtain ⟨hshort, he⟩ := (hd.look?_iff hns hne ho).1 he
  exact (h.sound.look?_iff hns hne ho).2 ⟨hshort, h.stays _ _ hW he⟩

end VariantForge.Disk

namespace VariantForge

open Disk Path

/-- The places that a command is told to work on: its directory and its log, or what its last argument
names if it is run in no directory of its own. -/
def Command.Reaches (c : Command) (q : Place) : Prop :=
  (∃ dir, c.directory = some dir ∧ placeOf dir <+: q) ∨ (∃ log, c.logFile = some log ∧ q = placeOf log) ∨
    c.directory = none ∧ ∃ file, c.arguments.getLast? = some file ∧ placeOf file <+: q

namespace Forge

/-- The places that an act may change. -/
def Act.Touches : Act → Place → Prop
  | .makeDirectories _, _ => False
  | .write path, q => q = placeOf path
  | .copy _ target, q => q = placeOf target
  | .rename source target, q => placeOf source <+: q ∨ placeOf target <+: q
  | .removeFile path, q => q = placeOf path
  | .removeAll path, q => placeOf path <+: q
  | .run c, q => c.Reaches q

/-- The places of the directories that an act may make. -/
def Act.Makes : Act → Place → Prop
  | .makeDirectories path, q => q <+: placeOf path
  | _, _ => False

/-- Whether there are no links on the ways of an act. What is moved may hold some, so none of the places
that are free of them may lie below where it goes. -/
def Act.Opens (U : Place → Prop) : Act → Prop
  | .makeDirectories path => ∃ ns, (∀ q ∈ ns, IsName q) ∧ path = absolute ns ∧ Open U path
  | .write path => Open U path
  | .copy _ target => Open U target
  | .rename source target => Open U source ∧ Open U target ∧
      (¬ placeOf target <+: placeOf source → ∀ q, U q → placeOf target <+: q → q = placeOf target)
  | .removeFile path => Open U path
  | .removeAll path => Open U path
  | .run _ => True

variable {α : Type} {o : Outside} {acts : Act → Prop} {x : Forge α} {U N W : Place → Prop}

theorem Act.Does.spares {a : Act} {d d' : Disk} (h : a.Does d d') (ho : a.Opens U) (hd : Sound U d)
    (hW : ∀ q, a.Touches q → W q) (hN : ∀ q, a.Makes q → N q ∨ W q) : Spares U N W d d' := by
  cases h with
  | makeDirectories path d =>
    obtain ⟨ns, hns, rfl, ho⟩ := ho
    refine makeDirectories_spares hns hd ho fun q hq => hN q ?_
    rwa [Act.Makes, (through_absolute hns).placeOf_eq]
  | write h => exact (write_kept hd ho h).spares.mono hW
  | copy h => exact (copy_kept hd ho h).spares.mono hW
  | rename h => exact (rename_kept hd ho.1 ho.2.1 ho.2.2 h).spares.mono hW
  | removeFile h => exact (removeFile_kept hd ho h).spares.mono hW
  | removeAll h => exact (removeAll_kept hd ho h).spares.mono hW

/-- Whether commands leave the disk sound and change it only where they are told to work. -/
def Minds (o : Outside) (U : Place → Prop) : Prop :=
  ∀ w c, Sound U w.disk → Kept U c.Reaches w.disk (o.run w c).disk

/-- Whether an act goes ways without links, changes only some places, and makes directories only there or on
some roads. -/
structure Act.Stays (U N W : Place → Prop) (a : Act) : Prop where
  opens : a.Opens U
  touches : ∀ q, a.Touches q → W q
  makes : ∀ q, a.Makes q → N q ∨ W q

theorem Act.Stays.mono {N' W' : Place → Prop} {a : Act} (h : a.Stays U N W) (hN : ∀ q, N q → N' q)
    (hW : ∀ q, W q → W' q) : a.Stays U N' W' :=
  ⟨h.opens, fun q hq => hW q (h.touches q hq), fun q hq => (h.makes q hq).imp (hN q) (hW q)⟩

/-- What an operation does not touch by its footprint it spares. -/
theorem Within.keeps_spares (hx : Within o acts x)
    (hrun : ∀ w c, acts (.run c) → Sound U w.disk → Kept U c.Reaches w.disk (o.run w c).disk)
    (h : ∀ a, acts a → a.Stays U N W) (d : Disk) : Keeps (fun w => Spares U N W d w.disk) x := by
  refine hx.keeps fun w₁ w₂ hs h₁ => ?_
  cases hs with
  | noted w e he => exact h₁
  | clocked w => exact h₁
  | changed ha hdoes =>
    exact h₁.trans (hdoes.spares (h _ ha).opens h₁.sound (h _ ha).touches (h _ ha).makes)
  | ran ha w => exact h₁.trans ((hrun _ _ ha h₁.sound).spares.mono (h _ ha).touches)

end Forge

end VariantForge
