import VariantForge.Proofs.Disk.Names
import VariantForge.Proofs.Disk.Operations

/-!
# Directories — what is made on the way to a directory

Making a directory and those above it only adds directories where there was nothing (`Adds`), and
where it succeeds the path leads to a directory.
-/

namespace VariantForge.Disk

open Path

/-- Whether directories were added to a disk, at places in `S`, and nothing else was changed. -/
structure Adds (S : Place → Prop) (d d' : Disk) : Prop where
  here : d'.here = d.here
  added : ∀ p, d'.get? p = d.get? p ∨ S p ∧ d.get? p = none ∧ d'.get? p = some .directory

variable {S : Place → Prop} {d d' d'' : Disk} {path : String}

theorem Adds.refl (S : Place → Prop) (d : Disk) : Adds S d d := ⟨rfl, fun _ => .inl rfl⟩

theorem Adds.trans (h : Adds S d d') (h' : Adds S d' d'') : Adds S d d'' := by
  refine ⟨h'.here.trans h.here, fun p => ?_⟩
  rcases h'.added p with h₂ | ⟨hs, hnone, hdir⟩
  · rw [h₂]
    exact h.added p
  · rcases h.added p with h₁ | ⟨_, _, h₁⟩
    · exact .inr ⟨hs, h₁ ▸ hnone, hdir⟩
    · rw [h₁] at hnone
      cases hnone

theorem Adds.keeps (h : Adds S d d') {p : Place} {e : Entry} (hp : d.get? p = some e) :
    d'.get? p = some e := by
  rcases h.added p with h | ⟨_, hnone, _⟩
  · rw [h, hp]
  · rw [hnone] at hp
    cases hp

theorem Adds.grows (h : Adds S d d') : Grows d d' := by
  refine ⟨h.here, fun p e he _ => h.keeps he, fun p hp => ?_⟩
  cases he : d.get? p with
  | none => simp [he] at hp
  | some e => rwa [h.keeps he, ← he]

theorem Adds.link (h : Adds S d d') {p : Place} {target : String}
    (hp : d'.get? p = some (.link target)) : d.get? p = some (.link target) := by
  rcases h.added p with h | ⟨_, _, hdir⟩
  · rw [← h, hp]
  · rw [hdir] at hp
    cases hp

theorem Adds.put {p : Place} (hp : d.get? p = none) (hs : S p) : Adds S d (d.put p .directory) := by
  have hne : p ≠ [] := by
    rintro rfl
    cases hp
  refine ⟨rfl, fun q => ?_⟩
  rw [get?_put hne]
  split
  · rename_i h
    subst h
    exact .inr ⟨hs, hp, rfl⟩
  · exact .inl rfl

/-! ## Upward -/

theorem pathAbove_absolute {ns : List Part} {q : Part} (hq : '/' ∉ q) :
    pathAbove (absolute (ns ++ [q])) = if ns = [] then "" else absolute ns := by
  rw [pathAbove, dropWhile_absolute_append ns hq]
  simp only [List.reverse_reverse, bareAbsolute]
  split <;> rfl

/-- The paths that lead up from an absolute one. -/
def OnWay (ns : List Part) (path : String) : Prop := path = "" ∨ ∃ ps, ps <+: ns ∧ path = absolute ps

theorem OnWay.above {ns : List Part} (hns : ∀ q ∈ ns, IsName q) (h : OnWay ns path) :
    OnWay ns (pathAbove path) := by
  rcases h with rfl | ⟨ps, hps, rfl⟩
  · exact .inl rfl
  · induction ps using List.reverseRecOn with
    | nil => exact .inl rfl
    | append_singleton ps q _ =>
      rw [pathAbove_absolute (hns q (hps.subset (by simp))).no_slash]
      split
      · exact .inl rfl
      · exact .inr ⟨ps, (List.prefix_append ps [q]).trans hps, rfl⟩

/-- What every directory that is made preserves making a directory and those above it preserves. -/
theorem makeUpward_keeps {I : Disk → Prop} (paths : String → Prop)
    (hup : ∀ path, paths path → paths (pathAbove path))
    (hstep : ∀ d path made, I d → paths path → d.makeDirectory path = .ok made → I made)
    (bound : Nat) (inner : Bool) {d : Disk} {path : String} (hd : I d) (hpath : paths path) :
    I (d.makeUpward inner path bound).1 := by
  induction bound generalizing d path inner with
  | zero => exact hd
  | succ bound ih =>
    rw [makeUpward]
    dsimp only
    split
    · rename_i made hmade
      exact hstep d path made hd hpath hmade
    · split
      · split <;> exact hd
      · have habove := ih true hd (hup path hpath)
        split
        · rename_i heq
          rwa [heq] at habove
        · rename_i heq
          rw [heq] at habove
          split
          · rename_i made hmade
            exact hstep _ path made habove hpath hmade
          · exact habove
    · exact hd

theorem makeDirectories_keeps {I : Disk → Prop} (paths : String → Prop)
    (hup : ∀ path, paths path → paths (pathAbove path))
    (hstep : ∀ d path made, I d → paths path → d.makeDirectory path = .ok made → I made)
    (hd : I d) (hpath : paths path) : I (d.makeDirectories path).1 := by
  rw [makeDirectories]
  split
  · exact hd
  · exact makeUpward_keeps paths hup hstep _ false hd hpath

theorem makeDirectories_adds (d : Disk) (path : String) :
    Adds (fun _ => True) d (d.makeDirectories path).1 := by
  refine makeDirectories_keeps (fun _ => True) (fun _ _ => trivial) ?_ (.refl _ d) trivial
  intro d₁ path made hd₁ _ hmade
  obtain ⟨last, before, here, _, _, _, _, _, _, hnone, rfl, _, _⟩ := makeDirectory_ok hmade
  exact hd₁.trans (.put hnone trivial)

/-! ## The directory that is made -/

theorem walk_append_of_leg {n : Nat} {here root p : Place} {a b : List String}
    (ha : d.walk true n here a = .ok root) (hroot : d.get? root = some .directory)
    (hb : d.leg true root b = .arrived p) : d.walk true n here (a ++ b) = .ok p := by
  induction n generalizing here a with
  | zero =>
    rcases walk_ok ha with hleg | ⟨_, _, _, _, hn, _, _⟩
    · exact walk_of_arrived 0 ((leg_append_of_arrived hleg hroot b).trans hb)
    · cases hn
  | succ n ih =>
    rcases walk_ok ha with hleg | ⟨_, there, target, rest, hn, hleg, hrest⟩
    · exact walk_of_arrived _ ((leg_append_of_arrived hleg hroot b).trans hb)
    · cases hn
      rw [walk_of_link n (leg_append_of_link hleg b (.inl rfl)), ← List.append_assoc]
      exact ih hrest

theorem leg_blanks {follow : Bool} {here : Place} {blanks : List String} (h : ∀ b ∈ blanks, b = "") :
    d.leg follow here blanks = .arrived here := by
  induction blanks with
  | nil => rw [leg]
  | cons b rest ih =>
    rw [leg_blank (.inl (h b (by simp)))]
    exact ih fun c hc => h c (by simp [hc])

/-- A directory that was made is new, and it is where its path leads. -/
theorem makeDirectory_new (h : d.makeDirectory path = .ok d') :
    ∃ p, d.get? p = none ∧ d' = d.put p .directory ∧ d'.locate path = .ok p := by
  obtain ⟨last, before, here, hnames, hwalk, hdir, hdot, hup, hlong, hnone, rfl, hempty, hpath⟩ :=
    makeDirectory_ok h
  have hne : here ++ [last] ≠ [] := by simp
  have hgrows : Grows d (d.put (here ++ [last]) .directory) := .put_new hnone
  refine ⟨here ++ [last], hnone, rfl, ?_⟩
  obtain ⟨blanks, hsplit, hblanks, hblank⟩ := names_split hnames
  have hlast : IsStep last := ⟨hblank, hdot, hup⟩
  have hleg : (d.put (here ++ [last]) .directory).leg true here
      (last :: blanks) =
      .arrived (here ++ [last]) := by
    rw [leg_step hlast, if_neg (by simp [hlong]), get?_put_self hne]
    exact leg_blanks hblanks
  rw [locate, walkPath, if_neg (by simp [hempty]), if_neg (by simp [hpath]), hsplit]
  exact walk_append_of_leg (hgrows.walk hwalk hdir) (hgrows.keeps _ _ hdir rfl) hleg

theorem makeDirectory_locate (h : d.makeDirectory path = .ok d') :
    ∃ p, d'.locate path = .ok p ∧ d'.get? p = some .directory := by
  obtain ⟨p, hnone, rfl, hp⟩ := makeDirectory_new h
  refine ⟨p, hp, get?_put_self ?_⟩
  rintro rfl
  cases hnone

theorem acceptDirectory_none {inner : Bool} {r : DiskReason}
    (h : d.acceptDirectory inner path r = none) :
    ∃ p, d.locate path = .ok p ∧ d.get? p = some .directory := by
  unfold acceptDirectory at h
  split at h
  · cases h
  · cases h
  · split at h
    · rename_i p hp
      split at h
      · rename_i hdir
        exact ⟨p, hp, hdir⟩
      · cases h
      · cases h
    · cases h

theorem makeUpward_locate {bound : Nat} (h : d.makeUpward false path bound = (d', none)) :
    ∃ p, d'.locate path = .ok p ∧ d'.get? p = some .directory := by
  cases bound with
  | zero => cases h
  | succ bound =>
    rw [makeUpward] at h
    dsimp only at h
    split at h
    · rename_i made hmade
      cases h
      exact makeDirectory_locate hmade
    · split at h
      · rw [if_neg (by simp), Prod.mk.injEq] at h
        obtain ⟨rfl, h⟩ := h
        exact acceptDirectory_none h
      · split at h
        · cases h
        · split at h
          · rename_i made hmade
            cases h
            exact makeDirectory_locate hmade
          · rw [Prod.mk.injEq] at h
            obtain ⟨rfl, h⟩ := h
            exact acceptDirectory_none h
    · rw [Prod.mk.injEq] at h
      obtain ⟨rfl, h⟩ := h
      exact acceptDirectory_none h

/-- Where making directories succeeds, the path leads to a directory. -/
theorem makeDirectories_locate (h : d.makeDirectories path = (d', none)) :
    ∃ p, d'.locate path = .ok p ∧ d'.get? p = some .directory := by
  rw [makeDirectories] at h
  split at h
  · cases h
  · exact makeUpward_locate h

end VariantForge.Disk
