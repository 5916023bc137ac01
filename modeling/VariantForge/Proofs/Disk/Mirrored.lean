import VariantForge.Proofs.Disk.Ground
import VariantForge.Proofs.Disk.Twin

/-!
# Mirrored disks — what differs in files alone

On disks with the same directories and the same links, and with files at the same places, every path leads the same
way. So what puts something new on them, or removes something from them, fails on both in the same way or leaves
mirrored disks again; only what reads a file can tell them apart.
-/

namespace VariantForge.Disk

variable {d d' : Disk} {follow inner : Bool} {here p : Place} {ns : List String} {path target : String}
  {bytes : ByteArray} {n : Nat}

/-- Whether two disks hold the same everywhere, but that a file may differ from the other's. -/
structure Mirrors (d d' : Disk) : Prop where
  here : d.here = d'.here
  alike : ∀ p, d.get? p = d'.get? p ∨
    ∃ b m b' m', d.get? p = some (.file b m) ∧ d'.get? p = some (.file b' m')

/-! ## Paths lead the same way -/

namespace Mirrors

variable (h : Mirrors d d')
include h

theorem leg_eq : d.leg follow here ns = d'.leg follow here ns := by
  induction ns generalizing here with
  | nil => rw [leg, leg]
  | cons n ns ih =>
    rw [leg, leg, ih, ih]
    dsimp only
    rcases h.alike (here ++ [n]) with heq | ⟨_, _, _, _, hb, hb'⟩
    · rw [heq, ih]
    · rw [hb, hb']

theorem walk_eq : d.walk follow n here ns = d'.walk follow n here ns := by
  induction n generalizing here ns with
  | zero => rw [walk, walk, h.leg_eq]
  | succ n ih =>
    rw [walk, walk, h.leg_eq]
    cases d'.leg follow here ns with
    | arrived p => rfl
    | stopped r => rfl
    | link there target rest => exact ih

theorem walkPath_eq : d.walkPath follow path = d'.walkPath follow path := by
  rw [walkPath, walkPath, h.walk_eq, h.here]

theorem locate_eq : d.locate path = d'.locate path := h.walkPath_eq

theorem locateSelf_eq : d.locateSelf path = d'.locateSelf path := h.walkPath_eq

theorem isDirectory_eq : d.isDirectory path = d'.isDirectory path := by
  rw [isDirectory, isDirectory, look?, look?, h.locate_eq]
  cases d'.locate path with
  | error r => rfl
  | ok p =>
    dsimp only
    rcases h.alike p with heq | ⟨_, _, _, _, hb, hb'⟩
    · rw [heq]
    · rw [hb, hb']
      rfl

theorem isFile_eq : d.isFile path = d'.isFile path := by
  rw [isFile, isFile, look?, look?, h.locate_eq]
  cases d'.locate path with
  | error r => rfl
  | ok p =>
    dsimp only
    rcases h.alike p with heq | ⟨_, _, _, _, hb, hb'⟩
    · rw [heq]
    · rw [hb, hb']
      rfl

theorem locateFile_eq : d.locateFile path = d'.locateFile path := by
  rw [Disk.locateFile_eq, Disk.locateFile_eq, h.locate_eq, h.here]
  congr 1
  congr 1
  cases (names path).reverse.dropWhile (·.isEmpty) with
  | nil => rfl
  | cons last before =>
    dsimp only
    rw [h.walk_eq]
    cases d'.walk true linkBound (if fromRoot path then [] else d'.here) before.reverse with
    | error r => rfl
    | ok p =>
      dsimp only
      rcases h.alike p with heq | ⟨_, _, _, _, hb, hb'⟩
      · rw [heq]
      · rw [hb, hb']

theorem isSome_eq (p : Place) : (d.get? p).isSome = (d'.get? p).isSome := by
  rcases h.alike p with heq | ⟨_, _, _, _, hb, hb'⟩
  · rw [heq]
  · rw [hb, hb']
    rfl

/-! ## Changes -/

theorem put_alike {e e' : Entry} (hp : p ≠ []) (he : e = e' ∨ e.isFile = true ∧ e'.isFile = true) :
    Mirrors (d.put p e) (d'.put p e') := by
  refine ⟨h.here, fun q => ?_⟩
  rw [get?_put hp, get?_put hp]
  by_cases hq : q = p
  · rw [if_pos hq, if_pos hq]
    rcases he with rfl | ⟨he, he'⟩
    · exact .inl rfl
    · cases e <;> cases he
      cases e' <;> cases he'
      exact .inr ⟨_, _, _, _, rfl, rfl⟩
  · rw [if_neg hq, if_neg hq]
    exact h.alike q

theorem put (hp : p ≠ []) (e : Entry) : Mirrors (d.put p e) (d'.put p e) := h.put_alike hp (.inl rfl)

theorem cut (p : Place) : Mirrors (d.cut p) (d'.cut p) := by
  refine ⟨h.here, fun q => ?_⟩
  by_cases hpq : p <+: q
  · by_cases hq : q = []
    · subst hq
      exact .inl rfl
    · rw [get?_cut_of_below hpq hq, get?_cut_of_below hpq hq]
      exact .inl rfl
  · rw [get?_cut_of_not_below hpq, get?_cut_of_not_below hpq]
    exact h.alike q

theorem create : Both Mirrors (d.create path bytes) (d'.create path bytes) := by
  rw [Disk.create, Disk.create, h.locateSelf_eq]
  cases checkPath path with
  | error f => exact .error f
  | ok _ =>
    cases d'.locateSelf path with
    | error r => exact .error _
    | ok p =>
      dsimp only [bind, Except.bind]
      have hsome := h.isSome_eq p
      cases hget : d.get? p with
      | some e =>
        cases hget' : d'.get? p with
        | none => simp [hget, hget'] at hsome
        | some e' => exact .error _
      | none =>
        cases hget' : d'.get? p with
        | some e' => simp [hget, hget'] at hsome
        | none => exact .ok (h.put (by rintro rfl; cases hget) _)

theorem makeLink : Both Mirrors (d.makeLink target path) (d'.makeLink target path) := by
  rw [Disk.makeLink, Disk.makeLink, h.locateSelf_eq]
  cases checkPath target "target" with
  | error f => exact .error f
  | ok _ =>
    cases checkPath path with
    | error f => exact .error f
    | ok _ =>
      dsimp only [bind, Except.bind]
      split
      · exact .error _
      split
      · exact .error _
      cases d'.locateSelf path with
      | error r => exact .error _
      | ok p =>
        dsimp only
        have hsome := h.isSome_eq p
        cases hget : d.get? p with
        | some e =>
          cases hget' : d'.get? p with
          | none => simp [hget, hget'] at hsome
          | some e' => exact .error _
        | none =>
          cases hget' : d'.get? p with
          | some e' => simp [hget, hget'] at hsome
          | none => exact .ok (h.put (by rintro rfl; cases hget) _)

theorem setMode {mode : Nat} : Both Mirrors (d.setMode path mode) (d'.setMode path mode) := by
  rw [Disk.setMode, Disk.setMode, h.locate_eq]
  cases checkPath path with
  | error f => exact .error f
  | ok _ =>
    cases d'.locate path with
    | error r => exact .error _
    | ok p =>
      dsimp only [bind, Except.bind]
      have hfile {b b' : ByteArray} {m : Nat} (hget : d.get? p = some (.file b m)) :
          Mirrors (d.put p (.file b mode)) (d'.put p (.file b' mode)) :=
        h.put_alike (by rintro rfl; cases hget) (.inr ⟨rfl, rfl⟩)
      rcases h.alike p with heq | ⟨_, _, _, _, hb, hb'⟩
      · rw [← heq]
        cases hget : d.get? p with
        | none => exact .error _
        | some e =>
          cases e with
          | file b m => exact .ok (hfile hget)
          | directory => exact .ok h
          | link t => exact .ok h
      · rw [hb, hb']
        exact .ok (hfile hb)

theorem removeFile : Both Mirrors (d.removeFile path) (d'.removeFile path) := by
  rw [Disk.removeFile, Disk.removeFile, h.locateSelf_eq]
  cases checkPath path with
  | error f => exact .error f
  | ok _ =>
    cases d'.locateSelf path with
    | error r => cases r <;> first | exact .ok h | exact .error _
    | ok p =>
      dsimp only [bind, Except.bind]
      rcases h.alike p with heq | ⟨_, _, _, _, hb, hb'⟩
      · rw [← heq]
        split
        · exact .error _
        · exact .ok (h.cut p)
      · rw [hb, hb']
        exact .ok (h.cut p)

/-! ## Directories -/

theorem makeDirectory : Both Mirrors (d.makeDirectory path) (d'.makeDirectory path) := by
  have horigin : d.origin path = d'.origin path := by rw [origin, origin, h.here]
  rw [Disk.makeDirectory, Disk.makeDirectory, horigin]
  split
  · exact .error _
  split
  · exact .error _
  split
  · exact .error _
  rw [h.walk_eq]
  cases d'.walk true linkBound (d'.origin path) _ with
  | error r => exact .error r
  | ok p =>
    dsimp only [bind, Except.bind]
    rcases h.alike p with heq | ⟨_, _, _, _, hb, hb'⟩
    · rw [← heq, h.isSome_eq]
      split
      · split
        · exact .error _
        split
        · exact .error _
        split
        · exact .error _
        · exact .ok (h.put (by simp) _)
      · exact .error _
      · exact .error _
    · rw [hb, hb']
      exact .error _

theorem acceptDirectory_eq {r : DiskReason} : d.acceptDirectory inner path r = d'.acceptDirectory inner path r := by
  unfold acceptDirectory
  rw [h.locate_eq]
  cases d'.locate path with
  | error e => rfl
  | ok p =>
    dsimp only
    rcases h.alike p with heq | ⟨_, _, _, _, hb, hb'⟩
    · rw [heq]
    · rw [hb, hb']

theorem makeDirectories : (d.makeDirectories path).2 = (d'.makeDirectories path).2 ∧
    Mirrors (d.makeDirectories path).1 (d'.makeDirectories path).1 :=
  makeDirectories_both (fun _ => True) (fun _ _ => trivial) (fun h _ => h.makeDirectory)
    (fun h _ _ _ => h.acceptDirectory_eq) h trivial

end Mirrors

end VariantForge.Disk
