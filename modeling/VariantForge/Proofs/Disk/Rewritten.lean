import VariantForge.Proofs.Disk.Mirrored

/-!
# Rewritten files — disks that differ in the bytes of files alone

Whatever the bytes of files are, paths lead where they led. So writing to a file that is there
changes what is read by the paths that lead to it, and nothing else (`read_rewrite`,
`write_rewrite_error`).
-/

namespace VariantForge.Disk

variable {d d' : Disk} {full follow : Bool} {here p q : Place} {ns : List String} {path a b : String}
  {bytes old new : ByteArray} {mode : Nat}

/-! ## Paths lead where they led -/

/-- Whether two disks hold the same everywhere, but for the bytes of files unless these count. -/
abbrev Resembles (full : Bool) (d d' : Disk) : Prop := Looks full (fun _ => True) d d'

theorem Resembles.refl (d : Disk) : Resembles full d d := ⟨rfl, fun _ _ => .refl _⟩

theorem Resembles.trans {d'' : Disk} (h : Resembles full d d') (h' : Resembles full d' d'') :
    Resembles full d d'' := by
  refine ⟨h.here.trans h'.here, fun q hq => ?_⟩
  rcases h.alike q hq with heq | ⟨hfull, b, b', m, hb, hb'⟩
  · rw [heq]
    exact h'.alike q hq
  · rcases h'.alike q hq with heq' | ⟨-, b₁, b₂, m', hb₁, hb₂⟩
    · exact .inr ⟨hfull, b, b', m, hb, heq' ▸ hb'⟩
    · cases hb'.symm.trans hb₁
      exact .inr ⟨hfull, b, b₂, m, hb, hb₂⟩

theorem Resembles.mirrors (h : Resembles full d d') : Mirrors d d' :=
  ⟨h.here, fun p => (h.alike p trivial).imp_right fun ⟨_, b, b', m, hb, hb'⟩ => ⟨b, m, b', m, hb, hb'⟩⟩

theorem Resembles.walkPath_eq (h : Resembles full d d') : d.walkPath follow path = d'.walkPath follow path :=
  h.mirrors.walkPath_eq

theorem Resembles.locate_eq (h : Resembles full d d') : d.locate path = d'.locate path := h.walkPath_eq

theorem Resembles.isFile_eq (h : Resembles full d d') : d.isFile path = d'.isFile path := h.mirrors.isFile_eq

theorem Resembles.locateFile_eq (h : Resembles full d d') : d.locateFile path = d'.locateFile path :=
  h.mirrors.locateFile_eq

/-- Whether something can be moved does not depend on the bytes of files. -/
theorem Resembles.rename_isOk (h : Resembles full d d') : (d.rename a b).isOk = (d'.rename a b).isOk := by
  rw [rename_eq, rename_eq, locateSelf, locateSelf, locateSelf, locateSelf, h.walkPath_eq, h.walkPath_eq]
  cases checkPath a "oldPath" with
  | error f => rfl
  | ok _ =>
    cases checkPath b "newPath" with
    | error f => rfl
    | ok _ =>
      cases d'.walkPath false a with
      | error r => rfl
      | ok p =>
        cases d'.walkPath false b with
        | error r => rfl
        | ok q =>
          dsimp only [bind, Except.bind]
          rw [h.moveFault_eq trivial fun _ _ => trivial]
          cases d'.moveFault p q b <;> rfl

theorem resembles_put (hp : d.get? p = some (.file old mode)) (new : ByteArray) :
    Resembles false d (d.put p (.file new mode)) := by
  refine ⟨rfl, fun q _ => ?_⟩
  have hne : p ≠ [] := by
    rintro rfl
    cases hp
  rw [get?_put hne]
  by_cases hq : q = p
  · rw [if_pos hq, hq, hp]
    exact .file mode fun h => by cases h
  · rw [if_neg hq]
    exact .refl _

/-! ## Reading and writing -/

/-- Whether two paths lead to no file in common. -/
def Apart (d : Disk) (a b : String) : Prop :=
  ∀ p, d.locate a = .ok p → d.locate b = .ok p → (d.get? p).any Entry.isFile = false

theorem Apart.of_locate (ha : d.locate a = .ok p) (hb : d.locate b = .ok q) (hne : p ≠ q) : Apart d a b := by
  intro r har hbr
  rw [ha] at har
  rw [hb] at hbr
  cases har
  cases hbr
  exact absurd rfl hne

theorem Apart.resembles (h : Apart d a b) (hd : Resembles full d d') : Apart d' a b := by
  intro p ha hb
  rw [← hd.locate_eq] at ha hb
  have hfile := h p ha hb
  rcases hd.alike p trivial with heq | ⟨-, x, x', m, hx, hx'⟩
  · rwa [← heq]
  · rw [hx] at hfile
    cases hfile

theorem isFile_iff :
    d.isFile path = true ↔ ∃ p bytes mode, d.locate path = .ok p ∧ d.get? p = some (.file bytes mode) := by
  rw [isFile, look?]
  cases d.locate path with
  | error r => simp
  | ok p =>
    dsimp only
    cases hp : d.get? p with
    | none => simp [hp]
    | some e => cases e <;> simp [hp, Entry.isFile]

/-- What was written can be written again. -/
theorem write_again (h : d.write path bytes = .ok d') (new : ByteArray) :
    ∃ d'', d'.write path new = .ok d'' ∧ Resembles false d' d'' := by
  obtain ⟨p, mode, -, hp, hmay, -, hget, -⟩ := write_leaves h
  refine ⟨d'.put p (.file new mode), ?_, resembles_put hget new⟩
  rw [write_eq, checkPath, nullFault?, hasNull_of_write h, hp]
  simp [bind, Except.bind, hget, written, hmay]

/-- Writing to a file that is there changes its bytes. -/
theorem write_file (hfile : d.isFile path = true) (h : d.write path bytes = .ok d') :
    ∃ p old mode, d.locate path = .ok p ∧ d.get? p = some (.file old mode) ∧
      d' = d.put p (.file bytes mode) := by
  obtain ⟨p, old, mode, hp, hget⟩ := isFile_iff.1 hfile
  obtain ⟨q, hq, hput⟩ := write_ok h
  cases hp.symm.trans (locateFile_ok hq)
  rcases hput with ⟨old', mode', hget', rfl⟩ | ⟨hnone, -⟩
  · exact ⟨p, old', mode', hp, hget', rfl⟩
  · cases hget.symm.trans hnone

/-- What was written to a file that could be read is what is read next. -/
theorem read_write (hread : d.read path = .ok old) (h : d.write path bytes = .ok d') :
    d'.read path = .ok bytes := by
  have hfile : d.isFile path = true := by
    obtain ⟨p, mode, hp, hget⟩ := read_ok hread
    exact isFile_iff.2 ⟨p, old, mode, hp, hget⟩
  obtain ⟨p, was, mode, hp, hget, rfl⟩ := write_file hfile h
  have hne : p ≠ [] := by
    rintro rfl
    cases hget
  rw [read, ← (resembles_put hget bytes).locate_eq, hp]
  rw [read, hp] at hread
  cases hnull : checkPath path with
  | error f =>
    rw [hnull] at hread
    cases hread
  | ok _ =>
    rw [hnull] at hread
    dsimp only [bind, Except.bind] at hread ⊢
    rw [hget] at hread
    rw [get?_put_self hne]
    dsimp only at hread ⊢
    split at hread
    · rename_i hmay
      rw [if_pos hmay]
    · cases hread

/-- What a path reads does not change with a file that it does not lead to. -/
theorem read_rewrite (hget : d.get? p = some (.file old mode)) (hp : d.locate path ≠ .ok p) :
    (d.put p (.file new mode)).read path = d.read path := by
  rw [read, read, ← (resembles_put hget new).locate_eq]
  cases hw : d.locate path with
  | error r => rfl
  | ok q =>
    have hq : q ≠ p := fun hqp => hp (by rw [hw, hqp])
    dsimp only
    rw [get?_put_of_ne hq]

/-- A path that could not be written cannot be written after another file was. -/
theorem write_rewrite_error {f : DiskFault} (hget : d.get? p = some (.file old mode))
    (hp : d.locate path ≠ .ok p) (h : d.write path bytes = .error f) :
    (d.put p (.file new mode)).write path bytes = .error f := by
  rw [write_eq] at h ⊢
  rw [← (resembles_put hget new).locateFile_eq]
  cases hw : d.locateFile path with
  | error r =>
    rw [hw] at h
    exact h
  | ok q =>
    have hq : q ≠ p := fun hqp => hp (by rw [locateFile_ok hw, hqp])
    rw [hw] at h
    dsimp only at h ⊢
    rw [get?_put_of_ne hq]
    cases hnull : checkPath path with
    | error e =>
      rw [hnull] at h
      exact h
    | ok _ =>
      rw [hnull] at h
      dsimp only [bind, Except.bind] at h ⊢
      cases hwritten : written (d.get? q) bytes with
      | error r =>
        rw [hwritten] at h
        exact h
      | ok e =>
        rw [hwritten] at h
        cases h

end VariantForge.Disk
