import VariantForge.Proofs.Disk.Walk

/-!
# Operations — what each of them changes

One lemma for each operation that succeeds: the place that its path stands for, what was there, and
the disk that is left.
-/

namespace VariantForge.Disk

variable {d d' : Disk} {path : String}

theorem bind_checkPath {α : Type} {name : String} {f : Unit → Except DiskFault α} {a : α}
    (h : (checkPath path name >>= f) = .ok a) : f () = .ok a := by
  rw [checkPath] at h
  split at h
  · cases h
  · exact h

theorem read_ok {bytes : ByteArray} (h : d.read path = .ok bytes) :
    ∃ p mode, d.locate path = .ok p ∧ d.get? p = some (.file bytes mode) := by
  have h := bind_checkPath h
  split at h
  · cases h
  · rename_i p hp
    split at h
    · rename_i bytes' mode hget
      split at h
      · cases h
        exact ⟨p, mode, hp, hget⟩
      · cases h
    · cases h
    · cases h
    · cases h

theorem write_ok {bytes : ByteArray} (h : d.write path bytes = .ok d') :
    ∃ p, d.locateFile path = .ok p ∧
      ((∃ old mode, d.get? p = some (.file old mode) ∧ d' = d.put p (.file bytes mode)) ∨
        d.get? p = none ∧ d' = d.put p (.file bytes newFileMode)) := by
  have h := bind_checkPath h
  split at h
  · cases h
  · rename_i p hp
    refine ⟨p, hp, ?_⟩
    split at h
    · rename_i old mode hget
      split at h
      · cases h
        exact .inl ⟨old, mode, hget, rfl⟩
      · cases h
    · cases h
    · cases h
    · rename_i hget
      cases h
      exact .inr ⟨hget, rfl⟩

/-- Only paths without a null are written to. -/
theorem hasNull_of_write {bytes : ByteArray} (h : d.write path bytes = .ok d') : Text.hasNull path = false := by
  cases hnull : Text.hasNull path with
  | false => rfl
  | true =>
    rw [write, checkPath, nullFault?, hnull] at h
    cases h

theorem create_ok {bytes : ByteArray} (h : d.create path bytes = .ok d') :
    ∃ p, d.locateSelf path = .ok p ∧ d.get? p = none ∧ d' = d.put p (.file bytes newFileMode) := by
  have h := bind_checkPath h
  split at h
  · cases h
  · rename_i p hp
    split at h
    · cases h
    · rename_i hget
      cases h
      exact ⟨p, hp, hget, rfl⟩

theorem makeLink_ok {target : String} (h : d.makeLink target path = .ok d') :
    ∃ p, d.locateSelf path = .ok p ∧ d.get? p = none ∧
      d' = d.put p (.link (Text.shown target)) := by
  have h := bind_checkPath (bind_checkPath h)
  by_cases hempty : target.isEmpty = true
  · rw [if_pos hempty] at h
    cases h
  rw [if_neg hempty] at h
  by_cases hlong : isLongPath target = true
  · rw [if_pos hlong] at h
    cases h
  rw [if_neg hlong] at h
  dsimp only at h
  split at h
  · cases h
  · rename_i p hp
    split at h
    · cases h
    · rename_i hget
      cases h
      exact ⟨p, hp, hget, rfl⟩

theorem setMode_ok {mode : Nat} (h : d.setMode path mode = .ok d') :
    d' = d ∨ ∃ p bytes old, d.locate path = .ok p ∧ d.get? p = some (.file bytes old) ∧
      d' = d.put p (.file bytes mode) := by
  have h := bind_checkPath h
  split at h
  · cases h
  · rename_i p hp
    split at h
    · rename_i bytes old hget
      cases h
      exact .inr ⟨p, bytes, old, hp, hget, rfl⟩
    · cases h
      exact .inl rfl
    · cases h

theorem setMode_file {mode old : Nat} {bytes : ByteArray} {p : Place} (hp : d.locate path = .ok p)
    (hget : d.get? p = some (.file bytes old)) (h : d.setMode path mode = .ok d') :
    d' = d.put p (.file bytes mode) := by
  have h := bind_checkPath h
  rw [hp] at h
  simp only [hget] at h
  cases h
  rfl

theorem removeAll_ok (h : d.removeAll path = .ok d') :
    d.locateSelf path = .error .missing ∧ d' = d ∨ ∃ p, d.locateSelf path = .ok p ∧ d' = d.cut p := by
  have h := bind_checkPath h
  split at h
  · rename_i hp
    cases h
    exact .inl ⟨hp, rfl⟩
  · cases h
  · rename_i p hp
    cases h
    exact .inr ⟨p, hp, rfl⟩

theorem removeFile_ok (h : d.removeFile path = .ok d') :
    d.locateSelf path = .error .missing ∧ d' = d ∨
      ∃ p, d.locateSelf path = .ok p ∧ d.get? p ≠ some .directory ∧ d' = d.cut p := by
  have h := bind_checkPath h
  split at h
  · rename_i hp
    cases h
    exact .inl ⟨hp, rfl⟩
  · cases h
  · rename_i p hp
    split at h
    · cases h
    · rename_i hdir
      cases h
      exact .inr ⟨p, hp, hdir, rfl⟩

theorem copy_ok {source target : String} (h : d.copy source target = .ok d') :
    ∃ p bytes mode q, d.locate source = .ok p ∧ d.get? p = some (.file bytes mode) ∧
      d.locateFile target = .ok q ∧ d.get? q ≠ some .directory ∧ d' = d.put q (.file bytes mode) := by
  have h := bind_checkPath (bind_checkPath h)
  split at h
  · cases h
  rename_i p hp
  split at h
  · rename_i bytes mode hfile
    split at h
    · cases h
    split at h
    · cases h
    rename_i q hq
    split at h
    · cases h
    · rename_i old hold
      split at h
      · cases h
        exact ⟨p, bytes, mode, q, hp, hfile, hq, by simp [hold], rfl⟩
      · cases h
    · rename_i hdir _
      cases h
      exact ⟨p, bytes, mode, q, hp, hfile, hq, hdir, rfl⟩
  · cases h
  · cases h

/-- Only a file is copied. -/
theorem isFile_of_copy {source target : String} (h : d.copy source target = .ok d') :
    d.isFile source = true := by
  obtain ⟨p, bytes, mode, q, hp, hfile, -⟩ := copy_ok h
  simp [isFile, look?, hp, hfile, Entry.isFile]

theorem rename_ok {source target : String} (h : d.rename source target = .ok d') :
    ∃ p q, d.locateSelf source = .ok p ∧ d.locateSelf target = .ok q ∧ (d.get? p).isSome = true ∧
      (d.get? p = some .directory ∨ d.get? q ≠ some .directory) ∧
      (p = q ∧ d' = d ∨ ¬ p <+: q ∧ ¬ q <+: p ∧ d' = d.moveEntries p q) := by
  have h := bind_checkPath (bind_checkPath h)
  split at h
  · cases h
  · cases h
  rename_i p q hp hq
  refine ⟨p, q, hp, hq, ?_⟩
  split at h
  · cases h
  rename_i e there he
  refine ⟨by simp [he], ?_⟩
  split at h
  · cases h
  split at h
  · rename_i hpq
    cases h
    subst hpq
    exact ⟨Classical.em _, .inl ⟨rfl, rfl⟩⟩
  split at h
  · cases h
  rename_i hpq
  split at h
  · cases h
  rename_i hqp
  rw [List.isPrefixOf_iff_prefix] at hpq hqp
  split at h
  · rename_i hdir
    rw [Entry.isDirectory_iff] at hdir
    subst hdir
    refine ⟨.inl he, .inr ⟨hpq, hqp, ?_⟩⟩
    split at h
    · cases h
      rfl
    · split at h
      · cases h
        rfl
      · cases h
    · cases h
  · split at h
    · cases h
    · rename_i hthere
      cases h
      exact ⟨.inr hthere, .inr ⟨hpq, hqp, rfl⟩⟩

/-- Only paths without a null are renamed. -/
theorem hasNull_of_rename {source target : String} (h : d.rename source target = .ok d') :
    Text.hasNull target = false := by
  have h := bind_checkPath h
  cases hnull : Text.hasNull target with
  | false => rfl
  | true =>
    rw [checkPath, nullFault?, hnull] at h
    cases h

theorem makeDirectory_ok (h : d.makeDirectory path = .ok d') :
    ∃ last before here, (names path).reverse.dropWhile (·.isEmpty) = last :: before ∧
      d.walk true linkBound (d.origin path) before.reverse = .ok here ∧
      d.get? here = some .directory ∧ last ≠ "." ∧ last ≠ ".." ∧ isLongName last = false ∧
      d.get? (here ++ [last]) = none ∧ d' = d.put (here ++ [last]) .directory ∧
      path.isEmpty = false ∧ isLongPath path = false := by
  rw [makeDirectory] at h
  split at h
  · cases h
  rename_i hempty
  split at h
  · cases h
  rename_i hlong
  split at h
  · cases h
  rename_i last before hnames
  cases hwalk : d.walk true linkBound (d.origin path) before.reverse with
  | error r =>
    rw [hwalk] at h
    cases h
  | ok here =>
    rw [hwalk] at h
    cases hdir : d.get? here with
    | none => simp [bind, Except.bind, hdir] at h
    | some e =>
      cases e with
      | file bytes mode => simp [bind, Except.bind, hdir] at h
      | link target => simp [bind, Except.bind, hdir] at h
      | directory =>
        simp only [bind, Except.bind, hdir] at h
        split at h
        · cases h
        rename_i hdots
        split at h
        · cases h
        rename_i hname
        split at h
        · cases h
        rename_i hnone
        cases h
        rw [not_or] at hdots
        exact ⟨last, before, here, hnames, hwalk, hdir, hdots.1, hdots.2, by simpa using hname,
          by simpa using hnone, rfl, by simpa using hempty, by simpa using hlong⟩

end VariantForge.Disk
