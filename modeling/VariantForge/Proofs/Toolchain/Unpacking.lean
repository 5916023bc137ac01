import VariantForge.Proofs.Outcome
import VariantForge.Proofs.Toolchain.Containment

/-!
# Unpacking — what an archive that was unpacked leaves on the disk

Unpacking only adds to a tree (`Disk.Grown`). If it succeeds, every member that the directory of the
archive counts is where its name says (`Unpacked`): what is put there is new, and nothing that comes
after it changes what is there. The number that it gives is that of the members (`run_adds`).
-/

namespace VariantForge

namespace Archive

/-- The members that the directory of an archive lists, so many from a position on. -/
def listed (c : Contents) : Nat → Nat → Except ArchiveFault (List Member)
  | 0, _ => .ok []
  | n + 1, i => do
    let (m, next) ← memberAt c i
    return m :: (← listed c n next)

variable {c : Contents} {n i : Nat} {ms : List Member}

theorem listed_succ :
    listed c (n + 1) i =
      match memberAt c i with
      | .error f => .error f
      | .ok (m, next) => (listed c n next).map (m :: ·) := by
  rw [listed]
  cases memberAt c i with
  | error f => rfl
  | ok a => cases h : listed c n a.2 <;> simp [bind, Except.bind, pure, Except.pure, Except.map, h]

theorem length_listed (h : listed c n i = .ok ms) : ms.length = n := by
  induction n generalizing i ms with
  | zero =>
    cases h
    rfl
  | succ n ih =>
    rw [listed_succ] at h
    cases hm : memberAt c i with
    | error f =>
      rw [hm] at h
      cases h
    | ok a =>
      rw [hm] at h
      cases hrest : listed c n a.2 with
      | error f => simp [hrest, Except.map] at h
      | ok rest =>
        simp only [hrest, Except.map] at h
        cases h
        rw [List.length_cons, ih hrest]

end Archive

namespace Unpack

open Path Disk Forge

/-- The mode of the file that a member is unpacked as. -/
def fileMode (m : Archive.Member) : Nat := if m.mode &&& 0o111 ≠ 0 then m.mode &&& 0o777 else newFileMode

/-- What a member that is no directory is unpacked as. -/
def entryOf (m : Archive.Member) (bytes : ByteArray) : Entry :=
  if m.isLink then .link (Text.shown (linkTarget bytes)) else .file bytes (fileMode m)

/-- The path that a member is unpacked to. -/
def memberPath (d : Disk) (outDir : String) (m : Archive.Member) : String :=
  Path.resolve d.hereText [Path.join [outDir, m.name]]

/-- Whether a member of an archive is where it is unpacked to, with the bytes that the archive holds
for it. -/
def Placed (c : Archive.Contents) (outDir : String) (d : Disk) (m : Archive.Member) : Prop :=
  if m.isDirectory then d.isDirectory (memberPath d outDir m) = true
  else ∃ bytes p, Archive.content c m = .ok bytes ∧ d.locateSelf (memberPath d outDir m) = .ok p ∧
    d.get? p = some (entryOf m bytes)

/-- Whether so many members from a position on can be read and satisfy a condition. -/
def EachFrom (P : Archive.Member → Prop) (c : Archive.Contents) : Nat → Nat → Prop
  | 0, _ => True
  | n + 1, i =>
    match Archive.memberAt c i with
    | .error _ => False
    | .ok (m, next) => P m ∧ EachFrom P c n next

/-- Whether every member of an archive is where it is unpacked to. -/
def Unpacked (bytes : ByteArray) (outDir : String) (d : Disk) : Prop :=
  ∃ c, Archive.open? bytes = .ok c ∧ EachFrom (Placed c outDir d) c c.count c.start

variable {c : Archive.Contents} {l : UnpackLimits} {m : Archive.Member} {d d' : Disk}
  {outDir path : String}

theorem Placed.grown (h : Placed c outDir d m) (hg : Grown d d') : Placed c outDir d' m := by
  have hpath : memberPath d' outDir m = memberPath d outDir m := by
    rw [memberPath, memberPath, hereText, hereText, hg.here]
  rw [Placed] at h ⊢
  rw [hpath]
  split at h
  · rename_i hdir
    rw [if_pos hdir]
    exact hg.isDirectory h
  · rename_i hdir
    rw [if_neg hdir]
    obtain ⟨bytes, p, hbytes, hp, hget⟩ := h
    exact ⟨bytes, p, hbytes, hg.extend.walkPath hg.here hp hget, hg.extend p _ hget⟩

/-! ## Single members -/

theorem makeDirectories_keeps_grown : Keeps (On (Grown d)) (Forge.makeDirectories path) :=
  .makeDirectories_on fun _ h => h.trans (h.tree.makeDirectories_grown path)

/-- Whether a tree grew by what a member holds, which is new at a path. -/
def MadeOf (c : Archive.Contents) (m : Archive.Member) (path : String) (d d' : Disk) : Prop :=
  ∃ bytes, Archive.content c m = .ok bytes ∧ Made d path (entryOf m bytes) d'

theorem makeFile_ends (hroot : fromRoot path = true) (hfile : m.isLink = false) :
    Ends (On (Grown d)) (makeFile c m path) (Ended (fun _ => true) (MadeOf c m path d) (Grown d)) := by
  have hentry (bytes : ByteArray) : entryOf m bytes = .file bytes (fileMode m) := if_neg (by simp [hfile])
  have hcreate (bytes : ByteArray) : Ends (On (Grown d)) (Forge.change (·.create path bytes))
      (Ended (fun _ => true) (Made d path (.file bytes newFileMode)) (Grown d)) :=
    .change_on (fun _ _ h hd => h.create hroot hd) fun _ h => h
  rw [makeFile]
  split
  · rename_i bytes hbytes
    refine (hcreate bytes).then fun _ => ?_
    split
    · rename_i hmode
      have hexec : fileMode m = m.mode &&& 0o777 := if_pos hmode
      refine .change_on (fun d₁ d' h hd => ⟨bytes, hbytes, ?_⟩) fun _ h => h.1
      rw [hentry, hexec]
      exact h.setMode hroot hd
    · rename_i hmode
      have hplain : fileMode m = newFileMode := if_neg hmode
      refine .give fun d' h => ⟨bytes, hbytes, ?_⟩
      rw [hentry, hplain]
      exact h
  · exact (hcreate .empty).then fun _ => .fail fun _ h => h.1
  · exact .fail fun _ h => h

theorem makeLink_ends {name : String} {bytes : ByteArray} (hroot : fromRoot path = true)
    (hbytes : Archive.content c m = .ok bytes) (hlink : m.isLink = true) :
    Ends (On (Grown d)) (makeLink outDir name path bytes)
      (Ended (fun _ => true) (MadeOf c m path d) (Grown d)) := by
  have hentry : entryOf m bytes = .link (Text.shown (linkTarget bytes)) := if_pos hlink
  have hhere (d' : Disk) (h : Grown d d') : d'.hereText = d.hereText := by
    rw [hereText, hereText, h.here]
  refine Ends.here hhere (Ends.fail_if fun _ => ?_)
  refine .change_on (fun d₁ d' h hd => ⟨bytes, hbytes, ?_⟩) fun _ h => h
  rw [hentry]
  exact h.makeLink hroot hd

theorem place_ends (hroot : fromRoot path = true) :
    Ends (On (Grown d)) (place c outDir m path)
      (Ended (fun _ => true) (MadeOf c m path d) (Grown d)) := by
  refine makeDirectories_keeps_grown.then_ends fun _ => ?_
  cases hlink : m.isLink with
  | false => exact makeFile_ends hroot hlink
  | true =>
    rw [if_pos rfl, content]
    split
    · rename_i bytes hbytes
      rw [pure_bind]
      exact makeLink_ends hroot hbytes hlink
    · exact .fail fun _ h => h

theorem Placed.of_made (hdir : m.isDirectory = false)
    (h : MadeOf c m (memberPath d outDir m) d d') : Grown d d' ∧ Placed c outDir d' m := by
  obtain ⟨bytes, hbytes, hgrown, p, -, hp, hget⟩ := h
  have hpath : memberPath d' outDir m = memberPath d outDir m := by
    rw [memberPath, memberPath, hereText, hereText, hgrown.here]
  refine ⟨hgrown, ?_⟩
  rw [Placed, if_neg (by simp [hdir]), hpath]
  exact ⟨bytes, p, hbytes, hp, hget⟩

theorem makeMemberDirectory_ends (hdir : m.isDirectory = true) :
    Ends (On (Grown d)) (Forge.makeDirectories (memberPath d outDir m))
      (Ended (fun _ => true) (fun d' => Grown d d' ∧ Placed c outDir d' m) (Grown d)) := by
  refine ends_iff.2 fun w hw => ?_
  have hgrown : Grown d (w.disk.makeDirectories (memberPath d outDir m)).1 :=
    Grown.trans hw (hw.tree.makeDirectories_grown _)
  rw [runOn_makeDirectories]
  rcases hmade : w.disk.makeDirectories (memberPath d outDir m) with ⟨made, fault⟩
  rw [hmade] at hgrown
  cases fault with
  | some f => exact Ended.error.2 hgrown
  | none =>
    have hpath : memberPath made outDir m = memberPath d outDir m := by
      rw [memberPath, memberPath, hereText, hereText, hgrown.here]
    refine Ended.ok.2 ⟨hgrown, ?_⟩
    rw [Placed, if_pos hdir, hpath]
    exact isDirectory_iff.2 (makeDirectories_locate hmade)

theorem unpackMember_ends (p : Progress) :
    Ends (On (Grown d)) (unpackMember c l outDir p m)
      (Ended (fun _ => true) (fun d' => Grown d d' ∧ Placed c outDir d' m) (Grown d)) := by
  have hhere (d' : Disk) (h : Grown d d') : d'.hereText = d.hereText := by
    rw [hereText, hereText, h.here]
  refine Ends.fail_if fun _ => Ends.fail_if fun _ => Ends.fail_if fun _ => Ends.here hhere ?_
  refine Ends.fail_if fun _ => ?_
  cases hdir : m.isDirectory with
  | true => exact (makeMemberDirectory_ends hdir).then fun _ => .give fun _ h => h
  | false =>
    rw [if_neg (by simp)]
    refine Ends.fail_if fun _ => Ends.fail_if fun _ => ?_
    refine (place_ends ?_).then fun _ => .give fun _ h => Placed.of_made hdir h
    exact isAbsolute_absolute _

/-! ## Archives -/

theorem unpackFrom_ends (p : Progress) {n i : Nat} :
    Ends (On (Grown d)) (unpackFrom c l outDir p n i)
      (Ended (fun _ => true) (fun d' => Grown d d' ∧ EachFrom (Placed c outDir d') c n i) (Grown d)) := by
  induction n generalizing p i d with
  | zero => exact .give fun _ h => ⟨h, trivial⟩
  | succ n ih =>
    rw [unpackFrom]
    split
    · exact .fail fun _ h => h
    · rename_i m next hmember
      refine (unpackMember_ends p).then fun p' => ends_iff.2 fun w hw => ?_
      -- the rest grows from the disk that the member was put on
      obtain ⟨hgrown, hplaced⟩ : Grown d w.disk ∧ Placed c outDir w.disk m := hw
      have hrest := ends_iff.1 (ih p' (i := next)) w (Grown.refl hgrown.tree)
      refine hrest.mono (fun d' h => ⟨hgrown.trans h.1, ?_⟩) fun d' h => hgrown.trans h
      rw [EachFrom, hmember]
      exact ⟨hplaced.grown h.1, h.2⟩

/-- Whether a tree grew from another one as an archive was unpacked that is on it. -/
def Grows (archive outDir : String) (w : World) (d' : Disk) : Prop :=
  ∃ bytes, (opened outDir w).read (outPath archive w) = .ok bytes ∧ Grown (opened outDir w) d' ∧
    Unpacked bytes (outPath outDir w) d'

/-- Unpacking an archive into a tree puts every member where its name says, or it fails and has only
added to the tree. -/
theorem run_ends (archive outDir : String) (l : UnpackLimits) {w : World} (ht : w.disk.Tree) :
    Ends (· = w) (run archive outDir l) (Ended (fun _ => true) (Grows archive outDir w) (Grown w.disk)) := by
  refine ends_iff.2 fun _ hw => ?_
  rw [hw]
  have hopened : Grown w.disk (opened outDir w) := ht.makeDirectories_grown _
  have habs (path : String) :
      Path.resolve ("/" ++ "/".intercalate w.disk.here) [path] = outPath path w := rfl
  rw [run, runOn_bind_ok (runOn_here w)]
  simp only [habs]
  rw [runOn_bind, runOn_makeDirectories]
  obtain ⟨made, hmade⟩ : ∃ made, opened outDir w = made := ⟨_, rfl⟩
  have hd : (w.disk.makeDirectories (outPath outDir w)).1 = made := hmade
  rw [hmade] at hopened
  rw [hd]
  cases (w.disk.makeDirectories (outPath outDir w)).2 with
  | some fault => exact Ended.error.2 hopened
  | none =>
    dsimp only [Option.elim]
    rw [runOn_bind, runOn_readFile]
    dsimp only
    cases hread : made.read (outPath archive w) with
    | error e =>
      rw [mapError_error]
      exact Ended.error.2 hopened
    | ok bytes =>
      rw [mapError_ok]
      dsimp only
      cases hopen : Archive.open? bytes with
      | error e => exact Ended.error.2 hopened
      | ok c =>
        have hall : Ends (On (Grown made))
            (do return (← unpackFrom c l (outPath outDir w) {} c.count c.start).entries)
            (Ended (fun _ => true)
              (fun d' => Grown made d' ∧ EachFrom (Placed c (outPath outDir w) d') c c.count c.start)
              (Grown made)) :=
          (unpackFrom_ends {}).then fun _ => .give fun _ h => h
        refine (ends_iff.1 hall { w with disk := made } (Grown.refl hopened.tree)).mono (fun d' h => ?_)
          fun d' h => hopened.trans h
        refine ⟨bytes, ?_, ?_, c, hopen, h.2⟩
        · rw [hmade, hread]
        · rw [hmade]
          exact h.1

/-- Unpacking only adds to a tree, whatever comes of it. -/
theorem run_grown {archive outDir : String} {l : UnpackLimits} {w w' : World} {r : Except Failure Nat}
    (ht : w.disk.Tree) (h : runOn w (run archive outDir l) = (r, w')) : Grown w.disk w'.disk := by
  have hends := ends_iff.1 (run_ends archive outDir l ht) w rfl
  rw [h] at hends
  cases r with
  | error f => exact Ended.error.1 hends
  | ok n =>
    obtain ⟨_, -, hgrown, -⟩ : Grows archive outDir w w'.disk := Ended.ok.1 hends
    exact (ht.makeDirectories_grown _).trans hgrown

/-! ## Counting -/

variable {n i : Nat} {p : Progress}

/-- What holds of each member that can be read holds of all that are listed. -/
theorem EachFrom.listed {P : Archive.Member → Prop} (h : EachFrom P c n i) :
    ∃ ms, Archive.listed c n i = .ok ms ∧ ∀ m ∈ ms, P m := by
  induction n generalizing i with
  | zero => exact ⟨[], rfl, by simp⟩
  | succ n ih =>
    rw [EachFrom] at h
    rw [Archive.listed_succ]
    cases hm : Archive.memberAt c i with
    | error f =>
      rw [hm] at h
      cases h
    | ok a =>
      rw [hm] at h
      obtain ⟨ms, hms, hall⟩ := ih h.2
      dsimp only
      rw [hms]
      exact ⟨a.1 :: ms, rfl, List.forall_mem_cons.2 ⟨h.1, hall⟩⟩

theorem unpackMember_gives (m : Archive.Member) :
    Gives (unpackMember c l outDir p m) fun q => q.entries = p.entries + 1 := by
  refine .ite_throw fun _ => .ite_throw fun _ => .ite_throw fun _ => .bind fun _ => .ite_throw fun _ => ?_
  split
  · exact .bind fun _ => .pure rfl
  · exact .ite_throw fun _ => .ite_throw fun _ => .bind fun _ => .pure rfl

theorem unpackFrom_gives :
    Gives (unpackFrom c l outDir p n i) fun q => q.entries = p.entries + n := by
  induction n generalizing p i with
  | zero => exact .pure rfl
  | succ n ih =>
    rw [unpackFrom]
    split
    · exact .throw
    · rename_i m next _
      refine (unpackMember_gives m).then fun q hq => ?_
      have hrest := ih (p := q) (i := next)
      rw [hq, Nat.add_assoc, Nat.add_comm 1] at hrest
      exact hrest

theorem outPath_eq {path : String} {w : World} :
    outPath path w = Path.resolve ("/" ++ "/".intercalate w.disk.here) [path] := rfl

/-- An archive that was unpacked was read and opened, and its directory counts as many members as were
unpacked. -/
theorem count_of_run {archive : String} {w w' : World} {n : Nat}
    (h : runOn w (run archive outDir l) = (.ok n, w')) :
    ∃ bytes c, (opened outDir w).read (outPath archive w) = .ok bytes ∧ Archive.open? bytes = .ok c ∧
      n = c.count := by
  rw [run, runOn_bind_ok (runOn_here w)] at h
  obtain ⟨u, w₁, hmade, h⟩ := of_bind_ok h
  have hopened : w₁.disk = opened outDir w := by
    rw [runOn_makeDirectories] at hmade
    exact congrArg (fun x => x.2.disk) hmade.symm
  obtain ⟨bytes, w₂, hread, h⟩ := of_bind_ok h
  rw [runOn_readFile, hopened] at hread
  cases hbytes : (opened outDir w).read (outPath archive w) with
  | error e =>
    rw [← outPath_eq, hbytes] at hread
    cases hread
  | ok b =>
    rw [← outPath_eq, hbytes] at hread
    cases hread
    cases hopen : Archive.open? bytes with
    | error e =>
      rw [hopen] at h
      cases h
    | ok c =>
      rw [hopen] at h
      obtain ⟨q, w₃, hq, hn⟩ := of_bind_ok h
      cases hn
      exact ⟨bytes, c, rfl, hopen, by rw [unpackFrom_gives _ _ _ hq, Nat.zero_add]⟩

/-- Unpacking takes nothing away, and if it succeeds it has added everything: it gives the number of
the members that the archive lists, and each of them is where its name says. -/
theorem run_adds (archive outDir : String) (l : UnpackLimits) {w : World} (ht : w.disk.Tree) :
    Extends w.disk (runOn w (run archive outDir l)).2.disk ∧
      ∀ n, (runOn w (run archive outDir l)).1 = .ok n →
        ∃ bytes c ms, (opened outDir w).read (outPath archive w) = .ok bytes ∧
          Archive.open? bytes = .ok c ∧ Archive.listed c c.count c.start = .ok ms ∧ n = ms.length ∧
          ∀ m ∈ ms, Placed c (outPath outDir w) (runOn w (run archive outDir l)).2.disk m := by
  have hends := ends_iff.1 (run_ends archive outDir l ht) w rfl
  rcases hr : runOn w (run archive outDir l) with ⟨e | n, w'⟩
  · rw [hr] at hends
    have hgrown : Grown w.disk w'.disk := Ended.error.1 hends
    exact ⟨hgrown.extend, nofun⟩
  · rw [hr] at hends
    obtain ⟨bytes, hread, hgrown, c, hopen, hall⟩ : Grows archive outDir w w'.disk := Ended.ok.1 hends
    have hopened : Grown w.disk (opened outDir w) := ht.makeDirectories_grown _
    refine ⟨(hopened.trans hgrown).extend, fun k hk => ?_⟩
    cases hk
    obtain ⟨bytes', c', hread', hopen', hcount⟩ := count_of_run hr
    cases hread.symm.trans hread'
    cases hopen.symm.trans hopen'
    obtain ⟨ms, hms, hplaced⟩ := hall.listed
    exact ⟨bytes, c, ms, hread, hopen, hms, by rw [hcount, Archive.length_listed hms], hplaced⟩

theorem besides_tree {archive : ByteArray} : (besides archive).disk.Tree := by
  intro q n hq
  cases q with
  | nil => rfl
  | cons a rest =>
    refine absurd ?_ hq
    simp [besides, get?]

theorem run_adds_through :
    (besides through).disk.Tree ∧ ∃ bytes c ms,
      (opened "/x" (besides through)).read (outPath "/a.zip" (besides through)) = .ok bytes ∧
        Archive.open? bytes = .ok c ∧ Archive.listed c c.count c.start = .ok ms ∧ 3 = ms.length ∧
        ∀ m ∈ ms, Placed c (outPath "/x" (besides through))
          (runOn (besides through) (run "/a.zip" "/x" {})).2.disk m := by
  have hgiven : (runOn (besides through) (run "/a.zip" "/x" {})).1.toOption = some 3 := by decide +kernel
  refine ⟨besides_tree, (run_adds "/a.zip" "/x" {} besides_tree).2 3 ?_⟩
  cases hr : (runOn (besides through) (run "/a.zip" "/x" {})).1 with
  | error e =>
    rw [hr] at hgiven
    cases hgiven
  | ok n =>
    rw [hr] at hgiven
    cases hgiven
    rfl

end Unpack

end VariantForge
