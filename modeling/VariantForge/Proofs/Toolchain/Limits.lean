import Mathlib.Algebra.Order.BigOperators.Group.List
import Mathlib.Algebra.Order.Ring.Nat
import VariantForge.Proofs.Path.Joined
import VariantForge.Proofs.Toolchain.Unpacking

/-!
# Limits — how much of an archive is unpacked

Whether a member is let in is decided before anything is done for it, by its name and its size and by what was let in
before (`refusal?`); the bytes of the archive are not looked at for that. So a run of unpacking is a sequence of
members that were let in (`Admits`), and the bounds hold of those up to any moment of it (`Limited`). A run that ends
because of a bound met a member with which that bound would be exceeded (`Exceeds`).

Of the two tests on the name the second turns down nothing that passed the first, in a directory other than the root
(`isInside_member`), so no run ends there (`Admits.not_escaped`). The first one turns down no more than it must: paths
that are absolute, climb, go nowhere, or begin with a drive (`goesIn_of_not_leadsOut`, `not_leadsOut_of_goesIn`).
-/

namespace VariantForge

namespace Unpack

open Path Disk Forge

/-! ## Bounds -/

/-- What a bound comes to: the default where none is given or it is not finite, or else the number that is given, cut
to a whole one and one at least. -/
inductive Effective (default : Nat) : Option Number → Nat → Prop where
  | absent : Effective default none default
  | endless {x : Number} (h : x.isFinite = false) : Effective default (some x) default
  | given {q : Rat} {n : Nat} (h : (n : Int) = max 1 q.floor) : Effective default (some (.finite q)) n

theorem limitOr_effective (default : Nat) (given : Option Number) :
    Effective default given (limitOr default given) := by
  cases given with
  | none => exact .absent
  | some x =>
    cases x with
    | finite q =>
      refine .given ?_
      rw [limitOr]
      omega
    | infinite negative => exact .endless rfl
    | nan => exact .endless rfl

/-! ## Members that are let in -/

/-- The bytes that a member counts for: a directory has none. -/
def counted (m : Archive.Member) : Nat := if m.isDirectory then 0 else m.size

/-- Why a member is not let in, if it is not. -/
def refusal? (l : UnpackLimits) (here outDir : String) (p : Progress) (m : Archive.Member) : Option UnpackFault :=
  if maxEntries l < p.entries + 1 then some (.tooMany (maxEntries l))
  else if m.name.isEmpty then some .blankName
  else if leadsOut m.name then some (.badPath m.name)
  else if !Path.isInside outDir (Path.resolve here [Path.join [outDir, m.name]]) then some (.escaped m.name)
  else if m.isDirectory then none
  else if maxFileBytes l < m.size then some (.memberTooLarge m.name m.size (maxFileBytes l))
  else if maxTotalBytes l < p.total + m.size then some (.tooLarge (p.total + m.size) (maxTotalBytes l))
  else none

/-- What is wrong with a member that is not let in, by the fault that says so. -/
inductive Refuses (l : UnpackLimits) (here outDir : String) (p : Progress) (m : Archive.Member) : UnpackFault → Prop where
  | tooMany (h : maxEntries l < p.entries + 1) : Refuses l here outDir p m (.tooMany (maxEntries l))
  | blankName : Refuses l here outDir p m .blankName
  | badPath : Refuses l here outDir p m (.badPath m.name)
  | escaped (hout : leadsOut m.name = false)
      (h : Path.isInside outDir (Path.resolve here [Path.join [outDir, m.name]]) = false) :
      Refuses l here outDir p m (.escaped m.name)
  | memberTooLarge (hdir : m.isDirectory = false) (h : maxFileBytes l < m.size) :
      Refuses l here outDir p m (.memberTooLarge m.name m.size (maxFileBytes l))
  | tooLarge (hdir : m.isDirectory = false) (h : maxTotalBytes l < p.total + m.size) :
      Refuses l here outDir p m (.tooLarge (p.total + m.size) (maxTotalBytes l))

/-- What is done for a member that is let in. -/
def enter (c : Archive.Contents) (outDir : String) (m : Archive.Member) : Forge Unit := do
  let path := Path.resolve (← Forge.here) [Path.join [outDir, m.name]]
  if m.isDirectory then Forge.makeDirectories path else place c outDir m path

/-- How far unpacking is after one more member. -/
def Progress.after (p : Progress) (m : Archive.Member) : Progress := ⟨p.entries + 1, p.total + counted m⟩

variable {c : Archive.Contents} {l : UnpackLimits} {m : Archive.Member} {ms : List Archive.Member}
  {outDir archive : String} {p : Progress} {w w' : World} {n i : Nat} {r : Except Failure Progress}

theorem runOn_unpackMember (w : World) (p : Progress) (m : Archive.Member) :
    runOn w (unpackMember c l outDir p m) =
      match refusal? l w.disk.hereText outDir p m with
      | some fault => (.error (.unpack fault), w)
      | none => runOn w (do
          enter c outDir m
          return p.after m) := by
  have hhere : runOn w Forge.here = (.ok w.disk.hereText, w) := runOn_here w
  rw [unpackMember, refusal?]
  dsimp only
  -- the tests are the same in the same order, with what is done between them only asking where relative paths start
  by_cases hcount : maxEntries l < p.entries + 1
  · rw [if_pos hcount, if_pos hcount]
    rfl
  rw [if_neg hcount, if_neg hcount]
  by_cases hblank : m.name.isEmpty = true
  · rw [if_pos hblank, if_pos hblank]
    rfl
  rw [if_neg hblank, if_neg hblank]
  by_cases hout : leadsOut m.name = true
  · rw [if_pos hout, if_pos hout]
    rfl
  rw [if_neg hout, if_neg hout, runOn_bind_ok hhere]
  by_cases hinside : (!Path.isInside outDir (Path.resolve w.disk.hereText [Path.join [outDir, m.name]])) = true
  · rw [if_pos hinside, if_pos hinside]
    rfl
  rw [if_neg hinside, if_neg hinside]
  by_cases hdir : m.isDirectory = true
  · rw [if_pos hdir, if_pos hdir]
    dsimp only
    rw [enter, bind_assoc, runOn_bind_ok hhere, if_pos hdir, Progress.after, counted, if_pos hdir]
    rfl
  rw [if_neg hdir, if_neg hdir]
  by_cases hfile : maxFileBytes l < m.size
  · rw [if_pos hfile, if_pos hfile]
    rfl
  rw [if_neg hfile, if_neg hfile]
  by_cases htotal : maxTotalBytes l < p.total + m.size
  · rw [if_pos htotal, if_pos htotal]
    rfl
  rw [if_neg htotal, if_neg htotal]
  dsimp only
  rw [enter, bind_assoc, runOn_bind_ok hhere, if_neg hdir, Progress.after, counted, if_neg hdir]

/-- A run of unpacking from a member on, and the members that it lets in. -/
inductive Admits (c : Archive.Contents) (l : UnpackLimits) (outDir : String) :
    Progress → World → Nat → Nat → List Archive.Member → Except Failure Progress → World → Prop where
  /-- There are no more members. -/
  | done {p : Progress} {w : World} {i : Nat} : Admits c l outDir p w 0 i [] (.ok p) w
  /-- The directory of the archive cannot be read any further. -/
  | unreadable {p : Progress} {w : World} {n i : Nat} {f : ArchiveFault} (h : Archive.memberAt c i = .error f) :
      Admits c l outDir p w (n + 1) i [] (.error (.archive f)) w
  /-- A member is not let in. -/
  | refused {p : Progress} {w : World} {n i next : Nat} {m : Archive.Member} {fault : UnpackFault}
      (h : Archive.memberAt c i = .ok (m, next)) (hr : refusal? l w.disk.hereText outDir p m = some fault) :
      Admits c l outDir p w (n + 1) i [] (.error (.unpack fault)) w
  /-- A member is let in, but what is done for it fails. -/
  | broken {p : Progress} {w w' : World} {n i next : Nat} {m : Archive.Member} {f : Failure}
      (h : Archive.memberAt c i = .ok (m, next)) (hr : refusal? l w.disk.hereText outDir p m = none)
      (he : runOn w (enter c outDir m) = (.error f, w')) :
      Admits c l outDir p w (n + 1) i [m] (.error f) w'
  /-- A member is let in and unpacked, and others come after it. -/
  | admitted {p : Progress} {w w₁ w' : World} {n i next : Nat} {m : Archive.Member} {ms : List Archive.Member}
      {r : Except Failure Progress} (h : Archive.memberAt c i = .ok (m, next))
      (hr : refusal? l w.disk.hereText outDir p m = none) (he : runOn w (enter c outDir m) = (.ok (), w₁))
      (hrest : Admits c l outDir (p.after m) w₁ n next ms r w') :
      Admits c l outDir p w (n + 1) i (m :: ms) r w'

theorem unpackFrom_admits (p : Progress) (w : World) (n i : Nat) :
    ∃ ms, Admits c l outDir p w n i ms (runOn w (unpackFrom c l outDir p n i)).1
      (runOn w (unpackFrom c l outDir p n i)).2 := by
  induction n generalizing p w i with
  | zero => exact ⟨[], .done⟩
  | succ n ih =>
    rw [unpackFrom]
    cases hm : Archive.memberAt c i with
    | error f => exact ⟨[], .unreadable hm⟩
    | ok a =>
      obtain ⟨m, next⟩ := a
      dsimp only
      rw [runOn_bind, runOn_unpackMember]
      cases hr : refusal? l w.disk.hereText outDir p m with
      | some fault => exact ⟨[], .refused hm hr⟩
      | none =>
        dsimp only
        rcases he : runOn w (enter c outDir m) with ⟨f | _, w₁⟩
        · rw [runOn_bind_error he]
          exact ⟨[m], .broken hm hr he⟩
        · rw [runOn_bind_ok he]
          obtain ⟨ms, hms⟩ := ih (p.after m) w₁ next
          exact ⟨m :: ms, .admitted hm hr he hms⟩

/-- The members that are let in are the first ones that the directory of the archive lists. -/
theorem Admits.listed (h : Admits c l outDir p w n i ms r w') : Archive.listed c ms.length i = .ok ms := by
  induction h with
  | done => rfl
  | unreadable => rfl
  | refused => rfl
  | broken h =>
    rw [List.length_singleton, Archive.listed_succ, h]
    rfl
  | admitted h _ _ _ ih =>
    rw [List.length_cons, Archive.listed_succ, h]
    dsimp only
    rw [ih]
    rfl

theorem Admits.length_le (h : Admits c l outDir p w n i ms r w') : ms.length ≤ n := by
  induction h with
  | done => simp
  | unreadable => simp
  | refused => simp
  | broken => simp
  | admitted _ _ _ _ ih => simpa using ih

/-- A fault with a member tells what is wrong with it. -/
theorem refuses_of_refusal? {here : String} {fault : UnpackFault} (h : refusal? l here outDir p m = some fault) :
    Refuses l here outDir p m fault := by
  rw [refusal?] at h
  split_ifs at h with hcount hblank hout hinside hdir hfile htotal <;> cases h
  · exact .tooMany hcount
  · exact .blankName
  · exact .badPath
  · exact .escaped (by simpa using hout) (by simpa using hinside)
  · exact .memberTooLarge (by simpa using hdir) hfile
  · exact .tooLarge (by simpa using hdir) htotal

theorem of_ite_none {α : Type} {a : α} {x : Option α} {b : Prop} [Decidable b]
    (h : (if b then some a else x) = none) : ¬ b ∧ x = none := by
  split at h
  · cases h
  · exact ⟨‹_›, h⟩

/-- What is let in counts within the bounds. -/
theorem counted_of_refusal? {here : String} (h : refusal? l here outDir p m = none) :
    p.entries + 1 ≤ maxEntries l ∧ counted m ≤ maxFileBytes l ∧
      (p.total ≤ maxTotalBytes l → p.total + counted m ≤ maxTotalBytes l) := by
  rw [refusal?] at h
  obtain ⟨hcount, h⟩ := of_ite_none h
  obtain ⟨-, h⟩ := of_ite_none (of_ite_none (of_ite_none h).2).2
  rw [counted]
  by_cases hdir : m.isDirectory = true
  · rw [if_pos hdir]
    exact ⟨by omega, by omega, fun htotal => htotal⟩
  · rw [if_neg hdir] at h ⊢
    obtain ⟨hfile, h⟩ := of_ite_none h
    obtain ⟨htotal, -⟩ := of_ite_none h
    exact ⟨by omega, by omega, fun _ => by omega⟩

/-! ## Bounds that hold, and bounds that are exceeded -/

/-- The bytes that are read from an archive for a member. -/
def bytesRead (c : Archive.Contents) (m : Archive.Member) : Nat :=
  if m.isDirectory then 0 else (Archive.content c m).toOption.elim 0 ByteArray.size

/-- Whether no member that the directory of an archive lists can be read whose data are not of the size that is
declared for it. -/
def Measured (c : Archive.Contents) : Prop :=
  ∀ k ≤ c.count, ∀ ms ∈ (Archive.listed c k c.start).toOption, ∀ m ∈ ms, m.isDirectory = false →
    ∀ bytes ∈ (Archive.content c m).toOption, bytes.size = m.size

instance (c : Archive.Contents) : Decidable (Measured c) :=
  inferInstanceAs (Decidable (∀ k ≤ c.count, ∀ ms ∈ (Archive.listed c k c.start).toOption, ∀ m ∈ ms,
    m.isDirectory = false → ∀ bytes ∈ (Archive.content c m).toOption, bytes.size = m.size))

/-- Whether members that were let in keep the bounds, in number, in the size of each and in the sum of the sizes. -/
structure Limited (l : UnpackLimits) (size : Archive.Member → Nat) (ms : List Archive.Member) : Prop where
  entries : ms.length ≤ maxEntries l
  file : ∀ m ∈ ms, size m ≤ maxFileBytes l
  total : (ms.map size).sum ≤ maxTotalBytes l

/-- Whether a fault tells of a bound that is exceeded when a member comes after some others. -/
inductive Exceeds (l : UnpackLimits) (ms : List Archive.Member) (m : Archive.Member) : UnpackFault → Prop where
  | tooMany (h : maxEntries l < (ms ++ [m]).length) : Exceeds l ms m (.tooMany (maxEntries l))
  | memberTooLarge (hdir : m.isDirectory = false) (h : maxFileBytes l < m.size) :
      Exceeds l ms m (.memberTooLarge m.name m.size (maxFileBytes l))
  | tooLarge (h : maxTotalBytes l < ((ms ++ [m]).map counted).sum) :
      Exceeds l ms m (.tooLarge ((ms ++ [m]).map counted).sum (maxTotalBytes l))

/-- Whether an archive is turned down for the number or the size of its members. -/
def IsForSize : UnpackFault → Prop
  | .tooMany _ | .memberTooLarge .. | .tooLarge .. => True
  | _ => False

theorem Admits.within (h : Admits c l outDir p w n i ms r w') (hentries : p.entries ≤ maxEntries l)
    (htotal : p.total ≤ maxTotalBytes l) :
    p.entries + ms.length ≤ maxEntries l ∧ (∀ m ∈ ms, counted m ≤ maxFileBytes l) ∧
      p.total + (ms.map counted).sum ≤ maxTotalBytes l := by
  induction h with
  | done => exact ⟨hentries, by simp, htotal⟩
  | unreadable => exact ⟨hentries, by simp, htotal⟩
  | refused => exact ⟨hentries, by simp, htotal⟩
  | broken _ hr =>
    -- it was let in before it failed, so it counts
    obtain ⟨hmore, hfile, hsum⟩ := counted_of_refusal? hr
    refine ⟨hmore, by simpa using hfile, ?_⟩
    simpa using hsum htotal
  | admitted _ hr _ _ ih =>
    obtain ⟨hmore, hfile, hsum⟩ := counted_of_refusal? hr
    obtain ⟨hlen, hfiles, htot⟩ := ih hmore (hsum htotal)
    simp only [Progress.after] at hlen htot
    refine ⟨by rw [List.length_cons]; omega, List.forall_mem_cons.2 ⟨hfile, hfiles⟩, ?_⟩
    rw [List.map_cons, List.sum_cons]
    omega

/-- A member that is not let in for its size, or because it is one too many, exceeds a bound. -/
theorem exceeds_of_refusal? {here : String} {fault : UnpackFault} (h : refusal? l here outDir p m = some fault)
    (hsize : IsForSize fault) (hentries : p.entries = ms.length) (htotal : p.total = (ms.map counted).sum) :
    Exceeds l ms m fault := by
  cases refuses_of_refusal? h with
  | tooMany hcount => exact .tooMany (by simpa [hentries] using hcount)
  | memberTooLarge hdir hfile => exact .memberTooLarge hdir hfile
  | tooLarge hdir htoo =>
    have hsum : ((ms ++ [m]).map counted).sum = p.total + m.size := by
      simp [htotal, counted, hdir]
    rw [← hsum] at htoo ⊢
    exact .tooLarge htoo
  -- what is wrong with a name is no matter of size
  | blankName => cases hsize
  | badPath => cases hsize
  | escaped => cases hsize

/-- Whether no failure of an operation turns an archive down for anything but a link that would lead out. -/
def RefusesLinks {α : Type} (x : Forge α) : Prop :=
  ∀ w fault w', runOn w x = (.error (.unpack fault), w') → ∃ name target, fault = .linkEscapes name target

theorem RefusesLinks.bind {α β : Type} {x : Forge α} {g : α → Forge β} (hx : RefusesLinks x)
    (hg : ∀ a, RefusesLinks (g a)) : RefusesLinks (x >>= g) := by
  intro w fault w' h
  rw [runOn_bind] at h
  rcases hr : runOn w x with ⟨e | a, w₁⟩
  · rw [hr] at h
    cases h
    exact hx w fault _ hr
  · rw [hr] at h
    exact hg a w₁ fault w' h

theorem RefusesLinks.throw {α : Type} {f : Failure}
    (h : ∀ fault, f = .unpack fault → ∃ name target, fault = .linkEscapes name target) :
    RefusesLinks (throw f : Forge α) := by
  intro w fault w' hr
  cases hr
  exact h fault rfl

theorem RefusesLinks.pure {α : Type} (a : α) : RefusesLinks (Pure.pure a : Forge α) := by
  intro w fault w' h
  cases h

theorem RefusesLinks.here : RefusesLinks Forge.here := by
  intro w fault w' h
  rw [runOn_here] at h
  cases h

theorem RefusesLinks.change (f : Disk → Except DiskFault Disk) : RefusesLinks (Forge.change f) := by
  intro w fault w' h
  rw [runOn_change] at h
  cases hd : f w.disk with
  | ok d =>
    rw [hd] at h
    cases h
  | error e =>
    rw [hd] at h
    cases h

theorem RefusesLinks.makeDirectories (path : String) : RefusesLinks (Forge.makeDirectories path) := by
  intro w fault w' h
  rw [runOn_makeDirectories] at h
  cases hd : (w.disk.makeDirectories path).2 with
  | none =>
    rw [hd] at h
    cases h
  | some e =>
    rw [hd] at h
    cases h

theorem content_refusesLinks (m : Archive.Member) : RefusesLinks (content c m) := by
  rw [content]
  cases Archive.content c m with
  | ok bytes => exact .pure bytes
  | error f => exact .throw fun _ h => by cases h

theorem makeLink_refusesLinks (name path : String) (bytes : ByteArray) :
    RefusesLinks (makeLink outDir name path bytes) := by
  rw [makeLink]
  refine .bind .here fun here => ?_
  dsimp only
  split
  · refine .bind (.throw fun fault h => ?_) fun _ => .change _
    cases h
    exact ⟨_, _, rfl⟩
  · exact .change _

theorem makeFile_refusesLinks (m : Archive.Member) (path : String) : RefusesLinks (makeFile c m path) := by
  rw [makeFile]
  split
  · refine .bind (.change _) fun _ => ?_
    split
    · exact .change _
    · exact .pure _
  · exact .bind (.change _) fun _ => .throw fun _ h => by cases h
  · exact .throw fun _ h => by cases h

/-- What is done for a member that was let in turns nothing down but a link. -/
theorem enter_refusesLinks (m : Archive.Member) : RefusesLinks (enter c outDir m) := by
  rw [enter]
  refine .bind .here fun here => ?_
  dsimp only
  split
  · exact .makeDirectories _
  · rw [place]
    refine .bind (.makeDirectories _) fun _ => ?_
    split
    · exact .bind (content_refusesLinks m) fun bytes => makeLink_refusesLinks _ _ bytes
    · exact makeFile_refusesLinks m _

/-- Whether no failure of an operation says that an archive is turned down for its size. -/
def SparesSize {α : Type} (x : Forge α) : Prop :=
  ∀ w fault w', runOn w x = (.error (.unpack fault), w') → ¬ IsForSize fault

theorem RefusesLinks.sparesSize {α : Type} {x : Forge α} (h : RefusesLinks x) : SparesSize x := by
  intro w fault w' hr
  obtain ⟨name, target, rfl⟩ := h w fault w' hr
  exact id

/-- A run that ends because of a bound met a member that exceeds it after those that were let in; `before` are the
members that were let in before the run. -/
theorem Admits.exceeds (h : Admits c l outDir p w n i ms r w') {fault : UnpackFault}
    (hr : r = .error (.unpack fault)) (hsize : IsForSize fault) (before : List Archive.Member)
    (hentries : p.entries = before.length) (htotal : p.total = (before.map counted).sum) :
    ∃ m, Archive.listed c (ms.length + 1) i = .ok (ms ++ [m]) ∧ Exceeds l (before ++ ms) m fault := by
  induction h generalizing before with
  | done => cases hr
  | unreadable => cases hr
  | @refused p w n i next m fault' hm hrefused =>
    cases hr
    refine ⟨m, ?_, ?_⟩
    · rw [List.length_nil, Archive.listed_succ, hm]
      rfl
    · rw [List.append_nil]
      exact exceeds_of_refusal? hrefused hsize hentries htotal
  | broken _ _ he =>
    cases hr
    exact absurd hsize ((enter_refusesLinks _).sparesSize _ _ _ he)
  | @admitted p w w₁ w' n i next m ms r hm _ _ _ ih =>
    have hentries' : (p.after m).entries = (before ++ [m]).length := by simp [Progress.after, hentries]
    have htotal' : (p.after m).total = ((before ++ [m]).map counted).sum := by simp [Progress.after, htotal]
    obtain ⟨last, hlisted, hexceeds⟩ := ih hr (before ++ [m]) hentries' htotal'
    refine ⟨last, ?_, ?_⟩
    · rw [List.length_cons, Archive.listed_succ, hm]
      dsimp only
      rw [hlisted]
      rfl
    · rwa [List.append_assoc] at hexceeds

theorem Admits.limited (h : Admits c l outDir {} w n i ms r w') : Limited l counted ms := by
  obtain ⟨hentries, hfile, htotal⟩ := h.within (Nat.zero_le _) (Nat.zero_le _)
  exact ⟨by simpa using hentries, hfile, by simpa using htotal⟩

theorem bytesRead_le (hc : Measured c) {k : Nat} (hk : k ≤ c.count) (hms : Archive.listed c k c.start = .ok ms)
    (hm : m ∈ ms) : bytesRead c m ≤ counted m := by
  rw [bytesRead, counted]
  cases hdir : m.isDirectory with
  | true => simp
  | false =>
    cases hbytes : Archive.content c m with
    | error f => simp [Except.toOption]
    | ok bytes =>
      have hsize : bytes.size = m.size := hc k hk ms (by simp [hms, Except.toOption]) m hm hdir bytes
        (by simp [hbytes, Except.toOption])
      simp [Except.toOption, hsize]

theorem Limited.mono {size size' : Archive.Member → Nat} (h : Limited l size ms)
    (hle : ∀ m ∈ ms, size' m ≤ size m) : Limited l size' ms := by
  refine ⟨h.entries, fun m hm => Nat.le_trans (hle m hm) (h.file m hm), ?_⟩
  exact Nat.le_trans (List.sum_le_sum hle) h.total

theorem Limited.before {size : Archive.Member → Nat} {before : List Archive.Member} (h : Limited l size ms)
    (hbefore : before <+: ms) : Limited l size before := by
  obtain ⟨rest, rfl⟩ := hbefore
  refine ⟨?_, fun m hm => h.file m (by simp [hm]), ?_⟩
  · exact Nat.le_trans (by simp) h.entries
  · exact Nat.le_trans (by simp) h.total

/-- The world once there is a directory to unpack in. -/
def opening (outDir : String) (w : World) : World := { w with disk := opened outDir w }

theorem opening_disk (outDir : String) (w : World) : (opening outDir w).disk = opened outDir w := by
  rw [opening]

/-- An archive that can be read and opened is unpacked from its first member on. -/
theorem runOn_run_of_open {archive outDir : String} {l : UnpackLimits} {w : World} {bytes : ByteArray}
    {c : Archive.Contents} (hmade : (w.disk.makeDirectories (outPath outDir w)).2 = none)
    (hread : (opened outDir w).read (outPath archive w) = .ok bytes) (hopen : Archive.open? bytes = .ok c) :
    runOn w (run archive outDir l) =
      ((runOn (opening outDir w) (unpackFrom c l (outPath outDir w) {} c.count c.start)).1.map Progress.entries,
        (runOn (opening outDir w) (unpackFrom c l (outPath outDir w) {} c.count c.start)).2) := by
  have hmade' := runOn_makeDirectories w (outPath outDir w)
  rw [hmade] at hmade'
  have hread' := runOn_readFile (opening outDir w) (outPath archive w)
  rw [opening_disk, hread, mapError_ok] at hread'
  rw [run, runOn_bind_ok (runOn_here w)]
  simp only [← outPath_eq]
  rw [runOn_bind_ok hmade']
  show runOn (opening outDir w) _ = _
  rw [runOn_bind_ok hread', hopen]
  show runOn (opening outDir w) (unpackFrom c l (outPath outDir w) {} c.count c.start >>= _) = _
  rw [runOn_bind]
  rcases runOn (opening outDir w) (unpackFrom c l (outPath outDir w) {} c.count c.start) with ⟨_ | _, w'⟩
  · rfl
  · rfl

/-- A run of unpacking fails before the first member, or it goes through the members of an archive. -/
theorem run_opens (archive outDir : String) (l : UnpackLimits) (w : World) :
    (∃ f, runOn w (run archive outDir l) = (.error f, opening outDir w) ∧ ∀ fault, f ≠ .unpack fault) ∨
      ∃ bytes c, (opened outDir w).read (outPath archive w) = .ok bytes ∧ Archive.open? bytes = .ok c ∧
        runOn w (run archive outDir l) =
          ((runOn (opening outDir w) (unpackFrom c l (outPath outDir w) {} c.count c.start)).1.map Progress.entries,
            (runOn (opening outDir w) (unpackFrom c l (outPath outDir w) {} c.count c.start)).2) := by
  have hmade := runOn_makeDirectories w (outPath outDir w)
  have hread := runOn_readFile (opening outDir w) (outPath archive w)
  rw [opening_disk] at hread
  cases hfault : (w.disk.makeDirectories (outPath outDir w)).2 with
  | some f =>
    rw [hfault] at hmade
    rw [run, runOn_bind_ok (runOn_here w)]
    exact .inl ⟨.disk f, runOn_bind_error hmade, fun fault h => by cases h⟩
  | none =>
    rw [hfault] at hmade
    cases hbytes : (opened outDir w).read (outPath archive w) with
    | error f =>
      rw [hbytes] at hread
      rw [run, runOn_bind_ok (runOn_here w)]
      simp only [← outPath_eq]
      rw [runOn_bind_ok hmade]
      exact .inl ⟨.disk f, runOn_bind_error hread, fun fault h => by cases h⟩
    | ok bytes =>
      cases hopen : Archive.open? bytes with
      | error f =>
        rw [hbytes, mapError_ok] at hread
        rw [run, runOn_bind_ok (runOn_here w)]
        simp only [← outPath_eq]
        rw [runOn_bind_ok hmade]
        show (∃ f, runOn (opening outDir w) _ = _ ∧ _) ∨ _
        rw [runOn_bind_ok hread, hopen]
        exact .inl ⟨.archive f, rfl, fun fault h => by cases h⟩
      | ok c => exact .inr ⟨bytes, c, rfl, hopen, runOn_run_of_open hfault hbytes hopen⟩

example : ∀ c ∈ (Archive.open? through).toOption, Measured c := by
  decide +kernel

example : ((runOn (besides through) (run "/a.zip" "/x" { maxEntries := some 2 })).1.toOption.isNone,
    (runOn (besides through) (run "/a.zip" "/x" { maxEntries := some 3 })).1.toOption) = (true, some 3) := by
  decide +kernel

/-! ## Names that are let in

The name of a member is tested twice: once as a relative path in its normal form, and once when it was joined to the
directory and resolved, by the text that results. In the root itself the second test fails for every member below it,
since the text of the root ends in a slash already. -/

variable {here name : String} {top : List Part}

/-- Whether a path in its normal form is relative and goes somewhere, does not climb first, and does not begin with a
letter, a colon and a slash. -/
structure GoesIn (path : String) : Prop where
  relative : isAbsolute path = false
  moves : path ≠ "."
  starts : (parts path.toList).head? ≠ some up
  noDrive : ∀ d rest, path.toList = d :: ':' :: '/' :: rest → d.isAlpha = false

theorem occurs_iff {part cs : List Char} : Text.occurs part cs = true ↔ part <:+: cs := by
  induction cs with
  | nil => simp [Text.occurs]
  | cons d cs ih => rw [Text.occurs, Bool.or_eq_true, ih, List.isPrefixOf_iff_prefix, List.infix_cons_iff]

theorem isDrive_eq_false_iff {cs : List Char} :
    leadsOut.isDrive cs = false ↔ ∀ d rest, cs = d :: ':' :: '/' :: rest → d.isAlpha = false := by
  constructor
  · rintro h d rest rfl
    exact h
  · intro h
    rw [leadsOut.isDrive.eq_def]
    split
    · exact h _ _ rfl
    · rfl

theorem isAbsolute_eq_startsWith (path : String) : isAbsolute path = Text.startsWith path "/" := by
  rw [isAbsolute, isAbsoluteChars, Text.startsWith]
  cases path.toList with
  | nil => rfl
  | cons d ds => simp [List.isPrefixOf, Bool.beq_comm]

/-- The text of a path shows a double point that stands alone, at the front, or between two slashes only if one of its
parts climbs. -/
theorem shows_no_climb {path : String} (hup : up ∉ parts path.toList) :
    path ≠ ".." ∧ Text.startsWith path "../" = false ∧ Text.occurs "/../".toList path.toList = false := by
  refine ⟨?_, ?_, ?_⟩
  · rintro rfl
    exact hup (by decide)
  · rw [← Bool.not_eq_true, Text.startsWith, List.isPrefixOf_iff_prefix]
    rintro ⟨rest, hrest⟩
    rw [← hrest] at hup
    exact hup (mem_parts_append_slash (by decide) rest)
  · rw [← Bool.not_eq_true, occurs_iff]
    rintro ⟨before, rest, hrest⟩
    have hcut : path.toList = before ++ '/' :: (up ++ '/' :: rest) := by
      rw [← hrest, List.append_assoc]
      rfl
    rw [hcut, parts_append_slash, List.mem_append, not_or] at hup
    exact hup.2 (mem_parts_append_slash (by decide) rest)

theorem goesIn_of_not_leadsOut (h : leadsOut name = false) : GoesIn (Path.normalize name) := by
  obtain ⟨hrel, hup, -⟩ := of_not_leadsOut h
  simp only [leadsOut, Bool.or_eq_false_iff, beq_eq_false_iff_ne] at h
  obtain ⟨⟨⟨⟨⟨hdot, -⟩, -⟩, -⟩, hslash⟩, hdrive⟩ := h
  refine ⟨?_, hdot, ?_, isDrive_eq_false_iff.1 hdrive⟩
  · rw [isAbsolute_eq_startsWith, hslash]
  · rw [Path.normalize, String.toList_ofList, ne_eq, head?_parts_normalizeChars hrel]
    exact hup

theorem not_leadsOut_of_goesIn (h : GoesIn (Path.normalize name)) : leadsOut name = false := by
  -- an absolute path stays so in its normal form
  have hrel : isAbsolute name = false := by
    by_contra hc
    have habs := isAbsolute_normalize (by simpa using hc)
    rw [h.relative] at habs
    cases habs
  -- it does not climb first, so it does not climb at all
  have hup : up ∉ parts (Path.normalize name).toList := by
    have hstarts := h.starts
    rw [Path.normalize, String.toList_ofList] at hstarts ⊢
    rwa [up_mem_parts_normalizeChars hrel, ← head?_parts_normalizeChars hrel]
  obtain ⟨halone, hfirst, hlater⟩ := shows_no_climb hup
  simp only [leadsOut, Bool.or_eq_false_iff, beq_eq_false_iff_ne]
  refine ⟨⟨⟨⟨⟨h.moves, halone⟩, hfirst⟩, hlater⟩, ?_⟩, isDrive_eq_false_iff.2 h.noDrive⟩
  rw [← isAbsolute_eq_startsWith, h.relative]

/-- The path of a member whose name passed the first test lies in the directory by its text. -/
theorem isInside_member (htop : ∀ q ∈ top, IsName q) (hne : top ≠ []) (h : leadsOut name = false) :
    isInside (absolute top) (resolve here [join [absolute top, name]]) = true := by
  obtain ⟨-, hup, -⟩ := of_not_leadsOut h
  have hall : ∀ q ∈ top ++ normalParts true name.toList, IsName q :=
    List.forall_mem_append.2 ⟨htop, fun q hq => isName_of_mem_of_up_notMem hq hup⟩
  rw [memberPath_eq here htop hup, isInside_absolute_iff htop hall hne]
  exact List.prefix_append _ _

theorem refusal?_ne_escaped (htop : ∀ q ∈ top, IsName q) (hne : top ≠ []) :
    refusal? l here (absolute top) p m ≠ some (.escaped name) := by
  intro h
  cases refuses_of_refusal? h with
  | escaped hout hinside =>
    -- the second test comes after the first, which the name has passed
    rw [isInside_member htop hne hout] at hinside
    cases hinside

/-- No run of unpacking ends because a member's path is outside the directory. -/
theorem Admits.not_escaped (h : Admits c l (absolute top) p w n i ms r w') (htop : ∀ q ∈ top, IsName q)
    (hne : top ≠ []) : r ≠ .error (.unpack (.escaped name)) := by
  induction h with
  | done => simp
  | unreadable => simp
  | refused _ hr =>
    intro he
    cases he
    exact refusal?_ne_escaped htop hne hr
  | broken _ _ he =>
    intro hr
    cases hr
    obtain ⟨_, _, hlink⟩ := enter_refusesLinks _ _ _ _ he
    cases hlink
  | admitted _ _ _ _ ih => exact ih

/-- A resolved path is the root, or it goes from the root through some names. -/
theorem exists_below {paths : List String} (hroot : resolve here paths ≠ "/") :
    ∃ top, (∀ q ∈ top, IsName q) ∧ top ≠ [] ∧ resolve here paths = absolute top := by
  obtain ⟨top, htop, hresolve⟩ := exists_resolve here paths
  refine ⟨top, htop, ?_, hresolve⟩
  rintro rfl
  exact hroot hresolve

/-- No run of unpacking into a directory other than the root finds that a member's path is outside. -/
theorem run_not_escaped (archive out : String) (hroot : outPath out w ≠ "/") :
    (runOn w (run archive out l)).1 ≠ .error (.unpack (.escaped name)) := by
  obtain ⟨top, htop, hne, hpath⟩ : ∃ top, (∀ q ∈ top, IsName q) ∧ top ≠ [] ∧ outPath out w = absolute top :=
    exists_below hroot
  rcases run_opens archive out l w with ⟨f, hrun, hf⟩ | ⟨bytes, c, -, -, hrun⟩
  · rw [hrun]
    intro he
    cases he
    exact hf _ rfl
  · obtain ⟨ms, hms⟩ : ∃ ms, Admits c l (absolute top) {} (opening out w) c.count c.start ms _ _ :=
      unpackFrom_admits {} (opening out w) c.count c.start
    rw [hrun, hpath]
    generalize runOn (opening out w) (unpackFrom c l (absolute top) {} c.count c.start) = ended at hms
    cases hr : ended.1 with
    | ok p => simp [Except.map]
    | error f =>
      intro he
      cases he
      exact hms.not_escaped htop hne hr

/-- In a directory other than the root a member whose name passes the first test passes the second one, and no run of
unpacking ends at that. The first test lets in every name that is relative in its normal form, goes somewhere, does not
climb first and is no drive, and no others. -/
theorem guards_agree :
    (∀ here dir name, resolve here [dir] = dir → dir ≠ "/" → leadsOut (Text.replaceChar name '\\' '/') = false →
      isInside dir (resolve here [join [dir, Text.replaceChar name '\\' '/']]) = true) ∧
    (∀ archive out l w name, outPath out w ≠ "/" →
      (runOn w (run archive out l)).1 ≠ .error (.unpack (.escaped name))) ∧
    ∀ name, leadsOut name = false ↔ GoesIn (Path.normalize name) := by
  refine ⟨fun here dir name hdir hroot hname => ?_, fun archive out l w name hroot => ?_, fun name => ?_⟩
  · obtain ⟨top, htop, hne, hpath⟩ :
        ∃ top, (∀ q ∈ top, IsName q) ∧ top ≠ [] ∧ resolve here [dir] = absolute top := exists_below (by rwa [hdir])
    rw [hdir] at hpath
    rw [hpath]
    exact isInside_member htop hne hname
  · exact run_not_escaped archive out hroot
  · exact ⟨goesIn_of_not_leadsOut, not_leadsOut_of_goesIn⟩

theorem guards_agree_backslashes :
    resolve "/" ["/x"] = "/x" ∧ "/x" ≠ "/" ∧ leadsOut (Text.replaceChar "a\\..\\.b//" '\\' '/') = false ∧
      isInside "/x" (resolve "/" [join ["/x", Text.replaceChar "a\\..\\.b//" '\\' '/']]) = true ∧
      outPath "/x" (besides through) ≠ "/" ∧
      (runOn (besides through) (run "/a.zip" "/x" {})).1 ≠ .error (.unpack (.escaped "l")) ∧
      GoesIn (Path.normalize (Text.replaceChar "a\\..\\.b//" '\\' '/')) := by
  have hdir : resolve "/" ["/x"] = "/x" := by decide +kernel
  have hname : leadsOut (Text.replaceChar "a\\..\\.b//" '\\' '/') = false := by decide +kernel
  have hout : outPath "/x" (besides through) ≠ "/" := by decide +kernel
  refine ⟨hdir, by decide, hname, ?_, hout, ?_, ?_⟩
  · exact guards_agree.1 "/" "/x" _ hdir (by decide) hname
  · exact guards_agree.2.1 _ _ _ _ _ hout
  · exact (guards_agree.2.2 _).1 hname

-- in the root a name passes the first test and fails the second
example : leadsOut "a" = false ∧ isInside "/" (resolve "/" [join ["/", "a"]]) = false := by
  decide +kernel

end Unpack

end VariantForge
