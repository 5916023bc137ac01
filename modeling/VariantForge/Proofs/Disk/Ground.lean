import VariantForge.Proofs.Disk.Anchor
import VariantForge.Proofs.Disk.Tree

/-!
# Ground — disks that a program stands on

A program works from a directory of a tree (`Grounded`). Operations that are no removal of a
directory keep it so, and from there a relative path leads where the absolute path leads that it
stands for.

After a removal the path names nothing (`vacant_of_removeAll`), after that of a file no file and no link
(`gone_of_removeFile`).
-/

namespace VariantForge.Disk

open Path

variable {d d' d'' : Disk} {follow : Bool} {here p q : Place} {e : Entry} {ns : List String}
  {path source target : String}

/-! ## Directories -/

theorem isDirectory_iff :
    d.isDirectory path = true ↔ ∃ p, d.locate path = .ok p ∧ d.get? p = some .directory := by
  rw [isDirectory, look?]
  cases hp : d.locate path with
  | error r => simp
  | ok p =>
    cases hget : d.get? p with
    | none => simp [hget]
    | some e => simp [hget, Entry.isDirectory_iff]

theorem walkPath_ok (h : d.walkPath follow path = .ok p) :
    path.isEmpty = false ∧ isLongPath path = false ∧
      d.walk follow linkBound (if fromRoot path then [] else d.here) (names path) = .ok p := by
  rw [walkPath] at h
  split at h
  · cases h
  rename_i hempty
  split at h
  · cases h
  rename_i hlong
  exact ⟨by simpa using hempty, by simpa using hlong, h⟩

theorem walkPath_of_walk (hempty : path.isEmpty = false) (hlong : isLongPath path = false) :
    d.walkPath follow path = d.walk follow linkBound (if fromRoot path then [] else d.here) (names path) := by
  rw [walkPath, if_neg (by simp [hempty]), if_neg (by simp [hlong])]

theorem Ways.walkPath (hw : Ways d d') (hhere : d'.here = d.here) (h : d.walkPath follow path = .ok p)
    (hp : d.get? p = some e) (hfile : e.isFile = true → (d'.get? p).any Entry.isFile = true) :
    d'.walkPath follow path = .ok p := by
  obtain ⟨hempty, hlong, hwalk⟩ := walkPath_ok h
  rw [walkPath_of_walk hempty hlong, hhere]
  exact hw.walk hwalk hp hfile

theorem Extends.walkPath (hx : Extends d d') (hhere : d'.here = d.here)
    (h : d.walkPath follow path = .ok p) (hp : d.get? p = some e) : d'.walkPath follow path = .ok p :=
  hx.ways.walkPath hhere h hp fun hfile => by simpa [hx p e hp] using hfile

theorem Ways.isDirectory (hw : Ways d d') (hhere : d'.here = d.here) (h : d.isDirectory path = true) :
    d'.isDirectory path = true := by
  obtain ⟨p, hp, hdir⟩ := isDirectory_iff.1 h
  exact isDirectory_iff.2 ⟨p, hw.walkPath hhere hp hdir nofun, hw p _ hdir rfl⟩

/-- Where a path leads to something, it also names something. -/
theorem locateSelf_of_locate (h : d.locate path = .ok p) (hp : d.get? p = some e) :
    ∃ q x, d.locateSelf path = .ok q ∧ d.get? q = some x ∧
      (x.isDirectory = true → e.isDirectory = true) := by
  obtain ⟨hempty, hlong, hwalk⟩ := walkPath_ok h
  rw [locateSelf, walkPath_of_walk hempty hlong]
  rcases walk_self hwalk with hself | ⟨q, target, hself, hq⟩
  · exact ⟨p, e, hself, hp, id⟩
  · exact ⟨q, .link target, hself, hq, nofun⟩

/-! ## Removal -/

/-- Whether a path names neither a file nor a link. -/
def Gone (d : Disk) (path : String) : Prop :=
  ∀ p e, d.locateSelf path = .ok p → d.get? p = some e → e = .directory

/-- What a cut leaves at a place was there and is not what was cut. -/
theorem locateSelf_cut (h : (d.cut p).locateSelf path = .ok q) (hq : (d.cut p).get? q = some e) :
    d.locateSelf path = .ok q ∧ d.get? q = some e ∧ (p = q → q = []) := by
  refine ⟨(Extends.cut d p).walkPath rfl h hq, Extends.cut d p q e hq, fun hpq => ?_⟩
  by_contra hne
  rw [get?_cut_of_below (hpq ▸ List.prefix_refl p) hne] at hq
  cases hq

/-- Whether a path names nothing. -/
def Vacant (d : Disk) (path : String) : Prop := ∀ p, d.locateSelf path = .ok p → d.get? p = none

theorem Vacant.not_isDirectory (h : Vacant d path) : d.isDirectory path = false := by
  by_contra hc
  obtain ⟨p, hp, hdir⟩ := isDirectory_iff.1 (by simpa using hc)
  obtain ⟨q, x, hq, hx, -⟩ := locateSelf_of_locate hp hdir
  rw [h q hq] at hx
  cases hx

/-- Where a path that ends in a name was removed, it names nothing. -/
theorem vacant_of_removeAll {before : List String} {last : String}
    (hnames : names path = before ++ [last]) (hlast : IsStep last)
    (h : d.removeAll path = .ok d') : Vacant d' path := by
  intro q hq
  by_contra hc
  obtain ⟨x, hx⟩ := Option.ne_none_iff_exists'.1 hc
  rcases removeAll_ok h with ⟨hnone, rfl⟩ | ⟨r, hr, rfl⟩
  · rw [hq] at hnone
    cases hnone
  · obtain ⟨hbefore, -, hnil⟩ := locateSelf_cut hq hx
    rw [hr] at hbefore
    cases hbefore
    obtain ⟨-, -, hwalk⟩ := walkPath_ok hr
    rw [hnames] at hwalk
    obtain ⟨s, rfl⟩ := walk_ends hlast hwalk
    exact absurd (hnil rfl) (by simp)

/-- Where a path that ends in a name was removed, it leads to no directory. -/
theorem not_isDirectory_of_removeAll {before : List String} {last : String}
    (hnames : names path = before ++ [last]) (hlast : IsStep last)
    (h : d.removeAll path = .ok d') : d'.isDirectory path = false :=
  (vacant_of_removeAll hnames hlast h).not_isDirectory

/-- A path that cannot be removed leads nowhere. -/
theorem not_isDirectory_of_removeAll_error {f : DiskFault} (hnull : Text.hasNull path = false)
    (h : d.removeAll path = .error f) : d.isDirectory path = false := by
  by_contra hc
  obtain ⟨p, hp, hdir⟩ := isDirectory_iff.1 (by simpa using hc)
  obtain ⟨q, x, hq, -, -⟩ := locateSelf_of_locate hp hdir
  rw [removeAll, checkPath, nullFault?, hnull, hq] at h
  cases h

/-- Removing a file makes no directory. -/
theorem not_isDirectory_of_removeFile {other : String} (hno : d.isDirectory path = false)
    (h : d.removeFile other = .ok d') : d'.isDirectory path = false := by
  have hextends : Extends d' d ∧ d'.here = d.here := by
    rcases removeFile_ok h with ⟨-, rfl⟩ | ⟨p, -, -, rfl⟩
    · exact ⟨.refl _, rfl⟩
    · exact ⟨.cut _ p, rfl⟩
  by_contra hc
  have hdir := hextends.1.ways.isDirectory hextends.2.symm (by simpa using hc)
  rw [hno] at hdir
  cases hdir

theorem gone_of_removeFile (h : d.removeFile path = .ok d') : Gone d' path := by
  intro q e hq he
  rcases removeFile_ok h with ⟨hnone, rfl⟩ | ⟨p, hp, hdir, rfl⟩
  · rw [hnone] at hq
    cases hq
  · obtain ⟨hbefore, -, hnil⟩ := locateSelf_cut hq he
    rw [hp] at hbefore
    cases hbefore
    rw [hnil rfl] at hdir
    exact absurd rfl hdir

theorem removeFile_of_locateSelf (hnull : Text.hasNull path = false) (hp : d.locateSelf path = .ok p)
    (hdir : d.get? p ≠ some .directory) : d.removeFile path = .ok (d.cut p) := by
  rw [removeFile, checkPath, nullFault?, hnull, hp]
  cases hget : d.get? p with
  | none => simp [hget, bind, Except.bind]
  | some e =>
    cases e with
    | directory => exact absurd hget hdir
    | file bytes mode => simp [hget, bind, Except.bind]
    | link target => simp [hget, bind, Except.bind]

/-- A file that cannot be removed is not there. -/
theorem gone_of_removeFile_error {f : DiskFault} (hnull : Text.hasNull path = false)
    (h : d.removeFile path = .error f) : Gone d path := by
  intro q e hq he
  by_contra hdir
  rw [removeFile_of_locateSelf hnull hq (by simpa [he] using hdir)] at h
  cases h

/-! ## Trees -/

theorem Tree.dropLast (h : d.Tree) (hp : d.get? p ≠ none) : d.get? p.dropLast = some .directory := by
  induction p using List.reverseRecOn with
  | nil => rfl
  | append_singleton p n _ =>
    rw [List.dropLast_concat]
    exact h p n hp

/-- In a tree a leg that begins in a directory only gets to places in directories. -/
theorem Tree.leg_above (h : d.Tree) (hhere : d.get? here = some .directory) :
    (∀ p, d.leg follow here ns = .arrived p → d.get? p.dropLast = some .directory) ∧
      ∀ there target rest, d.leg follow here ns = .link there target rest →
        d.get? there = some .directory := by
  induction ns generalizing here with
  | nil =>
    rw [leg]
    refine ⟨fun p hp => ?_, fun _ _ _ hp => by cases hp⟩
    cases hp
    exact h.dropLast (by simp [hhere])
  | cons name ns ih =>
    by_cases hblank : name = "" ∨ name = "."
    · rw [leg_blank hblank]
      exact ih hhere
    by_cases hup : name = ".."
    · subst hup
      rw [leg_up]
      exact ih (h.dropLast (by simp [hhere]))
    have hstep : IsStep name := ⟨fun hn => hblank (.inl hn), fun hn => hblank (.inr hn), hup⟩
    have habove : d.get? (here ++ [name]).dropLast = some .directory := by
      rwa [List.dropLast_concat]
    rw [leg_step hstep]
    by_cases hlong : isLongName name = true
    · simp [hlong]
    rw [if_neg hlong]
    cases hget : d.get? (here ++ [name]) with
    | none =>
      refine ⟨fun p hp => ?_, fun _ _ _ hp => ?_⟩
      · dsimp only at hp
        split at hp <;> cases hp
        exact habove
      · dsimp only at hp
        split at hp <;> cases hp
    | some e =>
      cases e with
      | directory => exact ih hget
      | file bytes mode =>
        refine ⟨fun p hp => ?_, fun _ _ _ hp => ?_⟩
        · dsimp only at hp
          split at hp <;> cases hp
          exact habove
        · dsimp only at hp
          split at hp <;> cases hp
      | link target =>
        refine ⟨fun p hp => ?_, fun _ _ _ hp => ?_⟩
        · dsimp only at hp
          split at hp <;> cases hp
          exact habove
        · dsimp only at hp
          split at hp <;> cases hp
          exact hhere

theorem Tree.walk_above (h : d.Tree) (hhere : d.get? here = some .directory) {n : Nat}
    (hp : d.walk follow n here ns = .ok p) : d.get? p.dropLast = some .directory := by
  induction n generalizing here ns with
  | zero =>
    rcases walk_ok hp with hleg | ⟨_, _, _, _, hn, _, _⟩
    · exact (h.leg_above hhere).1 p hleg
    · cases hn
  | succ n ih =>
    rcases walk_ok hp with hleg | ⟨_, there, target, rest, hn, hleg, hrest⟩
    · exact (h.leg_above hhere).1 p hleg
    · cases hn
      refine ih ?_ hrest
      split
      · rfl
      · exact (h.leg_above hhere).2 there target rest hleg

/-- Below what is no directory there is nothing. -/
theorem Tree.below (h : d.Tree) (hp : d.get? p ≠ some .directory) (hpq : p <+: q) (hne : p ≠ q) :
    d.get? q = none := by
  by_contra hc
  exact hp (h.directory hc hpq hne)

/-- What is cut at a place that holds no directory is what is there alone. -/
theorem Tree.get?_cut_of_ne (h : d.Tree) (hp : d.get? p ≠ some .directory) (hq : q ≠ p) :
    (d.cut p).get? q = d.get? q := by
  by_cases hpq : p <+: q
  · have hne : q ≠ [] := by
      rintro rfl
      exact hq (List.prefix_nil.1 hpq).symm
    rw [get?_cut_of_below hpq hne, h.below hp hpq hq.symm]
  · exact get?_cut_of_not_below hpq

/-- Where nothing was, cutting off what is there undoes all that has come there alone. -/
theorem Tree.get?_cut_eq (h : d.Tree) (hp : d.get? p = none) (hne : p ≠ [])
    (houtside : ∀ r, ¬ p <+: r → d'.get? r = d.get? r) : (d'.cut p).get? q = d.get? q := by
  by_cases hpq : p <+: q
  · have hq : q ≠ [] := by
      rintro rfl
      exact hne (List.prefix_nil.1 hpq)
    rw [get?_cut_of_below hpq hq, h.get?_eq_none hp hpq]
  · rw [get?_cut_of_not_below hpq, houtside q hpq]

/-! ## Operations that remove no directory -/

/-- Whether a disk is a tree with all the directories of an earlier one. -/
structure Tended (d d' : Disk) : Prop where
  here : d'.here = d.here
  tree : d'.Tree
  directories : ∀ p, d.get? p = some .directory → d'.get? p = some .directory

theorem Tended.refl (h : d.Tree) : Tended d d := ⟨rfl, h, fun _ hp => hp⟩

theorem Tended.trans (h : Tended d d') (h' : Tended d' d'') : Tended d d'' :=
  ⟨h'.here.trans h.here, h'.tree, fun p hp => h'.directories p (h.directories p hp)⟩

/-- A place that holds no directory is not the root. -/
theorem ne_nil_of_not_directory (h : d.get? p ≠ some .directory) : p ≠ [] := by
  rintro rfl
  exact h rfl

theorem Tree.above (h : d.Tree) (hroot : fromRoot path = true) (hp : d.walkPath follow path = .ok p) :
    d.get? p.dropLast = some .directory := by
  have hwalk := (walkPath_ok hp).2.2
  rw [hroot, if_pos rfl] at hwalk
  exact h.walk_above rfl hwalk

theorem Tree.put_tended (h : d.Tree) (hp : p ≠ []) (habove : d.get? p.dropLast = some .directory)
    (he : d.get? p = some .directory → e = .directory) : Tended d (d.put p e) := by
  refine ⟨rfl, h.put hp habove he, fun q hq => ?_⟩
  rw [get?_put hp]
  split
  · rename_i hqp
    rw [he (hqp ▸ hq)]
  · exact hq

/-- In a tree no directory is at or below a place that holds none. -/
theorem Tree.not_below (h : d.Tree) (hp : d.get? p ≠ some .directory) (hq : d.get? q = some .directory) :
    ¬ p <+: q := by
  intro hc
  by_cases hpq : p = q
  · exact hp (hpq ▸ hq)
  · exact hp (h.directory (by simp [hq]) hc hpq)

theorem Tree.cut_tended (h : d.Tree) (hp : d.get? p ≠ some .directory) : Tended d (d.cut p) := by
  refine ⟨rfl, h.cut p, fun q hq => ?_⟩
  rw [get?_cut_of_not_below (h.not_below hp hq), hq]

theorem Tree.move_tended (h : d.Tree) (hpq : ¬ p <+: q) (hqp : ¬ q <+: p)
    (habove : d.get? q.dropLast = some .directory) (hp : d.get? p ≠ some .directory)
    (hq : d.get? q ≠ some .directory) : Tended d (d.moveEntries p q) := by
  refine ⟨rfl, h.move hpq hqp habove, fun r hr => ?_⟩
  rw [get?_moveEntries hpq hqp, if_neg (h.not_below hq hr), if_neg (h.not_below hp hr), hr]

theorem Tree.makeDirectory (h : d.Tree) (hd : d.makeDirectory path = .ok d') : Tended d d' := by
  obtain ⟨last, before, here, _, _, hdir, _, _, _, hnone, rfl, _, _⟩ := makeDirectory_ok hd
  exact h.put_tended (by simp) (by rwa [List.dropLast_concat]) fun _ => rfl

theorem Tree.makeDirectories (h : d.Tree) (path : String) : Tended d (d.makeDirectories path).1 :=
  makeDirectories_keeps (fun _ => True) (fun _ _ => trivial)
    (fun _ _ _ hd _ hmade => hd.trans (hd.tree.makeDirectory hmade)) (.refl h) trivial

theorem Tree.put_entry (h : d.Tree) (hroot : fromRoot path = true) (hp : d.walkPath follow path = .ok p)
    (hdir : d.get? p ≠ some .directory) : Tended d (d.put p e) :=
  h.put_tended (ne_nil_of_not_directory hdir) (h.above hroot hp) fun hc => absurd hc hdir

theorem Tree.write {bytes : ByteArray} (h : d.Tree) (hroot : fromRoot path = true)
    (hd : d.write path bytes = .ok d') : Tended d d' := by
  obtain ⟨p, hp, hput⟩ := write_ok hd
  rcases hput with ⟨old, mode, hget, rfl⟩ | ⟨hget, rfl⟩
  · exact h.put_entry hroot (locateFile_ok hp) (by simp [hget])
  · exact h.put_entry hroot (locateFile_ok hp) (by simp [hget])

theorem Tree.create {bytes : ByteArray} (h : d.Tree) (hroot : fromRoot path = true)
    (hd : d.create path bytes = .ok d') : Tended d d' := by
  obtain ⟨p, hp, hget, rfl⟩ := create_ok hd
  exact h.put_entry hroot hp (by simp [hget])

theorem Tree.makeLink (h : d.Tree) (hroot : fromRoot path = true)
    (hd : d.makeLink target path = .ok d') : Tended d d' := by
  obtain ⟨p, hp, hget, rfl⟩ := makeLink_ok hd
  exact h.put_entry hroot hp (by simp [hget])

theorem Tree.setMode {mode : Nat} (h : d.Tree) (hroot : fromRoot path = true)
    (hd : d.setMode path mode = .ok d') : Tended d d' := by
  rcases setMode_ok hd with rfl | ⟨p, bytes, old, hp, hget, rfl⟩
  · exact .refl h
  · exact h.put_entry hroot hp (by simp [hget])

theorem Tree.removeFile (h : d.Tree) (hd : d.removeFile path = .ok d') : Tended d d' := by
  rcases removeFile_ok hd with ⟨-, rfl⟩ | ⟨p, -, hdir, rfl⟩
  · exact .refl h
  · exact h.cut_tended hdir

theorem Tree.rename (h : d.Tree) (hroot : fromRoot target = true) (hd : d.rename source target = .ok d')
    (hs : ∀ p, d.locateSelf source = .ok p → d.get? p ≠ some .directory) : Tended d d' := by
  obtain ⟨p, q, hp, hq, -, hdir, ⟨-, rfl⟩ | ⟨hpq, hqp, rfl⟩⟩ := rename_ok hd
  · exact .refl h
  · exact h.move_tended hpq hqp (h.above hroot hq) (hs p hp) (hdir.resolve_left (hs p hp))

theorem Tree.removeAll (h : d.Tree) (hd : d.removeAll path = .ok d') : d'.Tree := by
  rcases removeAll_ok hd with ⟨-, rfl⟩ | ⟨p, -, rfl⟩
  · exact h
  · exact h.cut p

/-- What the path of a file names is that file, or a link. -/
theorem not_directory_of_locate {bytes : ByteArray} {mode : Nat} (h : d.locate path = .ok p)
    (hp : d.get? p = some (.file bytes mode)) (hq : d.locateSelf path = .ok q) :
    d.get? q ≠ some .directory := by
  intro hdir
  obtain ⟨r, x, hr, hx, hfile⟩ := locateSelf_of_locate h hp
  rw [hq] at hr
  cases hr
  rw [hdir] at hx
  cases hx
  exact absurd (hfile rfl) (by simp [Entry.isDirectory])

/-- What is put where a path leads to nothing is where it leads. -/
theorem walkPath_put_new (h : d.walkPath follow path = .ok p) (hp : d.get? p = none)
    (he : follow = false ∨ ∀ t, e ≠ .link t) :
    (d.put p e).walkPath follow path = .ok p ∧ (d.put p e).get? p = some e := by
  obtain ⟨hempty, hlong, hwalk⟩ := walkPath_ok h
  have hnil : p ≠ [] := ne_nil_of_not_directory (d := d) (by simp [hp])
  refine ⟨?_, get?_put_self hnil⟩
  rw [walkPath_of_walk hempty hlong]
  exact walk_put_new hp he hwalk

/-- What was written is a file with the mode that it had or that a new one gets. It can be written again. -/
theorem write_leaves {bytes : ByteArray} (h : d.write path bytes = .ok d') :
    ∃ p mode, d.locateFile path = .ok p ∧ d'.locateFile path = .ok p ∧ mayWrite mode = true ∧
      (d.get? p).all Entry.isFile = true ∧ d'.get? p = some (.file bytes mode) ∧ d' = d.put p (.file bytes mode) := by
  obtain ⟨p, hp, hput⟩ := write_ok h
  have hslash := not_endsInSlash_of_locateFile hp
  have hlocate := locateFile_ok hp
  have hne : p ≠ [] := by
    rcases hput with ⟨_, _, hget, -⟩ | ⟨hget, -⟩ <;> exact ne_nil_of_not_directory (d := d) (by simp [hget])
  have hagain (mode : Nat) : (d.put p (.file bytes mode)).locateFile path = .ok p := by
    rw [locateFile_eq, if_neg (by simp [hslash])]
    rcases hput with ⟨_, _, hget, -⟩ | ⟨hget, -⟩
    · have hgrows : Grows d (d.put p (.file bytes mode)) := .put_file hget
      exact hgrows.ways.walkPath rfl hlocate hget fun _ => hgrows.files p (by simp [hget, Entry.isFile])
    · exact (walkPath_put_new hlocate hget (.inr fun _ h => Entry.noConfusion h)).1
  have hput' := bind_checkPath h
  rw [hp] at hput'
  rcases hput with ⟨old, mode, hget, rfl⟩ | ⟨hget, rfl⟩
  · refine ⟨p, mode, hp, hagain mode, ?_, by simp [hget, Entry.isFile], get?_put_self hne, rfl⟩
    by_contra hmay
    simp [hget, hmay] at hput'
  · exact ⟨p, newFileMode, hp, hagain _, by decide, by simp [hget], get?_put_self hne, rfl⟩

/-- A file that was written is there. -/
theorem locate_of_write {bytes : ByteArray} (h : d.write path bytes = .ok d') :
    ∃ p mode, d'.locate path = .ok p ∧ d'.get? p = some (.file bytes mode) := by
  obtain ⟨p, mode, -, hp, -, -, hget, -⟩ := write_leaves h
  exact ⟨p, mode, locateFile_ok hp, hget⟩

/-! ## Growth of a tree -/

/-- Whether a tree grew from another one: all that was there is there as it was. -/
structure Grown (d d' : Disk) : Prop extends Tended d d' where
  extend : Extends d d'

theorem Grown.refl (h : d.Tree) : Grown d d := ⟨.refl h, .refl d⟩

theorem Grown.trans (h : Grown d d') (h' : Grown d' d'') : Grown d d'' :=
  ⟨h.toTended.trans h'.toTended, h.extend.trans h'.extend⟩

theorem Grown.isDirectory (h : Grown d d') (hd : d.isDirectory path = true) : d'.isDirectory path = true :=
  h.extend.ways.isDirectory h.here hd

theorem Tree.makeDirectories_grown (h : d.Tree) (path : String) : Grown d (d.makeDirectories path).1 :=
  ⟨h.makeDirectories path, fun _ _ he => (makeDirectories_adds d path).keeps he⟩

/-- Whether a tree grew, and a path names an entry that is new. -/
def Made (d : Disk) (path : String) (e : Entry) (d' : Disk) : Prop :=
  Grown d d' ∧ ∃ p, d.get? p = none ∧ d'.locateSelf path = .ok p ∧ d'.get? p = some e

theorem Grown.put_new (h : Grown d d') (hroot : fromRoot path = true)
    (hp : d'.locateSelf path = .ok p) (hnone : d'.get? p = none) : Made d path e (d'.put p e) := by
  have hgrown : Grown d' (d'.put p e) :=
    ⟨h.tree.put_entry hroot hp (by simp [hnone]), .put_new hnone⟩
  refine ⟨h.trans hgrown, p, ?_, walkPath_put_new hp hnone (.inl rfl)⟩
  cases hget : d.get? p with
  | none => rfl
  | some x =>
    rw [h.extend p x hget] at hnone
    cases hnone

theorem Grown.create {bytes : ByteArray} (h : Grown d d') (hroot : fromRoot path = true)
    (hd : d'.create path bytes = .ok d'') : Made d path (.file bytes newFileMode) d'' := by
  obtain ⟨p, hp, hnone, rfl⟩ := create_ok hd
  exact h.put_new hroot hp hnone

theorem Grown.makeLink (h : Grown d d') (hroot : fromRoot path = true)
    (hd : d'.makeLink target path = .ok d'') : Made d path (.link (Text.shown target)) d'' := by
  obtain ⟨p, hp, hnone, rfl⟩ := makeLink_ok hd
  exact h.put_new hroot hp hnone

/-- The mode of a file that is new is set without a change to what was there before. -/
theorem Made.setMode {bytes : ByteArray} {old mode : Nat} (h : Made d path (.file bytes old) d')
    (hroot : fromRoot path = true) (hd : d'.setMode path mode = .ok d'') :
    Made d path (.file bytes mode) d'' := by
  obtain ⟨hgrown, p, hnone, hp, hget⟩ := h
  have hlocate : d'.locate path = .ok p := by
    obtain ⟨hempty, hlong, hwalk⟩ := walkPath_ok hp
    rw [locate, walkPath_of_walk hempty hlong]
    exact walk_follow hwalk (by simp [hget])
  have hpne : p ≠ [] := ne_nil_of_not_directory (d := d') (by simp [hget])
  obtain rfl := setMode_file hlocate hget hd
  have hgrows : Grows d' (d'.put p (.file bytes mode)) := .put_file hget
  have ht := hgrown.tree.put_entry (e := .file bytes mode) hroot hp (by simp [hget])
  refine ⟨⟨hgrown.toTended.trans ht, fun q x hq => ?_⟩, p, hnone, ?_, get?_put_self hpne⟩
  · rw [get?_put_of_ne, hgrown.extend q x hq]
    rintro rfl
    rw [hnone] at hq
    cases hq
  · exact hgrows.ways.walkPath rfl hp hget fun _ => hgrows.files p (by simp [hget, Entry.isFile])

/-! ## Relative paths -/

/-- The path of the directory that relative paths start from. -/
def hereText (d : Disk) : String := "/" ++ "/".intercalate d.here

/-- Whether relative paths start from a directory that has a path. -/
structure Stands (d : Disk) : Prop where
  here : d.get? d.here = some .directory
  names : ∀ n ∈ d.here, IsName n.toList ∧ shownPart n.toList = n ∧ isLongName n = false

/-- Whether a disk is a tree on which paths from a directory start from a place that has a path. -/
structure Grounded (dir : String) (d : Disk) : Prop where
  tree : d.Tree
  stands : isAbsolute dir = false → Stands d

theorem Grounded.tended {dir : String} (h : Grounded dir d) (ht : Tended d d') : Grounded dir d' := by
  refine ⟨ht.tree, fun hrel => ⟨?_, fun n hn => (h.stands hrel).names n (ht.here ▸ hn)⟩⟩
  rw [ht.here]
  exact ht.directories _ (h.stands hrel).here

theorem intercalate_eq (ns : List String) :
    ("/".intercalate ns).toList = joinParts (ns.map String.toList) := by
  induction ns with
  | nil => simp [joinParts, List.intercalate]
  | cons n ns ih =>
    cases ns with
    | nil => rw [String.intercalate_singleton, List.map_singleton, joinParts_singleton]
    | cons m ns =>
      rw [String.intercalate_cons_cons, List.map_cons, List.map_cons, joinParts_cons_cons,
        ← List.map_cons, ← ih]
      simp

theorem Stands.normalParts_here (h : Stands d) :
    normalParts false d.hereText.toList = d.here.map String.toList := by
  have htext : d.hereText = absolute (d.here.map String.toList) := by
    rw [hereText, absolute, ← intercalate_eq, ← String.toList_inj]
    simp
  rw [htext, toList_absolute]
  refine normalParts_absolute fun q hq => ?_
  obtain ⟨n, hn, rfl⟩ := List.mem_map.1 hq
  exact (h.names n hn).1

theorem Stands.shown_here (h : Stands d) {ns : List String} (hns : ns <+: d.here) :
    (ns.map String.toList).map shownPart = ns := by
  rw [List.map_map]
  refine (List.map_congr_left fun n hn => ?_).trans (List.map_id ns)
  exact (h.names n (hns.subset hn)).2.1

theorem Stands.directory_here (h : Stands d) (ht : d.Tree) (hp : p <+: d.here) : d.get? p = some .directory := by
  by_cases hhere : p = d.here
  · rw [hhere, h.here]
  · exact ht.directory (by simp [h.here]) hp hhere

/-- The way from the root to where relative paths start is walked along as it is. -/
theorem Stands.leg_here (h : Stands d) (ht : d.Tree) {a b : Place} (hab : a ++ b <+: d.here) :
    d.leg true a b = .arrived (a ++ b) := by
  induction b generalizing a with
  | nil => rw [leg, List.append_nil]
  | cons n b ih =>
    have hstep : (a ++ [n]) ++ b <+: d.here := by simpa using hab
    obtain ⟨hname, hshown, hlong⟩ := h.names n (hab.subset (by simp))
    have hn : IsStep n := hshown ▸ isStep_shownPart hname
    have hdir := h.directory_here ht ((List.prefix_append _ b).trans hstep)
    rw [leg_step hn, if_neg (by simp [hlong]), hdir]
    dsimp only
    rw [ih hstep]
    simp

theorem walk_of_leg {n : Nat} {a : List String} (ha : d.leg true here a = .arrived p)
    (hp : d.get? p = some .directory) : d.walk follow n here (a ++ ns) = d.walk follow n p ns := by
  rw [walk, leg_append_of_arrived ha hp, ← walk]

theorem walk_up {n k : Nat} :
    d.walk follow n here (List.replicate k ".." ++ ns) =
      d.walk follow n (here.take (here.length - k)) ns := by
  induction k generalizing here with
  | zero => simp
  | succ k ih =>
    have hleg : d.leg follow here (".." :: (List.replicate k ".." ++ ns)) =
        d.leg follow here.dropLast (List.replicate k ".." ++ ns) := leg_up
    rw [List.replicate_succ, List.cons_append, walk, hleg, ← walk, ih, List.dropLast_eq_take,
      List.take_take, List.length_take]
    congr 2
    omega

/-- A path to a name leads where the absolute path leads that it stands for, if it is not too long
itself. -/
theorem Grounded.walkPath_join {dir file : String} (h : Grounded dir d) (hq : IsName file.toList) :
    d.walkPath follow (join [dir, file]) =
      if isLongPath (join [dir, file]) then .error .nameTooLong
      else d.walk follow linkBound [] ((wayTo d.hereText dir ++ [file.toList]).map shownPart) := by
  cases habs : isAbsolute dir with
  | true =>
    have hns : ∀ q ∈ normalParts false dir.toList ++ [file.toList], IsName q :=
      List.forall_mem_append.2 ⟨fun q => isName_of_mem_normalParts, by simpa using hq⟩
    have hroot : fromRoot (absolute (normalParts false dir.toList ++ [file.toList])) = true :=
      isAbsolute_absolute _
    have hempty : (absolute (normalParts false dir.toList ++ [file.toList])).isEmpty = false := by
      simp [absolute]
    rw [join_name_of_isAbsolute habs hq, wayTo_of_isAbsolute _ habs, walkPath, hempty, hroot, if_pos rfl,
      walk_names_absolute hns, if_neg Bool.false_ne_true]
  | false =>
    obtain ⟨k, ms, hms, hjoin, hplain, hdescend⟩ := join_name_of_relative habs hq
    have hstands := h.stands habs
    have hbase : ∀ q ∈ d.here.map String.toList, q ≠ up := by
      intro q hq
      obtain ⟨n, hn, rfl⟩ := List.mem_map.1 hq
      exact (hstands.names n hn).1.ne_up
    have hway : wayTo d.hereText dir = (d.here.take (d.here.length - k)).map String.toList ++ ms := by
      rw [wayTo_of_relative _ habs, hstands.normalParts_here, hdescend _ hbase, List.length_map, List.map_take]
    have htake : d.here.take (d.here.length - k) <+: d.here := List.take_prefix _ _
    have hroot : fromRoot (join [dir, file]) = false := by
      rw [hjoin]
      simpa [fromRoot, isAbsoluteChars] using isAbsoluteChars_joinParts hplain
    have hempty : (join [dir, file]).isEmpty = false := by
      rw [hjoin]
      simpa using joinParts_ne_nil hplain (by simp)
    have hup : shownPart up = ".." := by decide
    have hnames : Disk.names (join [dir, file]) =
        List.replicate k ".." ++ (ms ++ [file.toList]).map shownPart := by
      rw [hjoin, names_joinParts (fun p hp => (hplain p hp).2) (by simp), List.map_append,
        List.map_replicate, hup]
    have hdir := hstands.directory_here h.tree htake
    have hleg : d.leg true [] (d.here.take (d.here.length - k)) =
        .arrived (d.here.take (d.here.length - k)) := hstands.leg_here h.tree htake
    have hparts : (wayTo d.hereText dir ++ [file.toList]).map shownPart =
        d.here.take (d.here.length - k) ++ (ms ++ [file.toList]).map shownPart := by
      rw [hway, List.append_assoc, List.map_append, hstands.shown_here htake]
    rw [walkPath, hempty, hroot, hnames, hparts, walk_of_leg hleg hdir, walk_up,
      if_neg Bool.false_ne_true, if_neg Bool.false_ne_true]

theorem Grounded.walkPath_of_absolute {dir file : String} (h : Grounded dir d) (hq : IsName file.toList)
    (hlong : isAbsolute dir = false → isLongPath (join [dir, file]) = false)
    (hp : d.walkPath follow (absolute (wayTo d.hereText dir ++ [file.toList])) = .ok p) :
    d.walkPath follow (join [dir, file]) = .ok p := by
  have hnames : ∀ q ∈ wayTo d.hereText dir ++ [file.toList], IsName q :=
    List.forall_mem_append.2 ⟨fun q => isName_of_mem_wayTo, by simpa using hq⟩
  cases habs : isAbsolute dir with
  | true =>
    have hjoin : join [dir, file] = absolute (wayTo d.hereText dir ++ [file.toList]) := by
      rw [join_name_of_isAbsolute habs hq, wayTo_of_isAbsolute _ habs]
    rw [hjoin, hp]
  | false =>
    rw [h.walkPath_join hq, if_neg (by simp [hlong habs])]
    exact walkPath_absolute hnames hp

/-- Past a directory with nothing in it there is nothing. -/
theorem walk_past_empty {m n : Nat} {a rest : List String} {name : String}
    (ha : d.walk true m here a = .ok p) (hp : d.get? p = some .directory)
    (hnone : ∀ n, d.get? (p ++ [n]) = none) (hname : IsStep name)
    (h : d.walk follow n here (a ++ name :: rest) = .ok q) : d.get? q = none := by
  obtain ⟨k, hk⟩ := walk_through ha hp (.inr (by simp)) h
  have hleg : d.leg follow p (name :: rest) =
      if isLongName name then .stopped .nameTooLong
      else if rest.isEmpty then .arrived (p ++ [name]) else .stopped .missing := by
    rw [leg_step hname, hnone]
  rcases walk_ok hk with harrived | ⟨_, _, _, _, _, hlink, _⟩
  · rw [hleg] at harrived
    split at harrived
    · cases harrived
    split at harrived <;> cases harrived
    exact hnone name
  · rw [hleg] at hlink
    split at hlink
    · cases hlink
    split at hlink <;> cases hlink

/-- Past a directory that was made on the way to another one there is nothing at a name in that. -/
theorem Tree.past_made (h : d.Tree) {ns : List Part} {r : Part} (hns : ∀ p ∈ ns, IsName p) (hr : IsName r)
    (hpath : OnWay ns path) (hmade : d.makeDirectory path = .ok d') {n : Nat}
    (hwalk : d'.walk follow n [] ((ns ++ [r]).map shownPart) = .ok q) : d'.get? q = none := by
  obtain ⟨p, hnone, rfl, hp⟩ := makeDirectory_new hmade
  rcases hpath with rfl | ⟨ps, ⟨rest, hrest⟩, rfl⟩
  · cases hmade
  obtain ⟨x, xs, hx, hxs⟩ : ∃ x xs, IsName x ∧ rest ++ [r] = x :: xs := by
    cases rest with
    | nil => exact ⟨_, [], hr, rfl⟩
    | cons x xs => exact ⟨x, _, hns x (by simp [← hrest]), rfl⟩
  have hway := walkPath_absolute (fun t ht => hns t (by simp [← hrest, ht])) hp
  rw [← hrest, List.append_assoc, hxs, List.map_append, List.map_cons] at hwalk
  have hpne : p ≠ [] := ne_nil_of_not_directory (d := d) (by simp [hnone])
  have hempty : ∀ n, (d.put p .directory).get? (p ++ [n]) = none := by
    intro n
    rw [get?_put_of_ne (by simp)]
    exact h.get?_eq_none hnone (List.prefix_append p [n])
  exact walk_past_empty hway (get?_put_self hpne) hempty (isStep_shownPart hx) hwalk

/-- A directory made on the way to another one leaves none at a name in that. -/
theorem Grounded.makeDirectory_above {dir file : String} (h : Grounded dir d) (hq : IsName file.toList)
    (hpath : OnWay (wayTo d.hereText dir) path) (hmade : d.makeDirectory path = .ok d') :
    d'.isDirectory (join [dir, file]) = false := by
  have hmade' := h.tended (h.tree.makeDirectory hmade)
  have htext : d'.hereText = d.hereText := by rw [hereText, hereText, (h.tree.makeDirectory hmade).here]
  by_contra hc
  obtain ⟨q, hat, hdir⟩ := isDirectory_iff.1 (by simpa using hc)
  rw [locate, hmade'.walkPath_join hq, htext] at hat
  split at hat
  · cases hat
  rw [h.tree.past_made (fun p => isName_of_mem_wayTo) hq hpath hmade hat] at hdir
  cases hdir

theorem Grounded.makeDirectories_above {dir file : String} (h : Grounded dir d) (hq : IsName file.toList)
    (hno : d.isDirectory (join [dir, file]) = false) :
    (d.makeDirectories (absolute (wayTo d.hereText dir))).1.isDirectory (join [dir, file]) = false := by
  have hnames : ∀ p ∈ wayTo d.hereText dir, IsName p := fun p => isName_of_mem_wayTo
  have hkept := makeDirectories_keeps
    (I := fun d₁ => Grounded dir d₁ ∧ d₁.here = d.here ∧ d₁.isDirectory (join [dir, file]) = false)
    (OnWay (wayTo d.hereText dir)) (fun _ => OnWay.above hnames)
    (by
      rintro d₁ path made ⟨hd₁, hhere, -⟩ hpath hmade
      have htext : d₁.hereText = d.hereText := by rw [hereText, hereText, hhere]
      rw [← htext] at hpath
      refine ⟨hd₁.tended (hd₁.tree.makeDirectory hmade), ?_, hd₁.makeDirectory_above hq hpath hmade⟩
      obtain ⟨p, -, rfl, -⟩ := makeDirectory_new hmade
      exact hhere)
    ⟨h, rfl, hno⟩ (.inr ⟨_, List.prefix_refl _, rfl⟩)
  exact hkept.2.2

/-- A path to a name holds a null only if the absolute path does that it stands for. -/
theorem hasNull_join {cwd dir file : String} (hq : IsName file.toList)
    (h : Text.hasNull (absolute (wayTo cwd dir ++ [file.toList])) = false) :
    Text.hasNull (join [dir, file]) = false := by
  cases habs : isAbsolute dir with
  | true =>
    have hjoin : join [dir, file] = absolute (wayTo cwd dir ++ [file.toList]) := by
      rw [join_name_of_isAbsolute habs hq, wayTo_of_isAbsolute cwd habs]
    exact (congrArg Text.hasNull hjoin).trans h
  | false =>
    obtain ⟨k, ms, hms, hjoin, hplain, hdescend⟩ := join_name_of_relative habs hq
    have hbase : ∀ q ∈ normalParts false cwd.toList, q ≠ up :=
      fun q hq => (isName_of_mem_normalParts hq).ne_up
    have hslash : Char.ofNat 0 ≠ '/' := by decide
    have habove : Char.ofNat 0 ∉ up := by decide
    rw [wayTo_of_relative cwd habs, hdescend _ hbase, List.append_assoc] at h
    simp only [Text.hasNull, hjoin, toList_absolute, String.toList_ofList, ← Bool.not_eq_true,
      List.contains_iff_mem] at h ⊢
    rw [List.mem_cons, not_or, mem_joinParts hslash] at h
    rw [mem_joinParts hslash]
    rintro ⟨p, hp, hnull⟩
    rcases List.mem_append.1 hp with hp | hp
    · rw [List.eq_of_mem_replicate hp] at hnull
      exact habove hnull
    · exact h.2 ⟨p, List.mem_append_right _ hp, hnull⟩

theorem hasNull_absolute_append {ns : List Part} {a b : Part}
    (h : Text.hasNull (absolute (ns ++ [a ++ b])) = false) : Text.hasNull (absolute (ns ++ [a])) = false := by
  simp only [Text.hasNull, toList_absolute_append, ← Bool.not_eq_true, List.contains_iff_mem] at h ⊢
  intro hc
  rcases List.mem_append.1 hc with hc | hc
  · exact h (List.mem_append_left _ hc)
  · refine h (List.mem_append_right _ ?_)
    rw [← List.cons_append]
    exact List.mem_append_left _ hc

/-- A path to a name is walked along to that name. -/
theorem names_join {dir file : String} (hq : IsName file.toList) :
    ∃ before, names (join [dir, file]) = before ++ [shownPart file.toList] := by
  cases habs : isAbsolute dir with
  | true =>
    have hns : ∀ q ∈ normalParts false dir.toList ++ [file.toList], '/' ∉ q := fun q hq' =>
      (List.forall_mem_append.2 ⟨fun q => isName_of_mem_normalParts, by simpa using hq⟩ q hq' : IsName q).no_slash
    rw [join_name_of_isAbsolute habs hq, names_absolute hns (by simp), List.map_append, ← List.cons_append]
    exact ⟨_, rfl⟩
  | false =>
    obtain ⟨k, ms, -, hjoin, hplain, -⟩ := join_name_of_relative habs hq
    rw [hjoin, names_joinParts (fun p hp => (hplain p hp).2) (by simp), ← List.append_assoc, List.map_append]
    exact ⟨_, rfl⟩

end VariantForge.Disk
