import VariantForge.Proofs.Disk.Ground

/-!
# Reached — the names in a directory, however it is reached

A path may lead to a directory through links as well (`Reached`). From there each name in it is reached, unless it
is too long, and a link there may not be followed (`Reached.walkPath`).

A directory that a path leads to need not be made (`makeDirectories_of_isDirectory`), and where the directories on
a path could not be made, it leads to none (`makeDirectories_error`) and they cannot be made the next time
(`makeDirectories_again`). What is made on the way is empty, so making directories changes nothing about what a name
in the last one names (`makeDirectories_named?`). A directory that was reached is reached again once the directories
on its way can be made, as long as nothing but files went missing (`Reached.of_made`).
-/

namespace VariantForge.Disk

open Path

variable {d d' : Disk} {follow inner : Bool} {here root p q : Place} {name path : String} {a b : List String}
  {ns ps : List Part} {r s : Part} {e : Entry} {n : Nat}

/-! ## Walks in parts -/

/-- A walk that reaches a directory goes on from there, with what is left of its links. -/
theorem walk_append_le (ha : d.walk true n here a = .ok root) (hroot : d.get? root = some .directory)
    (hb : follow = true ∨ b ≠ []) : ∃ m ≤ n, d.walk follow n here (a ++ b) = d.walk follow m root b := by
  have harrived {n : Nat} {here : Place} {a : List String} (hleg : d.leg true here a = .arrived root) :
      d.walk follow n here (a ++ b) = d.walk follow n root b := by
    rw [walk, leg_append_of_arrived hleg hroot b, ← walk]
  induction n generalizing here a with
  | zero =>
    rcases walk_ok ha with hleg | ⟨_, _, _, _, hn, _, _⟩
    · exact ⟨0, Nat.le_refl 0, harrived hleg⟩
    · cases hn
  | succ n ih =>
    rcases walk_ok ha with hleg | ⟨_, there, target, rest, hn, hleg, hrest⟩
    · exact ⟨n + 1, Nat.le_refl _, harrived hleg⟩
    · cases hn
      obtain ⟨m, hm, heq⟩ := ih hrest
      rw [walk_of_link n (leg_append_of_link hleg b hb), ← List.append_assoc]
      exact ⟨m, Nat.le_succ_of_le hm, heq⟩

/-- A leg on to a name leads to a directory before it, or meets a link before it. -/
theorem Tree.leg_prefix (ht : d.Tree) (hhere : d.get? here = some .directory) :
    (∀ p, d.leg follow here (a ++ name :: b) = .arrived p →
        ∃ q, d.leg true here a = .arrived q ∧ d.get? q = some .directory) ∧
      ∀ there target rest, d.leg follow here (a ++ name :: b) = .link there target rest →
        (∃ q, d.leg true here a = .arrived q ∧ d.get? q = some .directory) ∨
          ∃ before, rest = before ++ name :: b ∧ d.leg true here a = .link there target before := by
  induction a generalizing here with
  | nil =>
    have hdone : ∃ q, d.leg true here [] = .arrived q ∧ d.get? q = some .directory :=
      ⟨here, by rw [leg], hhere⟩
    exact ⟨fun _ _ => hdone, fun _ _ _ _ => .inl hdone⟩
  | cons m a ih =>
    rw [List.cons_append]
    by_cases hblank : m = "" ∨ m = "."
    · rw [leg_blank hblank, leg_blank hblank]
      exact ih hhere
    by_cases hup : m = ".."
    · subst hup
      rw [leg_up, leg_up]
      exact ih (ht.dropLast (by simp [hhere]))
    have hstep : IsStep m := ⟨fun hn => hblank (.inl hn), fun hn => hblank (.inr hn), hup⟩
    have hmore : (a ++ name :: b).isEmpty = false := by simp
    rw [leg_step hstep, leg_step hstep]
    by_cases hlong : isLongName m = true
    · simp [hlong]
    rw [if_neg hlong, if_neg hlong]
    cases hget : d.get? (here ++ [m]) with
    | none => simp
    | some e =>
      cases e with
      | directory => exact ih hget
      | file bytes mode => simp
      | link target =>
        simp only [hmore, Bool.false_and, Bool.false_eq_true, if_false, Bool.not_true, Bool.and_false]
        refine ⟨fun p h => ?_, fun there target' rest h => .inr ⟨a, ?_⟩⟩
        · cases h
        · cases h
          exact ⟨rfl, rfl⟩

/-- What is walked along on the way to a name is a directory. -/
theorem Tree.walk_prefix (ht : d.Tree) (hhere : d.get? here = some .directory)
    (h : d.walk follow n here (a ++ name :: b) = .ok p) :
    ∃ q, d.walk true n here a = .ok q ∧ d.get? q = some .directory := by
  have harrived {m : Nat} {here : Place}
      (hleg : ∃ q, d.leg true here a = .arrived q ∧ d.get? q = some .directory) :
      ∃ q, d.walk true m here a = .ok q ∧ d.get? q = some .directory := by
    obtain ⟨q, hq, hdir⟩ := hleg
    exact ⟨q, walk_of_arrived m hq, hdir⟩
  induction n generalizing here a with
  | zero =>
    rcases walk_ok h with hleg | ⟨_, _, _, _, hn, _, _⟩
    · exact harrived ((ht.leg_prefix hhere).1 p hleg)
    · cases hn
  | succ n ih =>
    rcases walk_ok h with hleg | ⟨_, there, target, rest, hn, hleg, hrest⟩
    · exact harrived ((ht.leg_prefix hhere).1 p hleg)
    · cases hn
      rcases (ht.leg_prefix hhere).2 there target rest hleg with hdone | ⟨before, rfl, hlink⟩
      · exact harrived hdone
      · rw [← List.append_assoc] at hrest
        have hthere : d.get? (if fromRoot target then [] else there) = some .directory := by
          split
          · rfl
          · exact (ht.leg_above hhere).2 there target before hlink
        rw [walk_of_link n hlink]
        exact ih hthere hrest fun ⟨q, hq, hdir⟩ => ⟨q, walk_of_arrived _ hq, hdir⟩

/-- A walk past a name that leads to no directory leads to none. -/
theorem not_directory_beyond {rest : List String} (hname : IsStep name)
    (hdir : d.get? (here ++ [name]) ≠ some .directory) (hlink : ∀ t, d.get? (here ++ [name]) ≠ some (.link t))
    (h : d.walk follow n here (name :: rest) = .ok q) : d.get? q ≠ some .directory := by
  rw [walk_step hname] at h
  split at h
  · cases h
  split at h
  · split at h
    · cases h
      exact hdir
    · cases h
  · rename_i hc
    exact absurd hc hdir
  · split at h
    · cases h
      exact hdir
    · cases h
  · rename_i t ht
    exact absurd ht (hlink t)

/-- A path from the root that does not climb leads where its normal form is walked along to. -/
theorem walk_normalParts (hroot : fromRoot path = true) (hup : up ∉ parts path.toList) (h : d.locate path = .ok p) :
    d.walk true linkBound [] ((normalParts false path.toList).map shownPart) = .ok p := by
  have hwalk := (walkPath_ok h).2.2
  rw [if_pos hroot, names_eq_map] at hwalk
  rw [normalParts_eq_filter hup]
  exact (squeezes_filter _).walk hwalk

/-! ## Directories that are reached -/

/-- Whether the way along some names, links on it followed, leads to a directory of a tree. -/
structure Reached (d : Disk) (ns : List Part) (root : Place) : Prop where
  tree : d.Tree
  names : ∀ p ∈ ns, IsName p
  way : d.walk true linkBound [] (ns.map shownPart) = .ok root
  directory : d.get? root = some .directory

theorem reached_of_locate (ht : d.Tree) (hns : ∀ p ∈ ns, IsName p) (h : d.locate (absolute ns) = .ok root)
    (hdir : d.get? root = some .directory) : Reached d ns root :=
  ⟨ht, hns, walkPath_absolute hns h, hdir⟩

theorem walkPath_absolute_eq (hns : ∀ p ∈ ns, IsName p) :
    d.walkPath follow (absolute ns) =
      if isLongPath (absolute ns) then .error .nameTooLong else d.walk follow linkBound [] (ns.map shownPart) := by
  have hroot : fromRoot (absolute ns) = true := isAbsolute_absolute _
  have hempty : (absolute ns).isEmpty = false := by simp [absolute, ← String.toList_inj]
  rw [walkPath, hempty, if_neg (by simp), hroot, if_pos rfl, walk_names_absolute hns]

/-- Where only files are new, the way to a directory is the way that it was. -/
theorem Reached.of_ways (h : Reached d ns root) (ht : d'.Tree) (hw : Ways d' d)
    (hdir : d'.isDirectory (absolute ns) = true) : Reached d' ns root := by
  obtain ⟨p, hp, hget⟩ := isDirectory_iff.1 hdir
  have hway := hw.walk (walkPath_absolute h.names hp) hget nofun
  rw [h.way, Except.ok.injEq] at hway
  subst hway
  exact reached_of_locate ht h.names hp hget

/-- The root is where every walk begins. -/
theorem walkPath_root : d.walkPath follow "/" = .ok [] := by
  have hroot : "/" = absolute [] := by decide
  have hshort : isLongPath (absolute []) = false := by decide
  rw [hroot, walkPath_absolute_eq (by simp), hshort, if_neg Bool.false_ne_true, List.map_nil, walk, leg]

namespace Reached

variable (h : Reached d ns root)
include h

theorem ways (ht : d'.Tree) (hw : Ways d d') : Reached d' ns root :=
  ⟨ht, h.names, hw.walk h.way h.directory nofun, hw root _ h.directory rfl⟩

variable (hr : IsName r)
include hr

/-- A name in a directory that is reached is walked along to, if it is not too long; a link there may not be
followed. -/
theorem walk (hlink : follow = false ∨ ∀ target, d.get? (root ++ [shownPart r]) ≠ some (.link target)) :
    d.walk follow linkBound [] ((ns ++ [r]).map shownPart) =
      if isLongName (shownPart r) then .error .nameTooLong else .ok (root ++ [shownPart r]) := by
  obtain ⟨m, -, heq⟩ : ∃ m ≤ linkBound, d.walk follow linkBound [] (ns.map shownPart ++ [shownPart r]) =
      d.walk follow m root [shownPart r] := walk_append_le h.way h.directory (.inr (by simp))
  rw [List.map_append, List.map_singleton, heq, walk_step (isStep_shownPart hr)]
  congr 1
  cases hget : d.get? (root ++ [shownPart r]) with
  | none => rfl
  | some e =>
    cases e with
    | file bytes mode => rfl
    | directory =>
      dsimp only
      rw [Disk.walk, leg]
    | link target =>
      obtain rfl := hlink.resolve_right fun hc => hc target hget
      rfl

/-- The path of a name in a directory that is reached leads there, if neither is too long. -/
theorem walkPath (hlink : follow = false ∨ ∀ target, d.get? (root ++ [shownPart r]) ≠ some (.link target)) :
    d.walkPath follow (absolute (ns ++ [r])) =
      if isLongPath (absolute (ns ++ [r])) = true ∨ isLongName (shownPart r) = true then .error .nameTooLong
      else .ok (root ++ [shownPart r]) := by
  rw [walkPath_absolute_eq (List.forall_mem_append.2 ⟨h.names, by simpa using hr⟩), h.walk hr hlink]
  by_cases hpath : isLongPath (absolute (ns ++ [r])) = true
  · rw [if_pos hpath, if_pos (.inl hpath)]
  rw [if_neg hpath]
  by_cases hname : isLongName (shownPart r) = true
  · rw [if_pos hname, if_pos (.inr hname)]
  · rw [if_neg hname, if_neg (by simp [hpath, hname])]

theorem locateSelf :
    d.locateSelf (absolute (ns ++ [r])) =
      if isLongPath (absolute (ns ++ [r])) = true ∨ isLongName (shownPart r) = true then .error .nameTooLong
      else .ok (root ++ [shownPart r]) :=
  h.walkPath hr (.inl rfl)

theorem place (hp : d.locateSelf (absolute (ns ++ [r])) = .ok p) : p = root ++ [shownPart r] := by
  rw [h.locateSelf hr] at hp
  split at hp <;> cases hp
  rfl

/-- Whichever disk it is reached on, a name is at the same place. -/
theorem locateSelf_eq (h' : Reached d' ns root) :
    d.locateSelf (absolute (ns ++ [r])) = d'.locateSelf (absolute (ns ++ [r])) := by
  rw [h.locateSelf hr, h'.locateSelf hr]

end Reached

/-! ## What a path names -/

/-- What a path names, a link at its end not followed. -/
def named? (d : Disk) (path : String) : Option Entry :=
  match d.locateSelf path with
  | .ok p => d.get? p
  | .error _ => none

theorem named?_root : d.named? "/" = some .directory := by
  rw [named?, locateSelf, walkPath_root]
  rfl

theorem named?_eq_some : d.named? path = some e ↔ ∃ p, d.locateSelf path = .ok p ∧ d.get? p = some e := by
  rw [named?]
  cases d.locateSelf path with
  | error reason => simp
  | ok p => simp

theorem Extends.named? (hx : Extends d d') (hhere : d'.here = d.here) (h : d.named? path = some e) :
    d'.named? path = some e := by
  obtain ⟨p, hp, hget⟩ := named?_eq_some.1 h
  exact named?_eq_some.2 ⟨p, hx.walkPath hhere hp hget, hx p e hget⟩

theorem Reached.named?_eq (h : Reached d ns root) (hr : IsName r) :
    d.named? (absolute (ns ++ [r])) =
      if isLongPath (absolute (ns ++ [r])) = true ∨ isLongName (shownPart r) = true then none
      else d.get? (root ++ [shownPart r]) := by
  rw [named?, h.locateSelf hr]
  by_cases hlong : isLongPath (absolute (ns ++ [r])) = true ∨ isLongName (shownPart r) = true
  · rw [if_pos hlong, if_pos hlong]
  · rw [if_neg hlong, if_neg hlong]

/-- A path is too long if one is that it begins with. -/
theorem isLongPath_concat (h : isLongPath (absolute ns) = true) : isLongPath (absolute (ns ++ [r])) = true := by
  by_cases hns : ns = []
  · subst hns
    exact absurd h (by decide)
  have htext : Text.shown (absolute (ns ++ [r])) =
      Text.shown (absolute ns) ++ String.ofList ('/' :: Text.shownChars r) := by
    rw [← String.toList_inj, String.toList_append, Text.toList_shown, Text.toList_shown, String.toList_ofList,
      toList_absolute_append, bareAbsolute, if_neg hns, toList_absolute, Text.shownChars_append_slash]
  rw [isLongPath, decide_eq_true_eq] at h ⊢
  rw [htext, String.utf8ByteSize_append]
  omega

theorem hasNull_of_concat (h : Text.hasNull (absolute (ns ++ [r])) = false) : Text.hasNull (absolute ns) = false := by
  by_cases hns : ns = []
  · subst hns
    decide
  · rw [Text.hasNull, toList_absolute_append, bareAbsolute, if_neg hns, ← Bool.not_eq_true, List.contains_iff_mem] at h
    rw [Text.hasNull, toList_absolute, ← Bool.not_eq_true, List.contains_iff_mem]
    exact fun hc => h (List.mem_append_left _ hc)

/-- A name is only reached in a directory. -/
theorem isDirectory_of_walkPath (ht : d.Tree) (hps : ∀ p ∈ ps ++ [r], IsName p)
    (h : d.walkPath follow (absolute (ps ++ [r])) = .ok p) : d.isDirectory (absolute ps) = true := by
  rw [walkPath_absolute_eq hps] at h
  split at h
  · cases h
  rename_i hlong
  rw [List.map_append, List.map_singleton] at h
  obtain ⟨q, hq, hdir⟩ := ht.walk_prefix rfl h
  refine isDirectory_iff.2 ⟨q, ?_, hdir⟩
  rw [locate, walkPath_absolute_eq fun p hp => hps p (by simp [hp]), hq, if_neg fun hc => hlong (isLongPath_concat hc)]

/-- Where a path leads is what it names, unless that is a link. -/
theorem locateSelf_eq_of_locate (hp : d.locate path = .ok p) (hlink : ∀ t, d.named? path ≠ some (.link t)) :
    d.locateSelf path = .ok p := by
  obtain ⟨hempty, hlong, hwalk⟩ := walkPath_ok hp
  rcases walk_self hwalk with hself | ⟨q, target, hself, hq⟩
  · rw [locateSelf, walkPath_of_walk hempty hlong, hself]
  · refine absurd (named?_eq_some.2 ⟨q, ?_, hq⟩) (hlink target)
    rw [locateSelf, walkPath_of_walk hempty hlong, hself]

/-! ## Making directories -/

theorem makeDirectory_absolute (hps : ∀ p ∈ ps, IsName p) (hr : IsName r) :
    d.makeDirectory (absolute (ps ++ [r])) =
      if isLongPath (absolute (ps ++ [r])) then .error .nameTooLong
      else match d.walk true linkBound [] (ps.map shownPart) with
      | .error reason => .error reason
      | .ok here =>
        match d.get? here with
        | some .directory =>
          if isLongName (shownPart r) then .error .nameTooLong
          else if (d.get? (here ++ [shownPart r])).isSome then .error .taken
          else .ok (d.put (here ++ [shownPart r]) .directory)
        | some _ => .error .notDirectory
        | none => .error .missing := by
  have hstep := isStep_shownPart hr
  have hroot : fromRoot (absolute (ps ++ [r])) = true := isAbsolute_absolute _
  have hempty : (absolute (ps ++ [r])).isEmpty = false := by simp [absolute, ← String.toList_inj]
  have hslash : ∀ p ∈ ps ++ [r], '/' ∉ p :=
    List.forall_mem_append.2 ⟨fun p hp => (hps p hp).no_slash, by simpa using hr.no_slash⟩
  have hnames : (names (absolute (ps ++ [r]))).reverse.dropWhile (·.isEmpty) =
      shownPart r :: ("" :: ps.map shownPart).reverse := by
    rw [names_absolute hslash (by simp), List.map_append, List.reverse_cons, List.reverse_append,
      List.map_singleton, List.reverse_singleton, List.singleton_append, List.cons_append,
      List.dropWhile_cons_of_neg (by simpa using hstep.ne_blank), List.reverse_cons]
  rw [makeDirectory, hempty, if_neg (by simp)]
  by_cases hlong : isLongPath (absolute (ps ++ [r])) = true
  · rw [if_pos hlong, if_pos hlong]
  rw [if_neg hlong, if_neg hlong, hnames, origin, hroot, if_pos rfl]
  dsimp only
  rw [List.reverse_reverse, walk_blank]
  cases d.walk true linkBound [] (ps.map shownPart) with
  | error reason => rfl
  | ok here =>
    dsimp only [bind, Except.bind]
    cases d.get? here with
    | none => rfl
    | some e =>
      cases e with
      | directory => exact if_neg (not_or.2 ⟨hstep.ne_here, hstep.ne_up⟩)
      | file bytes mode => rfl
      | link target => rfl

/-- A directory that is there is not made again. -/
theorem makeDirectory_of_isDirectory (ht : d.Tree) (hps : ∀ p ∈ ps, IsName p)
    (h : d.isDirectory (absolute ps) = true) :
    ∃ reason, d.makeDirectory (absolute ps) = .error reason ∧ (reason = .taken ∨ reason = .nameTooLong) := by
  induction ps using List.reverseRecOn with
  | nil => exact ⟨.taken, rfl, .inl rfl⟩
  | append_singleton ps r _ =>
    have hps' : ∀ p ∈ ps, IsName p := fun p hp => hps p (by simp [hp])
    have hr : IsName r := hps r (by simp)
    obtain ⟨p, hp, hdir⟩ := isDirectory_iff.1 h
    rw [locate, walkPath_absolute_eq hps] at hp
    rw [makeDirectory_absolute hps' hr]
    split at hp
    · cases hp
    rename_i hlong
    rw [if_neg hlong]
    rw [List.map_append, List.map_singleton] at hp
    obtain ⟨here, hhere, hheredir⟩ := ht.walk_prefix rfl hp
    have hthere : (d.get? (here ++ [shownPart r])).isSome = true :=
      isSome_of_walk (isStep_shownPart hr) hp hdir hhere hheredir
    rw [hhere]
    simp only [hheredir, hthere, if_true]
    split
    · exact ⟨_, rfl, .inr rfl⟩
    · exact ⟨_, rfl, .inl rfl⟩

theorem acceptDirectory_of_isDirectory (h : d.isDirectory path = true) {reason : DiskReason}
    (hreason : reason = .taken ∨ reason = .nameTooLong) : d.acceptDirectory inner path reason = none := by
  obtain ⟨p, hp, hdir⟩ := isDirectory_iff.1 h
  rcases hreason with rfl | rfl <;> simp [acceptDirectory, hp, hdir]

theorem makeUpward_of_isDirectory (ht : d.Tree) (hps : ∀ p ∈ ps, IsName p)
    (h : d.isDirectory (absolute ps) = true) : d.makeUpward inner (absolute ps) (n + 1) = (d, none) := by
  obtain ⟨reason, hmade, hreason⟩ := makeDirectory_of_isDirectory ht hps h
  rw [makeUpward, hmade]
  rcases hreason with rfl | rfl
  · exact Prod.ext rfl (acceptDirectory_of_isDirectory h (.inl rfl))
  · exact Prod.ext rfl (acceptDirectory_of_isDirectory h (.inr rfl))

/-- Where a path leads to a directory, making it changes nothing. -/
theorem makeDirectories_of_isDirectory (ht : d.Tree) (hns : ∀ p ∈ ns, IsName p)
    (hnull : Text.hasNull (absolute ns) = false) (h : d.isDirectory (absolute ns) = true) :
    d.makeDirectories (absolute ns) = (d, none) := by
  rw [makeDirectories, nullFault?, hnull]
  exact makeUpward_of_isDirectory ht hns h

theorem not_isDirectory_of_acceptDirectory (ht : d.Tree) (hps : ∀ p ∈ ps, IsName p) {reason : DiskReason}
    {f : DiskFault} (hmade : d.makeDirectory (absolute ps) = .error reason)
    (h : d.acceptDirectory inner (absolute ps) reason = some f) : d.isDirectory (absolute ps) = false := by
  by_contra hc
  have hdir : d.isDirectory (absolute ps) = true := by simpa using hc
  obtain ⟨reason', hmade', hreason⟩ := makeDirectory_of_isDirectory ht hps hdir
  cases hmade.symm.trans hmade'
  rw [acceptDirectory_of_isDirectory hdir hreason] at h
  cases h

theorem Tree.makeUpward (ht : d.Tree) : (d.makeUpward inner path n).1.Tree :=
  makeUpward_keeps (I := Tree) (fun _ => True) (fun _ _ => trivial)
    (fun _ _ _ hd _ hmade => (hd.makeDirectory hmade).tree) n inner ht trivial

theorem pathAbove_ne (hps : ∀ p ∈ ps, IsName p) (hr : IsName r) :
    pathAbove (absolute (ps ++ [r])) ≠ absolute (ps ++ [r]) := by
  have hnames : ∀ p ∈ ps ++ [r], IsName p := List.forall_mem_append.2 ⟨hps, by simpa using hr⟩
  rw [pathAbove_absolute hr.no_slash]
  split
  · intro h
    have := congrArg isAbsolute h
    rw [isAbsolute_absolute] at this
    cases this
  · intro h
    have := congrArg (fun path => normalParts false path.toList) h
    simp only [(through_absolute hps).normalParts, (through_absolute hnames).normalParts] at this
    simp at this

/-- A directory that could not be made, or one above it that could not, is not there. -/
theorem makeUpward_error (ht : d.Tree) (hps : ∀ p ∈ ps, IsName p) (hn : ps.length < n) {f : DiskFault}
    (h : d.makeUpward inner (absolute ps) n = (d', some f)) : d'.isDirectory (absolute ps) = false := by
  induction n generalizing ps inner d' f with
  | zero => cases hn
  | succ n ih =>
    have hsettled {d₁ : Disk} {reason : DiskReason} (ht₁ : d₁.Tree)
        (hmade : d₁.makeDirectory (absolute ps) = .error reason)
        (hsettle : (d₁, d₁.acceptDirectory inner (absolute ps) reason) = (d', some f)) :
        d'.isDirectory (absolute ps) = false := by
      rw [Prod.mk.injEq] at hsettle
      rw [← hsettle.1]
      exact not_isDirectory_of_acceptDirectory ht₁ hps hmade hsettle.2
    rw [makeUpward] at h
    dsimp only at h
    cases hmade : d.makeDirectory (absolute ps) with
    | ok made =>
      rw [hmade] at h
      cases h
    | error reason =>
      rw [hmade] at h
      cases reason with
      | missing =>
        dsimp only at h
        induction ps using List.reverseRecOn with
        | nil => cases hmade
        | append_singleton ps r _ =>
          have hps' : ∀ p ∈ ps, IsName p := fun p hp => hps p (by simp [hp])
          have hr : IsName r := hps r (by simp)
          rw [if_neg (pathAbove_ne hps' hr)] at h
          -- only the directory above can have been missing
          cases hup : d.makeUpward true (pathAbove (absolute (ps ++ [r]))) n with
          | mk d₁ fault =>
            rw [hup] at h
            cases fault with
            | some f₁ =>
              cases h
              have habove : d'.isDirectory (absolute ps) = false := by
                rw [pathAbove_absolute hr.no_slash] at hup
                split at hup
                · obtain ⟨m, rfl⟩ : ∃ m, n = m + 1 := ⟨n - 1, by simp at hn; omega⟩
                  cases hup
                · exact ih hps' (by simp at hn; omega) hup
              by_contra hc
              have ht' : d'.Tree := by
                have hup' : (d.makeUpward true (pathAbove (absolute (ps ++ [r]))) n).1.Tree := ht.makeUpward
                rwa [hup] at hup'
              obtain ⟨p, hp, -⟩ := isDirectory_iff.1 (by simpa using hc)
              rw [isDirectory_of_walkPath ht' hps hp] at habove
              cases habove
            | none =>
              dsimp only at h
              have ht₁ : d₁.Tree := by
                have hup' : (d.makeUpward true (pathAbove (absolute (ps ++ [r]))) n).1.Tree := ht.makeUpward
                rwa [hup] at hup'
              cases hmade₁ : d₁.makeDirectory (absolute (ps ++ [r])) with
              | ok made =>
                rw [hmade₁] at h
                cases h
              | error reason =>
                rw [hmade₁] at h
                exact hsettled ht₁ hmade₁ h
      | _ => exact hsettled ht hmade h

theorem isDirectory_of_makeDirectory (hps : ∀ p ∈ ps, IsName p) (hr : IsName r)
    (h : d.makeDirectory (absolute (ps ++ [r])) = .ok d') : d.isDirectory (absolute ps) = true := by
  rw [makeDirectory_absolute hps hr] at h
  split at h
  · cases h
  rename_i hlong
  split at h
  · cases h
  rename_i here hwalk
  split at h
  · rename_i hdir
    refine isDirectory_iff.2 ⟨here, ?_, hdir⟩
    rw [locate, walkPath_absolute_eq hps, if_neg fun hc => hlong (isLongPath_concat hc), hwalk]
  · cases h
  · cases h

theorem makeDirectory_missing (hps : ∀ p ∈ ps, IsName p) (hr : IsName r)
    (h : d.makeDirectory (absolute (ps ++ [r])) = .error .missing) : d.isDirectory (absolute ps) = false := by
  by_contra hc
  obtain ⟨here, hhere, hdir⟩ := isDirectory_iff.1 (by simpa using hc)
  rw [locate, walkPath_absolute_eq hps] at hhere
  rw [makeDirectory_absolute hps hr] at h
  split at h
  · cases h
  split at hhere
  · cases hhere
  rw [hhere] at h
  simp only [hdir] at h
  split at h
  · cases h
  split at h <;> cases h

theorem isSome_acceptDirectory {reason : DiskReason} (h : d.isDirectory path = false) :
    (d.acceptDirectory inner path reason).isSome = true := by
  by_contra hc
  rw [Bool.not_eq_true, Option.isSome_eq_false_iff, Option.isNone_iff_eq_none] at hc
  rw [isDirectory_iff.2 (acceptDirectory_none hc)] at h
  cases h

theorem makeUpward_isDirectory (hps : ∀ p ∈ ps, IsName p) (h : d.makeUpward inner (absolute ps) n = (d', none)) :
    d'.isDirectory (absolute ps) = true := by
  have haccepted {d₁ : Disk} {reason : DiskReason}
      (h : (d₁, d₁.acceptDirectory inner (absolute ps) reason) = (d', none)) :
      d'.isDirectory (absolute ps) = true := by
    rw [Prod.mk.injEq] at h
    rw [← h.1]
    exact isDirectory_iff.2 (acceptDirectory_none h.2)
  cases n with
  | zero => cases h
  | succ n =>
    rw [makeUpward] at h
    dsimp only at h
    split at h
    · rename_i made hmade
      cases h
      exact isDirectory_iff.2 (makeDirectory_locate hmade)
    · rename_i hmissing
      induction ps using List.reverseRecOn with
      | nil => cases hmissing
      | append_singleton ps r _ =>
        rw [if_neg (pathAbove_ne (fun p hp => hps p (by simp [hp])) (hps r (by simp)))] at h
        split at h
        · cases h
        · split at h
          · rename_i made hmade
            cases h
            exact isDirectory_iff.2 (makeDirectory_locate hmade)
          · exact haccepted h
    · exact haccepted h

/-- Where the directories on a path could not be made, they cannot be made after what was. -/
theorem makeUpward_again (ht : d.Tree) (hps : ∀ p ∈ ps, IsName p) (hn : ps.length < n) {f : DiskFault}
    (h : d.makeUpward inner (absolute ps) n = (d', some f)) (again : Bool) :
    (d'.makeUpward again (absolute ps) n).2.isSome = true := by
  have hno := makeUpward_error ht hps hn h
  induction n generalizing ps inner again d' f with
  | zero => cases hn
  | succ n ih =>
    have hsettled {reason : DiskReason} (hmade : d'.makeDirectory (absolute ps) = .error reason)
        (hreason : reason ≠ .missing) : (d'.makeUpward again (absolute ps) (n + 1)).2.isSome = true := by
      rw [makeUpward, hmade]
      cases reason with
      | missing => exact absurd rfl hreason
      | _ =>
        dsimp only
        exact isSome_acceptDirectory hno
    rw [makeUpward] at h
    dsimp only at h
    cases hmade : d.makeDirectory (absolute ps) with
    | ok made =>
      rw [hmade] at h
      cases h
    | error reason =>
      rw [hmade] at h
      cases reason with
      | missing =>
        dsimp only at h
        induction ps using List.reverseRecOn with
        | nil => cases hmade
        | append_singleton ps r _ =>
          have hps' : ∀ p ∈ ps, IsName p := fun p hp => hps p (by simp [hp])
          have hr : IsName r := hps r (by simp)
          have hlt : ps.length < n := by simpa using hn
          have hne := pathAbove_ne hps' hr
          rw [if_neg hne] at h
          cases hup : d.makeUpward true (pathAbove (absolute (ps ++ [r]))) n with
          | mk d₁ fault =>
            rw [hup] at h
            cases fault with
            | some f₁ =>
              cases h
              -- the directory above could not be made then, and cannot be now
              rw [pathAbove_absolute hr.no_slash] at hup
              split at hup
              · obtain ⟨m, rfl⟩ : ∃ m, n = m + 1 := ⟨n - 1, by omega⟩
                cases hup
              · rename_i hnil
                have habove := makeUpward_error ht hps' hlt hup
                cases hmade' : d'.makeDirectory (absolute (ps ++ [r])) with
                | ok made =>
                  rw [isDirectory_of_makeDirectory hps' hr hmade'] at habove
                  cases habove
                | error reason =>
                  by_cases hreason : reason = .missing
                  · subst hreason
                    have hagain := ih hps' hlt hup true habove
                    rw [makeUpward, hmade']
                    dsimp only
                    rw [if_neg hne, pathAbove_absolute hr.no_slash, if_neg hnil]
                    rcases hup' : d'.makeUpward true (absolute ps) n with ⟨d₂, fault⟩
                    rw [hup'] at hagain
                    cases fault with
                    | none => cases hagain
                    | some f₂ => rfl
                  · exact hsettled hmade' hreason
            | none =>
              dsimp only at h
              cases hmade₁ : d₁.makeDirectory (absolute (ps ++ [r])) with
              | ok made =>
                rw [hmade₁] at h
                cases h
              | error reason =>
                rw [hmade₁] at h
                obtain rfl := (Prod.mk.inj h).1
                refine hsettled hmade₁ ?_
                rintro rfl
                -- the directory above is there
                have habove : d₁.isDirectory (absolute ps) = true := by
                  rw [pathAbove_absolute hr.no_slash] at hup
                  split at hup
                  · rename_i hnil
                    subst hnil
                    exact isDirectory_iff.2 ⟨[], walkPath_root, rfl⟩
                  · exact makeUpward_isDirectory hps' hup
                rw [makeDirectory_missing hps' hr hmade₁] at habove
                cases habove
      | _ =>
        obtain rfl := (Prod.mk.inj h).1
        exact hsettled hmade (by simp)

theorem length_le_absolute : ns.length ≤ (absolute ns).length := by
  induction ns using List.reverseRecOn with
  | nil => exact Nat.zero_le _
  | append_singleton ns r ih =>
    rw [← String.length_toList, toList_absolute_append, bareAbsolute]
    rw [← String.length_toList, toList_absolute] at ih
    split
    · rename_i hns
      subst hns
      simp
    · simp only [List.length_append, List.length_cons, List.length_nil] at ih ⊢
      omega

/-- Where the directories on a path could not be made, it leads to none. -/
theorem makeDirectories_error (ht : d.Tree) (hns : ∀ p ∈ ns, IsName p) (hnull : Text.hasNull (absolute ns) = false)
    {f : DiskFault} (h : d.makeDirectories (absolute ns) = (d', some f)) : d'.isDirectory (absolute ns) = false := by
  rw [makeDirectories, nullFault?, hnull] at h
  exact makeUpward_error ht hns (Nat.lt_succ_of_le length_le_absolute) h

theorem makeDirectories_again (ht : d.Tree) (hns : ∀ p ∈ ns, IsName p) {f : DiskFault}
    (h : d.makeDirectories (absolute ns) = (d', some f)) : (d'.makeDirectories (absolute ns)).2.isSome = true := by
  rw [makeDirectories] at h ⊢
  cases hnull : nullFault? "path" (absolute ns) with
  | some f => rfl
  | none =>
    rw [hnull] at h
    exact makeUpward_again ht hns (Nat.lt_succ_of_le length_le_absolute) h false

/-- Once a directory was made on the way to another, no name in that names anything. -/
theorem makeDirectory_named? (ht : d.Tree) (hns : ∀ p ∈ ns, IsName p) (hr : IsName r) (hpath : OnWay ns path)
    (h : d.makeDirectory path = .ok d') : d'.named? (absolute (ns ++ [r])) = none := by
  by_contra hc
  obtain ⟨e, he⟩ := Option.ne_none_iff_exists'.1 hc
  obtain ⟨p, hp, hget⟩ := named?_eq_some.1 he
  have hwalk := walkPath_absolute (List.forall_mem_append.2 ⟨hns, by simpa using hr⟩) hp
  rw [ht.past_made hns hr hpath h hwalk] at hget
  cases hget

/-- Making directories changes nothing about what a name in the last of them names. -/
theorem makeDirectories_named? (ht : d.Tree) (hns : ∀ p ∈ ns, IsName p) (hr : IsName r) :
    (d.makeDirectories (absolute ns)).1.named? (absolute (ns ++ [r])) = d.named? (absolute (ns ++ [r])) := by
  have hkept := makeDirectories_keeps
    (I := fun d₁ => d₁.Tree ∧ Adds (fun _ => True) d d₁ ∧ (d₁ = d ∨ d₁.named? (absolute (ns ++ [r])) = none))
    (OnWay ns) (fun _ => OnWay.above hns)
    (by
      rintro d₁ path made ⟨ht₁, hadds, -⟩ hpath hmade
      obtain ⟨p, hnone, rfl, -⟩ := makeDirectory_new hmade
      exact ⟨(ht₁.makeDirectory hmade).tree, hadds.trans (.put hnone trivial),
        .inr (makeDirectory_named? ht₁ hns hr hpath hmade)⟩)
    ⟨ht, .refl _ d, .inl rfl⟩ (.inr ⟨ns, List.prefix_refl _, rfl⟩)
  obtain ⟨-, hadds, heq | hnone⟩ := hkept
  · rw [heq]
  · rw [hnone, eq_comm]
    by_contra hc
    obtain ⟨e, he⟩ := Option.ne_none_iff_exists'.1 hc
    have hextends : Extends d (d.makeDirectories (absolute ns)).1 := fun p x hx => hadds.keeps hx
    rw [hextends.named? hadds.here he] at hnone
    cases hnone

/-! ## Making them again -/

theorem hasNull_of_makeDirectories (h : d.makeDirectories path = (d', none)) : Text.hasNull path = false := by
  by_contra hc
  rw [makeDirectories, nullFault?, if_pos (by simpa using hc)] at h
  cases h

namespace Reached

variable {d₁ d₂ : Disk} (h : Reached d ns root)
include h

theorem isDirectory (hlong : isLongPath (absolute ns) = false) : d.isDirectory (absolute ns) = true := by
  refine isDirectory_iff.2 ⟨root, ?_, h.directory⟩
  rw [locate, walkPath_absolute_eq h.names, hlong, if_neg Bool.false_ne_true, h.way]

/-- Directories that could be made on some disk are not made again where they are reached. -/
theorem makeDirectories_of_made (hmade : d₁.makeDirectories (absolute ns) = (d₂, none)) :
    d.makeDirectories (absolute ns) = (d, none) := by
  obtain ⟨p, hp, -⟩ := makeDirectories_locate hmade
  exact makeDirectories_of_isDirectory h.tree h.names (hasNull_of_makeDirectories hmade)
    (h.isDirectory (walkPath_ok hp).2.1)

section Missing

variable (ht : d₁.Tree) (hways : Ways d₁ d) (hnew : ∀ p, d₁.get? p = none → (d.get? p).all Entry.isFile = true)
include ht hways hnew

/-- Where nothing but files is missing, no directory is made on the way to one that is reached. -/
theorem not_made (hps : ps <+: ns) : d₁.makeDirectory (absolute ps) ≠ .ok d₂ := by
  intro hmade
  have hnames : ∀ p ∈ ps, IsName p := fun p hp => h.names p (hps.subset hp)
  induction ps using List.reverseRecOn with
  | nil =>
    obtain ⟨reason, herror, -⟩ := makeDirectory_of_isDirectory ht hnames (isDirectory_iff.2 ⟨[], walkPath_root, rfl⟩)
    cases hmade.symm.trans herror
  | append_singleton ps r _ =>
    have hr : IsName r := hnames r (by simp)
    obtain ⟨rest, rfl⟩ := hps
    rw [makeDirectory_absolute (fun p hp => hnames p (by simp [hp])) hr] at hmade
    split at hmade
    · cases hmade
    split at hmade
    · cases hmade
    rename_i here hwalk
    split at hmade
    · rename_i hdir
      split at hmade
      · cases hmade
      split at hmade
      · cases hmade
      rename_i hnone
      rw [Bool.not_eq_true, Option.isSome_eq_false_iff, Option.isNone_iff_eq_none] at hnone
      have hfile := hnew _ hnone
      -- the way goes on from here through what is missing
      have hway := h.way
      rw [List.append_assoc, List.singleton_append, List.map_append, List.map_cons] at hway
      obtain ⟨k, -, hk⟩ := walk_append_le (hways.walk hwalk hdir nofun) (hways here _ hdir rfl) (.inl rfl)
      rw [hk] at hway
      refine not_directory_beyond (isStep_shownPart hr) (fun hc => ?_) (fun t hc => ?_) hway h.directory
      · rw [hc] at hfile
        cases hfile
      · rw [hc] at hfile
        cases hfile
    · cases hmade
    · cases hmade

/-- Where directories that were reached can be made while nothing but files is missing, they are reached. -/
theorem of_made (hmade : (d₁.makeDirectories (absolute ns)).2 = none) : Reached d₁ ns root := by
  have hsame : (d₁.makeDirectories (absolute ns)).1 = d₁ :=
    makeDirectories_keeps (I := (· = d₁)) (OnWay ns) (fun _ => OnWay.above h.names)
      (by
        rintro _ path made rfl (rfl | ⟨ps, hps, rfl⟩) hmade
        · cases hmade
        · exact absurd hmade (h.not_made ht hways hnew hps))
      rfl (.inr ⟨_, List.prefix_refl _, rfl⟩)
  exact h.of_ways ht hways (isDirectory_iff.2 (makeDirectories_locate (Prod.ext hsame hmade)))

end Missing

end Reached

/-- A name in a directory that a program works from is reached by its path as it is given, if neither is too
long. -/
theorem Grounded.walkPath_reached {dir file : String} (hg : Grounded dir d) (h : Reached d (wayTo d.hereText dir) root)
    (hfile : IsName file.toList)
    (hlink : follow = false ∨ ∀ t, d.get? (root ++ [shownPart file.toList]) ≠ some (.link t)) :
    d.walkPath follow (join [dir, file]) =
      if isLongPath (join [dir, file]) = true ∨ isLongName (shownPart file.toList) = true then .error .nameTooLong
      else .ok (root ++ [shownPart file.toList]) := by
  rw [hg.walkPath_join hfile, h.walk hfile hlink]
  by_cases hpath : isLongPath (join [dir, file]) = true
  · rw [if_pos hpath, if_pos (.inl hpath)]
  rw [if_neg hpath]
  by_cases hname : isLongName (shownPart file.toList) = true
  · rw [if_pos hname, if_pos (.inr hname)]
  · rw [if_neg hname, if_neg (by simp [hpath, hname])]

end VariantForge.Disk
