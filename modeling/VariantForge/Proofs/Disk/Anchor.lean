import VariantForge.Proofs.Disk.Directories

/-!
# Anchors — paths below a directory that no link leads out of

A directory is anchored by the parts of the path that lead to it. Paths that go on from those parts
by names lead to places below it, and making directories on the way to them adds nothing elsewhere.
-/

namespace VariantForge.Disk

open Path

/-- A directory of a disk with the parts of a path that lead to it, none of whose links leads out. -/
structure Anchored (d : Disk) (top : List Part) (root : Place) : Prop where
  names : ∀ p ∈ top, IsName p
  way : d.walk true linkBound [] (top.map shownPart) = .ok root
  directory : d.get? root = some .directory
  stays : d.LinksStay root

variable {d d' : Disk} {top ns : List Part} {root p : Place} {follow : Bool}

theorem up_notMem_shown (h : ∀ q ∈ ns, IsName q) : ".." ∉ ns.map shownPart := by
  intro hm
  obtain ⟨q, hq, he⟩ := List.mem_map.1 hm
  exact (isStep_shownPart (h q hq)).ne_up he

/-- Walking the path with some parts is walking along them. -/
theorem walk_names_absolute {n : Nat} (h : ∀ q ∈ ns, IsName q) :
    d.walk follow n [] (names (absolute ns)) = d.walk follow n [] (ns.map shownPart) := by
  cases ns with
  | nil =>
    have hroot : Disk.names (absolute []) = ["", ""] := by decide
    rw [hroot, walk_blank, walk_blank]
    rfl
  | cons q ns =>
    rw [names_absolute (fun r hr => (h r hr).no_slash) (by simp), walk_blank]

theorem walkPath_absolute (h : ∀ q ∈ ns, IsName q) (hp : d.walkPath follow (absolute ns) = .ok p) :
    d.walk follow linkBound [] (ns.map shownPart) = .ok p := by
  have hroot : fromRoot (absolute ns) = true := isAbsolute_absolute ns
  rw [walkPath, hroot, if_pos rfl] at hp
  split at hp
  · cases hp
  split at hp
  · cases hp
  rwa [walk_names_absolute h] at hp

theorem Anchored.of_locate (h : ∀ q ∈ top, IsName q) (hp : d.locate (absolute top) = .ok root)
    (hdir : d.get? root = some .directory) (hstays : d.LinksStay root) : Anchored d top root :=
  ⟨h, walkPath_absolute h hp, hdir, hstays⟩

theorem Anchored.grows (h : Anchored d top root) (hg : Grows d d') (hstays : d'.LinksStay root) :
    Anchored d' top root :=
  ⟨h.names, hg.walk h.way h.directory, hg.keeps _ _ h.directory rfl, hstays⟩

theorem Anchored.adds {S : Place → Prop} (h : Anchored d top root) (ha : Adds S d d') :
    Anchored d' top root :=
  h.grows ha.grows fun q target hq ht => h.stays q target hq (ha.link ht)

/-- A walk along names below an anchored directory stays in it. -/
theorem Anchored.walk_inside (h : Anchored d top root) (hns : ∀ q ∈ ns, IsName q)
    (hne : follow = true ∨ ns ≠ []) {n : Nat}
    (hp : d.walk follow n [] ((top ++ ns).map shownPart) = .ok p) : root <+: p := by
  rw [List.map_append] at hp
  have hne' : follow = true ∨ ns.map shownPart ≠ [] := hne.imp_right (by simpa using ·)
  obtain ⟨m, hm⟩ := walk_through h.way h.directory hne' hp
  exact Disk.walk_inside h.stays (List.prefix_refl root)
    (descends_of_notMem (up_notMem_shown hns)) hm

theorem Anchored.inside (h : Anchored d top root) (hns : ∀ q ∈ ns, IsName q)
    (hne : follow = true ∨ ns ≠ []) (hp : d.walkPath follow (absolute (top ++ ns)) = .ok p) :
    root <+: p := by
  exact h.walk_inside hns hne (walkPath_absolute (List.forall_mem_append.2 ⟨h.names, hns⟩) hp)

/-- What the way to a directory goes through is there. -/
theorem isSome_of_walk {n m : Nat} {here : Place} {a b : List String} {name : String}
    (hname : IsStep name) (h : d.walk true n [] (a ++ name :: b) = .ok root)
    (hroot : d.get? root = some .directory) (ha : d.walk true m [] a = .ok here)
    (hhere : d.get? here = some .directory) : (d.get? (here ++ [name])).isSome = true := by
  obtain ⟨k, hk⟩ := walk_through ha hhere (.inl rfl) h
  cases hget : d.get? (here ++ [name]) with
  | some e => rfl
  | none =>
    rcases walk_ok hk with hleg | ⟨_, _, _, _, _, hleg, _⟩
    · rw [leg_step hname, hget] at hleg
      split at hleg
      · cases hleg
      · dsimp only at hleg
        split at hleg <;> cases hleg
        rw [hget] at hroot
        cases hroot
    · rw [leg_step hname, hget] at hleg
      split at hleg
      · cases hleg
      · dsimp only at hleg
        split at hleg <;> cases hleg

/-- Along the path to a place below an anchored directory, directories are made only below it. -/
theorem Anchored.makeDirectory_adds (h : Anchored d top root) (hns : ∀ q ∈ ns, IsName q)
    {ps : List Part} (hps : ps <+: top ++ ns) (hmade : d.makeDirectory (absolute ps) = .ok d') :
    Adds (root <+: ·) d d' := by
  obtain ⟨last, before, here, hnames, hwalk, hdir, -, -, -, hnone, rfl, -, -⟩ := makeDirectory_ok hmade
  have hall : ∀ q ∈ top ++ ns, IsName q := List.forall_mem_append.2 ⟨h.names, hns⟩
  have hroot : d.origin (absolute ps) = [] := by
    have : fromRoot (absolute ps) = true := isAbsolute_absolute ps
    rw [origin, this, if_pos rfl]
  induction ps using List.reverseRecOn with
  | nil =>
    have : Disk.names (absolute []) = ["", ""] := by decide
    rw [this] at hnames
    simp at hnames
  | append_singleton ps q _ =>
    have hq : IsStep (shownPart q) := isStep_shownPart (hall q (hps.subset (by simp)))
    have hslash : ∀ r ∈ ps ++ [q], '/' ∉ r := fun r hr => (hall r (hps.subset hr)).no_slash
    rw [names_absolute hslash (by simp), List.map_append, List.reverse_cons, List.reverse_append,
      List.map_singleton, List.reverse_singleton, List.singleton_append, List.cons_append,
      List.dropWhile_cons_of_neg (by simpa using hq.ne_blank), List.cons.injEq] at hnames
    obtain ⟨rfl, rfl⟩ := hnames
    rw [hroot, List.reverse_append, List.reverse_reverse, List.reverse_singleton,
      List.singleton_append, walk_blank] at hwalk
    refine .put hnone ?_
    rcases List.prefix_or_prefix_of_prefix hps (List.prefix_append top ns) with htop | htop
    · -- the way to the anchor goes through the place, so nothing was made
      obtain ⟨rest, hrest⟩ := htop
      have hway := h.way
      rw [← hrest, List.map_append, List.map_append, List.map_singleton, List.append_assoc,
        List.singleton_append] at hway
      have := isSome_of_walk hq hway h.directory hwalk hdir
      rw [hnone] at this
      cases this
    · rcases List.prefix_concat_iff.1 htop with htop | htop
      · obtain rfl := htop
        have hway := h.way
        rw [List.map_append, List.map_singleton] at hway
        have := isSome_of_walk hq hway h.directory hwalk hdir
        rw [hnone] at this
        cases this
      · obtain ⟨ms, rfl⟩ := htop
        have hms : ∀ r ∈ ms, IsName r := by
          intro r hr
          have hpre : top ++ (ms ++ [q]) <+: top ++ ns := by simpa using hps
          exact hns r (((List.prefix_append_right_inj top).1 hpre).subset (by simp [hr]))
        exact (h.walk_inside hms (.inl rfl) hwalk).trans (List.prefix_append here [shownPart q])

theorem Anchored.makeDirectories_adds (h : Anchored d top root) (hns : ∀ q ∈ ns, IsName q) :
    Adds (root <+: ·) d (d.makeDirectories (absolute (top ++ ns))).1 := by
  have hall : ∀ q ∈ top ++ ns, IsName q := List.forall_mem_append.2 ⟨h.names, hns⟩
  refine makeDirectories_keeps (OnWay (top ++ ns)) (fun _ => OnWay.above hall) ?_ (.refl _ d)
    (.inr ⟨_, List.prefix_refl _, rfl⟩)
  rintro d₁ path made hd₁ (rfl | ⟨ps, hps, rfl⟩) hmade
  · cases hmade
  · exact hd₁.trans ((h.adds hd₁).makeDirectory_adds hns hps hmade)

end VariantForge.Disk
