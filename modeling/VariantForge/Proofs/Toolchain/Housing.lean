import VariantForge.Proofs.Disk.Reached
import VariantForge.Proofs.Disk.Removed
import VariantForge.Proofs.Toolchain.Containment
import VariantForge.Proofs.Toolchain.Unpacking

/-!
# Housing — archives that are unpacked into one directory of their own

Many archives hold a single directory with everything in it (`Housed`). Where that is not there yet, nothing outside
it changes as such an archive is unpacked, whether that succeeds or fails (`run_housed`): the first thing that is made
is the directory (`contained_of_makeDirectory`), and from then on it contains what comes (`Entered`).
-/

namespace VariantForge

namespace Unpack

open Path Disk Forge

variable {c : Archive.Contents} {m : Archive.Member} {l : UnpackLimits} {p : Progress} {start d d' : Disk}
  {ns ms : List Part} {v : Part} {root : Place} {placed : List Place}

/-! ## Archives of one directory -/

/-- The place of a member below the directory that its name begins with. -/
def innerPlace (m : Archive.Member) : Place := (memberPlace m).tail

/-- The places of links after one more member. -/
def innerAfter (m : Archive.Member) (placed : List Place) : List Place :=
  if m.isLink then innerPlace m :: placed else placed

/-- Whether a member lies in a directory of some name or is that directory, and if it is a link, is put behind none
of those placed before it and points to a path that climbs only at its front, no higher than the directory. -/
def HousedMember (c : Archive.Contents) (v : Part) (placed : List Place) (m : Archive.Member) : Prop :=
  (normalParts true m.name.toList).head? = some v ∧ (m.isDirectory = false → innerPlace m ≠ []) ∧
    (m.isLink = true → (∀ q ∈ placed, q <+: innerPlace m → q = innerPlace m) ∧
      ∀ bytes ∈ (Archive.content c m).toOption,
        Descends ((innerPlace m).length - 1) (names (linkTarget bytes)))

instance (c : Archive.Contents) (v : Part) (placed : List Place) (m : Archive.Member) :
    Decidable (HousedMember c v placed m) :=
  inferInstanceAs (Decidable (_ ∧ _ ∧ (_ → _ ∧ ∀ bytes ∈ (Archive.content c m).toOption, _)))

/-- Whether the members from a position of the directory on are housed, given the places of links before them. -/
def HousedFrom (c : Archive.Contents) (v : Part) (placed : List Place) : Nat → Nat → Prop
  | 0, _ => True
  | n + 1, i =>
    match Archive.memberAt c i with
    | .error _ => True
    | .ok (m, next) => HousedMember c v placed m ∧ HousedFrom c v (innerAfter m placed) n next

instance (c : Archive.Contents) (v : Part) : ∀ placed n i, Decidable (HousedFrom c v placed n i)
  | _, 0, _ => isTrue trivial
  | placed, n + 1, i =>
    match h : Archive.memberAt c i with
    | .error _ => isTrue (by rw [HousedFrom, h]; trivial)
    | .ok (m, next) =>
      have := instDecidableHousedFrom c v (innerAfter m placed) n next
      decidable_of_iff (HousedMember c v placed m ∧ HousedFrom c v (innerAfter m placed) n next)
        (by rw [HousedFrom, h])

/-- Whether all members of an archive lie in a directory of some name, and its links stay there. -/
def Housed (name : String) (bytes : ByteArray) : Prop :=
  ∀ c ∈ (Archive.open? bytes).toOption, HousedFrom c name.toList [] c.count c.start

instance (name : String) (bytes : ByteArray) : Decidable (Housed name bytes) :=
  inferInstanceAs (Decidable (∀ c ∈ (Archive.open? bytes).toOption, HousedFrom c name.toList [] c.count c.start))

/-! ## Entering the directory -/

/-- Whether a disk is as it was, or an archive is unpacked in a directory of it that was made for that. -/
def Entered (start : Disk) (ns : List Part) (root : Place) (v : Part) (placed : List Place) (d : Disk) : Prop :=
  d = start ∨ Contained start (ns ++ [v]) (root ++ [shownPart v]) placed d

section Enter

variable (h : Reached start ns root) (hv : IsName v) (hdir : start.get? (root ++ [shownPart v]) ≠ some .directory)
  (hlink : ∀ t, start.get? (root ++ [shownPart v]) ≠ some (.link t))
include h hv hdir hlink

/-- The first directory that is made on the way is the one that was missing. -/
theorem contained_of_makeDirectory (hms : ∀ q ∈ ms, IsName q) {ps : List Part} (hps : ps <+: ns ++ v :: ms)
    (hmade : start.makeDirectory (absolute ps) = .ok d) :
    Contained start (ns ++ [v]) (root ++ [shownPart v]) [] d := by
  have hstep := isStep_shownPart hv
  have hmissing (qs : List Part) (hqs : qs <+: ns) : start.makeDirectory (absolute qs) ≠ .ok d :=
    h.not_made h.tree (fun _ _ he _ => he) (fun _ hp => by rw [hp]; rfl) hqs
  rcases List.prefix_or_prefix_of_prefix hps (List.prefix_append ns (v :: ms)) with hbefore | hafter
  · exact absurd hmade (hmissing ps hbefore)
  obtain ⟨rest, rfl⟩ := hafter
  induction rest using List.reverseRecOn with
  | nil =>
    rw [List.append_nil] at hmade
    exact absurd hmade (hmissing ns (List.prefix_refl ns))
  | append_singleton rest r _ =>
    have hrest : rest ++ [r] <+: v :: ms := (List.prefix_append_right_inj ns).1 hps
    have hnames : ∀ q ∈ rest ++ [r], IsName q := fun q hq =>
      (List.forall_mem_cons.2 ⟨hv, hms⟩ : ∀ q ∈ v :: ms, IsName q) q (hrest.subset hq)
    have hall : ∀ q ∈ ns ++ rest, IsName q :=
      List.forall_mem_append.2 ⟨h.names, fun q hq => hnames q (List.mem_append_left _ hq)⟩
    rw [← List.append_assoc, makeDirectory_absolute hall (hnames r (by simp))] at hmade
    split at hmade
    · cases hmade
    split at hmade
    · cases hmade
    rename_i here hwalk
    split at hmade
    · rename_i hheredir
      cases rest with
      | nil =>
        obtain rfl : r = v := by simpa using hrest
        rw [List.append_nil, h.way, Except.ok.injEq] at hwalk
        subst hwalk
        split at hmade
        · cases hmade
        rename_i hlong
        split at hmade
        · cases hmade
        rename_i hnone
        cases hmade
        rw [Bool.not_eq_true, Option.isSome_eq_false_iff, Option.isNone_iff_eq_none] at hnone
        have hne : root ++ [shownPart r] ≠ [] := by simp
        have hgrows : Disk.Grows start (start.put (root ++ [shownPart r]) .directory) := .put_new hnone
        have hno (q : Place) (target : String) (hq : root ++ [shownPart r] <+: q) :
            (start.put (root ++ [shownPart r]) .directory).get? q ≠ some (.link target) := by
          rw [get?_put hne]
          split
          · simp
          · rename_i hqne
            rw [h.tree.below hdir hq (Ne.symm hqne)]
            simp
        refine ⟨⟨List.forall_mem_append.2 ⟨h.names, by simpa using hv⟩, ?_, get?_put_self hne,
          fun q target hq ht => absurd ht (hno q target hq)⟩, rfl, fun q hq => ?_,
          fun q target hq ht => absurd ht (hno q target hq)⟩
        · rw [List.map_append]
          refine walk_append_of_leg (hgrows.walk h.way h.directory) (hgrows.keeps _ _ h.directory rfl) ?_
          rw [List.map_singleton, leg_step hstep, if_neg hlong, get?_put_self hne]
          dsimp only
          rw [leg]
        · exact get?_put_of_ne fun hqp => hq (hqp ▸ List.prefix_refl _)
      | cons a rest =>
        obtain rfl : a = v := by
          have := List.cons_prefix_cons.1 (List.cons_append .. ▸ hrest)
          exact this.1
        rw [List.map_append] at hwalk
        obtain ⟨k, -, hk⟩ := walk_append_le h.way h.directory (b := (a :: rest).map shownPart) (.inl rfl)
        rw [hk, List.map_cons] at hwalk
        exact absurd hheredir (not_directory_beyond hstep hdir hlink hwalk)
    · cases hmade
    · cases hmade

/-- Directories on the way to a member are made in the directory of its archive only. -/
theorem Entered.makeDirectories (hms : ∀ q ∈ ms, IsName q) (hd : Entered start ns root v placed d) :
    Entered start ns root v placed (d.makeDirectories (absolute (ns ++ v :: ms))).1 ∧
      ((d.makeDirectories (absolute (ns ++ v :: ms))).2 = none →
        Contained start (ns ++ [v]) (root ++ [shownPart v]) placed (d.makeDirectories (absolute (ns ++ v :: ms))).1) := by
  have hpath : ns ++ v :: ms = ns ++ [v] ++ ms := by simp
  have hall : ∀ q ∈ ns ++ v :: ms, IsName q := List.forall_mem_append.2 ⟨h.names, List.forall_mem_cons.2 ⟨hv, hms⟩⟩
  rcases hd with rfl | hd
  · have hkept := Disk.makeDirectories_keeps
      (I := fun d₁ => d₁ = d ∨ Contained d (ns ++ [v]) (root ++ [shownPart v]) [] d₁)
      (OnWay (ns ++ v :: ms)) (fun _ => OnWay.above hall)
      (by
        rintro d₁ path made hd₁ (rfl | ⟨ps, hps, rfl⟩) hmade
        · cases hmade
        rcases hd₁ with rfl | hd₁
        · exact .inr (contained_of_makeDirectory h hv hdir hlink hms hps hmade)
        · exact .inr (hd₁.adds (hd₁.anchored.makeDirectory_adds hms (hpath ▸ hps) hmade)))
      (.inl rfl) (.inr ⟨_, List.prefix_refl _, rfl⟩)
    have hmono {d' : Disk} (h : Contained d (ns ++ [v]) (root ++ [shownPart v]) [] d') :
        Contained d (ns ++ [v]) (root ++ [shownPart v]) placed d' := h.mono (List.nil_subset _)
    refine ⟨hkept.imp_right hmono, fun hnone => hmono (hkept.resolve_left fun heq => ?_)⟩
    -- the directory is not there, so something was made
    obtain ⟨p, hp, hpdir⟩ := makeDirectories_locate (Prod.ext heq hnone)
    have hwalk := walkPath_absolute hall hp
    rw [List.map_append] at hwalk
    obtain ⟨k, -, hk⟩ := walk_append_le h.way h.directory (b := (v :: ms).map shownPart) (.inl rfl)
    rw [hk, List.map_cons] at hwalk
    exact not_directory_beyond (isStep_shownPart hv) hdir hlink hwalk hpdir
  · have hadds := hd.adds (hpath ▸ hd.anchored.makeDirectories_adds hms)
    exact ⟨.inr hadds, fun _ => hadds⟩

theorem place_entered {outDir : String} (hms : ∀ q ∈ ms, IsName q) (hne : ms ≠ [])
    (hfill : m.isLink = true → ms.map shownPart ∈ placed ∧
      (∀ q ∈ placed, q <+: ms.map shownPart → q = ms.map shownPart) ∧
        ∀ bytes ∈ (Archive.content c m).toOption, Descends (ms.length - 1) (names (linkTarget bytes))) :
    Keeps (On (Entered start ns root v placed)) (place c outDir m (absolute (ns ++ v :: ms))) := by
  have hdrop : ∀ q ∈ ms.dropLast, IsName q := fun q hq => hms q ((List.dropLast_sublist ms).mem hq)
  have hpath : ns ++ v :: ms = ns ++ [v] ++ ms := by simp
  intro w hw
  obtain ⟨hentered, hinside⟩ := Entered.makeDirectories h hv hdir hlink hdrop hw
  rw [place, dirname_below h.names (List.forall_mem_cons.2 ⟨hv, hms⟩) (by simp), List.dropLast_cons_of_ne_nil hne,
    runOn_bind, runOn_makeDirectories]
  cases hfault : (w.disk.makeDirectories (absolute (ns ++ v :: ms.dropLast))).2 with
  | some f => exact hentered
  | none =>
    rw [hpath]
    exact .inr (fill_keeps hms hne hfill _ (hinside hfault))

theorem unpackMember_entered (ht : HousedMember c v placed m) :
    Keeps (On (Entered start ns root v (innerAfter m placed))) (unpackMember c l (absolute ns) p m) := by
  obtain ⟨hhead, hinner, htidy⟩ := ht
  refine Keeps.ite_throw fun _ => Keeps.ite_throw fun _ => Keeps.ite_throw fun hout => ?_
  obtain ⟨-, hup, -⟩ := of_not_leadsOut (by simpa using hout)
  obtain ⟨ms, hparts⟩ := List.head?_eq_some_iff.1 hhead
  have hms : ∀ q ∈ ms, IsName q := fun q hq =>
    isName_of_mem_of_up_notMem (hparts ▸ List.mem_cons_of_mem _ hq : q ∈ normalParts true m.name.toList) hup
  have hplace : innerPlace m = ms.map shownPart := by rw [innerPlace, memberPlace, hparts]; rfl
  rw [hplace] at hinner htidy
  refine Keeps.here.bind fun here => ?_
  rw [memberPath_eq here h.names hup, hparts]
  refine Keeps.ite_throw fun _ => ?_
  split
  · have hmade : Keeps (On (Entered start ns root v (innerAfter m placed)))
        (Forge.makeDirectories (absolute (ns ++ v :: ms))) :=
      .makeDirectories_on fun _ hd => (Entered.makeDirectories h hv hdir hlink hms hd).1
    exact hmade.bind fun _ => .pure _
  · rename_i hfile
    refine Keeps.ite_throw fun _ => Keeps.ite_throw fun _ => ?_
    refine (place_entered h hv hdir hlink hms (by simpa using hinner (by simpa using hfile)) fun his => ?_).bind
      fun _ => .pure _
    obtain ⟨hplaced, hdesc⟩ := htidy his
    rw [List.length_map] at hdesc
    have hafter : innerAfter m placed = ms.map shownPart :: placed := by rw [innerAfter, if_pos his, hplace]
    rw [hafter]
    exact ⟨List.mem_cons_self .., List.forall_mem_cons.2 ⟨fun _ => rfl, hplaced⟩, hdesc⟩

theorem unpackFrom_entered {n i : Nat} (ht : HousedFrom c v placed n i) {w : World}
    (hw : Entered start ns root v placed w.disk) :
    ∃ placed', Entered start ns root v placed' (runOn w (unpackFrom c l (absolute ns) p n i)).2.disk := by
  induction n generalizing p i placed w with
  | zero => exact ⟨placed, hw⟩
  | succ n ih =>
    rw [unpackFrom]
    rw [HousedFrom] at ht
    split
    · exact ⟨placed, hw⟩
    · rename_i m next hmember
      rw [hmember] at ht
      have hsub : placed ⊆ innerAfter m placed := by
        rw [innerAfter]
        split
        · exact List.subset_cons_self ..
        · exact List.Subset.refl _
      have hafter := unpackMember_entered (l := l) (p := p) h hv hdir hlink ht.1 w (hw.imp_right fun hc => hc.mono hsub)
      rcases hrun : runOn w (unpackMember c l (absolute ns) p m) with ⟨e | p', w'⟩
      · rw [hrun] at hafter
        rw [runOn_bind_error hrun]
        exact ⟨_, hafter⟩
      · rw [hrun] at hafter
        rw [runOn_bind_ok hrun]
        exact ih ht.2 hafter

end Enter

/-- Unpacking an archive of one directory, where there is none yet, changes nothing outside of that. -/
theorem run_housed {archive outDir name : String} {w : World} (hname : IsName name.toList)
    (h : Reached w.disk ns root) (hout : outPath outDir w = absolute ns)
    (hmade : w.disk.makeDirectories (absolute ns) = (w.disk, none))
    (hdir : w.disk.get? (root ++ [shownPart name.toList]) ≠ some .directory)
    (hlink : ∀ t, w.disk.get? (root ++ [shownPart name.toList]) ≠ some (.link t))
    (hhoused : ∀ bytes, w.disk.read (outPath archive w) = .ok bytes → Housed name bytes)
    {q : Place} (hq : ¬ root ++ [shownPart name.toList] <+: q) :
    (runOn w (run archive outDir l)).2.disk.get? q = w.disk.get? q := by
  have habs (path : String) : Path.resolve ("/" ++ "/".intercalate w.disk.here) [path] = outPath path w := rfl
  rw [run, runOn_bind_ok (runOn_here w)]
  simp only [habs, hout]
  rw [runOn_bind, runOn_makeDirectories, hmade]
  dsimp only [Option.elim]
  rw [runOn_bind, runOn_readFile]
  dsimp only
  cases hread : w.disk.read (outPath archive w) with
  | error e => rfl
  | ok bytes =>
    rw [mapError_ok]
    dsimp only
    cases hopen : Archive.open? bytes with
    | error e => rfl
    | ok c =>
      obtain ⟨placed, hafter⟩ := unpackFrom_entered (l := l) (p := {}) h hname hdir hlink
        (hhoused bytes hread c (by rw [hopen]; rfl)) (w := w) (.inl rfl)
      dsimp only
      rw [bind_pure_comp, runOn_map]
      rcases hafter with heq | hcontained
      · dsimp only
        rw [heq]
      · exact hcontained.outside q hq

end Unpack

end VariantForge
