import VariantForge.Proofs.Disk.Tree

/-!
# Twins — disks that an operation cannot tell apart

Two disks are twins as far as some places can be seen: these hold the same, or files of one mode
where the bytes do not count. An operation on straight paths whose way is seen fails on both in the
same way or succeeds on both and leaves twins. Removing a directory and writing a file can make more
of them seen, as what is there afterwards does not depend on what was.
-/

namespace VariantForge.Disk

open Path

/-- Whether two places hold the same, but for the bytes of files unless these count. -/
def Alike (full : Bool) (e e' : Option Entry) : Prop :=
  e = e' ∨ full = false ∧ ∃ b b' m, e = some (.file b m) ∧ e' = some (.file b' m)

/-- Two disks that are alike as far as they can be seen. -/
structure Looks (full : Bool) (V : Place → Prop) (d d' : Disk) : Prop where
  here : d.here = d'.here
  alike : ∀ q, V q → Alike full (d.get? q) (d'.get? q)

/-- Two sound disks that are alike as far as they can be seen. -/
structure Twin (full : Bool) (U V : Place → Prop) (d d' : Disk) : Prop extends Looks full V d d' where
  sound : Sound U d
  sound' : Sound U d'

/-- Whether two ends are the same failure or related values. -/
inductive Both {ε α : Type} (R : α → α → Prop) : Except ε α → Except ε α → Prop where
  | ok {a a' : α} (h : R a a') : Both R (.ok a) (.ok a')
  | error (f : ε) : Both R (.error f) (.error f)

variable {full follow : Bool} {U V V' : Place → Prop} {d d' : Disk} {here p q : Place}
  {e e' : Option Entry} {ns : List String} {path source target : String}

theorem Alike.refl (e : Option Entry) : Alike full e e := .inl rfl

theorem Alike.file {b b' : ByteArray} (m : Nat) (h : full = true → b = b') :
    Alike full (some (.file b m)) (some (.file b' m)) := by
  cases full with
  | false => exact .inr ⟨rfl, b, b', m, rfl, rfl⟩
  | true =>
    rw [h rfl]
    exact .refl _

theorem Alike.loose (h : Alike full e e') : Alike false e e' :=
  h.imp_right fun ⟨_, h⟩ => ⟨rfl, h⟩

theorem Alike.eq (h : Alike true e e') : e = e' := by
  rcases h with h | ⟨hc, -⟩
  · exact h
  · cases hc

theorem Twin.mono (h : Twin full U V d d') (hV : ∀ q, V' q → V q) : Twin full U V' d d' :=
  ⟨⟨h.here, fun q hq => h.alike q (hV q hq)⟩, h.sound, h.sound'⟩

theorem Twin.loose (h : Twin full U V d d') : Twin false U V d d' :=
  ⟨⟨h.here, fun q hq => (h.alike q hq).loose⟩, h.sound, h.sound'⟩

theorem Both.cases {ε α : Type} {R : α → α → Prop} {r r' : Except ε α} (h : Both R r r') :
    (∃ a a', r = .ok a ∧ r' = .ok a' ∧ R a a') ∨ ∃ f, r = .error f ∧ r' = .error f := by
  cases h with
  | ok h => exact .inl ⟨_, _, rfl, rfl, h⟩
  | error f => exact .inr ⟨f, rfl, rfl⟩

theorem Both.mono {ε α : Type} {R R' : α → α → Prop} {r r' : Except ε α} (h : Both R r r')
    (hR : ∀ a a', R a a' → R' a a') : Both R' r r' := by
  cases h with
  | ok h => exact .ok (hR _ _ h)
  | error f => exact .error f

/-- What is known of values that were both given is known of related ones. -/
theorem Both.imp {ε α : Type} {R R' : α → α → Prop} {r r' : Except ε α} (h : Both R r r')
    (hR : ∀ a a', r = .ok a → r' = .ok a' → R a a' → R' a a') : Both R' r r' := by
  cases h with
  | ok h => exact .ok (hR _ _ rfl rfl h)
  | error f => exact .error f

/-- What leaves sound disks that look alike leaves twins. -/
theorem Both.twin {ε : Type} {r r' : Except ε Disk} (h : Both (Looks full V) r r')
    (hs : ∀ d, r = .ok d → Sound U d) (hs' : ∀ d, r' = .ok d → Sound U d) :
    Both (Twin full U V) r r' := by
  cases h with
  | ok h => exact .ok ⟨h, hs _ rfl, hs' _ rfl⟩
  | error f => exact .error f

theorem Looks.put (h : Looks full V d d') (hp : p ≠ []) {e e' : Entry}
    (he : Alike full (some e) (some e')) :
    Looks full (fun q => V q ∨ q = p) (d.put p e) (d'.put p e') := by
  refine ⟨h.here, fun q hq => ?_⟩
  rw [get?_put hp, get?_put hp]
  by_cases hqp : q = p
  · rw [if_pos hqp, if_pos hqp]
    exact he
  · rw [if_neg hqp, if_neg hqp]
    exact h.alike q (hq.resolve_right hqp)

theorem Looks.cut (h : Looks full V d d') (p : Place) :
    Looks full (fun q => V q ∨ p <+: q) (d.cut p) (d'.cut p) := by
  refine ⟨h.here, fun q hq => ?_⟩
  by_cases hpq : p <+: q
  · by_cases hnil : q = []
    · rw [hnil]
      exact .refl _
    · rw [get?_cut_of_below hpq hnil, get?_cut_of_below hpq hnil]
      exact .refl _
  · rw [get?_cut_of_not_below hpq, get?_cut_of_not_below hpq]
    exact h.alike q (hq.resolve_right hpq)

/-! ## Walks -/

/-- The last name of a leg gets to its place whatever is there but a link. -/
theorem leg_last {n : String} (hn : IsStep n) (hlong : ¬ isLongName n = true)
    (hlink : ∀ target, d.get? (here ++ [n]) ≠ some (.link target)) :
    d.leg follow here [n] = .arrived (here ++ [n]) := by
  rw [leg_step hn, if_neg hlong]
  cases hget : d.get? (here ++ [n]) with
  | none => rfl
  | some e =>
    cases e with
    | directory =>
      dsimp only
      rw [leg]
    | file bytes mode => rfl
    | link target => exact absurd hget (hlink target)

/-- What is on the way decides where names lead. The last place counts only if blank names may
follow it. -/
theorem leg_congr (follow : Bool) (hns : ∀ n ∈ ns, n = "" ∨ IsStep n)
    (hp : here ++ ns.filter (· != "") = p)
    (hc : Clear d p) (hc' : Clear d' p)
    (h : ∀ q, q <+: p → q ≠ p → Alike full (d.get? q) (d'.get? q))
    (hlast : Alike full (d.get? p) (d'.get? p) ∨ ∀ n ∈ ns, IsStep n) :
    d.leg follow here ns = d'.leg follow here ns := by
  induction ns generalizing here with
  | nil => rw [leg, leg]
  | cons n ns ih =>
    have hrest : ∀ m ∈ ns, m = "" ∨ IsStep m := fun m hm => hns m (List.mem_cons_of_mem _ hm)
    have hlast' : Alike full (d.get? p) (d'.get? p) ∨ ∀ m ∈ ns, IsStep m :=
      hlast.imp_right fun h m hm => h m (List.mem_cons_of_mem _ hm)
    rcases hns n (List.mem_cons_self ..) with rfl | hn
    · rw [filter_cons_blank] at hp
      rw [leg_blank (.inl rfl), leg_blank (.inl rfl)]
      exact ih hrest hp hlast'
    · rw [filter_cons_step hn, List.append_cons] at hp
      have hpre : here ++ [n] <+: p := ⟨_, hp⟩
      by_cases hlong : isLongName n = true
      · rw [leg_step hn, leg_step hn, if_pos hlong, if_pos hlong]
      have hcase : Alike full (d.get? (here ++ [n])) (d'.get? (here ++ [n])) ∨ ns = [] := by
        by_cases heq : here ++ [n] = p
        · rcases hlast' with halike | hsteps
          · exact .inl (heq ▸ halike)
          · right
            have hnil : ns.filter (· != "") = [] := List.append_right_eq_self.1 (hp.trans heq.symm)
            rw [List.filter_eq_nil_iff] at hnil
            refine List.eq_nil_iff_forall_not_mem.2 fun m hm => hnil m hm ?_
            simpa using (hsteps m hm).ne_blank
        · exact .inl (h _ hpre heq)
      rcases hcase with (heq | ⟨-, b, b', m, hb, hb'⟩) | rfl
      · rw [leg_step hn, leg_step hn, if_neg hlong, if_neg hlong, ← heq]
        cases hget : d.get? (here ++ [n]) with
        | none => rfl
        | some e =>
          cases e with
          | directory => exact ih hrest hp hlast'
          | file bytes mode => rfl
          | link target => exact absurd hget (hc _ hpre target)
      · rw [leg_step hn, leg_step hn, if_neg hlong, if_neg hlong, hb, hb']
      · rw [leg_last hn hlong (hc _ hpre), leg_last hn hlong (hc' _ hpre)]

theorem walk_congr (follow : Bool) (n : Nat) (hns : ∀ n ∈ ns, n = "" ∨ IsStep n)
    (hp : here ++ ns.filter (· != "") = p) (hc : Clear d p) (hc' : Clear d' p)
    (h : ∀ q, q <+: p → q ≠ p → Alike full (d.get? q) (d'.get? q))
    (hlast : Alike full (d.get? p) (d'.get? p) ∨ ∀ n ∈ ns, IsStep n) :
    d.walk follow n here ns = d'.walk follow n here ns := by
  have hleg := leg_congr follow hns hp hc hc' h hlast
  rcases leg_straight follow hns (hp ▸ hc) with hs | ⟨r, hs⟩ <;>
    rw [walk, walk, ← hleg, hs]

/-- Whether a path ends in a name, so that it can name what is not there yet. -/
def Ends (path : String) : Prop := ∀ n ∈ (names path).tail, IsStep n

theorem ends_absolute {ns : List Part} (hns : ∀ q ∈ ns, IsName q) (hne : ns ≠ []) :
    Ends (absolute ns) := by
  intro n hn
  rw [names_eq_map, parts_absolute hns hne, List.map_cons, List.tail_cons] at hn
  obtain ⟨q, hq, rfl⟩ := List.mem_map.1 hn
  exact isStep_shownPart (hns q hq)

theorem walkPath_congr (hs : Straight path) (hc : Clear d (placeOf path))
    (hc' : Clear d' (placeOf path))
    (h : ∀ q, q <+: placeOf path → q ≠ placeOf path → Alike full (d.get? q) (d'.get? q))
    (hlast : Alike full (d.get? (placeOf path)) (d'.get? (placeOf path)) ∨ Ends path) :
    d.walkPath follow path = d'.walkPath follow path := by
  have hnames := hs.names_eq
  have hplace : [] ++ (names path).tail.filter (· != "") = placeOf path := by
    rw [← nil_append_placeOf, hnames, List.tail_cons, filter_cons_blank]
  have hsteps : ∀ n ∈ (names path).tail, n = "" ∨ IsStep n :=
    fun n hn => hs.steps n (List.mem_of_mem_tail hn)
  simp only [walkPath, hs.root, if_true]
  rw [hnames, walk_blank, walk_blank, walk_congr follow _ hsteps hplace hc hc' h hlast]

/-- Twins that see the way of a path lead it to the same place. -/
theorem Twin.walkPath_eq (h : Twin full U V d d') (ho : Open U path) (hv : Open V path) :
    d.walkPath follow path = d'.walkPath follow path :=
  walkPath_congr ho.straight (ho.clear h.sound) (ho.clear h.sound')
    (fun q hq _ => h.alike q (hv.way q hq)) (.inl (h.alike _ (hv.way _ (List.prefix_refl _))))

/-- Where a file is written is decided by what is above it, if the path ends in a name. -/
theorem Twin.locateFile_above (h : Twin full U V d d') (ho : Open U path)
    (hv : ∀ q, q <+: placeOf path → q ≠ placeOf path → V q) (hlast : V (placeOf path) ∨ Ends path) :
    d.locateFile path = d'.locateFile path := by
  rw [Disk.locateFile_eq, Disk.locateFile_eq]
  split
  · split
    · rfl
    split
    · rfl
    rename_i last before hnames
    obtain ⟨-, hsteps, hplace⟩ := ho.straight.split hnames
    have hpre : before.reverse.filter (· != "") <+: placeOf path := ⟨[last], hplace.symm⟩
    have hne : before.reverse.filter (· != "") ≠ placeOf path := by simp [hplace]
    have habove (q : Place) (hq : q <+: before.reverse.filter (· != "")) : V q := by
      refine hv q (hq.trans hpre) ?_
      rintro rfl
      exact hne (hpre.eq_of_length_le hq.length_le)
    have hwalk := walk_congr true linkBound hsteps (List.nil_append _)
      ((ho.clear h.sound).above hpre) ((ho.clear h.sound').above hpre)
      (fun q hq _ => h.alike q (habove q hq)) (.inl (h.alike _ (habove _ (List.prefix_refl _))))
    rw [ho.straight.root, if_pos rfl, if_pos rfl, ← hwalk]
    cases hp : d.walk true linkBound [] before.reverse with
    | error r => rfl
    | ok p =>
      have hp := walk_straight hsteps ((ho.clear h.sound).above hpre) hp
      rw [List.nil_append] at hp
      dsimp only
      rcases h.alike p (hp ▸ habove _ (List.prefix_refl _)) with heq | ⟨-, b, b', m, hb, hb'⟩
      · rw [heq]
      · rw [hb, hb']
  · exact walkPath_congr ho.straight (ho.clear h.sound) (ho.clear h.sound')
      (fun q hq hne => h.alike q (hv q hq hne)) (hlast.imp_left (h.alike _))

theorem Twin.locateFile_eq (h : Twin full U V d d') (ho : Open U path) (hv : Open V path) :
    d.locateFile path = d'.locateFile path :=
  h.locateFile_above ho (fun q hq _ => hv.way q hq) (.inl (hv.way _ (List.prefix_refl _)))

/-! ## Looking and reading -/

theorem Twin.look?_alike (h : Twin full U V d d') (ho : Open U path) (hv : Open V path) :
    Alike full (d.look? path) (d'.look? path) := by
  rw [look?, look?, locate, locate, ← h.walkPath_eq ho hv]
  cases hp : d.walkPath true path with
  | error r => exact .refl _
  | ok p =>
    obtain rfl := walkPath_straight ho.straight (ho.clear h.sound) hp
    exact h.alike _ (hv.way _ (List.prefix_refl _))

theorem Twin.isFile_eq (h : Twin full U V d d') (ho : Open U path) (hv : Open V path) :
    d.isFile path = d'.isFile path := by
  rw [isFile, isFile]
  rcases h.look?_alike ho hv with heq | ⟨-, b, b', m, hb, hb'⟩
  · rw [heq]
  · rw [hb, hb']
    rfl

/-- The bytes that are read are the same if they count. -/
theorem Twin.read_both (h : Twin full U V d d') (ho : Open U path) (hv : Open V path) :
    Both (fun b b' => full = true → b = b') (d.read path) (d'.read path) := by
  rw [Disk.read, Disk.read]
  cases checkPath path with
  | error f => exact .error f
  | ok _ =>
    dsimp only [bind, Except.bind]
    rw [locate, locate, ← h.walkPath_eq ho hv]
    cases hp : d.walkPath true path with
    | error r => exact .error _
    | ok p =>
      obtain rfl := walkPath_straight ho.straight (ho.clear h.sound) hp
      dsimp only
      rcases h.alike _ (hv.way _ (List.prefix_refl _)) with heq | ⟨hfull, b, b', m, hb, hb'⟩
      · rw [← heq]
        split
        · split
          · exact .ok fun _ => rfl
          · exact .error _
        · exact .error _
        · exact .error _
        · exact .error _
      · rw [hb, hb']
        dsimp only
        split
        · exact .ok fun hc => by rw [hfull] at hc; cases hc
        · exact .error _

/-! ## Writing -/

/-- What writing makes of what is at a place. -/
def written : Option Entry → ByteArray → Except DiskReason Entry
  | some (.file _ mode), bytes => if mayWrite mode then .ok (.file bytes mode) else .error .denied
  | some .directory, _ => .error .isDirectory
  | some (.link _), _ => .error .tooManyLinks
  | none, bytes => .ok (.file bytes newFileMode)

theorem write_eq (d : Disk) (path : String) (bytes : ByteArray) :
    d.write path bytes = (do
      checkPath path
      match d.locateFile path with
      | .error r => .error (fault r "open" path)
      | .ok p =>
        match written (d.get? p) bytes with
        | .error r => .error (fault r "open" path)
        | .ok e => .ok (d.put p e)) := by
  rw [write]
  congr 1
  funext _
  cases d.locateFile path with
  | error r => rfl
  | ok p =>
    dsimp only
    cases d.get? p with
    | none => rfl
    | some e =>
      cases e with
      | file old mode =>
        dsimp only [written]
        split <;> rfl
      | directory => rfl
      | link target => rfl

/-- Whether writing fails in the same way or makes alike entries. -/
inductive WrittenAlike (full : Bool) : Except DiskReason Entry → Except DiskReason Entry → Prop where
  | ok {e e' : Entry} (h : Alike full (some e) (some e')) : WrittenAlike full (.ok e) (.ok e')
  | error (r : DiskReason) : WrittenAlike full (.error r) (.error r)

theorem WrittenAlike.refl (r : Except DiskReason Entry) : WrittenAlike full r r := by
  cases r with
  | ok e => exact .ok (.refl _)
  | error r => exact .error r

theorem written_alike (e : Option Entry) {b b' : ByteArray} (hb : full = true → b = b') :
    WrittenAlike full (written e b) (written e b') := by
  cases e with
  | none => exact .ok (.file _ hb)
  | some e =>
    cases e with
    | directory => exact .error _
    | link target => exact .error _
    | file old mode =>
      dsimp only [written]
      split
      · exact .ok (.file _ hb)
      · exact .error _

theorem Alike.written (h : Alike full e e') {b b' : ByteArray} (hb : full = true → b = b') :
    WrittenAlike full (written e b) (written e' b') := by
  rcases h with rfl | ⟨-, old, old', m, rfl, rfl⟩
  · exact written_alike e hb
  · exact written_alike (some (.file old m)) hb

theorem ne_nil_of_written {bytes : ByteArray} {e : Entry}
    (h : Disk.written (d.get? p) bytes = .ok e) : p ≠ [] := by
  rintro rfl
  cases h

/-- Writing a file does not change what writing one comes to. -/
theorem written_write {bytes : ByteArray} (h : d.write path bytes = .ok d') (q : Place) (b : ByteArray) :
    Disk.written (d'.get? q) b = Disk.written (d.get? q) b := by
  obtain ⟨p, -, hput⟩ := write_ok h
  have hself {e : Option Entry} (he : d.get? p = e) (hdir : e ≠ some .directory) : p ≠ [] := by
    rintro rfl
    exact hdir he.symm
  rcases hput with ⟨old, mode, hget, rfl⟩ | ⟨hget, rfl⟩
  · rw [get?_put (hself hget (by simp))]
    split
    · rename_i hq
      rw [hq, hget]
      rfl
    · rfl
  · rw [get?_put (hself hget (by simp))]
    split
    · rename_i hq
      rw [hq, hget]
      rfl
    · rfl

/-- A file that was written is seen from then on, if writing it came to the same on both disks. -/
theorem Twin.write_seen (h : Twin full U V d d') (ho : Open U path) {b b' : ByteArray}
    (hl : d.locateFile path = d'.locateFile path)
    (hw : WrittenAlike full (Disk.written (d.get? (placeOf path)) b)
      (Disk.written (d'.get? (placeOf path)) b')) :
    Both (Twin full U fun q => V q ∨ q = placeOf path) (d.write path b) (d'.write path b') := by
  refine .twin ?_ (fun _ hd => (write_kept h.sound ho hd).sound)
    (fun _ hd => (write_kept h.sound' ho hd).sound)
  rw [write_eq, write_eq]
  cases checkPath path with
  | error f => exact .error f
  | ok _ =>
    dsimp only [bind, Except.bind]
    rw [← hl]
    cases hp : d.locateFile path with
    | error r => exact .error _
    | ok p =>
      obtain rfl := walkPath_straight ho.straight (ho.clear h.sound) (locateFile_ok hp)
      dsimp only
      cases hr : written (d.get? (placeOf path)) b with
      | error r =>
        rw [hr] at hw
        generalize written (d'.get? (placeOf path)) b' = r' at hw ⊢
        cases hw with
        | error r => exact .error _
      | ok e =>
        rw [hr] at hw
        have hne := ne_nil_of_written hr
        generalize written (d'.get? (placeOf path)) b' = r' at hw ⊢
        cases hw with
        | ok he => exact .ok (h.toLooks.put hne he)

theorem Twin.write (h : Twin full U V d d') (ho : Open U path) (hv : Open V path)
    {b b' : ByteArray} (hb : full = true → b = b') :
    Both (Twin full U V) (d.write path b) (d'.write path b') := by
  have hself := hv.way _ (List.prefix_refl _)
  refine (h.write_seen ho (h.locateFile_eq ho hv) ((h.alike _ hself).written hb)).mono ?_
  exact fun _ _ h => h.mono fun q hq => .inl hq

/-! ## Removing -/

/-- Nothing is left where something was removed. -/
theorem removeAll_below (hd : Sound U d) (ho : Open U path) (h : d.removeAll path = .ok d') (hq : placeOf path <+: q)
    (hne : q ≠ []) : d'.get? q = none := by
  rcases removeAll_ok h with ⟨hp, rfl⟩ | ⟨p, hp, rfl⟩
  · -- something on the way is missing, so there is nothing below
    obtain ⟨r, hr, hnone⟩ := walkPath_missing ho.straight (ho.clear hd) hp
    exact hd.tree.get?_eq_none hnone (hr.trans hq)
  · obtain rfl := walkPath_straight ho.straight (ho.clear hd) hp
    exact get?_cut_of_below hq hne

/-- What lay below a directory that was removed is seen from then on. -/
theorem Twin.removed (h : Twin full U V d d') (ho : Open U path) {d₁ d₁' : Disk} (hd : d.removeAll path = .ok d₁)
    (hd' : d'.removeAll path = .ok d₁') : Twin full U (fun q => V q ∨ placeOf path <+: q) d₁ d₁' := by
  have hkept := removeAll_kept h.sound ho hd
  have hkept' := removeAll_kept h.sound' ho hd'
  refine ⟨⟨?_, fun q hq => ?_⟩, hkept.sound, hkept'.sound⟩
  · rw [hkept.here, hkept'.here, h.here]
  by_cases hbelow : placeOf path <+: q
  · by_cases hne : q = []
    · rw [hne]
      exact .refl _
    · rw [removeAll_below h.sound ho hd hbelow hne, removeAll_below h.sound' ho hd' hbelow hne]
      exact .refl _
  · rw [hkept.outside q hbelow, hkept'.outside q hbelow]
    exact h.alike q (hq.resolve_right hbelow)

/-- Whether a walk that is to remove something got there or found that there is nothing. -/
def Removable (r : Except DiskReason Place) (p : Place) : Prop := r = .ok p ∨ r = .error .missing

theorem Removable.removeAll {e : Unit} (h : Removable (d.locateSelf path) p) (hpath : checkPath path = .ok e) :
    ∃ d', d.removeAll path = .ok d' := by
  rw [Disk.removeAll, hpath]
  rcases h with h | h
  · exact ⟨_, by rw [h]; rfl⟩
  · exact ⟨_, by rw [h]; rfl⟩

/-- Removing something comes to the same if the walks do, or if both may end where nothing is. -/
theorem Twin.removeAll_seen (h : Twin full U V d d') (ho : Open U path)
    (hl : d.locateSelf path = d'.locateSelf path ∨
      Removable (d.locateSelf path) (placeOf path) ∧ Removable (d'.locateSelf path) (placeOf path)) :
    Both (Twin full U fun q => V q ∨ placeOf path <+: q) (d.removeAll path) (d'.removeAll path) := by
  cases hpath : checkPath path with
  | error f =>
    rw [removeAll, removeAll, hpath]
    exact .error f
  | ok _ =>
    have hboth : (∃ d₁ d₁', d.removeAll path = .ok d₁ ∧ d'.removeAll path = .ok d₁') ∨
        ∃ f, d.removeAll path = .error f ∧ d'.removeAll path = .error f := by
      rcases hl with hl | ⟨hr, hr'⟩
      · rw [removeAll, removeAll, hpath, ← hl]
        dsimp only [bind, Except.bind]
        cases d.locateSelf path with
        | ok p => exact .inl ⟨_, _, rfl, rfl⟩
        | error r =>
          cases r with
          | missing => exact .inl ⟨_, _, rfl, rfl⟩
          | _ => exact .inr ⟨_, rfl, rfl⟩
      · obtain ⟨d₁, hd⟩ := hr.removeAll hpath
        obtain ⟨d₁', hd'⟩ := hr'.removeAll hpath
        exact .inl ⟨d₁, d₁', hd, hd'⟩
    rcases hboth with ⟨d₁, d₁', hd, hd'⟩ | ⟨f, hd, hd'⟩
    · rw [hd, hd']
      exact .ok (h.removed ho hd hd')
    · rw [hd, hd']
      exact .error f

/-- Whether two places hold the same, or each nothing or a directory. -/
def Slack (e e' : Option Entry) : Prop :=
  e = e' ∨ (e = none ∨ e = some .directory) ∧ (e' = none ∨ e' = some .directory)

/-- How a leg ends at a place where there is nothing or a directory. -/
theorem leg_vacant {n : String} (hn : IsStep n) (hlong : ¬ isLongName n = true) (hns : ns.filter (· != "") = [])
    (he : d.get? (here ++ [n]) = none ∨ d.get? (here ++ [n]) = some .directory) :
    d.leg follow here (n :: ns) = .arrived (here ++ [n]) ∨ d.leg follow here (n :: ns) = .stopped .missing := by
  rw [leg_step hn, if_neg hlong]
  rcases he with he | he
  · rw [he]
    dsimp only
    split
    · exact .inl rfl
    · exact .inr rfl
  · rw [he]
    exact .inl (leg_blanks fun b hb => by simpa using List.filter_eq_nil_iff.1 hns b hb)

/-- What is on the way decides where names lead, unless they end where there is nothing or a directory. -/
theorem leg_slack (hns : ∀ n ∈ ns, n = "" ∨ IsStep n) (hp : here ++ ns.filter (· != "") = p) (hc : Clear d p)
    (h : ∀ q, q <+: p → q ≠ p → d.get? q = d'.get? q) (hlast : Slack (d.get? p) (d'.get? p)) :
    d.leg follow here ns = d'.leg follow here ns ∨
      (d.leg follow here ns = .arrived p ∨ d.leg follow here ns = .stopped .missing) ∧
        (d'.leg follow here ns = .arrived p ∨ d'.leg follow here ns = .stopped .missing) := by
  induction ns generalizing here with
  | nil =>
    rw [leg, leg]
    exact .inl rfl
  | cons n ns ih =>
    have hrest : ∀ m ∈ ns, m = "" ∨ IsStep m := fun m hm => hns m (List.mem_cons_of_mem _ hm)
    rcases hns n (List.mem_cons_self ..) with rfl | hn
    · rw [filter_cons_blank] at hp
      rw [leg_blank (.inl rfl), leg_blank (.inl rfl)]
      exact ih hrest hp
    rw [filter_cons_step hn, List.append_cons] at hp
    by_cases hlong : isLongName n = true
    · rw [leg_step hn, leg_step hn, if_pos hlong, if_pos hlong]
      exact .inl rfl
    have hsame (heq : d.get? (here ++ [n]) = d'.get? (here ++ [n])) :
        d.leg follow here (n :: ns) = d'.leg follow here (n :: ns) ∨
          (d.leg follow here (n :: ns) = .arrived p ∨ d.leg follow here (n :: ns) = .stopped .missing) ∧
            (d'.leg follow here (n :: ns) = .arrived p ∨ d'.leg follow here (n :: ns) = .stopped .missing) := by
      rw [leg_step hn, leg_step hn, if_neg hlong, if_neg hlong, ← heq]
      cases hget : d.get? (here ++ [n]) with
      | none => exact .inl rfl
      | some e =>
        cases e with
        | directory => exact ih hrest hp
        | file bytes mode => exact .inl rfl
        | link target => exact absurd hget (hc _ ⟨_, hp⟩ target)
    by_cases hend : here ++ [n] = p
    · rcases hlast with heq | ⟨he, he'⟩
      · exact hsame (hend ▸ heq)
      · have hblank : ns.filter (· != "") = [] := List.append_right_eq_self.1 (hp.trans hend.symm)
        rw [← hend] at he he' ⊢
        exact .inr ⟨leg_vacant hn hlong hblank he, leg_vacant hn hlong hblank he'⟩
    · exact hsame (h _ ⟨_, hp⟩ hend)

theorem walkPath_slack (hs : Straight path) (hc : Clear d (placeOf path))
    (h : ∀ q, q <+: placeOf path → q ≠ placeOf path → d.get? q = d'.get? q)
    (hlast : Slack (d.get? (placeOf path)) (d'.get? (placeOf path))) :
    d.walkPath follow path = d'.walkPath follow path ∨
      Removable (d.walkPath follow path) (placeOf path) ∧ Removable (d'.walkPath follow path) (placeOf path) := by
  have hleg : d.leg follow [] (names path) = d'.leg follow [] (names path) ∨
      (d.leg follow [] (names path) = .arrived (placeOf path) ∨ d.leg follow [] (names path) = .stopped .missing) ∧
        (d'.leg follow [] (names path) = .arrived (placeOf path) ∨
          d'.leg follow [] (names path) = .stopped .missing) :=
    leg_slack hs.steps (nil_append_placeOf path) hc h hlast
  simp only [walkPath, hs.root, if_true]
  split
  · exact .inl rfl
  split
  · exact .inl rfl
  have hwalk {d : Disk} (h : d.leg follow [] (names path) = .arrived (placeOf path) ∨
      d.leg follow [] (names path) = .stopped .missing) :
      Removable (d.walk follow linkBound [] (names path)) (placeOf path) := by
    rcases h with h | h
    · exact .inl (by rw [walk, h])
    · exact .inr (by rw [walk, h])
  rcases hleg with hleg | ⟨he, he'⟩
  · left
    rcases leg_straight follow hs.steps (by rwa [nil_append_placeOf]) with h₁ | ⟨r, h₁⟩ <;>
      rw [walk, walk, ← hleg, h₁]
  · exact .inr ⟨hwalk he, hwalk he'⟩

/-- A directory is cleared in the same way whether there was one or nothing. -/
theorem Twin.clear_seen (h : Twin true U V d d') (ho : Open U path)
    (hv : ∀ q, q <+: placeOf path → q ≠ placeOf path → V q)
    (hslack : Slack (d.get? (placeOf path)) (d'.get? (placeOf path))) :
    Both (Twin true U fun q => V q ∨ placeOf path <+: q) (d.removeAll path) (d'.removeAll path) :=
  h.removeAll_seen ho (walkPath_slack ho.straight (ho.clear h.sound)
    (fun q hq hne => (h.alike q (hv q hq hne)).eq) hslack)

theorem Twin.removeFile (h : Twin full U V d d') (ho : Open U path) (hv : Open V path) :
    Both (Twin full U V) (d.removeFile path) (d'.removeFile path) := by
  refine .twin ?_ (fun _ hd => (removeFile_kept h.sound ho hd).sound)
    (fun _ hd => (removeFile_kept h.sound' ho hd).sound)
  rw [Disk.removeFile, Disk.removeFile]
  cases checkPath path with
  | error f => exact .error f
  | ok _ =>
    dsimp only [bind, Except.bind]
    rw [locateSelf, locateSelf, ← h.walkPath_eq ho hv]
    cases hp : d.walkPath false path with
    | error r => cases r <;> first | exact .ok h.toLooks | exact .error _
    | ok p =>
      obtain rfl := walkPath_straight ho.straight (ho.clear h.sound) hp
      have hcut : Both (ε := DiskFault) (Looks full V) (.ok (d.cut (placeOf path)))
          (.ok (d'.cut (placeOf path))) :=
        .ok ⟨h.here, fun q hq => (h.toLooks.cut _).alike q (.inl hq)⟩
      dsimp only
      rcases h.alike _ (hv.way _ (List.prefix_refl _)) with heq | ⟨-, b, b', m, hb, hb'⟩
      · rw [← heq]
        split
        · exact .error _
        · exact hcut
      · rw [hb, hb']
        exact hcut

theorem Twin.removeAll (h : Twin full U V d d') (ho : Open U path) (hv : Open V path) :
    Both (Twin full U V) (d.removeAll path) (d'.removeAll path) :=
  (h.removeAll_seen ho (.inl (h.walkPath_eq ho hv))).mono fun _ _ h => h.mono fun _ hq => .inl hq

/-! ## Copies and moves -/

/-- What stands in the way of a copy. -/
def obstacle : Option Entry → Option DiskReason
  | some .directory => some .isDirectory
  | some (.file _ mode) => if mayWrite mode then none else some .denied
  | _ => none

theorem Alike.obstacle (h : Alike full e e') : obstacle e = obstacle e' := by
  rcases h with rfl | ⟨-, b, b', m, rfl, rfl⟩
  · rfl
  · rfl

/-- Puts a copy of a file where a path leads. -/
def paste (d : Disk) (source target : String) (bytes : ByteArray) (mode : Nat) :
    Except DiskFault Disk :=
  match d.locateFile target with
  | .error r => .error (.call r "copyfile" [source, target])
  | .ok q =>
    match obstacle (d.get? q) with
    | some r => .error (.call r "copyfile" [source, target])
    | none => .ok (d.put q (.file bytes mode))

theorem copy_eq (d : Disk) (source target : String) :
    d.copy source target = (do
      checkPath source "src"
      checkPath target "dest"
      match d.locate source with
      | .error r => .error (.call r "copyfile" [source, target])
      | .ok p =>
        match d.get? p with
        | some (.file bytes mode) =>
          if !mayRead mode then .error (.call .denied "copyfile" [source, target])
          else d.paste source target bytes mode
        | some _ => .error (.call .isDirectory "copyfile" [source, target])
        | none => .error (.call .missing "copyfile" [source, target])) := by
  rw [Disk.copy]
  congr 1
  funext _
  congr 1
  funext _
  cases d.locate source with
  | error r => rfl
  | ok p =>
    dsimp only
    cases d.get? p with
    | none => rfl
    | some e =>
      cases e with
      | directory => rfl
      | link t => rfl
      | file bytes mode =>
        dsimp only
        split
        · rfl
        rw [paste]
        cases d.locateFile target with
        | error r => rfl
        | ok q =>
          dsimp only
          cases d.get? q with
          | none => rfl
          | some e =>
            cases e with
            | directory => rfl
            | link t => rfl
            | file old m =>
              dsimp only [obstacle]
              split <;> rfl

theorem Twin.paste (h : Twin full U V d d') (ho : Open U target) (hv : Open V target)
    {b b' : ByteArray} (hb : full = true → b = b') (mode : Nat) :
    Both (Looks full V) (d.paste source target b mode) (d'.paste source target b' mode) := by
  rw [Disk.paste, Disk.paste, ← h.locateFile_eq ho hv]
  cases hq : d.locateFile target with
  | error r => exact .error _
  | ok q =>
    obtain rfl := walkPath_straight ho.straight (ho.clear h.sound) (locateFile_ok hq)
    dsimp only
    have hself := h.alike _ (hv.way _ (List.prefix_refl _))
    rw [← hself.obstacle]
    cases hr : obstacle (d.get? (placeOf target)) with
    | some r => exact .error _
    | none =>
      have hne : placeOf target ≠ [] := by
        intro hnil
        rw [hnil] at hr
        cases hr
      exact .ok ⟨h.here, fun q hq => (h.toLooks.put hne (.file mode hb)).alike q (.inl hq)⟩

theorem Twin.copy (h : Twin full U V d d') (hos : Open U source) (hvs : Open V source)
    (hot : Open U target) (hvt : Open V target) :
    Both (Twin full U V) (d.copy source target) (d'.copy source target) := by
  refine .twin ?_ (fun _ hd => (copy_kept h.sound hot hd).sound)
    (fun _ hd => (copy_kept h.sound' hot hd).sound)
  rw [copy_eq, copy_eq]
  cases checkPath source "src" with
  | error f => exact .error f
  | ok _ =>
    cases checkPath target "dest" with
    | error f => exact .error f
    | ok _ =>
      dsimp only [bind, Except.bind]
      rw [locate, locate, ← h.walkPath_eq hos hvs]
      cases hp : d.walkPath true source with
      | error r => exact .error _
      | ok p =>
        obtain rfl := walkPath_straight hos.straight (hos.clear h.sound) hp
        have hfile {b b' : ByteArray} (hb : full = true → b = b') (m : Nat) :
            Both (Looks full V)
              (if !mayRead m then .error (.call .denied "copyfile" [source, target])
                else d.paste source target b m)
              (if !mayRead m then .error (.call .denied "copyfile" [source, target])
                else d'.paste source target b' m) := by
          split
          · exact .error _
          · exact h.paste hot hvt hb m
        dsimp only
        rcases h.alike _ (hvs.way _ (List.prefix_refl _)) with heq | ⟨hfull, b, b', m, hb, hb'⟩
        · rw [← heq]
          split
          · exact hfile (fun _ => rfl) _
          · exact .error _
          · exact .error _
        · rw [hb, hb']
          exact hfile (fun hc => by rw [hfull] at hc; cases hc) m

/-- Why what is at one place cannot be moved to another. -/
def moveFault (d : Disk) (p q : Place) (target : String) : Option DiskReason :=
  match d.get? p with
  | none => some .missing
  | some e =>
    if !e.isDirectory && endsInSlash target then some .notDirectory
    else if p = q then none
    else if p.isPrefixOf q then some .invalid
    else if q.isPrefixOf p then some .notEmpty
    else if e.isDirectory then
      match d.get? q with
      | none => none
      | some .directory => if (d.below q).isEmpty then none else some .notEmpty
      | some _ => some .notDirectory
    else if (d.get? q).any Entry.isDirectory then some .isDirectory else none

theorem rename_eq (d : Disk) (source target : String) :
    d.rename source target = (do
      checkPath source "oldPath"
      checkPath target "newPath"
      match d.locateSelf source with
      | .error r => .error (.call r "rename" [source, target])
      | .ok p =>
        match d.locateSelf target with
        | .error r => .error (.call r "rename" [source, target])
        | .ok q =>
          match d.moveFault p q target with
          | some r => .error (.call r "rename" [source, target])
          | none => .ok (if p = q then d else d.moveEntries p q)) := by
  rw [Disk.rename]
  congr 1
  funext _
  congr 1
  funext _
  cases d.locateSelf source with
  | error r => cases d.locateSelf target <;> rfl
  | ok p =>
    cases d.locateSelf target with
    | error r => rfl
    | ok q =>
      dsimp only [moveFault]
      cases hp : d.get? p with
      | none => rfl
      | some e =>
        dsimp only
        split
        · rfl
        split
        · rfl
        split
        · rfl
        split
        · rfl
        split
        · cases d.get? q with
          | none => rfl
          | some e' =>
            cases e' with
            | directory =>
              dsimp only
              split <;> rfl
            | file b m => rfl
            | link t => rfl
        · cases d.get? q with
          | none => rfl
          | some e' => cases e' <;> rfl

theorem moveFault_none (h : d.moveFault p q target = none) : p = q ∨ ¬ p <+: q ∧ ¬ q <+: p := by
  rw [moveFault] at h
  split at h
  · cases h
  split at h
  · cases h
  split at h
  · rename_i hpq
    exact .inl hpq
  split at h
  · cases h
  rename_i hpq
  split at h
  · cases h
  rename_i hqp
  rw [List.isPrefixOf_iff_prefix] at hpq hqp
  exact .inr ⟨hpq, hqp⟩

theorem Alike.isNone (h : Alike full e e') : e = none ↔ e' = none := by
  rcases h with rfl | ⟨-, b, b', m, rfl, rfl⟩
  · rfl
  · simp

theorem below_isEmpty_iff : (d.below p).isEmpty = true ↔ ∀ q, p <+: q → q ≠ p → d.get? q = none := by
  rw [List.isEmpty_iff, below, List.filter_eq_nil_iff]
  constructor
  · intro h q hpq hne
    have hq : q ≠ [] := by
      rintro rfl
      exact hne (List.prefix_nil.1 hpq).symm
    rw [get?_of_ne_nil hq, Option.map_eq_none_iff, List.find?_eq_none]
    intro e he heq
    refine h e he ?_
    rw [beq_iff_eq.1 heq, List.isPrefixOf_iff_prefix.2 hpq]
    simpa using hne
  · intro h e he hc
    rw [Bool.and_eq_true, List.isPrefixOf_iff_prefix, bne_iff_ne] at hc
    have hq : e.1 ≠ [] := by
      intro hnil
      rw [hnil] at hc
      exact hc.2 (List.prefix_nil.1 hc.1).symm
    have hnone := h e.1 hc.1 hc.2
    rw [get?_of_ne_nil hq, Option.map_eq_none_iff, List.find?_eq_none] at hnone
    exact hnone e he (beq_self_eq_true _)

theorem Looks.moveFault_eq (h : Looks full V d d') (hp : V p) (hq : ∀ r, q <+: r → V r)
    (target : String) : d.moveFault p q target = d'.moveFault p q target := by
  have hbelow : (d.below q).isEmpty = (d'.below q).isEmpty := by
    rw [Bool.eq_iff_iff, below_isEmpty_iff, below_isEmpty_iff]
    exact forall_congr' fun r => forall_congr' fun hr => forall_congr' fun _ => (h.alike r (hq r hr)).isNone
  have hthere := h.alike q (hq q (List.prefix_refl q))
  rw [moveFault, moveFault]
  rcases h.alike p hp with heq | ⟨-, b, b', m, hb, hb'⟩
  · rw [← heq, hbelow]
    rcases hthere with hthere | ⟨-, c, c', n, hc, hc'⟩
    · rw [hthere]
    · rw [hc, hc']
      rfl
  · rw [hb, hb', hbelow]
    rcases hthere with hthere | ⟨-, c, c', n, hc, hc'⟩
    · rw [hthere]
      rfl
    · rw [hc, hc']
      rfl

theorem Looks.move (h : Looks full V d d') (hpq : ¬ p <+: q) (hqp : ¬ q <+: p)
    (hp : ∀ r, p <+: r → V r) : Looks full V (d.moveEntries p q) (d'.moveEntries p q) := by
  refine ⟨h.here, fun r hr => ?_⟩
  rw [get?_moveEntries hpq hqp, get?_moveEntries hpq hqp]
  split
  · exact h.alike _ (hp _ (List.prefix_append ..))
  · split
    · exact .refl _
    · exact h.alike r hr

/-- What is moved must be seen with all below it, and so must be the place that it is moved to. -/
theorem Twin.rename (h : Twin full U V d d') (hos : Open U source) (hvs : Open V source)
    (hot : Open U target) (hvt : Open V target) (hs : ∀ r, placeOf source <+: r → V r)
    (ht : ∀ r, placeOf target <+: r → V r)
    (hlow : ¬ placeOf target <+: placeOf source → ∀ q, U q → placeOf target <+: q → q = placeOf target) :
    Both (Twin full U V) (d.rename source target) (d'.rename source target) := by
  refine .twin ?_ (fun _ hd => (rename_kept h.sound hos hot hlow hd).sound)
    (fun _ hd => (rename_kept h.sound' hos hot hlow hd).sound)
  rw [rename_eq, rename_eq]
  cases checkPath source "oldPath" with
  | error f => exact .error f
  | ok _ =>
    cases checkPath target "newPath" with
    | error f => exact .error f
    | ok _ =>
      dsimp only [bind, Except.bind]
      rw [locateSelf, locateSelf, locateSelf, locateSelf, ← h.walkPath_eq hos hvs,
        ← h.walkPath_eq hot hvt]
      cases hp : d.walkPath false source with
      | error r => exact .error _
      | ok p =>
        obtain rfl := walkPath_straight hos.straight (hos.clear h.sound) hp
        cases hq : d.walkPath false target with
        | error r => exact .error _
        | ok q =>
          obtain rfl := walkPath_straight hot.straight (hot.clear h.sound) hq
          dsimp only
          rw [← h.moveFault_eq (hs _ (List.prefix_refl _)) ht target]
          cases hfault : d.moveFault (placeOf source) (placeOf target) target with
          | some r => exact .error _
          | none =>
            refine .ok ?_
            split
            · exact h.toLooks
            · rename_i hne
              obtain ⟨hpq, hqp⟩ := (moveFault_none hfault).resolve_left hne
              exact h.toLooks.move hpq hqp hs

/-! ## Directories -/

theorem Twin.makeDirectory (h : Twin full U V d d') (ho : Open U path) (hv : Open V path) :
    Both (Twin full U V) (d.makeDirectory path) (d'.makeDirectory path) := by
  refine .twin ?_ (fun _ hd => (h.sound.makeDirectory ho hd).sound)
    (fun _ hd => (h.sound'.makeDirectory ho hd).sound)
  rw [Disk.makeDirectory, Disk.makeDirectory]
  split
  · exact .error _
  split
  · exact .error _
  split
  · exact .error _
  rename_i last before hnames
  obtain ⟨hlast, hsteps, hplace⟩ := ho.straight.split hnames
  have hpre : before.reverse.filter (· != "") <+: placeOf path := ⟨[last], hplace.symm⟩
  have hwalk := walk_congr true linkBound hsteps (List.nil_append _)
    ((ho.clear h.sound).above hpre) ((ho.clear h.sound').above hpre)
    (fun q hq _ => h.alike q (hv.way q (hq.trans hpre))) (.inl (h.alike _ (hv.way _ hpre)))
  rw [origin, origin, ho.straight.root, if_pos rfl, if_pos rfl, ← hwalk]
  cases hp : d.walk true linkBound [] before.reverse with
  | error r => exact .error _
  | ok p =>
    have hp := walk_straight hsteps ((ho.clear h.sound).above hpre) hp
    rw [List.nil_append] at hp
    subst hp
    dsimp only [bind, Except.bind]
    have hne : placeOf path ≠ [] := by simp [hplace]
    have hself := h.alike _ (hv.way _ (List.prefix_refl _))
    have hmade : Both (Looks full V)
        (if last = "." ∨ last = ".." then .error .taken
          else if isLongName last then .error .nameTooLong
          else if (d.get? (placeOf path)).isSome then .error .taken
          else .ok (d.put (placeOf path) .directory) : Except DiskReason Disk)
        (if last = "." ∨ last = ".." then .error .taken
          else if isLongName last then .error .nameTooLong
          else if (d'.get? (placeOf path)).isSome then .error .taken
          else .ok (d'.put (placeOf path) .directory)) := by
      have hsome : (d.get? (placeOf path)).isSome = (d'.get? (placeOf path)).isSome := by
        rw [Bool.eq_iff_iff, Option.isSome_iff_ne_none, Option.isSome_iff_ne_none, Ne, Ne,
          hself.isNone]
      rw [← hsome]
      split
      · exact .error _
      split
      · exact .error _
      split
      · exact .error _
      · exact .ok ⟨h.here, fun q hq => (h.toLooks.put hne (.refl _)).alike q (.inl hq)⟩
    rw [← hplace]
    rcases h.alike _ (hv.way _ hpre) with heq | ⟨-, b, b', m, hb, hb'⟩
    · rw [← heq]
      split
      · exact hmade
      · exact .error _
      · exact .error _
    · rw [hb, hb']
      exact .error _

theorem Twin.acceptDirectory_eq (h : Twin full U V d d') (ho : Open U path) (hv : Open V path)
    (inner : Bool) (r : DiskReason) :
    d.acceptDirectory inner path r = d'.acceptDirectory inner path r := by
  have hlocate : d.locate path = d'.locate path := h.walkPath_eq ho hv
  unfold acceptDirectory
  rw [← hlocate]
  cases hp : d.locate path with
  | error e => rfl
  | ok p =>
    obtain rfl := walkPath_straight ho.straight (ho.clear h.sound) hp
    dsimp only
    rcases h.alike _ (hv.way _ (List.prefix_refl _)) with heq | ⟨-, b, b', m, hb, hb'⟩
    · rw [heq]
    · rw [hb, hb']

/-- Making directories comes to the same on related disks if making each of them does. -/
theorem makeUpward_both {R : Disk → Disk → Prop} (paths : String → Prop)
    (hup : ∀ path, paths path → paths (pathAbove path))
    (hmake : ∀ {d d' : Disk} {path : String}, R d d' → paths path → Both R (d.makeDirectory path) (d'.makeDirectory path))
    (haccept : ∀ {d d' : Disk} {path : String}, R d d' → paths path → ∀ (inner : Bool) (r : DiskReason),
      d.acceptDirectory inner path r = d'.acceptDirectory inner path r) (bound : Nat) :
    ∀ {d d' : Disk} {path : String} (inner : Bool), R d d' → paths path →
      (d.makeUpward inner path bound).2 = (d'.makeUpward inner path bound).2 ∧
        R (d.makeUpward inner path bound).1 (d'.makeUpward inner path bound).1 := by
  induction bound with
  | zero => exact fun inner h hp => ⟨rfl, h⟩
  | succ bound ih =>
    intro d d' path inner h hp
    have habove := ih true h (hup path hp)
    rw [Disk.makeUpward, Disk.makeUpward]
    dsimp only
    rcases (hmake h hp).cases with ⟨made, made', hd, hd', hmade⟩ | ⟨r, hd, hd'⟩
    · rw [hd, hd']
      exact ⟨rfl, hmade⟩
    rw [hd, hd']
    cases r with
    | missing =>
      dsimp only
      split
      · split
        · exact ⟨rfl, h⟩
        · dsimp only
          exact ⟨haccept h hp _ _, h⟩
      · rcases hr : d.makeUpward true (pathAbove path) bound with ⟨d₁, fault⟩
        rcases hr' : d'.makeUpward true (pathAbove path) bound with ⟨d₁', fault'⟩
        rw [hr, hr'] at habove
        obtain ⟨rfl, h₁⟩ := habove
        cases fault with
        | some f => exact ⟨rfl, h₁⟩
        | none =>
          dsimp only
          rcases (hmake h₁ hp).cases with ⟨made, made', hd, hd', hmade⟩ | ⟨r, hd, hd'⟩
          · rw [hd, hd']
            exact ⟨rfl, hmade⟩
          · rw [hd, hd']
            dsimp only
            exact ⟨haccept h₁ hp _ _, h₁⟩
    | _ =>
      dsimp only
      exact ⟨haccept h hp _ _, h⟩

theorem makeDirectories_both {R : Disk → Disk → Prop} (paths : String → Prop)
    (hup : ∀ path, paths path → paths (pathAbove path))
    (hmake : ∀ {d d' : Disk} {path : String}, R d d' → paths path → Both R (d.makeDirectory path) (d'.makeDirectory path))
    (haccept : ∀ {d d' : Disk} {path : String}, R d d' → paths path → ∀ (inner : Bool) (r : DiskReason),
      d.acceptDirectory inner path r = d'.acceptDirectory inner path r) (h : R d d') (hp : paths path) :
    (d.makeDirectories path).2 = (d'.makeDirectories path).2 ∧
      R (d.makeDirectories path).1 (d'.makeDirectories path).1 := by
  rw [Disk.makeDirectories, Disk.makeDirectories]
  split
  · exact ⟨rfl, h⟩
  · exact makeUpward_both paths hup hmake haccept _ false h hp

/-- Making the directories of a path comes to the same on twins that see its way. -/
theorem Twin.makeDirectories {ns : List Part} (hns : ∀ q ∈ ns, IsName q) (ho : Open U (absolute ns))
    (hv : Open V (absolute ns)) (h : Twin full U V d d') :
    (d.makeDirectories (absolute ns)).2 = (d'.makeDirectories (absolute ns)).2 ∧
      Twin full U V (d.makeDirectories (absolute ns)).1 (d'.makeDirectories (absolute ns)).1 := by
  have hway (path : String) (hp : OnWay ns path) : path = "" ∨ Open U path ∧ Open V path := by
    refine hp.imp_right ?_
    rintro ⟨ps, hps, rfl⟩
    exact ⟨ho.above hns hps, hv.above hns hps⟩
  refine makeDirectories_both (OnWay ns) (fun _ => .above hns) (fun {d d' path} h hp => ?_)
    (fun {d d' path} h hp inner r => ?_) h (.inr ⟨ns, List.prefix_refl ns, rfl⟩)
  · rcases hway path hp with rfl | ⟨ho, hv⟩
    · exact .error _
    · exact h.makeDirectory ho hv
  · rcases hway path hp with rfl | ⟨ho, hv⟩
    · cases r <;> rfl
    · exact h.acceptDirectory_eq ho hv inner r

end VariantForge.Disk
