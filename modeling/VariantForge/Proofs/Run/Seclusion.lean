import VariantForge.Proofs.Matched
import VariantForge.Proofs.Run.Outputs

/-!
# Seclusion — what making other variants may change, and what a variant works with

Outside of the working copy, making a variant changes the machine files and the variant's outlets: its logs,
its staging directory, its archive, and the file that becomes that. Where no outlet is on the way to the
chamber or the output directory, none is on the way to another (`Outlet.eq_of_prefix`). So what is veiled from
a variant, because others may have changed it, is on none of the ways that the variant goes.
-/

namespace VariantForge

open Path Disk Forge

/-- The file that a spell reads a patch from. -/
def Spell.patch? (s : Spell) : Option String :=
  match s.work with
  | .patch file => some file
  | _ => none

namespace Run

/-! ## Outlets -/

/-- What making a variant leaves or uses outside of the working copy, and no other variant does. -/
inductive Outlet where
  | log (step : BuildStep)
  | staging
  | archive
  | part

namespace Outlet

/-- The path of an outlet of the variant of some label. -/
def path (p : Plan) (c : WorkingCopy) (label : String) : Outlet → String
  | .log step => Build.logPath p.buildOptions step label
  | .staging => Package.stagingDir p.packageOptions label
  | .archive => Package.archivePath p.packageOptions c label
  | .part => Package.archivePath p.packageOptions c label ++ ".tmp"

/-- The last part of that path. -/
def name (p : Plan) (c : WorkingCopy) (label : String) : Outlet → Part
  | .log step => (Build.logName step label).toList
  | .staging => ("staging-" ++ Text.slug label).toList
  | .archive => (Package.descriptor p.packageOptions c label).fileName.toList
  | .part => (Package.descriptor p.packageOptions c label).fileName.toList ++ ".tmp".toList

/-- What the name of an outlet ends in, unless it is that of a staging directory. -/
def ending : Outlet → Option (List Char)
  | .log _ => some ".log".toList
  | .staging => none
  | .archive => some ".zip".toList
  | .part => some ".tmp".toList

end Outlet

/-- The places of the machine files. -/
def Machine (p : Plan) (q : Place) : Prop :=
  ∃ name, (name = Build.crossFileName ∨ name = Build.nativeFileName) ∧ q = placeOf (Path.join [p.config.chamber, name])

/-- Whether neither a machine file nor an outlet of some variants is on the way to a path. -/
structure Untouched (p : Plan) (c : WorkingCopy) (vs : List Variant) (path : String) : Prop where
  machine : ∀ q, Machine p q → ¬ q <+: placeOf path
  outlets : ∀ v ∈ vs, ∀ k : Outlet, ¬ placeOf (k.path p c v.label) <+: placeOf path

/-- Whether the outlets of some variants can be told apart: the staging directory of none is the file that
becomes the archive of one, and the ways to the chamber and to the output directory are not touched. -/
@[mk_iff]
structure Spread (p : Plan) (c : WorkingCopy) (vs : List Variant) : Prop where
  parts : ∀ v ∈ vs, ∀ v' ∈ vs, placeOf (Outlet.staging.path p c v.label) ≠ placeOf (Outlet.part.path p c v'.label)
  chamber : Untouched p c vs p.config.chamber
  output : Untouched p c vs p.config.outputDir

/-- The places that others of some variants leave their outlets at, with what is below them. -/
def Foreign (p : Plan) (c : WorkingCopy) (vs : List Variant) (v : Variant) (q : Place) : Prop :=
  ∃ v' ∈ vs, v' ≠ v ∧ ∃ k : Outlet, placeOf (k.path p c v'.label) <+: q

/-- The places that making others of some variants may disturb: the working copy, the machine files, and the
outlets of others. -/
def Disturbed (p : Plan) (c : WorkingCopy) (vs : List Variant) (v : Variant) (q : Place) : Prop :=
  placeOf c.root <+: q ∨ Machine p q ∨ Foreign p c vs v q

/-- The places where a variant that has been reset may find what others left: the build directory, the machine
files, and the outlets of others. -/
def Veiled (p : Plan) (c : WorkingCopy) (vs : List Variant) (v : Variant) (q : Place) : Prop :=
  placeOf (Path.join [c.root, p.buildOptions.directory]) <+: q ∨ Machine p q ∨ Foreign p c vs v q

variable {o : Outside} {p : Plan} {c : WorkingCopy} {C O : List Part} {vs : List Variant} {v v' : Variant}
  {k l : Outlet} {q r : Place} {label : String}

theorem Spread.outlets (h : Spread p c vs) (hv : v ∈ vs) (k : Outlet) : ¬ Roads p (placeOf (k.path p c v.label)) :=
  fun hr => hr.elim (h.chamber.outlets v hv k) (h.output.outlets v hv k)

theorem Spread.machine (h : Spread p c vs) (hq : Machine p q) : ¬ Roads p q :=
  fun hr => hr.elim (h.chamber.machine q hq) (h.output.machine q hq)

theorem Outlet.endsIn {s : List Char} (h : k.ending = some s) : EndsIn (shownPart (k.name p c label)) s := by
  cases k with
  | log step =>
    cases h
    exact endsIn_log step label
  | staging => cases h
  | archive =>
    cases h
    exact endsIn_archive p.packageOptions c label
  | part =>
    cases h
    exact endsIn_part _

theorem Outlet.ending_spec {s : List Char} (h : k.ending = some s) : s.length = 4 ∧ '.' ∈ s := by
  cases k <;> cases h <;> decide

theorem isPlain_staging (label : String) : IsPlain ("staging-" ++ Text.slug label).toList := by
  refine isPlain_of_ascii fun x hx => ?_
  have hsmall : ("staging-".toList.all fun y => y.toNat < 128) = true := by decide
  rw [String.toList_append, List.mem_append] at hx
  rcases hx with hx | hx
  · exact of_decide_eq_true (List.all_eq_true.1 hsmall x hx)
  · exact Text.toNat_lt_of_mem_slug hx

/-- A name without a point that does not start as that of a staging directory is none of an outlet. -/
theorem Outlet.name_ne {n : Part} (hn : IsPlain n) (hdot : '.' ∉ n) (hhead : n.head? ≠ some 's') :
    shownPart (k.name p c label) ≠ shownPart n := by
  intro h
  have hshown : shownPart n = String.ofList n := (shownPart_eq_iff hn).2 rfl
  cases hk : k.ending with
  | none =>
    cases k <;> cases hk
    have h := shownPart_inj hn h
    rw [Outlet.name, String.toList_append] at h
    exact hhead (by rw [← h]; rfl)
  | some s =>
    obtain ⟨before, hbefore⟩ := (Outlet.endsIn hk : EndsIn (shownPart (k.name p c label)) s)
    rw [h, hshown, String.toList_ofList] at hbefore
    exact hdot (hbefore ▸ List.mem_append_right _ (Outlet.ending_spec hk).2)

theorem shownPart_part_inj {n n' : Part} (h : shownPart (n ++ ".tmp".toList) = shownPart (n' ++ ".tmp".toList)) :
    shownPart n = shownPart n' := by
  have hpoint : Text.isHalf '.' = false := by decide
  have htmp (n : Part) : n ++ ".tmp".toList = n ++ '.' :: "tmp".toList := rfl
  rw [htmp, htmp, shownPart, shownPart, String.ofList_inj, Text.shownChars_append_cons hpoint,
    Text.shownChars_append_cons hpoint] at h
  rw [shownPart, shownPart, List.append_cancel_right h]

section Places

variable (hs : Sited p c C O) (ha : Separate p c vs)
include hs ha

/-- An outlet is in the chamber or in the output directory. -/
theorem Outlet.exists_place (hv : v ∈ vs) (k : Outlet) :
    ∃ P, Roads p P ∧ placeOf (k.path p c v.label) = P ++ [shownPart (k.name p c v.label)] := by
  have hC : C.map shownPart = placeOf p.config.chamber := by
    rw [hs.chamber, (through_absolute hs.chamberNames).placeOf_eq]
  have hO : O.map shownPart = placeOf p.config.outputDir := by
    rw [hs.output, (through_absolute hs.outputNames).placeOf_eq]
  cases k with
  | log step => exact ⟨C.map shownPart, .inl (hC ▸ List.prefix_refl _), place_log hs step v.label⟩
  | staging =>
    refine ⟨C.map shownPart, .inl (hC ▸ List.prefix_refl _), ?_⟩
    rw [Outlet.path, hs.staging, placeOf_name hs.chamberNames (Sited.isName_staging v.label), Outlet.name]
  | archive => exact ⟨O.map shownPart, .inr (hO ▸ List.prefix_refl _), place_archive hs ha hv⟩
  | part => exact ⟨O.map shownPart, .inr (hO ▸ List.prefix_refl _), place_part hs ha hv⟩

theorem Outlet.name_eq_of_place (hv : v ∈ vs) (hv' : v' ∈ vs)
    (h : placeOf (k.path p c v.label) = placeOf (l.path p c v'.label)) :
    shownPart (k.name p c v.label) = shownPart (l.name p c v'.label) := by
  obtain ⟨P, -, hP⟩ := Outlet.exists_place hs ha hv k
  obtain ⟨P', -, hP'⟩ := Outlet.exists_place hs ha hv' l
  rw [hP, hP'] at h
  exact List.singleton_inj.1 (List.append_inj_right' h rfl)

/-- A staging directory is no other outlet. -/
theorem Outlet.staging_only (hp : Spread p c vs) (hv : v ∈ vs) (hv' : v' ∈ vs)
    (h : placeOf (Outlet.staging.path p c v.label) = placeOf (k.path p c v'.label)) : k = .staging := by
  cases k with
  | staging => rfl
  | log step =>
    have hname := shownPart_inj (isPlain_log step v'.label) (Outlet.name_eq_of_place hs ha hv hv' h)
    have hhead := congrArg List.head? hname
    rw [Outlet.name, String.toList_append] at hhead
    revert hhead
    cases step <;> simp [Build.logName, Build.program, toString]
  | archive => exact absurd (h ▸ List.prefix_refl _) (ha.staging v' hv' v hv)
  | part => exact absurd h (hp.parts v hv v' hv')

/-- An outlet is that of one variant, and serves one purpose. -/
theorem Outlet.eq_of_place (hp : Spread p c vs) (hv : v ∈ vs) (hv' : v' ∈ vs)
    (h : placeOf (k.path p c v.label) = placeOf (l.path p c v'.label)) : k = l ∧ v = v' := by
  have hname := Outlet.name_eq_of_place hs ha hv hv' h
  have hending : k.ending = l.ending := by
    cases hk : k.ending with
    | none =>
      cases k <;> cases hk
      rw [Outlet.staging_only hs ha hp hv hv' h, Outlet.ending]
    | some s =>
      cases hk' : l.ending with
      | none =>
        cases l <;> cases hk'
        rw [Outlet.staging_only hs ha hp hv' hv h.symm] at hk
        cases hk
      | some s' =>
        by_contra hne
        refine (Outlet.endsIn hk).ne (Outlet.endsIn hk') ?_ (fun hs => hne (congrArg some hs)) hname
        rw [(Outlet.ending_spec hk).1, (Outlet.ending_spec hk').1]
  have hslug (h : Text.slug v.label = Text.slug v'.label) : v = v' := List.inj_on_of_nodup_map ha.slugs hv hv' h
  have hlabel (h : Text.shown v.label = Text.shown v'.label) : v = v' := List.inj_on_of_nodup_map ha.labels hv hv' h
  cases k with
  | log step =>
    cases l with
    | log step' =>
      obtain ⟨rfl, hsame⟩ := shownPart_log_inj hname
      exact ⟨rfl, hslug hsame⟩
    | _ => simp [Outlet.ending] at hending
  | staging =>
    cases l with
    | staging =>
      have hsame := shownPart_inj (isPlain_staging v'.label) hname
      rw [Outlet.name, String.toList_append, String.toList_append] at hsame
      exact ⟨rfl, hslug (String.toList_inj.1 (List.append_cancel_left hsame))⟩
    | _ => simp [Outlet.ending] at hending
  | archive =>
    cases l with
    | archive => exact ⟨rfl, hlabel (shownPart_archive_inj hname)⟩
    | _ => simp [Outlet.ending] at hending
  | part =>
    cases l with
    | part => exact ⟨rfl, hlabel (shownPart_archive_inj (shownPart_part_inj hname))⟩
    | _ => simp [Outlet.ending] at hending

/-- No outlet is on the way to another. -/
theorem Outlet.eq_of_prefix (hp : Spread p c vs) (hv : v ∈ vs) (hv' : v' ∈ vs)
    (h : placeOf (k.path p c v.label) <+: placeOf (l.path p c v'.label)) : k = l ∧ v = v' := by
  obtain ⟨P, hroad, hP⟩ := Outlet.exists_place hs ha hv' l
  rw [hP] at h
  rcases List.prefix_concat_iff.1 h with h | h
  · exact Outlet.eq_of_place hs ha hp hv hv' (h.trans hP.symm)
  · exact absurd (hroad.imp h.trans h.trans) (hp.outlets hv k)

omit ha in
theorem place_root : placeOf c.root = placeOf p.config.chamber ++ [shownPart "mesa".toList] := by
  rw [hs.root, placeOf_name hs.chamberNames (by decide), hs.chamber, (through_absolute hs.chamberNames).placeOf_eq]

omit ha in
theorem Machine.exists_name (h : Machine p q) :
    ∃ n : Part, IsPlain n ∧ '.' ∉ n ∧ n.head? ≠ some 's' ∧ n ≠ "mesa".toList ∧
      q = placeOf p.config.chamber ++ [shownPart n] := by
  obtain ⟨name, hname, rfl⟩ := h
  have hplace : placeOf (Path.join [p.config.chamber, name]) = placeOf p.config.chamber ++ [shownPart name.toList] := by
    rw [hs.machineFile hname, placeOf_name hs.chamberNames (by rcases hname with rfl | rfl <;> decide), hs.chamber,
      (through_absolute hs.chamberNames).placeOf_eq]
  refine ⟨name.toList, ?_, ?_, ?_, ?_, hplace⟩
  · rcases hname with rfl | rfl <;> exact isPlain_of_all (by decide)
  all_goals rcases hname with rfl | rfl <;> decide

/-- No outlet is on the way to something else in the chamber. -/
theorem Outlet.not_beside (hp : Spread p c vs) (hv : v ∈ vs) {n : Part} (hn : IsPlain n) (hdot : '.' ∉ n)
    (hhead : n.head? ≠ some 's') :
    ¬ placeOf (k.path p c v.label) <+: placeOf p.config.chamber ++ [shownPart n] := by
  intro h
  rcases List.prefix_concat_iff.1 h with h | h
  · obtain ⟨P, -, hP⟩ := Outlet.exists_place hs ha hv k
    rw [hP] at h
    exact Outlet.name_ne hn hdot hhead (List.singleton_inj.1 (List.append_inj_right' h rfl))
  · exact hp.outlets hv k (.inl h)

/-- No road goes through the working copy. -/
theorem Roads.not_copy (hv : v ∈ vs) (h : Roads p q) : ¬ placeOf c.root <+: q := by
  intro hroot
  rcases h with h | h
  · have := (hroot.trans h).length_le
    rw [place_root hs, List.length_append, List.length_singleton] at this
    omega
  · refine ha.copy v hv (hroot.trans (h.trans ?_))
    rw [place_archive hs ha hv, hs.output, (through_absolute hs.outputNames).placeOf_eq]
    exact List.prefix_append _ _

/-- The working copy and an outlet are apart. -/
theorem Outlet.apart_copy (hp : Spread p c vs) (hv : v ∈ vs) :
    ¬ placeOf (k.path p c v.label) <+: placeOf c.root ∧ ¬ placeOf c.root <+: placeOf (k.path p c v.label) := by
  have hmesa : IsPlain "mesa".toList := isPlain_of_all (by decide)
  refine ⟨fun h => ?_, fun h => ?_⟩
  · rw [place_root hs] at h
    exact Outlet.not_beside hs ha hp hv hmesa (by decide) (by decide) h
  · obtain ⟨P, hroad, hP⟩ := Outlet.exists_place hs ha hv k
    rw [hP] at h
    rcases List.prefix_concat_iff.1 h with h | h
    · have hplace := hP.trans (h.symm.trans (place_root hs))
      exact Outlet.not_beside (k := k) hs ha hp hv hmesa (by decide) (by decide) (hplace ▸ List.prefix_refl _)
    · exact Roads.not_copy hs ha hv hroad h

omit ha in
theorem Machine.not_copy (h : Machine p q) : ¬ placeOf c.root <+: q := by
  obtain ⟨n, hn, -, -, hmesa, rfl⟩ := h.exists_name hs
  rw [place_root hs]
  refine not_below fun hc => hmesa (shownPart_inj (isPlain_of_all (by decide)) hc.symm)

/-! ## What is foreign -/

theorem Foreign.not_outlet (hp : Spread p c vs) (hv : v ∈ vs)
    (hq : q <+: placeOf (k.path p c v.label) ∨ placeOf (k.path p c v.label) <+: q) : ¬ Foreign p c vs v q := by
  rintro ⟨v', hv', hne, l, h⟩
  rcases hq with hq | hq
  · exact hne (Outlet.eq_of_prefix hs ha hp hv' hv (h.trans hq)).2
  · rcases List.prefix_or_prefix_of_prefix h hq with h | h
    · exact hne (Outlet.eq_of_prefix hs ha hp hv' hv h).2
    · exact hne (Outlet.eq_of_prefix hs ha hp hv hv' h).2.symm

omit hs ha in
theorem Foreign.not_road (hp : Spread p c vs) (hq : Roads p q) : ¬ Foreign p c vs v q := by
  rintro ⟨v', hv', -, k, h⟩
  exact hp.outlets hv' k (hq.imp h.trans h.trans)

theorem Foreign.not_copy (hp : Spread p c vs) (hq : q <+: placeOf c.root ∨ placeOf c.root <+: q) :
    ¬ Foreign p c vs v q := by
  rintro ⟨v', hv', -, k, h⟩
  have hapart := Outlet.apart_copy (k := k) hs ha hp hv'
  rcases hq with hq | hq
  · exact hapart.1 (h.trans hq)
  · exact (List.prefix_or_prefix_of_prefix h hq).elim hapart.1 hapart.2

theorem Foreign.not_machine (hp : Spread p c vs) (hq : Machine p q) : ¬ Foreign p c vs v q := by
  rintro ⟨v', hv', -, k, h⟩
  obtain ⟨n, hn, hdot, hhead, -, rfl⟩ := hq.exists_name hs
  exact Outlet.not_beside hs ha hp hv' hn hdot hhead h

/-! ## What is veiled -/

theorem build_below : placeOf c.root <+: placeOf (Path.join [c.root, p.buildOptions.directory]) :=
  below_copy hs _ (hs.build ha.directory)

theorem Disturbed.not_road (hp : Spread p c vs) (hv : v ∈ vs) (hq : Roads p q) : ¬ Disturbed p c vs v q := by
  rintro (h | h | h)
  · exact Roads.not_copy hs ha hv hq h
  · exact hp.machine h hq
  · exact Foreign.not_road hp hq h

theorem Veiled.not_road (hp : Spread p c vs) (hv : v ∈ vs) (hq : Roads p q) : ¬ Veiled p c vs v q := by
  rintro (h | h | h)
  · exact Roads.not_copy hs ha hv hq ((build_below hs ha).trans h)
  · exact hp.machine h hq
  · exact Foreign.not_road hp hq h

theorem Veiled.not_copy (hp : Spread p c vs) (hq : placeOf c.root <+: q)
    (hbuild : ¬ placeOf (Path.join [c.root, p.buildOptions.directory]) <+: q) : ¬ Veiled p c vs v q := by
  rintro (h | h | h)
  · exact hbuild h
  · exact h.not_copy hs hq
  · exact Foreign.not_copy hs ha hp (.inr hq) h

/-- Nothing is veiled on the way to what is in the working copy, up to the build directory. -/
theorem Veiled.not_above (hp : Spread p c vs) (hv : v ∈ vs) (hr : placeOf c.root <+: r) (hq : q <+: r)
    (hbuild : ¬ placeOf (Path.join [c.root, p.buildOptions.directory]) <+: q) : ¬ Veiled p c vs v q := by
  rcases List.prefix_or_prefix_of_prefix hq hr with h | h
  · rw [place_root hs] at h
    rcases List.prefix_concat_iff.1 h with h | h
    · have hroot := h.trans (place_root hs).symm
      exact Veiled.not_copy hs ha hp (hroot ▸ List.prefix_refl _) hbuild
    · exact Veiled.not_road hs ha hp hv (.inl h)
  · exact Veiled.not_copy hs ha hp h hbuild

end Places

/-- Nothing is veiled on the way to what is neither touched nor in the build directory. -/
theorem Untouched.not_veiled {path : String} (h : Untouched p c vs path)
    (hbuild : ¬ placeOf (Path.join [c.root, p.buildOptions.directory]) <+: placeOf path) (hq : q <+: placeOf path) :
    ¬ Veiled p c vs v q := by
  rintro (hr | hr | ⟨v', hv', -, k, hr⟩)
  · exact hbuild (hr.trans hq)
  · exact h.machine q hr hq
  · exact h.outlets v' hv' k (hr.trans hq)

/-! ## The ways of a variant -/

/-- The directory that relative paths start from. -/
def home (d : Disk) : String := "/" ++ "/".intercalate d.here

/-- The paths that a run works on when it makes some variants, and those that it reads for one of them: of what a
build makes, and of patches. -/
inductive Treads (p : Plan) (c : WorkingCopy) (vs : List Variant) (v : Variant) (here : String) : String → Prop where
  | uses {path : String} (h : Uses p c vs path) : Treads p c vs v here path
  | artifact : Treads p c vs v here (Build.artifact p.buildOptions c)
  | patch {s : Spell} {file : String} (hs : s ∈ v.spells) (hfile : file ∈ s.patch?) :
      Treads p c vs v here (Spell.patchPath here p.config.spellsDir file)

/-- The places on the ways of these paths. -/
def Tracks (p : Plan) (c : WorkingCopy) (vs : List Variant) (v : Variant) (here : String) (q : Place) : Prop :=
  ∃ path, Treads p c vs v here path ∧ q <+: placeOf path

/-- Whether the patches of a variant are where no variant writes, and not in the build directory. -/
def PatchesApart (p : Plan) (c : WorkingCopy) (vs : List Variant) (v : Variant) (here : String) : Prop :=
  ∀ s ∈ v.spells, ∀ file ∈ s.patch?, Untouched p c vs (Spell.patchPath here p.config.spellsDir file) ∧
    ¬ placeOf (Path.join [c.root, p.buildOptions.directory]) <+:
      placeOf (Spell.patchPath here p.config.spellsDir file)

section Tracks

variable {here : String} (hs : Sited p c C O) (ha : Separate p c vs)
include hs ha

theorem through_artifact (ht : StaysBelow p.buildOptions.target) :
    Through (Build.artifact p.buildOptions c)
      (C ++ ["mesa".toList] ++ normalParts true p.buildOptions.directory.toList ++
        normalParts true p.buildOptions.target.toList) :=
  (hs.build ha.directory).join ht

/-- What a build makes is in the working copy. -/
theorem artifact_below (ht : StaysBelow p.buildOptions.target) :
    placeOf c.root <+: placeOf (Build.artifact p.buildOptions c) := by
  have h := through_artifact hs ha ht
  rw [List.append_assoc] at h
  exact below_copy hs _ h

theorem Treads.opens (ht : StaysBelow p.buildOptions.target) {path : String} (h : Treads p c vs v here path) :
    Open (Tracks p c vs v here) path := by
  refine ⟨?_, fun q hq => ⟨path, h, hq⟩⟩
  cases h with
  | uses h => exact (h.opens hs ha).straight
  | artifact => exact (through_artifact hs ha ht).straight
  | patch hs hfile =>
    obtain ⟨ns, hns, hpath⟩ := exists_resolve here [p.config.spellsDir, _]
    rw [Spell.patchPath, hpath]
    exact (through_absolute hns).straight

theorem paves_tracks (hp : Spread p c vs) (ht : StaysBelow p.buildOptions.target)
    (hpatches : PatchesApart p c vs v here) : Paves p c vs (Tracks p c vs v here) where
  opens path h := (Treads.uses h).opens hs ha ht
  low v' hv' hlow q hq hbelow := by
    have hstaging := (below_staging hs _ (hs.library ha.library v'.label)).trans hbelow
    obtain ⟨path, h, hway⟩ := hq
    cases h with
    | uses h => exact library_low hs ha hv' hlow ⟨path, h, hway⟩ hbelow
    | artifact =>
      have hapart := Outlet.apart_copy (k := .staging) hs ha hp hv'
      exact ((List.prefix_or_prefix_of_prefix (hstaging.trans hway) (artifact_below hs ha ht)).elim
        hapart.1 hapart.2).elim
    | patch hs hfile => exact absurd (hstaging.trans hway) ((hpatches _ hs _ hfile).1.outlets v' hv' .staging)

end Tracks

/-! ## What is assumed of a disk and of commands -/

/-- Whether a disk is as it should be once the source was fetched: there are no links on the ways of a variant, the
chamber and the output directory are there, and neither what is built climbs out of the build directory nor
do the variant's spells edit files in it. -/
structure Secluded (p : Plan) (c : WorkingCopy) (vs : List Variant) (v : Variant) (d : Disk) : Prop where
  sound : Sound (Tracks p c vs v (home d)) d
  chamber : d.get? (placeOf p.config.chamber) = some .directory
  output : d.get? (placeOf p.config.outputDir) = some .directory
  target : StaysBelow p.buildOptions.target
  edits : ∀ s ∈ v.spells, ∀ file ∈ s.edited?,
    ¬ placeOf (Path.join [c.root, p.buildOptions.directory]) <+: placeOf (Spell.editPath c file)

/-- Whether the working copy is on a disk as it was on another, but for what is in the build directory. -/
structure Restored (p : Plan) (c : WorkingCopy) (d d' : Disk) : Prop where
  copy : ∀ q, placeOf c.root <+: q → ¬ placeOf (Path.join [c.root, p.buildOptions.directory]) <+: q →
    d'.get? q = d.get? q
  build : Slack (d.get? (placeOf (Path.join [c.root, p.buildOptions.directory])))
    (d'.get? (placeOf (Path.join [c.root, p.buildOptions.directory])))

/-- Whether a command ends in the same way and leaves the same, as far as some places show it, wherever these show
the same before. -/
def Blind (o : Outside) (U V : Place → Prop) (cmd : Command) : Prop :=
  ∀ w w', Live (Twin true U V) w w' →
    (o.run w cmd).result = (o.run w' cmd).result ∧ Looks true V (o.run w cmd).disk (o.run w' cmd).disk

/-- Whether a command ends well. -/
def EndsWell (o : Outside) (w : World) (cmd : Command) : Prop :=
  ∃ r, (o.run w cmd).result = .ok r ∧ r.succeeded = true

/-- Whether commands do as they should for a variant in a run that found some disk once the source was fetched. They
do not cancel the run and mind what they are told to work on. A reset succeeds, and puts the working copy back
but for the build directory. Commands of the variant's spells neither see what is veiled nor touch the
build directory, and its other commands do not see what is foreign. -/
structure Isolated (o : Outside) (p : Plan) (t : Toolchain) (c : WorkingCopy) (vs : List Variant) (v : Variant)
    (d : Disk) : Prop where
  cancels : ∀ w cmd, (o.run w cmd).cancels = false
  minds : Minds o (Tracks p c vs v (home d))
  reset : ∀ w, Kept (Tracks p c vs v (home d)) (Disturbed p c vs v) d w.disk →
    EndsWell o w (Git.command (some c.root) ["reset", "--hard", c.baseRevision]) ∧
    ∀ w', w'.disk = (o.run w (Git.command (some c.root) ["reset", "--hard", c.baseRevision])).disk →
      EndsWell o w' (Git.command (some c.root) ["clean", "-fd"]) ∧
      Restored p c d (o.run w' (Git.command (some c.root) ["clean", "-fd"])).disk
  spells : ∀ s ∈ v.spells, ∀ cmd ∈ Spell.commands (home d) p.config.spellsDir c s,
    Blind o (Tracks p c vs v (home d)) (fun q => ¬ Veiled p c vs v q) cmd ∧
    ∀ w, Sound (Tracks p c vs v (home d)) w.disk →
      ∀ q, placeOf (Path.join [c.root, p.buildOptions.directory]) <+: q → (o.run w cmd).disk.get? q = w.disk.get? q
  build : ∀ cmd ∈ Build.commands o p.buildOptions c t v.label,
    Blind o (Tracks p c vs v (home d)) (fun q => ¬ Foreign p c vs v q) cmd
  naming : Blind o (Tracks p c vs v (home d)) (fun q => ¬ Foreign p c vs v q)
    (Package.command p.packageOptions
      (Package.stagedPath p.packageOptions (Build.artifact p.buildOptions c) v.label))

end Run

end VariantForge
