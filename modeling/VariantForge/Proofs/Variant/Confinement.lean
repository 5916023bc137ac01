import VariantForge.Proofs.Path.Inside
import VariantForge.Spell.Cast
import VariantForge.Variant.Registry

/-!
# Confinement of spells

What a registry that could be built says about the files of its spells. Each spell of each variant
has passed `checkPlace`, so its file is a relative path that climbs nowhere once its back slashes
are read as slashes. The file that is opened is found without that reading, and it lies in its
directory for certain only if the path climbs nowhere as it stands.
-/

namespace VariantForge

open Path

/-! ## The guard -/

namespace Variant

theorem slashed_eq_self {path : String} (h : '\\' ∉ path.toList) :
    Text.replaceChar path '\\' '/' = path := by
  have : path.toList.map (fun c => if c = '\\' then '/' else c) = path.toList.map id := by
    refine List.map_congr_left fun c hc => ?_
    have : c ≠ '\\' := fun he => h (he ▸ hc)
    simp [this]
  rw [Text.replaceChar, this, List.map_id, String.ofList_toList]

theorem isAbsolute_slashed {path : String} (h : isAbsolute path = true) :
    isAbsolute (Text.replaceChar path '\\' '/') = true := by
  simp only [isAbsolute, isAbsoluteChars, Text.replaceChar, String.toList_ofList] at h ⊢
  cases hc : path.toList with
  | nil => simp [hc] at h
  | cons c cs =>
    rw [hc, List.head?_cons, beq_iff_eq, Option.some.injEq] at h
    simp [h]

theorem of_not_climbs {path : String} (h : climbs path = false) :
    isAbsolute path = false ∧ StaysBelow (Text.replaceChar path '\\' '/') := by
  simp only [climbs, Bool.or_eq_false_iff, beq_eq_false_iff_ne] at h
  obtain ⟨⟨habs, hstart⟩, hup⟩ := h
  have hrel : isAbsolute (Text.replaceChar path '\\' '/') = false := by
    by_contra hc
    rw [isAbsolute_normalize (by simpa using hc)] at habs
    exact absurd habs (by decide)
  refine ⟨?_, fun hmem => ?_⟩
  · by_contra hc
    rw [isAbsolute_slashed (by simpa using hc)] at hrel
    exact absurd hrel (by decide)
  · rcases normalize_climbing hrel hmem with hc | hc
    · exact hup hc
    · rw [hc] at hstart
      exact absurd hstart (by decide)

end Variant

/-! ## The registry -/

/-- The file that a spell names, if it names one. -/
def Spell.file? (s : Spell) : Option String :=
  match s.work with
  | .edit file .. => some file
  | .patch file => some file
  | .mergeRequest .. => none

namespace Registry

theorem not_climbs_of_checkPlace {variant : String} {s : Spell}
    (h : checkPlace variant s = .ok ()) {file : String} (hf : s.file? = some file) :
    Variant.climbs file = false := by
  cases hw : s.work with
  | edit f marker rules =>
    simp only [Spell.file?, hw, Option.some.injEq] at hf
    simpa [checkPlace, hw, hf] using h
  | patch f =>
    simp only [Spell.file?, hw, Option.some.injEq] at hf
    simpa [checkPlace, hw, hf] using h
  | mergeRequest remote ref => simp [Spell.file?, hw] at hf

theorem checkPlace_of_mem_checkSpells {variant : String} {before : List String} {spells : List Spell}
    (h : checkSpells variant before spells = .ok ()) {s : Spell} (hs : s ∈ spells) :
    checkPlace variant s = .ok () := by
  induction spells generalizing before with
  | nil => cases hs
  | cons t rest ih =>
    rw [checkSpells] at h
    split at h
    · cases h
    · rename_i hplace
      split at h
      · cases h
      · rcases List.mem_cons.1 hs with rfl | hs
        · exact hplace
        · exact ih h hs

theorem checkSpells_of_mem_checkAll {variants : List Variant} (h : checkAll variants = .ok ())
    {v : Variant} (hv : v ∈ variants) : checkSpells v.name [] v.spells = .ok () := by
  induction variants with
  | nil => cases hv
  | cons u rest ih =>
    rw [checkAll] at h
    split at h
    · cases h
    · rename_i hspells
      rcases List.mem_cons.1 hv with rfl | hv
      · exact hspells
      · exact ih h hv

theorem checkAll_of_build {definitions : List VariantDefinition} {catalog : Catalog}
    {fallback : String} {r : Registry} (h : build definitions catalog fallback = .ok r) :
    checkAll r.variants = .ok () := by
  rw [build] at h
  split at h
  · cases h
  · split at h
    · cases h
    · rename_i hall
      split at h
      · cases h
      · cases h
        exact hall

variable {definitions : List VariantDefinition} {catalog : Catalog} {fallback : String}
  {r : Registry} {v : Variant} {s : Spell}

theorem checkPlace_of_build (hb : build definitions catalog fallback = .ok r)
    (hv : v ∈ r.variants) (hs : s ∈ v.spells) : checkPlace v.name s = .ok () :=
  checkPlace_of_mem_checkSpells (checkSpells_of_mem_checkAll (checkAll_of_build hb) hv) hs

end Registry

/-! ## The files that are opened -/

namespace Spell

/-- Whether a spell opens a file only in the directory it belongs to: an edit in any working copy,
a patch in any directory of spells. -/
def Confined (s : Spell) : Prop :=
  match s.work with
  | .edit file .. => ∀ w : WorkingCopy, isAbsolute w.root = true → Inside w.root (editPath w file)
  | .patch file => ∀ here dir, isAbsolute dir = true → Inside dir (patchPath here dir file)
  | .mergeRequest .. => True

theorem confined_iff {s : Spell} (h : ∀ file, s.file? = some file → isAbsolute file = false) :
    s.Confined ↔ ∀ file, s.file? = some file → StaysBelow file := by
  cases hw : s.work with
  | edit file marker rules =>
    simp only [Confined, file?, hw, Option.some.injEq, forall_eq']
    rw [← inside_join_iff]
    exact ⟨fun hall root hroot => hall ⟨root, "", "", "", default, none, false⟩ hroot,
      fun hall w => hall w.root⟩
  | patch file =>
    have hrel : isAbsolute file = false := h file (by simp [file?, hw])
    simp only [Confined, file?, hw, Option.some.injEq, forall_eq']
    exact ⟨fun hall => (inside_resolve_iff "/" hrel).1 (hall "/"),
      fun hstays here => (inside_resolve_iff here hrel).2 hstays⟩
  | mergeRequest remote ref => simp [Confined, file?, hw]

end Spell

namespace Registry

/-- The spells of a registry open files only where they belong if the paths that they write down
climb nowhere as they stand, and only then. A path without back slashes climbs nowhere. -/
theorem spell_confined_iff (hb : build definitions catalog fallback = .ok r)
    (hv : v ∈ r.variants) (hs : s ∈ v.spells) :
    (s.Confined ↔ ∀ file, s.file? = some file → StaysBelow file) ∧
      ((∀ file, s.file? = some file → '\\' ∉ file.toList) → s.Confined) := by
  have hplace : checkPlace v.name s = .ok () := checkPlace_of_build hb hv hs
  have hguard : ∀ file, s.file? = some file →
      isAbsolute file = false ∧ StaysBelow (Text.replaceChar file '\\' '/') :=
    fun file hf => Variant.of_not_climbs (not_climbs_of_checkPlace hplace hf)
  have hiff := Spell.confined_iff fun file hf => (hguard file hf).1
  refine ⟨hiff, fun hplain => hiff.2 fun file hf => ?_⟩
  have hstays := (hguard file hf).2
  rwa [Variant.slashed_eq_self (hplain file hf)] at hstays

/-- A registry of one variant with one spell. -/
def ofSpell (s : Spell) : Registry := ⟨[⟨"v", "V", [s]⟩], ⟨"v", "V", [s]⟩⟩

/-- An edit of a file without any rules. -/
def bareEdit (file : String) : Spell := { id := "t", work := .edit file (Text.ofString "") [] }

theorem slash_and_back_slash_confined :
    build [⟨"v", "V", ["t"]⟩] [("t", bareEdit "a\\b/../x")] "v" = .ok (ofSpell (bareEdit "a\\b/../x")) ∧
      (bareEdit "a\\b/../x").Confined := by
  have hb : build [⟨"v", "V", ["t"]⟩] [("t", bareEdit "a\\b/../x")] "v" =
      .ok (ofSpell (bareEdit "a\\b/../x")) := by rfl
  refine ⟨hb, ?_⟩
  have hs : bareEdit "a\\b/../x" ∈ [bareEdit "a\\b/../x"] := List.mem_singleton.2 rfl
  refine (spell_confined_iff hb (List.mem_singleton.2 rfl) hs).1.2 ?_
  rintro file hf
  obtain rfl : "a\\b/../x" = file := by simpa [Spell.file?, bareEdit] using hf
  decide

/-- The guard reads two climbs below two names here, the file system two climbs below one. -/
theorem back_slash_not_confined :
    ∃ r, build [⟨"v", "V", ["t"]⟩] [("t", bareEdit "a\\b/../../x")] "v" = .ok r ∧
      ∃ v ∈ r.variants, ∃ s ∈ v.spells, ¬ s.Confined := by
  refine ⟨ofSpell (bareEdit "a\\b/../../x"), rfl, _, List.mem_singleton.2 rfl, _,
    List.mem_singleton.2 rfl, fun h => ?_⟩
  have := h ⟨"/w", "", "", "", ⟨"", "", none⟩, none, false⟩ (by decide)
  exact absurd this (by decide)

end Registry

end VariantForge
