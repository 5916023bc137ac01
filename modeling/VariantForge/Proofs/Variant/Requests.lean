import VariantForge.Proofs.Variant.Definitions
import VariantForge.Settings.Shape

/-!
# Requests — what is chosen for a request that names a variant

A request is trimmed, and the tests that come before it is looked up see it in two forms: trimmed, and in the normal
form of names. The two agree on what is blank (`Variant.normalName_eq_empty_iff`), so the only name that a request
cannot ask for is the blank one, under which a definition may yet be listed (`select_listed`).
-/

namespace VariantForge

namespace Text

theorem lowerEach_eq_nil_iff {before cs : List Char} : lowerEach before cs = [] ↔ cs = [] := by
  cases cs with
  | nil => simp [lowerEach]
  | cons c rest => simp [lowerEach, lowerChar_ne_nil]

theorem trim_trim (s : String) : trim (trim s) = trim s := by
  rw [trim, trim, String.toList_ofList, trimChars_of_isTrimmed (isTrimmed_trimChars s.toList)]

theorem nonBlank?_eq (s : String) : nonBlank? s = if trim s = "" then none else some (trim s) := by
  simp [nonBlank?]

end Text

namespace Variant

open Text

theorem normalName_trim (name : String) : normalName (trim name) = normalName name := by
  rw [normalName, trim_trim, ← normalName]

/-- Just what is blank has no characters left in its normal form. -/
theorem normalName_eq_empty_iff {name : String} : normalName name = "" ↔ trim name = "" := by
  have hchars : normalChars name.toList = [] ↔ trimChars name.toList = [] := by
    rw [normalChars, List.map_eq_nil_iff, lowerEach_eq_nil_iff]
  rw [normalName_eq, trim, ← String.toList_eq_nil_iff, ← String.toList_eq_nil_iff, String.toList_ofList,
    String.toList_ofList, hchars]

end Variant

namespace Registry

open Variant

variable {catalog : Catalog} {ds : List VariantDefinition} {variants defined : List Variant} {u v : Variant}
  {fallback : String} {r : Registry}

/-! ## Names that are listed -/

theorem variantOf_unreserved {d : VariantDefinition} (h : variantOf catalog d = .ok v) : v.name ≠ allName := by
  rw [variantOf] at h
  split at h
  · cases h
  · rename_i hne
    rw [← Except.ok.inj h]
    exact hne

/-- No definition is put in under the name that asks for all variants. -/
theorem define_unreserved (hdefine : define catalog variants ds = .ok defined)
    (h : ∀ name ∈ variants.map (·.name), name ≠ allName) : ∀ name ∈ defined.map (·.name), name ≠ allName := by
  induction ds generalizing variants with
  | nil =>
    cases hdefine
    exact h
  | cons d rest ih =>
    rw [define] at hdefine
    cases hv : variantOf catalog d with
    | error f =>
      rw [hv] at hdefine
      cases hdefine
    | ok v =>
      rw [hv] at hdefine
      refine ih hdefine fun name hname => ?_
      rcases mem_names_put hname with rfl | hname
      · exact variantOf_unreserved hv
      · exact h name hname

theorem build_unreserved (h : build ds catalog fallback = .ok r) (hv : v ∈ r.variants) : v.name ≠ allName := by
  rw [build] at h
  split at h
  · cases h
  · rename_i variants hdefine
    split at h
    · cases h
    · split at h
      · cases h
      · cases h
        exact define_unreserved hdefine (by simp) v.name (List.mem_map_of_mem hv)

/-! ## Requests -/

theorem select_blank {s : String} (h : normalName s = "") : r.select (some s) = ⟨[r.default], none⟩ := by
  rw [select, Option.bind_some, Text.nonBlank?_eq, if_pos (normalName_eq_empty_iff.1 h)]

theorem select_found {s : String} (hblank : normalName s ≠ "") (hall : normalName s ≠ allName)
    (hfind : find? r.variants (normalName s) = some v) : r.select (some s) = ⟨[v], none⟩ := by
  rw [select, Option.bind_some, Text.nonBlank?_eq, if_neg fun hc => hblank (normalName_eq_empty_iff.2 hc)]
  dsimp only
  -- what is looked up is the trimmed request, which has the same normal form
  rw [normalName_trim, if_neg hall, resolve, normalName_trim, hfind]

/-- A request that has the name of a listed variant as its normal form chooses just that variant, and nothing is
unknown about it; but a blank one, whatever is listed under the blank name, chooses the default. -/
theorem select_listed (h : build ds catalog fallback = .ok r) (hv : v ∈ r.variants) {s : String}
    (hs : normalName s = v.name) :
    r.select (some s) = ⟨[if v.name = "" then r.default else v], none⟩ := by
  split
  · rename_i hblank
    exact select_blank (hs.trans hblank)
  · rename_i hblank
    refine select_found (hs ▸ hblank) (hs ▸ build_unreserved h hv) ?_
    exact (find?_eq_some_iff (build_nodup h)).2 ⟨hv, hs⟩

/-- A registry with a variant under the blank name. -/
def withBlank : Registry := ⟨[⟨"", "Blank", []⟩, ⟨"v", "V", []⟩], ⟨"v", "V", []⟩⟩

theorem build_withBlank : build [⟨" ", "Blank", []⟩, ⟨"v", "V", []⟩] [] "v" = .ok withBlank := rfl

theorem select_listed_upper_case : withBlank.select (some " V") = ⟨[⟨"v", "V", []⟩], none⟩ :=
  select_listed build_withBlank (v := ⟨"v", "V", []⟩) (List.mem_of_getLast? rfl) (s := " V") (by decide +kernel)

/-- Settings may have a definition of a name of blanks only; no request chooses what is listed for it. -/
theorem select_not_blank :
    (Schema.variant []
        (some (.record [("name", .text " "), ("label", .text "Blank"), ("transforms", .list [])] []))).result =
      .ok ⟨" ", "Blank", []⟩ ∧
    ∃ r, build [⟨" ", "Blank", []⟩, ⟨"v", "V", []⟩] [] "v" = .ok r ∧
      ∃ v ∈ r.variants, ∃ s, normalName s = v.name ∧ r.select (some s) ≠ ⟨[v], none⟩ := by
  refine ⟨rfl, withBlank, build_withBlank, ⟨"", "Blank", []⟩, List.mem_cons_self, " ", by decide +kernel, ?_⟩
  intro h
  have hname : withBlank.default.name = "" := by
    rw [select_blank (by decide +kernel)] at h
    exact congrArg Variant.name (List.cons.inj (congrArg Selection.variants h)).1
  exact absurd hname (by decide)

end Registry

end VariantForge
