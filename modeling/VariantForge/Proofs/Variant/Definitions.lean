import Mathlib.Data.List.Induction
import Mathlib.Data.List.Nodup
import VariantForge.Proofs.Text.Lowered
import VariantForge.Proofs.Variant.Confinement
import VariantForge.Variant.Registry

/-!
# Definitions — what a registry makes of them

A registry holds each name once: putting a variant in keeps its name in its place or adds it at the end, so names
stay distinct (`build_nodup`), and so do those that are chosen for a request (`select_nodup`).

Of several definitions of one name the registry keeps the place of the first and what the last one says,
and so does the catalog with spells of one identity. `Holds` says that of variants that were put in so far:
each definition preserves it (`Holds.put`), so it is true of all of them (`define_eq`). What is checked
afterwards is checked of the last definitions only; a registry can be built just if they are sound.
-/

namespace VariantForge

/-! ## Distinct names -/

namespace Registry

variable {v : Variant} {variants : List Variant} {catalog : Catalog} {definitions : List VariantDefinition}
  {fallback : String} {r : Registry}

theorem mem_names_put {name : String} (h : name ∈ (put variants v).map (·.name)) :
    name = v.name ∨ name ∈ variants.map (·.name) := by
  induction variants with
  | nil =>
    rw [put, List.map_singleton, List.mem_singleton] at h
    exact .inl h
  | cons old rest ih =>
    rw [put] at h
    split at h
    · rename_i hname
      rw [List.map_cons, ← hname] at h
      exact .inr h
    · rcases List.mem_cons.1 h with rfl | h
      · exact .inr (List.mem_cons_self ..)
      · exact (ih h).imp_right (List.mem_cons_of_mem _)

theorem put_nodup (h : (variants.map (·.name)).Nodup) : ((put variants v).map (·.name)).Nodup := by
  induction variants with
  | nil => exact List.nodup_singleton _
  | cons old rest ih =>
    rw [List.map_cons, List.nodup_cons] at h
    rw [put]
    split
    · rename_i hname
      rw [List.map_cons, ← hname, List.nodup_cons]
      exact h
    · rename_i hname
      rw [List.map_cons, List.nodup_cons]
      exact ⟨fun hmem => (mem_names_put hmem).elim hname h.1, ih h.2⟩

theorem define_nodup {defined : List Variant} (hdefine : define catalog variants definitions = .ok defined)
    (h : (variants.map (·.name)).Nodup) : (defined.map (·.name)).Nodup := by
  induction definitions generalizing variants with
  | nil =>
    cases hdefine
    exact h
  | cons d rest ih =>
    rw [define] at hdefine
    split at hdefine
    · cases hdefine
    · exact ih hdefine (put_nodup h)

theorem build_nodup (h : build definitions catalog fallback = .ok r) : (r.variants.map (·.name)).Nodup := by
  rw [build] at h
  split at h
  · cases h
  rename_i variants hdefine
  split at h
  · cases h
  split at h
  · cases h
  · cases h
    exact define_nodup hdefine List.nodup_nil

theorem select_nodup (h : (r.variants.map (·.name)).Nodup) (request : Option String) :
    ((r.select request).variants.map (·.name)).Nodup := by
  rw [select]
  split
  · exact List.nodup_singleton _
  split
  · exact h
  split
  · exact List.nodup_singleton _
  · exact List.nodup_singleton _

end Registry

/-! ## The catalog -/

/-- The last of some spells that has an identity, else the patch of that name. -/
def Spell.last (spells : List Spell) (id : String) : Spell :=
  ((spells.filter (·.id == id)).getLast?).getD { id, work := .patch (id ++ ".patch") }

namespace Catalog

variable {catalog : Catalog} {spells : List Spell} {s : Spell}

theorem find?_add (catalog : Catalog) (s : Spell) (id : String) :
    (catalog.add s).find? id = if s.id = id then some s else catalog.find? id := by
  induction catalog with
  | nil => rfl
  | cons entry rest ih =>
    obtain ⟨i, old⟩ := entry
    rw [add]
    by_cases hi : i = s.id
    · rw [if_pos hi, find?, find?, hi]
      by_cases hid : s.id = id
      · rw [if_pos hid, if_pos hid]
      · rw [if_neg hid, if_neg hid, if_neg hid]
    · rw [if_neg hi, find?, find?, ih]
      by_cases hid : i = id
      · rw [if_pos hid, if_pos hid, if_neg (fun h => hi (hid.trans h.symm))]
      · rw [if_neg hid, if_neg hid]

theorem find?_ofList (spells : List Spell) (id : String) :
    (ofList spells).find? id = (spells.filter (·.id == id)).getLast? := by
  induction spells using List.reverseRecOn with
  | nil => rfl
  | append_singleton spells s ih =>
    have hstep : ofList (spells ++ [s]) = (ofList spells).add s := by
      rw [ofList, List.foldl_append, List.foldl_cons, List.foldl_nil, ← ofList]
    rw [hstep, find?_add, ih, List.filter_append, List.getLast?_append]
    by_cases hid : s.id = id
    · rw [if_pos hid, List.filter_cons_of_pos (by simpa using hid)]
      rfl
    · rw [if_neg hid, List.filter_cons_of_neg (by simpa using hid)]
      rfl

theorem lookup_ofList (spells : List Spell) (id : String) : (ofList spells).lookup id = Spell.last spells id := by
  rw [lookup, find?_ofList, Spell.last]
  cases (spells.filter (·.id == id)).getLast? <;> rfl

end Catalog

@[simp] theorem Spell.last_id (spells : List Spell) (id : String) : (Spell.last spells id).id = id := by
  rw [Spell.last]
  cases hlast : (spells.filter (·.id == id)).getLast? with
  | none => rfl
  | some s =>
    have hmem := List.mem_of_getLast? hlast
    simpa using (List.mem_filter.1 hmem).2

/-! ## Files that stay where they belong -/

/-- Whether a path is relative and has neither back slashes nor parts that climb. -/
structure Path.IsPlain (path : String) : Prop where
  relative : Path.isAbsolute path = false
  noBackSlash : '\\' ∉ path.toList
  noClimb : Path.up ∉ Path.parts path.toList

namespace Path

instance : DecidablePred IsPlain := fun path =>
  decidable_of_iff (isAbsolute path = false ∧ '\\' ∉ path.toList ∧ up ∉ parts path.toList)
    ⟨fun h => ⟨h.1, h.2.1, h.2.2⟩, fun h => ⟨h.relative, h.noBackSlash, h.noClimb⟩⟩

/-- The normal form of a relative path that climbs nowhere is relative and has no part that climbs. -/
theorem normalizeChars_of_staysBelow {cs : List Char} (hrel : isAbsoluteChars cs = false)
    (h : up ∉ normalParts true cs) :
    isAbsoluteChars (normalizeChars cs) = false ∧ up ∉ parts (normalizeChars cs) := by
  have hnames : ∀ p ∈ normalParts true cs, IsName p := fun p hp => isName_of_mem_of_up_notMem hp h
  simp only [normalizeChars, hrel, Bool.not_false, Bool.false_eq_true, if_false]
  by_cases hempty : normalParts true cs = []
  · have hbody : joinParts (normalParts true cs) = [] := by rw [hempty]; rfl
    rw [if_pos hbody]
    split <;> decide
  · have hsplit := parts_joinParts (fun p hp => (hnames p hp).no_slash) hempty
    have hrelative := isAbsoluteChars_joinParts fun p hp => ⟨(hnames p hp).ne_nil, (hnames p hp).no_slash⟩
    have hbody := joinParts_ne_nil (fun p hp => ⟨(hnames p hp).ne_nil, (hnames p hp).no_slash⟩) hempty
    rw [if_neg hbody]
    split
    · rw [parts_append_slash, hsplit, List.mem_append, not_or]
      obtain ⟨c, rest, hcons⟩ := List.exists_cons_of_ne_nil hbody
      rw [hcons] at hrelative ⊢
      exact ⟨hrelative, h, by decide⟩
    · rw [List.append_nil, hsplit]
      exact ⟨hrelative, h⟩

/-- A path that is plain is let in. -/
theorem IsPlain.not_climbs {path : String} (h : IsPlain path) : Variant.climbs path = false := by
  obtain ⟨hrelative, hparts⟩ :=
    normalizeChars_of_staysBelow h.relative (up_notMem_normalParts h.noClimb)
  have hup (rest : List Char) (hrest : rest = [] ∨ ∃ tail, rest = '/' :: tail) : up ∈ parts (up ++ rest) := by
    rcases hrest with rfl | ⟨tail, rfl⟩
    · decide
    · rw [parts_append_slash]
      exact List.mem_append_left _ (by decide)
  rw [Variant.climbs, Variant.slashed_eq_self h.noBackSlash]
  simp only [Bool.or_eq_false_iff, beq_eq_false_iff_ne, isAbsolute, normalize, String.toList_ofList]
  refine ⟨⟨hrelative, ?_⟩, fun hc => ?_⟩
  · by_contra hc
    rw [Text.startsWith, String.toList_ofList, Bool.not_eq_false, List.isPrefixOf_iff_prefix] at hc
    obtain ⟨tail, htail⟩ := hc
    rw [String.toList_ofList] at htail
    rw [← htail] at hparts
    exact hparts (hup ('/' :: tail) (.inr ⟨tail, rfl⟩))
  · rw [← String.toList_inj, String.toList_ofList] at hc
    rw [hc] at hparts
    exact hparts (hup [] (.inl rfl))

end Path

/-! ## Definitions -/

namespace VariantDefinition

/-- The name that a definition is listed under. -/
def listed (d : VariantDefinition) : String := Variant.normalName d.name

/-- The last of some definitions that is listed under a name. -/
def last? (ds : List VariantDefinition) (name : String) : Option VariantDefinition :=
  (ds.filter (·.listed == name)).getLast?

/-- The variant that a definition stands for where there are some spells. -/
def variant (spells : List Spell) (d : VariantDefinition) : Variant :=
  ⟨d.listed, d.label, d.spells.map (Spell.last spells)⟩

/-- Whether each spell of a definition comes after those that it requires. -/
def InOrder (spells : List Spell) (d : VariantDefinition) : Prop :=
  ∀ before id after, d.spells = before ++ id :: after →
    ∀ needed ∈ (Spell.last spells id).requires.getD [], needed ∈ before

variable {ds : List VariantDefinition} {d : VariantDefinition} {name : String}

theorem last?_append_self (ds : List VariantDefinition) (d : VariantDefinition) :
    last? (ds ++ [d]) d.listed = some d := by
  rw [last?, List.filter_append, List.filter_cons_of_pos (by simp), List.filter_nil, List.getLast?_concat]

theorem last?_append_of_ne (h : d.listed ≠ name) : last? (ds ++ [d]) name = last? ds name := by
  rw [last?, List.filter_append, List.filter_cons_of_neg (by simpa using h), List.filter_nil, List.append_nil, last?]

theorem of_last? (h : last? ds name = some d) : d ∈ ds ∧ d.listed = name := by
  have hmem := List.mem_filter.1 (List.mem_of_getLast? h)
  exact ⟨hmem.1, by simpa using hmem.2⟩

end VariantDefinition

namespace Registry

open VariantDefinition

variable {spells : List Spell} {ds before : List VariantDefinition} {d : VariantDefinition}
  {variants defined : List Variant} {u v : Variant} {fallback : String} {r : Registry}

/-- Whether variants are those of some definitions: their names are listed in the order in which they first
come up, and each is what the last definition of its name says. -/
structure Holds (spells : List Spell) (ds : List VariantDefinition) (variants : List Variant) : Prop where
  names : variants.map (·.name) = (ds.map listed).eraseDups
  contents : ∀ v ∈ variants, ∃ d, last? ds v.name = some d ∧ v = d.variant spells

theorem names_put (variants : List Variant) (v : Variant) :
    (put variants v).map (·.name) =
      if v.name ∈ variants.map (·.name) then variants.map (·.name) else variants.map (·.name) ++ [v.name] := by
  induction variants with
  | nil => rfl
  | cons old rest ih =>
    rw [put]
    by_cases hold : old.name = v.name
    · rw [if_pos hold, if_pos (by simp [hold]), List.map_cons, List.map_cons, hold]
    · rw [if_neg hold, List.map_cons, List.map_cons, ih]
      by_cases hrest : v.name ∈ rest.map (·.name)
      · rw [if_pos hrest, if_pos (List.mem_cons_of_mem _ hrest)]
      · rw [if_neg hrest, if_neg (by simpa [Ne.symm hold] using hrest), List.cons_append]

theorem mem_put (hnodup : (variants.map (·.name)).Nodup) (h : u ∈ put variants v) :
    u = v ∨ u ∈ variants ∧ u.name ≠ v.name := by
  induction variants with
  | nil => exact .inl (List.mem_singleton.1 h)
  | cons old rest ih =>
    rw [List.map_cons, List.nodup_cons] at hnodup
    rw [put] at h
    by_cases hold : old.name = v.name
    · rw [if_pos hold] at h
      refine (List.mem_cons.1 h).imp_right fun hu => ⟨List.mem_cons_of_mem _ hu, fun hname => hnodup.1 ?_⟩
      rw [hold, ← hname]
      exact List.mem_map_of_mem hu
    · rw [if_neg hold] at h
      rcases List.mem_cons.1 h with rfl | hu
      · exact .inr ⟨List.mem_cons_self .., hold⟩
      · exact (ih hnodup.2 hu).imp_right fun h => ⟨List.mem_cons_of_mem _ h.1, h.2⟩

/-- One more definition takes the place of those of its name, or the last place. -/
theorem Holds.put (h : Holds spells ds variants) (hnodup : (variants.map (·.name)).Nodup)
    (d : VariantDefinition) : Holds spells (ds ++ [d]) (put variants (d.variant spells)) := by
  constructor
  · have hlisted : (d.variant spells).name = d.listed := rfl
    rw [names_put, h.names, hlisted, List.map_append, List.eraseDups_append, List.map_singleton, List.removeAll]
    by_cases hmem : d.listed ∈ ds.map listed
    · rw [if_pos (List.mem_eraseDups.2 hmem), List.filter_cons_of_neg (by simpa using hmem), List.filter_nil,
        List.eraseDups_nil, List.append_nil]
    · rw [if_neg (fun h => hmem (List.mem_eraseDups.1 h)), List.filter_cons_of_pos (by simpa using hmem),
        List.filter_nil, List.eraseDups_cons, List.filter_nil, List.eraseDups_nil]
  · intro u hu
    rcases mem_put hnodup hu with rfl | ⟨hu, hname⟩
    · exact ⟨d, last?_append_self ds d, rfl⟩
    · rw [last?_append_of_ne (Ne.symm hname)]
      exact h.contents u hu

theorem variantOf_eq (spells : List Spell) (d : VariantDefinition) :
    variantOf (Catalog.ofList spells) d =
      if d.listed = Variant.allName then .error .reservedName else .ok (d.variant spells) := by
  have hspells : d.spells.map (Catalog.ofList spells).lookup = d.spells.map (Spell.last spells) :=
    List.map_congr_left fun id _ => Catalog.lookup_ofList spells id
  rw [variantOf, hspells, variant, listed]

theorem define_holds (hdefine : define (Catalog.ofList spells) variants ds = .ok defined)
    (h : Holds spells before variants) (hnodup : (variants.map (·.name)).Nodup) :
    Holds spells (before ++ ds) defined := by
  induction ds generalizing before variants with
  | nil =>
    cases hdefine
    rwa [List.append_nil]
  | cons d rest ih =>
    rw [define, variantOf_eq] at hdefine
    by_cases hall : d.listed = Variant.allName
    · rw [if_pos hall] at hdefine
      cases hdefine
    · rw [if_neg hall] at hdefine
      rw [List.append_cons]
      exact ih hdefine (h.put hnodup d) (put_nodup hnodup)

theorem define_ok_iff (spells : List Spell) (variants : List Variant) :
    (∃ defined, define (Catalog.ofList spells) variants ds = .ok defined) ↔
      ∀ d ∈ ds, d.listed ≠ Variant.allName := by
  induction ds generalizing variants with
  | nil => exact ⟨fun _ d hd => (by cases hd), fun _ => ⟨_, rfl⟩⟩
  | cons d rest ih =>
    rw [define, variantOf_eq, List.forall_mem_cons]
    by_cases hall : d.listed = Variant.allName
    · rw [if_pos hall]
      refine ⟨fun h => ?_, fun h => absurd hall h.1⟩
      obtain ⟨_, h⟩ := h
      cases h
    · rw [if_neg hall]
      exact (ih _).trans ⟨fun h => ⟨hall, h⟩, fun h => h.2⟩

/-! ## What is checked -/

/-- Whether each of some spells comes after those that it requires. -/
def InOrder (spells : List Spell) : Prop :=
  ∀ before s after, spells = before ++ s :: after → ∀ id ∈ s.requires.getD [], id ∈ before.map (·.id)

theorem checkPlace_of_plain {variant : String} {s : Spell} (h : ∀ file, s.file? = some file → Path.IsPlain file) :
    checkPlace variant s = .ok () := by
  cases hwork : s.work with
  | edit file marker rules =>
    rw [checkPlace, hwork]
    exact if_neg (by simp [(h file (by rw [Spell.file?, hwork])).not_climbs])
  | patch file =>
    rw [checkPlace, hwork]
    exact if_neg (by simp [(h file (by rw [Spell.file?, hwork])).not_climbs])
  | mergeRequest remote ref => rw [checkPlace, hwork]

theorem checkSpells_ok_iff {variant : String} {earlier : List String} {ss : List Spell} :
    checkSpells variant earlier ss = .ok () ↔ (∀ s ∈ ss, checkPlace variant s = .ok ()) ∧
      ∀ before s after, ss = before ++ s :: after →
        ∀ id ∈ s.requires.getD [], id ∈ earlier ∨ id ∈ before.map (·.id) := by
  induction ss generalizing earlier with
  | nil => simp [checkSpells]
  | cons s rest ih =>
    rw [checkSpells]
    cases hplace : checkPlace variant s with
    | error f => simp [hplace]
    | ok _ =>
      cases hmissing : (s.requires.getD []).find? (fun id => !earlier.contains id) with
      | some id =>
        have hid : id ∉ earlier := by simpa using List.find?_some hmissing
        refine iff_of_false (fun h => by cases h) fun h => ?_
        simpa [hid] using h.2 [] s rest rfl id (List.mem_of_find?_eq_some hmissing)
      | none =>
        have hfirst : ∀ id ∈ s.requires.getD [], id ∈ earlier := by
          simpa [List.find?_eq_none] using hmissing
        dsimp only
        rw [ih, List.forall_mem_cons]
        constructor
        · rintro ⟨hplaces, horder⟩
          refine ⟨⟨hplace, hplaces⟩, fun before t after hsplit id hid => ?_⟩
          cases before with
          | nil =>
            obtain ⟨rfl, -⟩ := List.cons.inj hsplit
            exact .inl (hfirst id hid)
          | cons s' before =>
            obtain ⟨rfl, hrest⟩ := List.cons.inj hsplit
            simpa [or_assoc, or_left_comm] using horder before t after hrest id hid
        · rintro ⟨⟨-, hplaces⟩, horder⟩
          refine ⟨hplaces, fun before t after hsplit id hid => ?_⟩
          have := horder (s :: before) t after (by rw [hsplit, List.cons_append]) id hid
          simpa [or_assoc, or_left_comm] using this

theorem checkAll_ok_iff : checkAll variants = .ok () ↔ ∀ v ∈ variants, checkSpells v.name [] v.spells = .ok () := by
  induction variants with
  | nil => simp [checkAll]
  | cons v rest ih =>
    rw [checkAll, List.forall_mem_cons]
    cases hspells : checkSpells v.name [] v.spells with
    | error f => simp
    | ok _ => simpa using ih

theorem inOrder_variant : InOrder (d.variant spells).spells ↔ d.InOrder spells := by
  have hids (before : List String) : (before.map (Spell.last spells)).map (·.id) = before := by
    rw [List.map_map]
    exact (List.map_congr_left fun id _ => Spell.last_id spells id).trans (List.map_id before)
  constructor
  · intro h before id after hsplit needed hneeded
    have := h (before.map (Spell.last spells)) (Spell.last spells id) (after.map (Spell.last spells))
      (by rw [variant, hsplit, List.map_append, List.map_cons]) needed hneeded
    rwa [hids] at this
  · intro h before s after hsplit needed hneeded
    obtain ⟨before', after', hd, rfl, hafter⟩ := List.map_eq_append_iff.1 hsplit
    obtain ⟨id, rest, rfl, rfl, -⟩ := List.map_eq_cons_iff.1 hafter
    rw [hids]
    exact h before' id rest hd needed hneeded

/-! ## Registries that could be built -/

theorem find?_eq_some_iff (hnodup : (variants.map (·.name)).Nodup) {name : String} {v : Variant} :
    find? variants name = some v ↔ v ∈ variants ∧ name = v.name := by
  constructor
  · intro h
    exact ⟨List.mem_of_find?_eq_some h, Eq.symm (by simpa using List.find?_some h)⟩
  · rintro ⟨hv, rfl⟩
    induction variants with
    | nil => cases hv
    | cons u rest ih =>
      rw [List.map_cons, List.nodup_cons] at hnodup
      rw [find?, List.find?_cons]
      rcases List.mem_cons.1 hv with rfl | hv
      · simp
      · have hne : (u.name == v.name) = false := by
          simpa using fun h : u.name = v.name => hnodup.1 (h ▸ List.mem_map_of_mem hv)
        rw [hne]
        exact ih hnodup.2 hv

theorem mem_of_mem_select (hdefault : r.default ∈ r.variants) {request : Option String} {v : Variant}
    (hv : v ∈ (r.select request).variants) : v ∈ r.variants := by
  rw [select] at hv
  split at hv
  · rw [List.mem_singleton.1 hv]
    exact hdefault
  · split at hv
    · exact hv
    · rw [resolve] at hv
      split at hv
      · rename_i hfound
        split at hfound
        · rename_i hfind
          cases hfound
          rw [List.mem_singleton.1 hv]
          exact List.mem_of_find?_eq_some hfind
        · cases hfound
      · rename_i hunknown
        split at hunknown
        · cases hunknown
        · cases hunknown
          rw [List.mem_singleton.1 hv]
          exact hdefault

/-- Whether definitions can be used: none has the name that asks for all variants, the default is among them,
and the last of each name has its spells in order. -/
structure Sound (spells : List Spell) (ds : List VariantDefinition) (fallback : String) : Prop where
  unreserved : ∀ d ∈ ds, Variant.normalName d.name ≠ Variant.allName
  hasDefault : Variant.normalName fallback ∈ ds.map listed
  ordered : ∀ name d, last? ds name = some d → d.InOrder spells

/-- Whether a registry stands for some definitions and a default. -/
structure Represents (spells : List Spell) (ds : List VariantDefinition) (fallback : String) (r : Registry) :
    Prop where
  holds : Holds spells ds r.variants
  normal : ∀ v ∈ r.variants, Variant.normalName v.name = v.name
  default : r.default ∈ r.variants ∧ r.default.name = Variant.normalName fallback
  found : ∀ name v, r.resolve name = .found v ↔ v ∈ r.variants ∧ Variant.normalName name = v.name
  unknown : ∀ name, (∀ v, r.resolve name ≠ .found v) → r.resolve name = .unknown name r.default

/-- Whether the files of all spells that definitions name are plain. -/
def PlainFiles (spells : List Spell) (ds : List VariantDefinition) : Prop :=
  ∀ d ∈ ds, ∀ id ∈ d.spells, ∀ file ∈ (Spell.last spells id).file?, Path.IsPlain file

/-- Files that are plain pass, so what is left to check is the order of spells in the last definitions. -/
theorem Holds.checkAll_ok_iff (h : Holds spells ds variants)
    (hplain : PlainFiles spells ds) :
    checkAll variants = .ok () ↔ ∀ name d, last? ds name = some d → d.InOrder spells := by
  have hspells (d : VariantDefinition) (hd : d ∈ ds) :
      checkSpells (d.variant spells).name [] (d.variant spells).spells = .ok () ↔ d.InOrder spells := by
    rw [checkSpells_ok_iff, ← inOrder_variant, InOrder]
    refine (and_iff_right fun s hs => ?_).trans (by simp)
    obtain ⟨id, hid, rfl⟩ := List.mem_map.1 hs
    exact checkPlace_of_plain (hplain d hd id hid)
  rw [Registry.checkAll_ok_iff]
  constructor
  · intro hall name d hlast
    obtain ⟨hd, rfl⟩ := of_last? hlast
    obtain ⟨v, hv, hname⟩ : ∃ v ∈ variants, v.name = d.listed := by
      have hmem : d.listed ∈ variants.map (·.name) :=
        h.names ▸ List.mem_eraseDups.2 (List.mem_map_of_mem hd)
      exact List.mem_map.1 hmem
    obtain ⟨d', hlast', rfl⟩ := h.contents v hv
    rw [hname] at hlast'
    cases hlast.symm.trans hlast'
    exact (hspells d hd).1 (hall _ hv)
  · intro hall v hv
    obtain ⟨d, hlast, rfl⟩ := h.contents v hv
    exact (hspells d (of_last? hlast).1).2 (hall _ d hlast)

theorem holds_nil (spells : List Spell) : Holds spells [] [] := ⟨rfl, nofun⟩

theorem of_build (h : build ds (Catalog.ofList spells) fallback = .ok r) :
    Holds spells ds r.variants ∧ find? r.variants (Variant.normalName fallback) = some r.default := by
  rw [build] at h
  cases hdefine : define (Catalog.ofList spells) [] ds with
  | error f => simp [hdefine] at h
  | ok variants =>
    rw [hdefine] at h
    dsimp only at h
    split at h
    · cases h
    · split at h
      · cases h
      · rename_i hfind
        cases h
        exact ⟨define_holds hdefine (holds_nil spells) List.nodup_nil, hfind⟩

theorem inOrder_of_build (h : build ds (Catalog.ofList spells) fallback = .ok r) {v : Variant}
    (hv : v ∈ r.variants) : InOrder v.spells := by
  intro before s after hsplit id hid
  have hchecked := checkSpells_of_mem_checkAll (checkAll_of_build h) hv
  simpa using (checkSpells_ok_iff.1 hchecked).2 before s after hsplit id hid

theorem represents_of_build (h : build ds (Catalog.ofList spells) fallback = .ok r) :
    Represents spells ds fallback r := by
  obtain ⟨hholds, hfind⟩ := of_build h
  have hnodup := build_nodup h
  obtain ⟨hdefault, hname⟩ := (find?_eq_some_iff hnodup).1 hfind
  refine ⟨hholds, fun v hv => ?_, ⟨hdefault, hname.symm⟩, fun name v => ?_, fun name hnone => ?_⟩
  · obtain ⟨d, -, rfl⟩ := hholds.contents v hv
    exact Variant.normalName_normalName d.name
  · rw [resolve, ← find?_eq_some_iff hnodup]
    split
    · rename_i u hu
      rw [hu]
      exact ⟨fun h => by cases h; rfl, fun h => by cases h; rfl⟩
    · rename_i hmissing
      rw [hmissing]
      exact ⟨nofun, nofun⟩
  · rw [resolve] at hnone ⊢
    split
    · rename_i u hu
      exact absurd (by rw [hu]) (hnone u)
    · rfl

/-- Where the files of spells are plain a registry can be built of sound definitions, and of no others. -/
theorem build_ok_iff (hplain : PlainFiles spells ds) :
    (∃ r, build ds (Catalog.ofList spells) fallback = .ok r) ↔ Sound spells ds fallback := by
  constructor
  · rintro ⟨r, h⟩
    obtain ⟨hholds, hfind⟩ := of_build h
    refine ⟨?_, ?_, (hholds.checkAll_ok_iff hplain).1 (checkAll_of_build h)⟩
    · refine (define_ok_iff spells []).1 ?_
      rw [build] at h
      split at h
      · cases h
      · exact ⟨_, ‹_›⟩
    · obtain ⟨hmem, hname⟩ := (find?_eq_some_iff (build_nodup h)).1 hfind
      rw [hname, ← List.mem_eraseDups, ← hholds.names]
      exact List.mem_map_of_mem hmem
  · intro h
    obtain ⟨variants, hdefine⟩ := (define_ok_iff spells []).2 h.unreserved
    have hholds : Holds spells ds variants := define_holds hdefine (holds_nil spells) List.nodup_nil
    obtain ⟨v, hv, hname⟩ : ∃ v ∈ variants, v.name = Variant.normalName fallback := by
      have hmem := List.mem_eraseDups.2 h.hasDefault
      rw [← hholds.names] at hmem
      exact List.mem_map.1 hmem
    have hfind := (find?_eq_some_iff (define_nodup hdefine List.nodup_nil)).2 ⟨hv, hname.symm⟩
    rw [build, hdefine]
    dsimp only
    rw [(hholds.checkAll_ok_iff hplain).2 h.ordered]
    dsimp only
    rw [hfind]
    exact ⟨_, rfl⟩

end Registry

end VariantForge
