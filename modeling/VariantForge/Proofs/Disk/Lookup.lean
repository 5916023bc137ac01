import VariantForge.Disk.Operations

/-!
# Lookup — what is at a place after a change

Equations for looking a place up in a disk that was changed. `Grows` is what operations that only
add have in common: directories and links stay as they are, and files stay files.
-/

namespace VariantForge

theorem Entry.isDirectory_iff {e : Entry} : e.isDirectory = true ↔ e = .directory := by
  cases e <;> simp [Entry.isDirectory]

namespace Disk

variable {d d' d'' : Disk} {p q r : Place} {e : Entry}

@[simp] theorem get?_nil (d : Disk) : d.get? [] = some .directory := rfl

theorem get?_of_ne_nil (hq : q ≠ []) :
    d.get? q = (d.entries.find? (·.1 == q)).map (·.2) := by
  simp [get?, hq]

@[simp] theorem put_here (d : Disk) (p : Place) (e : Entry) : (d.put p e).here = d.here := rfl

@[simp] theorem cut_here (d : Disk) (p : Place) : (d.cut p).here = d.here := rfl

theorem get?_put_self (hp : p ≠ []) : (d.put p e).get? p = some e := by
  simp [get?_of_ne_nil hp, put]

theorem get?_put_of_ne (h : q ≠ p) : (d.put p e).get? q = d.get? q := by
  by_cases hq : q = []
  · simp [hq]
  · have hfilter : (d.entries.filter (·.1 != p)).find? (·.1 == q) = d.entries.find? (·.1 == q) := by
      rw [List.find?_filter]
      congr 1
      funext x
      by_cases hx : x.1 = q
      · simp [hx, h]
      · simp [hx]
    simp [get?_of_ne_nil hq, put, Ne.symm h, hfilter]

theorem get?_put (hp : p ≠ []) : (d.put p e).get? q = if q = p then some e else d.get? q := by
  split
  · rename_i h
    rw [h, get?_put_self hp]
  · rename_i h
    exact get?_put_of_ne h

theorem get?_cut_of_below (h : p <+: q) (hq : q ≠ []) : (d.cut p).get? q = none := by
  rw [get?_of_ne_nil hq, Option.map_eq_none_iff, List.find?_eq_none]
  intro x hx hxq
  simp only [cut, List.mem_filter] at hx
  rw [beq_iff_eq.1 hxq, List.isPrefixOf_iff_prefix.2 h] at hx
  simp at hx

theorem get?_cut_of_not_below (h : ¬ p <+: q) : (d.cut p).get? q = d.get? q := by
  by_cases hq : q = []
  · simp [hq]
  · rw [get?_of_ne_nil hq, get?_of_ne_nil hq]
    congr 1
    rw [cut, List.find?_filter]
    congr 1
    funext x
    by_cases hx : x.1 = q
    · have : p.isPrefixOf q = false := by
        simpa [← List.isPrefixOf_iff_prefix] using h
      simp [hx, this]
    · simp [hx]

/-! ## Moves -/

@[simp] theorem moveEntries_here (d : Disk) (p q : Place) : (d.moveEntries p q).here = d.here := rfl

/-- What is at a place after a move is what was at the only place that has come to it, if there is
one. -/
theorem get?_moveEntries_of {x : Place} (hr : r ≠ []) (hx : x ≠ []) (hqx : ¬ q <+: x)
    (h : ∀ y, ¬ q <+: y → ((if p <+: y then q ++ y.drop p.length else y) = r ↔ y = x)) :
    (d.moveEntries p q).get? r = d.get? x := by
  have hpred (a : Place × Entry) :
      (!q.isPrefixOf a.1 && (if p.isPrefixOf a.1 then (q ++ a.1.drop p.length, a.2) else a).1 == r) =
        (a.1 == x) := by
    rw [Bool.eq_iff_iff, Bool.and_eq_true, beq_iff_eq, beq_iff_eq, Bool.not_eq_true',
      ← Bool.not_eq_true, List.isPrefixOf_iff_prefix]
    constructor
    · rintro ⟨hq, hk⟩
      refine (h a.1 hq).1 ?_
      rw [← hk]
      simp only [List.isPrefixOf_iff_prefix]
      split <;> rfl
    · intro ha
      refine ⟨ha ▸ hqx, ?_⟩
      rw [← (h a.1 (ha ▸ hqx)).2 ha]
      simp only [List.isPrefixOf_iff_prefix]
      split <;> rfl
  have hsnd (a : Place × Entry) :
      (if p.isPrefixOf a.1 then (q ++ a.1.drop p.length, a.2) else a).2 = a.2 := by
    split <;> rfl
  rw [get?_of_ne_nil hr, get?_of_ne_nil hx, moveEntries]
  simp only [List.find?_map, cut, List.find?_filter, Option.map_map, Function.comp_def, hsnd]
  congr 2
  funext a
  rw [← hpred a, Bool.decide_and, Bool.decide_eq_true, Bool.decide_eq_true]

theorem get?_moveEntries_none (hr : r ≠ [])
    (h : ∀ y, ¬ q <+: y → (if p <+: y then q ++ y.drop p.length else y) ≠ r) :
    (d.moveEntries p q).get? r = none := by
  rw [get?_of_ne_nil hr, Option.map_eq_none_iff, List.find?_eq_none]
  intro a ha hk
  simp only [moveEntries, cut, List.mem_map, List.mem_filter] at ha
  obtain ⟨b, ⟨-, hb⟩, rfl⟩ := ha
  have hq : ¬ q <+: b.1 := by
    simpa [← List.isPrefixOf_iff_prefix] using hb
  refine h b.1 hq ?_
  rw [← beq_iff_eq.1 hk]
  simp only [List.isPrefixOf_iff_prefix]
  split <;> rfl

theorem get?_moveEntries (hpq : ¬ p <+: q) (hqp : ¬ q <+: p) :
    (d.moveEntries p q).get? r =
      if q <+: r then d.get? (p ++ r.drop q.length) else if p <+: r then none else d.get? r := by
  have hp : p ≠ [] := by
    rintro rfl
    exact hpq (List.nil_prefix)
  have hq : q ≠ [] := by
    rintro rfl
    exact hqp (List.nil_prefix)
  by_cases hr : r = []
  · subst hr
    simp [hp, hq]
  split
  · rename_i hqr
    obtain ⟨s, rfl⟩ := hqr
    have hqps : ¬ q <+: p ++ s := by
      intro hc
      rcases List.prefix_or_prefix_of_prefix hc (List.prefix_append p s) with hc | hc
      · exact hqp hc
      · exact hpq hc
    rw [List.drop_left]
    refine get?_moveEntries_of hr (by simp [hp]) hqps fun y hy => ?_
    split
    · rename_i hpy
      obtain ⟨t, rfl⟩ := hpy
      rw [List.drop_left]
      constructor
      · intro he
        rw [List.append_cancel_left he]
      · intro he
        rw [List.append_cancel_left he]
    · rename_i hpy
      constructor
      · rintro rfl
        exact absurd (List.prefix_append q s) hy
      · rintro rfl
        exact absurd (List.prefix_append p s) hpy
  · rename_i hqr
    split
    · rename_i hpr
      refine get?_moveEntries_none hr fun y hy => ?_
      split
      · rintro rfl
        exact hqr (List.prefix_append ..)
      · rename_i hpy
        rintro rfl
        exact hpy hpr
    · rename_i hpr
      refine get?_moveEntries_of hr hr hqr fun y hy => ?_
      split
      · rename_i hpy
        constructor
        · rintro rfl
          exact absurd (List.prefix_append ..) hqr
        · rintro rfl
          exact absurd hpy hpr
      · exact Iff.rfl

/-! ## Growth -/

/-- Whether the directories and links of a disk are those of another one too. -/
def Ways (d d' : Disk) : Prop := ∀ p e, d.get? p = some e → e.isFile = false → d'.get? p = some e

/-- Whether everything on a disk is on another one too. -/
def Extends (d d' : Disk) : Prop := ∀ p e, d.get? p = some e → d'.get? p = some e

theorem Extends.refl (d : Disk) : Extends d d := fun _ _ h => h

theorem Extends.trans (h : Extends d d') (h' : Extends d' d'') : Extends d d'' :=
  fun p e he => h' p e (h p e he)

theorem Extends.eq_none (h : Extends d d') (hp : d'.get? p = none) : d.get? p = none := by
  cases he : d.get? p with
  | none => rfl
  | some e =>
    rw [h p e he] at hp
    cases hp

theorem Extends.ways (h : Extends d d') : Ways d d' := fun p e he _ => h p e he

theorem Extends.put_new (hp : d.get? p = none) : Extends d (d.put p e) := by
  intro q x hq
  rw [get?_put_of_ne, hq]
  rintro rfl
  rw [hp] at hq
  cases hq

/-- Taking away leaves nothing that was not there. -/
theorem Extends.cut (d : Disk) (p : Place) : Extends (d.cut p) d := by
  intro q x hq
  by_cases hpq : p <+: q
  · by_cases hnil : q = []
    · subst hnil
      exact hq
    · rw [get?_cut_of_below hpq hnil] at hq
      cases hq
  · rwa [get?_cut_of_not_below hpq] at hq

/-- A file that was put where there was none, or another file, adds no way. -/
theorem Ways.put_file {bytes : ByteArray} {mode : Nat} (hp : p ≠ []) :
    Ways (d.put p (.file bytes mode)) d := by
  intro q x hq hx
  rw [get?_put hp] at hq
  split at hq
  · cases hq
    cases hx
  · exact hq

/-- Whether what is there stays: directories and links as they are, files as files. -/
structure Grows (d d' : Disk) : Prop where
  here : d'.here = d.here
  keeps : ∀ p e, d.get? p = some e → e.isFile = false → d'.get? p = some e
  files : ∀ p, (d.get? p).any Entry.isFile = true → (d'.get? p).any Entry.isFile = true

theorem Grows.ways (h : Grows d d') : Ways d d' := h.keeps

theorem Grows.put_new (hp : d.get? p = none) : Grows d (d.put p e) := by
  have hne {q : Place} {x : Entry} (hq : d.get? q = some x) : q ≠ p := by
    rintro rfl
    rw [hp] at hq
    cases hq
  refine ⟨rfl, fun q x hq _ => by rw [get?_put_of_ne (hne hq), hq], fun q hq => ?_⟩
  cases hx : d.get? q with
  | none => simp [hx] at hq
  | some x => rwa [get?_put_of_ne (hne hx)]

theorem Grows.put_file {bytes bytes' : ByteArray} {mode mode' : Nat}
    (hp : d.get? p = some (.file bytes mode)) : Grows d (d.put p (.file bytes' mode')) := by
  have hnil : p ≠ [] := by
    rintro rfl
    cases hp
  refine ⟨rfl, fun q x hq hx => ?_, fun q hq => ?_⟩
  · have : q ≠ p := by
      rintro rfl
      rw [hp] at hq
      cases hq
      cases hx
    rw [get?_put_of_ne this, hq]
  · rw [get?_put hnil]
    split
    · rfl
    · exact hq

end Disk

end VariantForge
