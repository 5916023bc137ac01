import Mathlib.Data.List.Induction
import Mathlib.Tactic.ByContra
import Mathlib.Tactic.Tauto
import VariantForge.Data.Members

/-!
# Members — where values are found, and in which order they stand

What is put under a name is found there, and all else where it was (`get?_put`). Names stand in order if
array indices come first and ascend, and no name comes twice; putting keeps that (`ordered_put`). A name that
writes an array index is told by the index (`index?_inj`), so members in order are left as they are when they
are listed anew (`ofList_of_ordered`).
-/

namespace VariantForge.Members

variable {α β : Type} {ms : Members α} {n m name other : String} {v value : α} {i j : Nat}

/-! ## Values under names -/

/-- The names of members. -/
def names (ms : Members α) : List String := ms.map (·.1)

@[simp] theorem names_nil : names ([] : Members α) = [] := rfl

@[simp] theorem names_cons (m : String × α) (ms : Members α) : names (m :: ms) = m.1 :: names ms := rfl

@[simp] theorem names_append (ms ms' : Members α) : names (ms ++ ms') = names ms ++ names ms' := List.map_append

theorem get?_eq_none_iff : get? ms n = none ↔ n ∉ names ms := by
  induction ms with
  | nil => simp [get?]
  | cons x rest ih =>
    rw [get?, names_cons, List.mem_cons, not_or]
    split
    · rename_i h
      simp [h]
    · rename_i h
      rw [ih]
      exact (and_iff_right fun h' => h h'.symm).symm

theorem has_iff : has ms n = true ↔ n ∈ names ms := by
  rw [has, Option.isSome_iff_ne_none, Ne, get?_eq_none_iff, not_not]

theorem get?_append (ms ms' : Members α) (n : String) : get? (ms ++ ms') n = (get? ms n).or (get? ms' n) := by
  induction ms with
  | nil => rfl
  | cons x rest ih =>
    rw [List.cons_append, get?, get?, ih]
    split
    · rfl
    · rfl

theorem mem_of_get? (h : get? ms n = some v) : (n, v) ∈ ms := by
  induction ms with
  | nil => cases h
  | cons x rest ih =>
    rw [get?] at h
    split at h
    · rename_i hn
      cases h
      rw [← hn]
      exact List.mem_cons_self ..
    · exact List.mem_cons_of_mem _ (ih h)

/-- Where names stand once, every member is found under its own. -/
theorem get?_of_mem (h : (names ms).Nodup) {x : String × α} (hx : x ∈ ms) : get? ms x.1 = some x.2 := by
  induction ms with
  | nil => cases hx
  | cons y rest ih =>
    rw [names_cons, List.nodup_cons] at h
    rcases List.mem_cons.1 hx with rfl | hx
    · rw [get?, if_pos rfl]
    · have hne : y.1 ≠ x.1 := fun he => h.1 (he ▸ List.mem_map_of_mem hx)
      rw [get?, if_neg hne, ih h.2 hx]

theorem get?_map (g : α → β) (ms : Members α) (n : String) :
    get? (ms.map fun m => (m.1, g m.2)) n = (get? ms n).map g := by
  induction ms with
  | nil => rfl
  | cons x rest ih =>
    rw [List.map_cons, get?, get?, ih]
    split
    · rfl
    · rfl

theorem get?_filter (p : String → Bool) (ms : Members α) (n : String) :
    get? (ms.filter fun m => p m.1) n = if p n then get? ms n else none := by
  induction ms with
  | nil => simp [get?]
  | cons x rest ih =>
    by_cases hx : p x.1 = true
    · rw [List.filter_cons, if_pos hx, get?, get?, ih]
      by_cases hn : x.1 = n
      · rw [if_pos hn, if_pos hn, if_pos (hn ▸ hx)]
      · rw [if_neg hn, if_neg hn]
    · rw [List.filter_cons, if_neg hx, get?, ih]
      by_cases hn : x.1 = n
      · rw [if_neg (hn ▸ hx), if_neg (hn ▸ hx)]
      · rw [if_neg hn]

/-! ## Putting -/

@[simp] theorem names_replace (name : String) (value : α) (ms : Members α) :
    names (replace name value ms) = names ms := by
  induction ms with
  | nil => rfl
  | cons x rest ih =>
    rw [replace]
    split
    · rfl
    · rw [names_cons, names_cons, ih]

theorem get?_replace (h : name ∈ names ms) :
    get? (replace name value ms) n = if name = n then some value else get? ms n := by
  induction ms with
  | nil => cases h
  | cons x rest ih =>
    rw [replace, get?]
    by_cases hx : x.1 = name
    · rw [if_pos hx, get?, hx]
      by_cases hn : name = n
      · rw [if_pos hn, if_pos hn]
      · rw [if_neg hn, if_neg hn, if_neg hn]
    · rw [if_neg hx, get?, ih ((List.mem_cons.1 h).resolve_left (Ne.symm hx))]
      by_cases hn : x.1 = n
      · rw [if_pos hn, if_pos hn, if_neg (fun h => hx (hn.trans h.symm))]
      · rw [if_neg hn, if_neg hn]

/-- A new member stands between those that come before it and the others. -/
theorem insertIndex_split (i : Nat) (name : String) (value : α) (ms : Members α) :
    ∃ before after, ms = before ++ after ∧ insertIndex i name value ms = before ++ (name, value) :: after ∧
      (∀ m ∈ before, ∃ k, index? m.1 = some k ∧ k < i) ∧
      ∀ m, after.head? = some m → ∀ k, index? m.1 = some k → i ≤ k := by
  induction ms with
  | nil => exact ⟨[], [], rfl, rfl, nofun, nofun⟩
  | cons x rest ih =>
    rw [insertIndex]
    split
    · rename_i k hk
      split
      · rename_i hlt
        obtain ⟨before, after, rfl, hinsert, hbefore, hafter⟩ := ih
        refine ⟨x :: before, after, rfl, by rw [hinsert, List.cons_append], ?_, hafter⟩
        exact List.forall_mem_cons.2 ⟨⟨k, hk, hlt⟩, hbefore⟩
      · rename_i hle
        refine ⟨[], x :: rest, rfl, rfl, nofun, fun m hm k' hk' => ?_⟩
        cases hm
        cases hk.symm.trans hk'
        exact Nat.not_lt.1 hle
    · rename_i hnone
      refine ⟨[], x :: rest, rfl, rfl, nofun, fun m hm k hk => ?_⟩
      cases hm
      cases hnone.symm.trans hk

/-- A new member is put somewhere among the others. -/
theorem put_split (value : α) (h : name ∉ names ms) :
    ∃ before after, ms = before ++ after ∧ put ms name value = before ++ (name, value) :: after := by
  rw [put, if_neg (fun hhas => h (has_iff.1 hhas))]
  split
  · obtain ⟨before, after, hms, hinsert, -⟩ := insertIndex_split ‹Nat› name value ms
    exact ⟨before, after, hms, hinsert⟩
  · exact ⟨ms, [], (List.append_nil _).symm, rfl⟩

theorem put_of_mem (h : name ∈ names ms) : put ms name value = replace name value ms := if_pos (has_iff.2 h)

theorem get?_put (ms : Members α) (name : String) (value : α) (n : String) :
    get? (put ms name value) n = if name = n then some value else get? ms n := by
  by_cases h : name ∈ names ms
  · rw [put_of_mem h, get?_replace h]
  · obtain ⟨before, after, rfl, hput⟩ := put_split value h
    rw [names_append, List.mem_append, not_or] at h
    rw [hput, get?_append, get?, get?_append]
    by_cases hn : name = n
    · rw [if_pos hn, if_pos hn, ← hn, get?_eq_none_iff.2 h.1]
      rfl
    · rw [if_neg hn, if_neg hn]

theorem mem_names_put : n ∈ names (put ms name value) ↔ n = name ∨ n ∈ names ms := by
  have h : has (put ms name value) n = true ↔ n = name ∨ has ms n = true := by
    rw [has, has, get?_put]
    by_cases hn : name = n
    · simp [hn]
    · simp [hn, Ne.symm hn]
  rwa [has_iff, has_iff] at h

theorem mem_replace {x : String × α} (h : x ∈ replace name value ms) : x = (name, value) ∨ x ∈ ms := by
  induction ms with
  | nil => cases h
  | cons y rest ih =>
    rw [replace] at h
    split at h
    · rename_i hy
      rcases List.mem_cons.1 h with rfl | h
      · exact .inl (by rw [← hy])
      · exact .inr (List.mem_cons_of_mem _ h)
    · rcases List.mem_cons.1 h with rfl | h
      · exact .inr (List.mem_cons_self ..)
      · exact (ih h).imp_right (List.mem_cons_of_mem _)

theorem mem_put {x : String × α} (h : x ∈ put ms name value) : x = (name, value) ∨ x ∈ ms := by
  by_cases hname : name ∈ names ms
  · rw [put_of_mem hname] at h
    exact mem_replace h
  · obtain ⟨before, after, rfl, hput⟩ := put_split value hname
    rw [hput] at h
    simp only [List.mem_append, List.mem_cons] at h ⊢
    tauto

/-! ## Array indices -/

theorem digitChar_of_isDigit {c : Char} (h : c.isDigit = true) :
    c.toNat - 48 < 10 ∧ Nat.digitChar (c.toNat - 48) = c := by
  have hbounds : 48 ≤ c.toNat ∧ c.toNat ≤ 57 := by
    simpa [Char.isDigit, UInt32.le_iff_toNat_le] using h
  refine ⟨by omega, Char.toNat_inj.1 ?_⟩
  rw [Nat.toNat_digitChar_of_lt_ten (by omega)]
  omega

/-- Digits that are read after those of a number give the number that they are all the digits of. -/
theorem toDigits_foldl {cs : List Char} (hcs : cs.all Char.isDigit = true) (acc : Nat) (hacc : 0 < acc) :
    Nat.toDigits 10 (cs.foldl (fun n c => n * 10 + (c.toNat - 48)) acc) = Nat.toDigits 10 acc ++ cs := by
  induction cs generalizing acc with
  | nil => simp
  | cons c cs ih =>
    rw [List.all_cons, Bool.and_eq_true] at hcs
    obtain ⟨hlt, hchar⟩ := digitChar_of_isDigit hcs.1
    have hstep := Nat.toDigits_append_toDigits (b := 10) (n := acc) (d := c.toNat - 48) (by decide) hacc hlt
    rw [Nat.toDigits_of_lt_base hlt, hchar] at hstep
    rw [List.foldl_cons, ih hcs.2 _ (by omega), Nat.mul_comm, ← hstep, List.append_assoc, List.singleton_append]

theorem index?_digits (h : index? name = some i) : name.toList = Nat.toDigits 10 i := by
  rw [index?] at h
  cases hname : name.toList with
  | nil => simp [hname] at h
  | cons c cs =>
    rw [hname] at h
    dsimp only at h
    split at h
    · cases h
    rename_i hform
    split at h
    · cases h
      simp only [List.isEmpty_cons, Bool.false_or, Bool.or_eq_true, not_or, Bool.not_eq_true,
        Bool.not_eq_false', List.all_cons, Bool.and_eq_true] at hform
      obtain ⟨⟨⟨hc, hcs⟩, hzero⟩, -⟩ := hform
      obtain ⟨hlt, hchar⟩ := digitChar_of_isDigit hc
      rw [List.foldl_cons, Nat.zero_mul, Nat.zero_add]
      by_cases hz : c = '0'
      · have hnil : cs = [] := by simpa [hz] using hzero
        rw [hnil, hz]
        rfl
      · have hpos : 0 < c.toNat - 48 := by
          by_contra hle
          rw [Nat.eq_zero_of_not_pos hle] at hchar
          exact hz hchar.symm
        rw [toDigits_foldl hcs _ hpos, Nat.toDigits_of_lt_base hlt, hchar, List.singleton_append]
    · cases h

/-- An array index is written in one way only. -/
theorem index?_inj (hn : index? n = some i) (hm : index? m = some i) : n = m :=
  String.toList_inj.1 ((index?_digits hn).trans (index?_digits hm).symm)

/-! ## Order -/

/-- Whether one name may stand before another: an array index before a greater one, and before all names that
are none. -/
def Precedes (n m : String) : Prop :=
  match index? n, index? m with
  | some i, some j => i < j
  | some _, none => True
  | none, some _ => False
  | none, none => n ≠ m

/-- Whether names stand in order, each of them once. -/
def InOrder (ns : List String) : Prop := ns.Pairwise Precedes

theorem Precedes.ne (h : Precedes n m) : n ≠ m := by
  rintro rfl
  rw [Precedes] at h
  cases hn : index? n with
  | none => simp [hn] at h
  | some i => simp [hn] at h

theorem precedes_of_index (hn : index? n = some i) (hm : ∀ j, index? m = some j → i ≤ j) (hne : n ≠ m) :
    Precedes n m := by
  rw [Precedes, hn]
  cases hj : index? m with
  | none => trivial
  | some j =>
    refine Nat.lt_of_le_of_ne (hm j hj) fun h => hne ?_
    exact index?_inj hn (h ▸ hj)

theorem precedes_of_lt (hn : index? n = some i) (hm : index? m = some j) (h : i < j) : Precedes n m := by
  rw [Precedes, hn, hm]
  exact h

theorem Precedes.index_lt (h : Precedes n m) (hm : index? m = some j) : ∃ i, index? n = some i ∧ i < j := by
  rw [Precedes, hm] at h
  cases hn : index? n with
  | none => simp [hn] at h
  | some i => exact ⟨i, rfl, by simpa [hn] using h⟩

theorem InOrder.nodup {ns : List String} (h : InOrder ns) : ns.Nodup := h.imp Precedes.ne

theorem InOrder.filter (h : InOrder (names ms)) (p : String × α → Bool) : InOrder (names (ms.filter p)) :=
  List.Pairwise.sublist (List.filter_sublist.map _) h

/-- What comes first of names in order bounds the indices that follow. -/
theorem InOrder.le_of_head {ns : List String} (h : InOrder ns)
    (hfirst : ∀ n, ns.head? = some n → ∀ k, index? n = some k → i ≤ k) (hm : m ∈ ns) (hj : index? m = some j) : i ≤ j := by
  cases ns with
  | nil => cases hm
  | cons n rest =>
    rcases List.mem_cons.1 hm with rfl | hm
    · exact hfirst m rfl j hj
    · obtain ⟨k, hk, hlt⟩ := ((List.pairwise_cons.1 h).1 m hm).index_lt hj
      exact Nat.le_of_lt (Nat.lt_of_le_of_lt (hfirst n rfl k hk) hlt)

theorem inOrder_put (h : InOrder (names ms)) (name : String) (value : α) : InOrder (names (put ms name value)) := by
  by_cases hmem : name ∈ names ms
  · rwa [put_of_mem hmem, names_replace]
  rw [put, if_neg (fun hhas => hmem (has_iff.1 hhas))]
  split
  · rename_i i hi
    obtain ⟨before, after, rfl, hinsert, hbefore, hafter⟩ := insertIndex_split i name value ms
    rw [hinsert, names_append, names_cons]
    rw [names_append] at h hmem
    obtain ⟨hb, ha, hba⟩ := List.pairwise_append.1 h
    rw [List.mem_append, not_or] at hmem
    have hfirst : ∀ n, (names after).head? = some n → ∀ k, index? n = some k → i ≤ k := by
      intro n hn k hk
      rw [names, List.head?_map, Option.map_eq_some_iff] at hn
      obtain ⟨m, hm, rfl⟩ := hn
      exact hafter m hm k hk
    refine List.pairwise_append.2 ⟨hb, List.pairwise_cons.2 ⟨fun n hn => ?_, ha⟩, fun n hn m hm => ?_⟩
    · exact precedes_of_index hi (fun j => InOrder.le_of_head ha hfirst hn) fun (he : name = n) => hmem.2 (he ▸ hn)
    · rcases List.mem_cons.1 hm with rfl | hm
      · obtain ⟨x, hx, rfl⟩ := List.mem_map.1 hn
        obtain ⟨k, hk, hlt⟩ := hbefore x hx
        exact precedes_of_lt hk hi hlt
      · exact hba n hn m hm
  · rename_i hnone
    rw [names_append, names_cons, names_nil]
    refine List.pairwise_append.2 ⟨h, List.pairwise_singleton .., fun n hn m hm => ?_⟩
    rw [List.mem_singleton.1 hm, Precedes, hnone]
    cases index? n with
    | some i => trivial
    | none => exact fun (he : n = name) => hmem (he ▸ hn)

/-- What comes after all names that are there is put at the end. -/
theorem put_last (h : InOrder (names (ms ++ [(name, value)]))) : put ms name value = ms ++ [(name, value)] := by
  rw [names_append, names_cons, names_nil] at h
  obtain ⟨-, -, hlast⟩ := List.pairwise_append.1 h
  have hbefore : ∀ n ∈ names ms, Precedes n name := fun n hn => hlast n hn name (List.mem_singleton_self _)
  have hmem : name ∉ names ms := fun hn => (hbefore name hn).ne rfl
  rw [put, if_neg (fun hhas => hmem (has_iff.1 hhas))]
  split
  · rename_i i hi
    obtain ⟨before, after, rfl, hinsert, -, hafter⟩ := insertIndex_split i name value ms
    cases after with
    | nil => rw [hinsert, List.append_nil]
    | cons x rest =>
      obtain ⟨k, hk, hlt⟩ := (hbefore x.1 (by simp)).index_lt hi
      exact absurd (hafter x rfl k hk) (Nat.not_le_of_lt hlt)
  · rfl

/-! ## Listing anew -/

theorem putAll_append (ms more : Members α) (x : String × α) :
    putAll ms (more ++ [x]) = put (putAll ms more) x.1 x.2 := by
  rw [putAll, List.foldl_append, List.foldl_cons, List.foldl_nil, ← putAll]

theorem inOrder_putAll (h : InOrder (names ms)) (more : Members α) : InOrder (names (putAll ms more)) := by
  induction more using List.reverseRecOn with
  | nil => exact h
  | append_singleton more x ih =>
    rw [putAll_append]
    exact inOrder_put ih _ _

theorem inOrder_ofList (ms : List (String × α)) : InOrder (names (ofList ms)) :=
  inOrder_putAll (show InOrder (names ([] : Members α)) from List.Pairwise.nil) ms

theorem ofList_of_inOrder {ms : Members α} (h : InOrder (names ms)) : ofList ms = ms := by
  induction ms using List.reverseRecOn with
  | nil => rfl
  | append_singleton ms x ih =>
    have hbefore : InOrder (names ms) := (List.pairwise_append.1 (names_append ms [x] ▸ h)).1
    rw [ofList, putAll_append, ← ofList, ih hbefore]
    exact put_last h

theorem ofList_ofList (ms : List (String × α)) : ofList (ofList ms) = ofList ms :=
  ofList_of_inOrder (inOrder_ofList ms)

theorem mem_of_mem_ofList {ms : List (String × α)} {x : String × α} (h : x ∈ ofList ms) : x ∈ ms := by
  induction ms using List.reverseRecOn with
  | nil => exact h
  | append_singleton ms y ih =>
    rw [ofList, putAll_append, ← ofList] at h
    rcases mem_put h with rfl | h
    · exact List.mem_append_right _ (List.mem_singleton_self _)
    · exact List.mem_append_left _ (ih h)

/-- Names that are no array indices stand in order if each is there once. -/
theorem inOrder_of_nodup {ns : List String} (h : ns.Nodup) (hindex : ∀ n ∈ ns, index? n = none) : InOrder ns := by
  refine List.Pairwise.imp_of_mem (fun {n m} hn hm hne => ?_) h
  rw [Precedes, hindex n hn, hindex m hm]
  exact hne

end VariantForge.Members
