import VariantForge.Data.Basic
import VariantForge.Proofs.Data.Members

/-!
# Merging — one record laid over another, name by name

Records of plain data have their names in order and hold neither the reserved name nor dates (`Data.Plain`). Laying
one over another puts its members in one by one (`merge_record`), so what stands under a name is told by what stands
under it in the two (`get?_overlay`), and by induction on the record laid over, what a way leads to (`at?_merge_upper`,
`at?_merge_lower`, `at?_leaf_merge`). What is laid over twice is laid over once (`merge_merge`).
-/

namespace VariantForge

namespace Members

variable {α : Type} {ms : Members α} {name : String} {value : α}

/-- The names that are no array indices. -/
def wordNames (ns : List String) : List String := ns.filter fun n => (index? n).isNone

theorem wordNames_append (ns ns' : List String) : wordNames (ns ++ ns') = wordNames ns ++ wordNames ns' :=
  List.filter_append ..

theorem names_sublist_put (ms : Members α) (name : String) (value : α) :
    (names ms).Sublist (names (put ms name value)) := by
  by_cases h : name ∈ names ms
  · have hnames : names (put ms name value) = names ms := by rw [put_of_mem h, names_replace]
    exact hnames ▸ List.Sublist.refl _
  · obtain ⟨before, after, rfl, hput⟩ := put_split value h
    rw [hput, names_append, names_append, names_cons]
    exact (List.sublist_cons_self ..).append_left _

/-- A new name that is no array index comes last. -/
theorem wordNames_put (ms : Members α) (name : String) (value : α) :
    wordNames (names (put ms name value)) =
      wordNames (names ms) ++ wordNames ([name].filter fun n => n ∉ names ms) := by
  by_cases h : name ∈ names ms
  · simp [put_of_mem h, h, wordNames]
  rw [put, if_neg (fun hhas => h (has_iff.1 hhas))]
  split
  · rename_i i hi
    obtain ⟨before, after, rfl, hinsert, -⟩ := insertIndex_split i name value ms
    simp [hinsert, wordNames, hi]
  · simp [wordNames, h]

/-- Putting what is there changes nothing. -/
theorem put_self (h : get? ms name = some value) : put ms name value = ms := by
  have hmem : name ∈ names ms := List.mem_map.2 ⟨_, mem_of_get? h, rfl⟩
  rw [put_of_mem hmem]
  clear hmem
  induction ms with
  | nil => cases h
  | cons x rest ih =>
    rw [get?] at h
    rw [replace]
    split at h
    · rename_i hn
      cases h
      rw [if_pos hn]
    · rename_i hn
      rw [if_neg hn, ih h]

end Members

namespace Data

/-! ## Plain data -/

/-- Data whose records have their names in order, none of them the reserved one, and hold no dates. Items of lists
may be anything. -/
inductive Plain : Data → Prop where
  | record {own : Members Data} (order : Members.InOrder (Members.names own))
      (reserved : lendingName ∉ Members.names own) (values : ∀ m ∈ own, Plain m.2) : Plain (.record own [])
  | value {d : Data} (h : d.isRecord = false) : Plain d

/-- Data as they are read: names of records are in order, and none lends anything. -/
inductive Ordered : Data → Prop where
  | record {own : Members Data} (order : Members.InOrder (Members.names own)) (values : ∀ m ∈ own, Ordered m.2) :
      Ordered (.record own [])
  | value {d : Data} (h : ∀ own lent, d ≠ .record own lent) : Ordered d

mutual

/-- Whether records of data hold neither the reserved name nor dates. -/
def isClean : Data → Bool
  | .record own _ => areClean own
  | d => !d.isRecord

/-- Whether no member has the reserved name, and the values of all are clean. -/
def areClean : List (String × Data) → Bool
  | [] => true
  | (name, d) :: rest => name != lendingName && isClean d && areClean rest

end

theorem areClean_iff {own : Members Data} :
    areClean own = true ↔ lendingName ∉ Members.names own ∧ ∀ m ∈ own, isClean m.2 = true := by
  induction own with
  | nil => simp [areClean]
  | cons m rest ih =>
    rw [areClean, Bool.and_eq_true, Bool.and_eq_true, bne_iff_ne, ih, Members.names_cons, List.mem_cons, not_or,
      List.forall_mem_cons, ne_comm]
    tauto

theorem Ordered.plain {d : Data} (h : Ordered d) (hclean : isClean d = true) : Plain d := by
  induction h with
  | @value d hd => cases d <;> first | exact .value rfl | cases hclean | exact absurd rfl (hd _ _)
  | record order values ih =>
    rw [isClean, areClean_iff] at hclean
    exact .record order hclean.1 fun m hm => ih m hm (hclean.2 m hm)

theorem Ordered.put {ms : Members Data} (h : Ordered (.record ms [])) {d : Data} (hd : Ordered d) (name : String) :
    Ordered (.record (Members.put ms name d) []) := by
  cases h with
  | record order values =>
    refine .record (Members.inOrder_put order name d) fun m hm => ?_
    rcases Members.mem_put hm with rfl | hm
    · exact hd
    · exact values m hm
  | value h => exact absurd rfl (h _ _)

theorem ordered_nil : Ordered (.record [] []) := .record List.Pairwise.nil nofun

/-- A record in order lends nothing, and its members are in order in turn. -/
theorem Ordered.of_record {own lent : Members Data} (h : Ordered (.record own lent)) :
    lent = [] ∧ Members.InOrder (Members.names own) ∧ ∀ m ∈ own, Ordered m.2 := by
  cases h with
  | record order values => exact ⟨rfl, order, values⟩
  | value h => exact absurd rfl (h _ _)

/-- The value that a way of names leads to, through records. -/
def at? : Data → List String → Option Data
  | d, [] => some d
  | .record own _, name :: rest => (Members.get? own name).bind fun d => at? d rest
  | _, _ :: _ => none

/-- Whether nothing lies below a value: a record has no members. -/
def IsLeaf (d : Data) : Prop := ∀ own lent, d = .record own lent → own = []

/-- Whether a way leads to a leaf. -/
def HasLeaf (d : Data) (way : List String) (v : Data) : Prop := way ≠ [] ∧ d.at? way = some v ∧ v.IsLeaf

/-- Whether data set what a way leads to. -/
def Sets (d : Data) (way : List String) : Prop := ∃ v, d.HasLeaf way v

/-- Whether data set nothing that a way leads to, through or beyond. -/
def Spares (d : Data) (way : List String) : Prop := ∀ q, d.Sets q → ¬ q <+: way ∧ ¬ way <+: q

theorem isLeaf_of_isRecord {d : Data} (h : d.isRecord = false) : d.IsLeaf := by
  rintro own lent rfl
  cases h

/-! ## Laying over -/

/-- What stands under a name when `value` is laid over what stood there. -/
def stacked (below : Option Data) (value : Data) : Data :=
  match below with
  | some b => if b.isRecord && value.isRecord then b.merge value else value
  | none => value

/-- Members laid over others one by one. -/
def overlay (ms more : Members Data) : Members Data :=
  more.foldl (fun ms m => Members.put ms m.1 (stacked (Members.get? ms m.1) m.2)) ms

theorem mergeMembers_eq {more : Members Data} (h : lendingName ∉ Members.names more) (ms : Members Data) :
    mergeMembers (.record ms []) more = .record (overlay ms more) [] := by
  induction more generalizing ms with
  | nil => rw [mergeMembers, overlay, List.foldl_nil]
  | cons m rest ih =>
    obtain ⟨name, value⟩ := m
    rw [Members.names_cons, List.mem_cons, not_or] at h
    have hname : name ≠ lendingName := Ne.symm h.1
    have hget : (Data.record ms []).get? name = Members.get? ms name := by
      rw [Data.get?]
      cases Members.get? ms name <;> rfl
    rw [mergeMembers]
    simp only [hname, false_and, if_false, hget, assign, members]
    rw [overlay, List.foldl_cons, ← overlay, ← ih h.2]
    rfl

theorem merge_record {own : Members Data} (h : lendingName ∉ Members.names own) (base : Data) (lent : Members Data) :
    base.merge (.record own lent) = .record (overlay base.members own) [] := by
  rw [merge, mergeMembers_eq h]

theorem get?_overlay {more : Members Data} (h : (Members.names more).Nodup) (ms : Members Data) (name : String) :
    Members.get? (overlay ms more) name =
      match Members.get? more name with
      | some v => some (stacked (Members.get? ms name) v)
      | none => Members.get? ms name := by
  induction more generalizing ms with
  | nil => rfl
  | cons m rest ih =>
    rw [Members.names_cons, List.nodup_cons] at h
    rw [overlay, List.foldl_cons, ← overlay, ih h.2, Members.get?, Members.get?_put]
    by_cases hm : m.1 = name
    · subst hm
      rw [if_pos rfl, if_pos rfl, Members.get?_eq_none_iff.2 h.1]
    · rw [if_neg hm, if_neg hm]

theorem names_sublist_overlay (ms more : Members Data) :
    (Members.names ms).Sublist (Members.names (overlay ms more)) := by
  induction more generalizing ms with
  | nil => exact List.Sublist.refl _
  | cons m rest ih => exact (Members.names_sublist_put ..).trans (ih _)

theorem inOrder_overlay {ms : Members Data} (h : Members.InOrder (Members.names ms)) (more : Members Data) :
    Members.InOrder (Members.names (overlay ms more)) := by
  induction more generalizing ms with
  | nil => exact h
  | cons m rest ih => exact ih (Members.inOrder_put h _ _)

theorem mem_names_overlay {ms more : Members Data} {n : String} (h : n ∈ Members.names (overlay ms more)) :
    n ∈ Members.names ms ∨ n ∈ Members.names more := by
  induction more generalizing ms with
  | nil => exact .inl h
  | cons m rest ih =>
    rw [Members.names_cons, List.mem_cons]
    rcases ih h with h | h
    · rcases Members.mem_names_put.1 h with h | h
      · exact .inr (.inl h)
      · exact .inl h
    · exact .inr (.inr h)

/-- Names that are no array indices keep their place, and new ones come after them in their own order. -/
theorem wordNames_overlay {more : Members Data} (h : (Members.names more).Nodup) (ms : Members Data) :
    Members.wordNames (Members.names (overlay ms more)) =
      Members.wordNames (Members.names ms) ++
        Members.wordNames ((Members.names more).filter fun n => n ∉ Members.names ms) := by
  induction more generalizing ms with
  | nil => simp [overlay, Members.wordNames]
  | cons m rest ih =>
    rw [Members.names_cons, List.nodup_cons] at h
    have hrest : ((Members.names rest).filter fun n =>
          n ∉ Members.names (Members.put ms m.1 (stacked (Members.get? ms m.1) m.2))) =
        (Members.names rest).filter fun n => n ∉ Members.names ms := by
      refine List.filter_congr fun n hn => ?_
      have hne : n ≠ m.1 := fun he => h.1 (he ▸ hn)
      simp [Members.mem_names_put, hne]
    have hcons : (Members.names (m :: rest)).filter (fun n => n ∉ Members.names ms) =
        [m.1].filter (fun n => n ∉ Members.names ms) ++ (Members.names rest).filter (fun n => n ∉ Members.names ms) :=
      List.filter_append [m.1] _
    rw [overlay, List.foldl_cons, ← overlay, ih h.2, Members.wordNames_put, hrest, hcons, Members.wordNames_append,
      List.append_assoc]

/-! ## What ways lead to -/

theorem at?_cons (own lent : Members Data) (name : String) (rest : List String) :
    (Data.record own lent).at? (name :: rest) = (Members.get? own name).bind fun d => d.at? rest := rfl

theorem at?_of_isRecord {d : Data} (h : d.isRecord = false) (name : String) (rest : List String) :
    d.at? (name :: rest) = none := by
  cases d <;> first | rfl | cases h

theorem Plain.mem {own : Members Data} (h : Plain (.record own [])) {name : String} {d : Data}
    (hd : Members.get? own name = some d) : Plain d := by
  cases h with
  | record order reserved values => exact values _ (Members.mem_of_get? hd)
  | value h => cases h

/-- A plain value is a record whose members are plain, or none. -/
theorem Plain.cases_record {d : Data} (h : Plain d) :
    (∃ own, d = .record own [] ∧ Members.InOrder (Members.names own) ∧ lendingName ∉ Members.names own) ∨
      d.isRecord = false := by
  cases h with
  | record order reserved values => exact .inl ⟨_, rfl, order, reserved⟩
  | value h => exact .inr h

theorem stacked_of_value {v : Data} (h : v.isRecord = false) (below : Option Data) : stacked below v = v := by
  cases below with
  | none => rfl
  | some b => simp [stacked, h]

theorem stacked_of_below {b : Data} (h : b.isRecord = false) (v : Data) : stacked (some b) v = v := by
  simp [stacked, h]

theorem stacked_records {b v : Data} (hb : b.isRecord = true) (hv : v.isRecord = true) :
    stacked (some b) v = b.merge v := by
  simp [stacked, hb, hv]

/-- Plain data laid over plain data are plain. -/
theorem Plain.merge {upper : Data} (h : Plain upper) {base : Data} (hbase : Plain base)
    (hrecord : base.isRecord = true) : Plain (base.merge upper) := by
  obtain ⟨below, rfl, horder, hreserved⟩ := hbase.cases_record.resolve_right (by simp [hrecord])
  induction h generalizing below with
  | @value upper h => cases upper <;> first | exact hbase | cases h
  | @record own order reserved values ih =>
    rw [merge_record reserved]
    have hmerged : Members.InOrder (Members.names (overlay below own)) := inOrder_overlay horder own
    refine .record hmerged (fun hn => (mem_names_overlay hn).elim hreserved reserved) fun m hm => ?_
    have hget := Members.get?_of_mem hmerged.nodup hm
    rw [get?_overlay order.nodup] at hget
    rcases hx : Members.get? own m.1 with _ | x
    · rw [hx] at hget
      exact hbase.mem hget
    rw [hx] at hget
    rw [← show stacked (Members.get? below m.1) x = m.2 from Option.some.inj hget]
    have hxp : Plain x := values _ (Members.mem_of_get? hx)
    cases hxr : x.isRecord with
    | false => rwa [stacked_of_value hxr]
    | true =>
      rcases hb : Members.get? below m.1 with _ | b
      · exact hxp
      cases hbr : b.isRecord with
      | false => rwa [stacked_of_below hbr]
      | true =>
        rw [stacked_records hbr hxr]
        obtain ⟨below', rfl, horder', hreserved'⟩ := (hbase.mem hb).cases_record.resolve_right (by simp [hbr])
        exact ih _ (Members.mem_of_get? hx) _ (hbase.mem hb) hbr horder' hreserved'

/-- What is under a name after merging, from what there was. -/
theorem at?_merge {own : Members Data} (order : Members.InOrder (Members.names own))
    (reserved : lendingName ∉ Members.names own) (base : Data) (name : String) (rest : List String) :
    (base.merge (.record own [])).at? (name :: rest) =
      match Members.get? own name with
      | some v => (stacked (Members.get? base.members name) v).at? rest
      | none => (Members.get? base.members name).bind fun d => d.at? rest := by
  rw [merge_record reserved, at?_cons, get?_overlay order.nodup]
  cases Members.get? own name <;> rfl

/-- A value of the upper record that is no record is found where it was. -/
theorem at?_merge_upper {upper : Data} (h : Plain upper) {name : String} {rest : List String} {v : Data}
    (hv : v.isRecord = false) (hat : upper.at? (name :: rest) = some v) (base : Data) :
    (base.merge upper).at? (name :: rest) = some v := by
  induction h generalizing name rest base with
  | value h => rw [at?_of_isRecord h] at hat; cases hat
  | @record own order reserved values ih =>
    rw [at?_cons] at hat
    obtain ⟨x, hx, hat⟩ := Option.bind_eq_some_iff.1 hat
    rw [at?_merge order reserved, hx]
    dsimp only
    cases rest with
    | nil =>
      obtain rfl : x = v := Option.some.inj hat
      rw [stacked_of_value hv]
      exact hat
    | cons name' rest =>
      cases hxr : x.isRecord with
      | false => rw [at?_of_isRecord hxr] at hat; cases hat
      | true =>
        rcases hb : Members.get? base.members name with _ | b
        · exact hat
        · cases hbr : b.isRecord with
          | false => rwa [stacked_of_below hbr]
          | true =>
            rw [stacked_records hbr hxr]
            exact ih _ (Members.mem_of_get? hx) hat b

theorem hasLeaf_cons {own lent : Members Data} {name : String} {x : Data} (hx : Members.get? own name = some x)
    {rest : List String} {v : Data} (hv : x.at? rest = some v) (hleaf : v.IsLeaf) :
    (Data.record own lent).HasLeaf (name :: rest) v := by
  refine ⟨by simp, ?_, hleaf⟩
  rw [at?_cons, hx]
  exact hv

theorem hasLeaf_append {ms ms' : Members Data} (h : (Members.names (ms ++ ms')).Nodup) {way : List String} {v : Data} :
    (Data.record (ms ++ ms') []).HasLeaf way v ↔
      (Data.record ms []).HasLeaf way v ∨ (Data.record ms' []).HasLeaf way v := by
  cases way with
  | nil => simp [HasLeaf]
  | cons name rest =>
    rw [Members.names_append, List.nodup_append] at h
    simp only [HasLeaf, at?_cons, Members.get?_append]
    rcases hx : Members.get? ms name with _ | x
    · simp
    · have hmem : name ∈ Members.names ms := List.mem_map.2 ⟨_, Members.mem_of_get? hx, rfl⟩
      rw [Members.get?_eq_none_iff.2 fun hn => h.2.2 name hmem name hn rfl]
      simp

theorem not_hasLeaf_nil {way : List String} {v : Data} : ¬ (Data.record [] []).HasLeaf way v := by
  rintro ⟨hne, hat, -⟩
  cases way with
  | nil => exact hne rfl
  | cons name rest => cases hat

/-- What is set by groups of members is set by one of them. -/
theorem hasLeaf_flatten {groups : List (Members Data)} (h : (Members.names groups.flatten).Nodup) {way : List String}
    {v : Data} : (Data.record groups.flatten []).HasLeaf way v ↔ ∃ ms ∈ groups, (Data.record ms []).HasLeaf way v := by
  induction groups with
  | nil => simp [not_hasLeaf_nil]
  | cons ms rest ih =>
    have hrest : (Members.names rest.flatten).Nodup := by
      rw [List.flatten_cons, Members.names_append] at h
      exact (List.nodup_append.1 h).2.1
    rw [List.flatten_cons, hasLeaf_append h, ih hrest]
    simp only [List.mem_cons, exists_eq_or_imp]

/-- Data that have a member set something. -/
theorem Plain.exists_sets {d : Data} (h : Plain d) (hleaf : ¬ d.IsLeaf) : ∃ q, d.Sets q := by
  induction h with
  | value h => exact absurd (isLeaf_of_isRecord h) hleaf
  | @record own order reserved values ih =>
    cases own with
    | nil =>
      refine absurd ?_ hleaf
      rintro own lent h
      cases h
      rfl
    | cons m rest =>
      have hget : Members.get? (m :: rest) m.1 = some m.2 := by rw [Members.get?, if_pos rfl]
      by_cases hm : m.2.IsLeaf
      · exact ⟨[m.1], m.2, hasLeaf_cons hget rfl hm⟩
      · obtain ⟨q, v, -, hv, hleaf⟩ := ih m (List.mem_cons_self ..) hm
        exact ⟨m.1 :: q, v, hasLeaf_cons hget hv hleaf⟩

theorem Spares.tail {own lent : Members Data} {name : String} {x : Data} {rest : List String}
    (hx : Members.get? own name = some x) (h : (Data.record own lent).Spares (name :: rest)) : x.Spares rest := by
  rintro q ⟨v, -, hv, hleaf⟩
  obtain ⟨hthrough, hbeyond⟩ := h (name :: q) ⟨v, hasLeaf_cons hx hv hleaf⟩
  rw [List.cons_prefix_cons] at hthrough hbeyond
  exact ⟨fun h => hthrough ⟨rfl, h⟩, fun h => hbeyond ⟨rfl, h⟩⟩

theorem isRecord_of_at? {d : Data} {name : String} {rest : List String} {v : Data}
    (h : d.at? (name :: rest) = some v) : d.isRecord = true := by
  cases hd : d.isRecord with
  | true => rfl
  | false =>
    rw [at?_of_isRecord hd] at h
    cases h

/-- What the lower record holds where the upper record spares it is found where it was. -/
theorem at?_merge_lower {upper : Data} (h : Plain upper) {name : String} {rest : List String}
    (hspares : upper.Spares (name :: rest)) {base v : Data} (hat : base.at? (name :: rest) = some v) :
    (base.merge upper).at? (name :: rest) = some v := by
  induction h generalizing name rest base with
  | @value upper hupper =>
    obtain ⟨own, lent, rfl⟩ : ∃ own lent, base = .record own lent := by
      cases base <;> first | exact ⟨_, _, rfl⟩ | cases hat
    cases upper <;> first | exact hat | cases hupper
  | @record own order reserved values ih =>
    obtain ⟨below, lent, rfl⟩ : ∃ own lent, base = .record own lent := by
      cases base <;> first | exact ⟨_, _, rfl⟩ | cases hat
    rw [at?_merge order reserved]
    rcases hx : Members.get? own name with _ | x
    · exact hat
    have hrest : x.Spares rest := hspares.tail hx
    -- what the upper record holds under the name is no leaf, so it sets something further on
    have hleaf : ¬ x.IsLeaf := fun hleaf =>
      (hspares [name] ⟨x, hasLeaf_cons hx rfl hleaf⟩).1 ⟨rest, rfl⟩
    obtain ⟨q, hq⟩ := (values _ (Members.mem_of_get? hx)).exists_sets hleaf
    rw [at?_cons] at hat
    obtain ⟨b, hb, hat⟩ := Option.bind_eq_some_iff.1 hat
    cases rest with
    | nil => exact absurd List.nil_prefix (hrest q hq).2
    | cons name' rest =>
      have hxr : x.isRecord = true := by
        cases hr : x.isRecord with
        | true => rfl
        | false => exact absurd (isLeaf_of_isRecord hr) hleaf
      show (stacked (Members.get? below name) x).at? _ = _
      rw [hb, stacked_records (isRecord_of_at? hat) hxr]
      exact ih _ (Members.mem_of_get? hx) hrest hat

/-- Every leaf of merged records is one of the two, where it was. -/
theorem at?_leaf_merge {upper : Data} (h : Plain upper) {base : Data} (hbase : Plain base) (hrecord : base.isRecord = true)
    (hupper : upper.isRecord = true) {way : List String} {v : Data} (hleaf : v.IsLeaf)
    (hat : (base.merge upper).at? way = some v) : upper.at? way = some v ∨ base.at? way = some v := by
  induction h generalizing way base with
  | value h => rw [h] at hupper; cases hupper
  | @record own order reserved values ih =>
    obtain ⟨below, rfl, -⟩ := hbase.cases_record.resolve_right (by simp [hrecord])
    cases way with
    | nil =>
      rw [merge_record reserved] at hat
      cases hat
      have hnil : overlay below own = [] := hleaf _ _ rfl
      have hown : own = [] := by
        refine List.eq_nil_iff_forall_not_mem.2 fun m hm => ?_
        have := get?_overlay order.nodup below m.1
        rw [hnil, Members.get?_of_mem order.nodup hm] at this
        cases this
      subst hown
      exact .inl (congrArg (fun ms => some (Data.record ms [])) hnil.symm)
    | cons name rest =>
      rw [at?_merge order reserved] at hat
      rw [at?_cons, at?_cons]
      rcases hx : Members.get? own name with _ | x
      · rw [hx] at hat
        exact .inr hat
      rw [hx] at hat
      replace hat : (stacked (Members.get? below name) x).at? rest = some v := hat
      cases hxr : x.isRecord with
      | false =>
        rw [stacked_of_value hxr] at hat
        exact .inl hat
      | true =>
        rcases hb : Members.get? below name with _ | b
        · rw [hb] at hat
          exact .inl hat
        rw [hb] at hat
        cases hbr : b.isRecord with
        | false =>
          rw [stacked_of_below hbr] at hat
          exact .inl hat
        | true =>
          rw [stacked_records hbr hxr] at hat
          exact ih _ (Members.mem_of_get? hx) (hbase.mem hb) hbr hxr hat

theorem HasLeaf.of_merge {upper base : Data} (h : Plain upper) (hbase : Plain base) (hrecord : base.isRecord = true)
    (hupper : upper.isRecord = true) {way : List String} {v : Data} (hleaf : (base.merge upper).HasLeaf way v) :
    upper.HasLeaf way v ∨ base.HasLeaf way v := by
  obtain ⟨hne, hat, hleaf⟩ := hleaf
  exact (at?_leaf_merge h hbase hrecord hupper hleaf hat).imp (fun h => ⟨hne, h, hleaf⟩) fun h => ⟨hne, h, hleaf⟩

/-! ## Laying over twice -/

/-- Laying members over others that hold them already changes nothing. -/
theorem overlay_self {ms more : Members Data}
    (h : ∀ m ∈ more, ∃ w, Members.get? ms m.1 = some w ∧ stacked (some w) m.2 = w) : overlay ms more = ms := by
  induction more with
  | nil => rfl
  | cons m rest ih =>
    rw [List.forall_mem_cons] at h
    obtain ⟨⟨w, hw, hover⟩, hrest⟩ := h
    rw [overlay, List.foldl_cons, ← overlay, hw, hover, Members.put_self hw]
    exact ih hrest

/-- Data laid over themselves are what they were. -/
theorem Plain.merge_self {d : Data} (h : Plain d) (hrecord : d.isRecord = true) : d.merge d = d := by
  induction h with
  | value h => rw [h] at hrecord; cases hrecord
  | @record own order reserved values ih =>
    rw [merge_record reserved]
    congr 1
    refine overlay_self fun m hm => ⟨m.2, Members.get?_of_mem order.nodup hm, ?_⟩
    cases hr : m.2.isRecord with
    | false => exact stacked_of_value hr _
    | true => rw [stacked_records hr hr, ih m hm hr]

theorem Plain.isRecord_merge {upper : Data} (h : Plain upper) (base : Data) : (base.merge upper).isRecord = true := by
  obtain ⟨own, rfl, -, reserved⟩ | h := h.cases_record
  · rw [merge_record reserved]
    rfl
  · cases upper <;> first | rfl | cases h

/-- What is laid over twice is laid over once. -/
theorem merge_merge {upper : Data} (h : Plain upper) (base : Data) :
    (base.merge upper).merge upper = base.merge upper := by
  induction h generalizing base with
  | @value upper h =>
    cases upper <;> first | rfl | cases h
  | @record own order reserved values ih =>
    rw [merge_record reserved, merge_record reserved]
    congr 1
    refine overlay_self fun m hm => ⟨stacked (Members.get? base.members m.1) m.2, ?_, ?_⟩
    · show Members.get? (overlay base.members own) m.1 = _
      rw [get?_overlay order.nodup, Members.get?_of_mem order.nodup hm]
    · cases hr : m.2.isRecord with
      | false => rw [stacked_of_value hr, stacked_of_value hr]
      | true =>
        rcases Members.get? base.members m.1 with _ | b
        · show stacked (some m.2) m.2 = m.2
          rw [stacked_records hr hr, (values m hm).merge_self hr]
        · cases hb : b.isRecord with
          | false => rw [stacked_of_below hb, stacked_records hr hr, (values m hm).merge_self hr]
          | true => rw [stacked_records hb hr, stacked_records ((values m hm).isRecord_merge _) hr, ih m hm]

end Data

end VariantForge
