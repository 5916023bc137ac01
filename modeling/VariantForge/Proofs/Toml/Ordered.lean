import VariantForge.Proofs.Data.Merge
import VariantForge.Toml.Reader

/-!
# TOML in order — what is read has its names in order

Only a table in braces is read as a record (`yields_read`); every word is a scalar. Tables are changed by putting
members into them, which keeps their names in order (`Table.Ordered.assign` and its like), so the names of a document
and of all tables in it are (`Toml.read_ordered`).
-/

namespace VariantForge.Toml

open Data

variable {α β : Type}

/-- Whether what is read fulfils a predicate. -/
def Yields (x : Parse α) (P : α → Prop) : Prop := ∀ cs a cs', x.run cs = .ok (a, cs') → P a

theorem Yields.bind {x : Parse α} {f : α → Parse β} {P : α → Prop} {Q : β → Prop} (hx : Yields x P)
    (hf : ∀ a, P a → Yields (f a) Q) : Yields (x >>= f) Q := by
  intro cs b cs' h
  rw [StateT.run_bind] at h
  rcases hr : x.run cs with e | ⟨a, cs₁⟩
  · rw [hr] at h
    cases h
  · rw [hr] at h
    exact hf a (hx _ _ _ hr) _ _ _ h

theorem Yields.any {x : Parse α} {f : α → Parse β} {Q : β → Prop} (hf : ∀ a, Yields (f a) Q) : Yields (x >>= f) Q :=
  Yields.bind (P := fun _ => True) (fun _ _ _ _ => trivial) fun a _ => hf a

theorem Yields.pure {a : α} {P : α → Prop} (h : P a) : Yields (pure a) P := by
  intro cs b cs' hr
  cases hr
  exact h

theorem Yields.throw {e : Fault} {P : α → Prop} : Yields (throw e) P := fun _ _ _ h => nomatch h

theorem Yields.malformed {P : α → Prop} : Yields malformed P := fun _ _ _ h => nomatch h
theorem Yields.ite {c : Prop} [Decidable c] {x y : Parse α} {P : α → Prop} (hx : Yields x P) (hy : Yields y P) :
    Yields (if c then x else y) P := by
  split
  · exact hx
  · exact hy

/-- What is read after a test that fails if it is met. -/
theorem Yields.guard {c : Prop} [Decidable c] {f : Unit → Parse α} {P : α → Prop} (h : Yields (f ()) P) :
    Yields (if c then Toml.malformed >>= f else f ()) P := .ite (.bind (P := fun _ => False) .malformed nofun) h

/-! ## Words -/

/-- Whether a value is no record. -/
def Scalar (v : Value) : Prop := ∀ own lent, v.data ≠ .record own lent

theorem scalar_integerValue (n : Int) : Scalar (integerValue n) := by
  rw [integerValue]
  split
  · exact nofun
  · exact nofun

theorem yields_integer (cs : List Char) : Yields (integer cs) Scalar := by
  unfold integer
  dsimp only
  split
  · exact .pure (scalar_integerValue _)
  · exact .malformed

theorem yields_float (cs : List Char) : Yields (float cs) Scalar := .pure nofun

theorem yields_exponent (done : List Char) : Yields (exponent done) Scalar := by
  refine .any fun c => ?_
  split
  · exact .ite (.any fun _ => yields_float _)
      (.ite (.any fun _ => .any fun _ => .any fun _ => yields_float _) .malformed)
  · exact .malformed

theorem yields_fraction (done : List Char) : Yields (fraction done) Scalar := by
  refine .any fun _ => .any fun _ => .any fun c => ?_
  split
  · exact .ite (.any fun _ => yields_exponent _) (yields_float _)
  · exact yields_float _

theorem yields_numberTail (done : List Char) : Yields (numberTail done) Scalar := by
  refine .any fun _ => .any fun c => ?_
  split
  · exact .ite (.any fun _ => yields_exponent _) (.ite (.any fun _ => yields_fraction _) (yields_integer _))
  · exact yields_integer _

theorem yields_signed (sign : Char) : Yields (signed sign) Scalar := by
  refine .any fun c => ?_
  split
  · exact .any fun _ => .pure nofun
  · exact .any fun _ => .pure nofun
  · refine .any fun _ => .any fun c => .ite (.any fun _ => .any fun c => ?_) (yields_numberTail _)
    split
    · exact .any fun _ => yields_fraction _
    · exact .ite (.any fun _ => yields_exponent _) (yields_integer _)
    · exact yields_integer _

theorem yields_based (base : Nat) : Yields (based base) Scalar := by
  refine .any fun _ => .any fun _ => .any fun _ => .any fun ds => ?_
  split
  · exact .pure (scalar_integerValue _)
  · exact .malformed

theorem yields_dateValue (form : DateForm) (ms : Option Int) : Yields (dateValue form ms) Scalar := by
  unfold dateValue
  split
  · exact .pure nofun
  · exact .throw

theorem yields_zone (d : DayText) (t : TimeText) : Yields (zone d t) Scalar := by
  refine .any fun c => ?_
  split
  · exact .any fun _ => yields_dateValue _ _
  · exact .any fun _ => .any fun _ => yields_dateValue _ _
  · exact .any fun _ => .any fun _ => yields_dateValue _ _
  · exact .ite (yields_dateValue _ _) .malformed

theorem yields_timeAfter (d : DayText) : Yields (timeAfter d) Scalar :=
  .any fun _ => .any fun _ => .guard (.any fun _ => .any fun _ => .any fun _ => .any fun _ => .any fun _ =>
    .ite (.any fun _ => .any fun _ => .guard (yields_zone _ _)) (yields_zone _ _))

theorem yields_dateAfter (year : List Char) : Yields (dateAfter year) Scalar := by
  unfold dateAfter
  exact .guard (.any fun _ => .any fun _ => .any fun _ => .guard (.any fun _ => .any fun _ => .any fun _ =>
    .ite (.guard (.any fun _ => .any fun _ => .ite (yields_dateValue _ _) (yields_timeAfter _)))
      (.ite (yields_dateValue _ _) .malformed)))

theorem yields_timeAlone (hour : List Char) : Yields (timeAlone hour) Scalar := by
  unfold timeAlone
  exact .guard (.any fun _ => .any fun _ => .any fun _ => .any fun _ => .any fun _ =>
    .ite (.any fun _ => .any fun _ => .any fun _ => .guard (yields_dateValue _ _)) (.any fun _ => yields_dateValue _ _))

theorem yields_numberOrDate (done : List Char) : Yields (numberOrDate done) Scalar := by
  refine .any fun c => ?_
  split
  · exact .ite (yields_dateAfter _) (.ite (yields_timeAlone _) (yields_numberTail _))
  · exact yields_numberTail _

theorem yields_afterZero : Yields afterZero Scalar := by
  refine .any fun c => ?_
  split
  · exact yields_based _
  · exact yields_based _
  · exact yields_based _
  · exact yields_numberTail _
  · exact .ite (.any fun _ => .any fun _ => .any fun _ => .ite (.ite (yields_dateAfter _) .malformed)
      (.ite (yields_timeAlone _) .malformed)) (yields_integer _)
  · exact yields_integer _

theorem yields_fromDigit : Yields fromDigit Scalar :=
  .any fun _ => .ite (.any fun _ => yields_afterZero) (.any fun _ => yields_numberOrDate _)


/-! ## Tables -/

/-- Items whose tables have their names in order. Lists and functions may hold anything. -/
inductive Item.Ordered : Item → Prop where
  | value {d : Data} (h : d.Ordered) : Ordered (.value d)
  | table {opened : Bool} {members : Table} (order : Members.InOrder (Members.names members))
      (items : ∀ m ∈ members, Ordered m.2) : Ordered (.table opened members)
  | tables {items : List Table} : Ordered (.tables items)
  | function {members : Table} : Ordered (.function members)

/-- A table whose names are in order, and those of the tables in it. -/
structure Table.Ordered (t : Table) : Prop where
  order : Members.InOrder (Members.names t)
  items : ∀ m ∈ t, Item.Ordered m.2

namespace Table

variable {t t' : Table} {name : String} {item : Item} {d : Data}

theorem ordered_nil : Ordered [] := ⟨List.Pairwise.nil, nofun⟩

theorem Ordered.put (h : Ordered t) (hitem : item.Ordered) (name : String) : Ordered (Members.put t name item) := by
  refine ⟨Members.inOrder_put h.order name item, fun m hm => ?_⟩
  rcases Members.mem_put hm with rfl | hm
  · exact hitem
  · exact h.items m hm

theorem Ordered.put_table (h : Ordered t) {members : Table} (hmembers : Ordered members) (opened : Bool)
    (name : String) : Ordered (Members.put t name (.table opened members)) :=
  h.put (.table hmembers.order hmembers.items) name

theorem Ordered.get (h : Ordered t) {opened : Bool} {members : Table}
    (hget : Members.get? t name = some (.table opened members)) : Ordered members := by
  have := h.items _ (Members.mem_of_get? hget)
  cases this with
  | table order items => exact ⟨order, items⟩

theorem newItem_ordered (opened : Bool) (name : String) : (newItem opened name).Ordered := by
  rw [newItem]
  split
  · exact .function
  · exact .table List.Pairwise.nil nofun

theorem Ordered.openTable (h : Ordered t) {key : List String} (hopen : openTable t key = some t') : Ordered t' := by
  induction key generalizing t t' with
  | nil => cases hopen
  | cons name rest ih =>
    unfold Table.openTable at hopen
    cases rest with
    | nil =>
      dsimp only at hopen
      split at hopen
      · cases hopen
        exact h.put (newItem_ordered ..) _
      · rename_i hget
        cases hopen
        exact h.put_table (h.get hget) _ _
      · cases hopen
    | cons name' rest =>
      dsimp only at hopen
      split at hopen
      · obtain ⟨ms, hms, rfl⟩ := Option.map_eq_some_iff.1 hopen
        exact h.put_table (ih ordered_nil hms) _ _
      · rename_i hget
        obtain ⟨ms, hms, rfl⟩ := Option.map_eq_some_iff.1 hopen
        exact h.put_table (ih (h.get hget) hms) _ _
      · obtain ⟨items, -, rfl⟩ := Option.map_eq_some_iff.1 hopen
        exact h.put .tables _
      · cases hopen

theorem Ordered.openList (h : Ordered t) {key : List String} (hopen : openList t key = some t') : Ordered t' := by
  induction key generalizing t t' with
  | nil => cases hopen
  | cons name rest ih =>
    unfold Table.openList at hopen
    cases rest with
    | nil =>
      dsimp only at hopen
      split at hopen
      · cases hopen
        exact h.put .tables _
      · cases hopen
        exact h.put .tables _
      · cases hopen
    | cons name' rest =>
      dsimp only at hopen
      split at hopen
      · obtain ⟨ms, hms, rfl⟩ := Option.map_eq_some_iff.1 hopen
        exact h.put_table (ih ordered_nil hms) _ _
      · rename_i hget
        obtain ⟨ms, hms, rfl⟩ := Option.map_eq_some_iff.1 hopen
        exact h.put_table (ih (h.get hget) hms) _ _
      · obtain ⟨items, -, rfl⟩ := Option.map_eq_some_iff.1 hopen
        exact h.put .tables _
      · cases hopen

theorem Ordered.assign (h : Ordered t) (hd : d.Ordered) {key : List String} (hassign : assign t d key = some t') :
    Ordered t' := by
  induction key generalizing t t' with
  | nil => cases hassign
  | cons name rest ih =>
    unfold Table.assign at hassign
    cases rest with
    | nil =>
      dsimp only at hassign
      split at hassign
      · cases hassign
      · cases hassign
        exact h.put (.value hd) _
    | cons name' rest =>
      dsimp only at hassign
      split at hassign
      · split at hassign
        · obtain ⟨ms, -, rfl⟩ := Option.map_eq_some_iff.1 hassign
          exact h.put .function _
        · obtain ⟨ms, hms, rfl⟩ := Option.map_eq_some_iff.1 hassign
          exact h.put_table (ih ordered_nil hms) _ _
      · rename_i hget
        obtain ⟨ms, hms, rfl⟩ := Option.map_eq_some_iff.1 hassign
        exact h.put_table (ih (h.get hget) hms) _ _
      · cases hassign

theorem Ordered.within (h : Ordered t) {f : Table → Option Table} (hf : ∀ t t', Ordered t → f t = some t' → Ordered t')
    {key : List String} (hwithin : within t f key = some t') : Ordered t' := by
  induction key generalizing t t' with
  | nil => exact hf _ _ h hwithin
  | cons name rest ih =>
    unfold Table.within at hwithin
    split at hwithin
    · rename_i hget
      obtain ⟨ms, hms, rfl⟩ := Option.map_eq_some_iff.1 hwithin
      exact h.put_table (ih (h.get hget) hms) _ _
    · obtain ⟨ms, -, rfl⟩ := Option.map_eq_some_iff.1 hwithin
      exact h.put .function _
    · obtain ⟨items, -, rfl⟩ := Option.map_eq_some_iff.1 hwithin
      exact h.put .tables _
    · cases hwithin

theorem toMembers_eq (t : Table) : toMembers t = t.map fun m => (m.1, m.2.toData) := by
  induction t with
  | nil => rw [toMembers, List.map_nil]
  | cons m rest ih => rw [toMembers, ih, List.map_cons]

theorem names_toMembers (t : Table) : Members.names (toMembers t) = Members.names t := by
  rw [toMembers_eq, Members.names, List.map_map]
  rfl

end Table

theorem Item.Ordered.toData {item : Item} (h : item.Ordered) : item.toData.Ordered := by
  induction h with
  | value h => rwa [Item.toData]
  | @table opened members order items ih =>
    rw [Item.toData]
    refine .record (by rwa [Table.names_toMembers]) fun m hm => ?_
    rw [Table.toMembers_eq] at hm
    obtain ⟨x, hx, rfl⟩ := List.mem_map.1 hm
    exact ih x hx
  | tables => rw [Item.toData]; exact .value nofun
  | function => rw [Item.toData]; exact .value nofun

theorem Table.Ordered.toMembers {t : Table} (h : Ordered t) : (Data.record (Table.toMembers t) []).Ordered := by
  have := (show (Item.table true t).Ordered from .table h.order h.items).toData
  rwa [Item.toData] at this

/-! ## Documents -/

theorem yields_read (fuel : Nat) :
    Yields (value fuel) (fun v => v.data.Ordered) ∧
      (∀ items, Yields (listRest fuel items) fun v => v.data.Ordered) ∧
      ∀ members, Table.Ordered members → Yields (tableRest fuel members) fun v => v.data.Ordered := by
  induction fuel with
  | zero =>
    refine ⟨?_, fun items => ?_, fun members _ => ?_⟩
    · rw [value]; exact .malformed
    · rw [listRest]; exact .malformed
    · rw [tableRest]; exact .malformed
  | succ fuel ih =>
    obtain ⟨ihvalue, ihlist, ihtable⟩ := ih
    have hscalar {x : Parse Value} (h : Yields x Scalar) : Yields x fun v => v.data.Ordered :=
      fun cs v cs' hr => .value (h cs v cs' hr)
    refine ⟨?_, fun items => ?_, fun members hmembers => ?_⟩
    · rw [value]
      refine .any fun c => ?_
      split
      · exact .any fun _ => .any fun _ => .pure (.value nofun)
      · exact .any fun _ => .any fun _ => .pure (.value nofun)
      · exact .any fun _ => hscalar (yields_signed _)
      · exact .any fun _ => hscalar (yields_signed _)
      · exact .any fun _ => .pure (.value nofun)
      · exact .any fun _ => .pure (.value nofun)
      · exact .any fun _ => .pure (.value nofun)
      · exact .any fun _ => .pure (.value nofun)
      · exact .any fun _ => ihlist _
      · exact .any fun _ => ihtable _ Table.ordered_nil
      · exact .ite (hscalar yields_fromDigit) .malformed
      · exact .malformed
    · rw [listRest]
      refine .any fun _ => .any fun _ => .any fun c => .ite (.any fun _ => .pure (.value nofun)) ?_
      refine .any fun v => .any fun items => .any fun _ => .any fun c => ?_
      split
      · exact .any fun _ => ihlist _
      · exact ihlist _
      · exact .malformed
    · rw [tableRest]
      refine .any fun _ => .any fun c => .ite (.any fun _ => .pure hmembers.toMembers) ?_
      refine .any fun _ => .any fun key => .any fun _ => .any fun _ => .bind ihvalue fun v hv => ?_
      split
      · exact .malformed
      · rename_i hassign
        have := hmembers.assign hv hassign
        refine .any fun _ => .any fun c => ?_
        split
        · exact .any fun _ => ihtable _ this
        · exact ihtable _ this
        · exact .malformed

theorem yields_header {d : Draft} (h : Table.Ordered d.root) : Yields (header d) fun d => Table.Ordered d.root := by
  refine .any fun _ => .any fun c => .ite (.any fun _ => .any fun key => .any fun _ => ?_) (.any fun key => .any fun _ => ?_)
  · split
    · exact .malformed
    · rename_i hopen
      exact .any fun _ => .any fun _ => .pure (h.openList hopen)
  · split
    · exact .malformed
    · rename_i hopen
      exact .any fun _ => .pure (h.openTable hopen)

theorem yields_assignment {d : Draft} (h : Table.Ordered d.root) :
    Yields (assignment d) fun d => Table.Ordered d.root := by
  refine .any fun _ => .any fun key => .any fun _ => .any fun _ => .bind (yields_read _).1 fun v hv => ?_
  split
  · exact .malformed
  · rename_i hwithin
    exact .any fun _ => .pure (h.within (fun t t' ht hassign => ht.assign hv hassign) hwithin)

theorem yields_lines (fuel : Nat) {d : Draft} (h : Table.Ordered d.root) :
    Yields (lines fuel d) fun d => Table.Ordered d.root := by
  induction fuel generalizing d with
  | zero => exact .malformed
  | succ fuel ih =>
    refine .any fun _ => .any fun c => ?_
    split
    · exact .pure h
    · exact .any fun _ => ih h
    · exact .any fun _ => .bind (yields_header h) fun d hd => ih hd
    · exact .ite (.bind (yields_assignment h) fun d hd => ih hd) .malformed

theorem read_ordered {s : String} {d : Data} (h : read s = .ok d) : d.Ordered := by
  unfold read at h
  dsimp only at h
  split at h
  · rename_i draft _ hlines
    cases h
    exact (yields_lines _ Table.ordered_nil _ _ _ hlines).toMembers
  · cases h

end VariantForge.Toml
