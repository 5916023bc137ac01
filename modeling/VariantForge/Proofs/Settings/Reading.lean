import VariantForge.Proofs.Data.Members
import VariantForge.Settings.Record
import VariantForge.Settings.Schema

/-!
# Reading again — readers that read what they wrote

A reader is stable if it reads a value that it gave from its record, wherever that stands, and gives it again
(`Stable`). Readers of single values are, and what is made of stable readers is. So a value that was coerced, or
took the place of a missing one, need not be looked at twice.
-/

namespace VariantForge

variable {α β : Type}

/-! ## Checked values -/

namespace Checked

variable {f : Checked (α → β)} {c : Checked α} {g : α → β} {a : α} {b : β}

theorem ok_inj (h : ok a = ok b') : a = b' := by
  cases h
  rfl

@[simp] theorem map_ok (g : α → β) (a : α) : g <$> ok a = ok (g a) := rfl

@[simp] theorem ok_seq_ok (g : α → β) (a : α) : ok g <*> ok a = ok (g a) := rfl

theorem map_eq_ok : g <$> c = ok b ↔ ∃ a, c = ok a ∧ g a = b := by
  obtain ⟨issues, value, stopped⟩ := c
  constructor
  · intro h
    injection h with hissues hvalue hstopped
    obtain ⟨a, rfl, rfl⟩ := Option.map_eq_some_iff.1 hvalue
    dsimp only at hissues hstopped
    subst hissues hstopped
    exact ⟨a, rfl, rfl⟩
  · rintro ⟨a, h, rfl⟩
    rw [h, map_ok]

theorem seq_eq_ok : f <*> c = ok b ↔ ∃ g a, f = ok g ∧ c = ok a ∧ g a = b := by
  obtain ⟨issues, value, stopped⟩ := f
  obtain ⟨issues', value', stopped'⟩ := c
  constructor
  · intro h
    injection h with hissues hvalue hstopped
    obtain ⟨hi, hi'⟩ := List.append_eq_nil_iff.1 hissues
    obtain ⟨hs, hs'⟩ := Bool.or_eq_false_iff.1 hstopped
    obtain ⟨g, hg, hvalue⟩ := Option.bind_eq_some_iff.1 hvalue
    obtain ⟨a, ha, rfl⟩ := Option.map_eq_some_iff.1 hvalue
    dsimp only at hi hi' hs hs' hg ha
    subst hi hi' hs hs' hg ha
    exact ⟨g, a, rfl, rfl, rfl⟩
  · rintro ⟨g, a, hf, hc, rfl⟩
    rw [hf, hc, ok_seq_ok]

theorem result_eq_ok : c.result = .ok a ↔ c = ok a := by
  obtain ⟨issues, value, stopped⟩ := c
  constructor
  · intro h
    rw [result] at h
    cases stopped with
    | true => cases h
    | false =>
      rw [if_neg Bool.false_ne_true] at h
      cases issues with
      | cons x xs => cases h
      | nil =>
        cases value with
        | none => cases h
        | some a' =>
          cases h
          rfl
  · rintro h
    rw [h]
    rfl

end Checked

namespace Schema

variable {r : Reader α} {f : α → Data} {path : List Step} {d : Option Data} {a : α}

/-- Whether a reader reads a value as another, wherever it stands. -/
def Reads (r : Reader α) (d : Option Data) (a : α) : Prop := ∀ path, r path d = .ok a

/-- Whether a reader reads what it has given again, from the value that `f` writes for it. -/
def Stable (r : Reader α) (f : α → Option Data) : Prop := ∀ path d a, r path d = .ok a → Reads r (f a) a

/-! ## Single values -/

theorem text_eq_ok {s : String} (h : text path d = .ok s) : s ≠ "" := by
  unfold text at h
  split at h
  · split at h
    · cases h
    · rename_i hne
      cases h
      simpa using hne
  · cases h

theorem reads_text {s : String} (h : s ≠ "") : Reads text (some (.text s)) s := fun path => by
  rw [text, if_neg (by simpa using h)]

theorem stable_text : Stable text fun s => some (.text s) := fun _ _ _ h => reads_text (text_eq_ok h)

theorem stable_anyText : Stable anyText fun s => some (.text s) := fun _ _ _ _ _ => rfl

theorem stable_bool : Stable bool fun b => some (.bool b) := fun _ _ _ _ _ => rfl

/-- Where a value stands decides only what is said of it. -/
theorem check_eq_nil (path path' : List Step) (x : Number) (rule : NumberRule) :
    rule.check path x = [] ↔ rule.check path' x = [] := by
  cases rule <;> simp only [NumberRule.check] <;> split <;> simp

theorem checkNumber_ok {rules : List NumberRule} {x y : Number} (h : checkNumber rules path x = .ok y)
    (path' : List Step) : checkNumber rules path' y = .ok y := by
  rw [checkNumber] at h ⊢
  split at h
  · cases h
  · rename_i hnan
    injection h with hissues hvalue _
    cases hvalue
    rw [if_neg hnan, Checked.ok]
    congr 1
    rw [List.flatMap_eq_nil_iff] at hissues ⊢
    exact fun rule hrule => (check_eq_nil path path' x rule).1 (hissues rule hrule)

theorem stable_coercedNumber (rules : List NumberRule) :
    Stable (coercedNumber rules) fun x => some (.number x) := by
  intro path d x h path'
  unfold coercedNumber at h
  have hx : ∃ y, checkNumber rules path y = .ok x := by
    split at h
    · split at h
      · exact ⟨_, h⟩
      · cases h
    · exact ⟨_, h⟩
  obtain ⟨y, hy⟩ := hx
  exact checkNumber_ok hy path'

/-! ## Readers made of others -/

theorem Stable.withDefault {g : α → Option Data} (h : Stable r g) (hg : ∀ a, (g a).isSome) (default : Data) :
    Stable (withDefault default r) g := by
  intro path d a hread path'
  have := h _ _ _ hread path'
  obtain ⟨d', hd'⟩ := Option.isSome_iff_exists.1 (hg a)
  rw [Schema.withDefault, hd', Option.getD_some, ← hd']
  exact this

theorem Stable.optional (h : Stable r fun a => some (f a)) : Stable (optional r) fun o => o.map f := by
  intro path d o hread path'
  cases o with
  | none => rfl
  | some a =>
    cases d with
    | none => cases hread
    | some d =>
      obtain ⟨b, hb, hab⟩ := Checked.map_eq_ok.1 hread
      obtain rfl : b = a := Option.some.inj hab
      show some <$> r path' (some (f b)) = _
      rw [h _ _ _ hb path', Checked.map_ok]

theorem items_ok {ds : List Data} {i : Nat} {as : List α} (h : items r path i ds = .ok as) :
    ∀ a ∈ as, ∃ path d, r path d = .ok a := by
  induction ds generalizing i as with
  | nil =>
    cases h
    exact nofun
  | cons d rest ih =>
    rw [items] at h
    obtain ⟨g, as', hg, has', rfl⟩ := Checked.seq_eq_ok.1 h
    obtain ⟨a, ha, rfl⟩ := Checked.map_eq_ok.1 hg
    exact List.forall_mem_cons.2 ⟨⟨_, _, ha⟩, ih has'⟩

theorem items_reads {as : List α} (h : ∀ a ∈ as, Reads r (some (f a)) a) (path : List Step) (i : Nat) :
    items r path i (as.map f) = .ok as := by
  induction as generalizing i with
  | nil => rfl
  | cons a rest ih =>
    rw [List.forall_mem_cons] at h
    rw [List.map_cons, items, h.1, ih h.2, Checked.map_ok, Checked.ok_seq_ok]

theorem list_ok {as : List α} (h : list r path d = .ok as) : ∀ a ∈ as, ∃ path d, r path d = .ok a := by
  unfold list at h
  split at h
  · exact items_ok h
  · cases h

theorem reads_list {as : List α} (h : ∀ a ∈ as, Reads r (some (f a)) a) :
    Reads (list r) (some (.list (as.map f))) as :=
  fun path => items_reads h path 0

theorem Stable.list (h : Stable r fun a => some (f a)) : Stable (list r) fun as => some (.list (as.map f)) := by
  intro path d as hread
  refine reads_list fun a ha => ?_
  obtain ⟨path', d', ha⟩ := list_ok hread a ha
  exact h _ _ _ ha

theorem nonEmptyList_ok {as : List α} (h : nonEmptyList r path d = .ok as) :
    as ≠ [] ∧ ∀ a ∈ as, ∃ path d, r path d = .ok a := by
  unfold nonEmptyList at h
  split at h
  · cases h
  · rename_i hne
    refine ⟨?_, list_ok h⟩
    rintro rfl
    unfold Schema.list at h
    split at h
    · rename_i ds
      cases ds with
      | nil => exact hne rfl
      | cons x rest =>
        rw [items] at h
        obtain ⟨g, as', hg, has', hcons⟩ := Checked.seq_eq_ok.1 h
        obtain ⟨a, ha, rfl⟩ := Checked.map_eq_ok.1 hg
        cases hcons
    · cases h

theorem reads_nonEmptyList {as : List α} (hne : as ≠ []) (h : ∀ a ∈ as, Reads r (some (f a)) a) :
    Reads (nonEmptyList r) (some (.list (as.map f))) as := by
  obtain ⟨a, rest, rfl⟩ := List.exists_cons_of_ne_nil hne
  exact reads_list h

theorem Stable.nonEmptyList (h : Stable r fun a => some (f a)) :
    Stable (nonEmptyList r) fun as => some (.list (as.map f)) := by
  intro path d as hread
  obtain ⟨hne, hall⟩ := nonEmptyList_ok hread
  refine reads_nonEmptyList hne fun a ha => ?_
  obtain ⟨path', d', ha⟩ := hall a ha
  exact h _ _ _ ha

/-! ## Records -/

@[simp] theorem get?_record (own : Members Data) (name : String) :
    (Data.record own []).get? name = Members.get? own name := by
  rw [Data.get?]
  cases Members.get? own name <;> rfl

theorem visible_record (own : Members Data) : (Data.record own []).visible = own := by simp [Data.visible]

theorem record_ok {k : List Step → (String → Option Data) → Checked α} (h : record k path d = .ok a) :
    ∃ get, k path get = .ok a := by
  unfold record at h
  split at h
  · exact ⟨_, h⟩
  · cases h

theorem record_eq (k : List Step → (String → Option Data) → Checked α) (path : List Step) (own : Members Data) :
    record k path (some (.record own [])) = k path (Members.get? own) := by
  rw [record]
  congr 1
  exact funext fun name => get?_record own name

theorem field_eq_ok {name : String} {get : String → Option Data} {d : Option Data} (hget : get name = d)
    (h : Reads r d a) : field name r path get = .ok a := by
  rw [field, hget]
  exact h _

@[simp] theorem get?_given (name other : String) (value : Option Data) :
    Members.get? (Data.given name value) other = if name = other then value else none := by
  cases value with
  | none => simp [Data.given, Members.get?]
  | some v => simp [Data.given, Members.get?]

theorem entries_cons_ok {name : List Step → String → List Issue} {n : String} {d : Data} {ms : List (String × Data)}
    {found : List (String × α)} (h : entries name r path ((n, d) :: ms) = .ok found) :
    ∃ a rest, found = (n, a) :: rest ∧ r (path ++ [.name n]) (some d) = .ok a ∧ entries name r path ms = .ok rest := by
  rw [entries] at h
  obtain ⟨g, rest, hg, hrest, rfl⟩ := Checked.seq_eq_ok.1 h
  obtain ⟨x, hx, rfl⟩ := Checked.map_eq_ok.1 hg
  injection hx with hissues hvalue hstopped
  obtain ⟨a, ha, rfl⟩ := Option.map_eq_some_iff.1 hvalue
  refine ⟨a, rest, rfl, ?_, hrest⟩
  rcases hr : r (path ++ [.name n]) (some d) with ⟨issues, value, stopped⟩
  rw [hr] at hissues ha hstopped
  dsimp only at hissues ha hstopped
  rw [hr, (List.append_eq_nil_iff.1 hissues).2, ha, hstopped]
  rfl

theorem entries_ok {name : List Step → String → List Issue} {ms : List (String × Data)} {found : List (String × α)}
    (h : entries name r path ms = .ok found) : ∀ m ∈ found, ∃ path d, (m.1, d) ∈ ms ∧ r path (some d) = .ok m.2 := by
  induction ms generalizing found with
  | nil =>
    cases h
    exact nofun
  | cons m ms ih =>
    obtain ⟨a, rest, rfl, hread, hrest⟩ := entries_cons_ok h
    refine List.forall_mem_cons.2 ⟨⟨_, m.2, List.mem_cons_self .., hread⟩, fun m' hm' => ?_⟩
    obtain ⟨path', d', hd', hr⟩ := ih hrest m' hm'
    exact ⟨path', d', List.mem_cons_of_mem _ hd', hr⟩

/-- What is read member by member stands where it stood, under the same names. -/
theorem entries_eq_map {name : List Step → String → List Issue} {g : Data → α} {ms : List (String × Data)}
    {found : List (String × α)} (hg : ∀ m ∈ ms, ∀ path a, r path (some m.2) = .ok a → a = g m.2)
    (h : entries name r path ms = .ok found) : found = ms.map fun m => (m.1, g m.2) := by
  induction ms generalizing found with
  | nil =>
    cases h
    rfl
  | cons m ms ih =>
    obtain ⟨a, rest, rfl, hread, hrest⟩ := entries_cons_ok h
    rw [List.forall_mem_cons] at hg
    rw [List.map_cons, hg.1 _ _ hread, ih hg.2 hrest]

theorem entries_reads {ms : List (String × α)} (h : ∀ m ∈ ms, Reads r (some (f m.2)) m.2) (path : List Step) :
    entries anyName r path (ms.map fun m => (m.1, f m.2)) = .ok ms := by
  induction ms with
  | nil => rfl
  | cons m rest ih =>
    rw [List.forall_mem_cons] at h
    rw [List.map_cons, entries, h.1, ih h.2]
    rfl

/-- A table holds its members in order, and none under the reserved name. -/
theorem Stable.table (h : Stable r fun a => some (f a)) :
    Stable (table anyName r) fun ms => some (.record (ms.map fun m => (m.1, f m.2)) []) := by
  intro path d ms hread path'
  unfold Schema.table at hread
  split at hread
  · obtain ⟨found, hfound, rfl⟩ := Checked.map_eq_ok.1 hread
    have hmem : ∀ m ∈ Members.ofList (found.filter fun m => m.1 != Data.lendingName),
        m ∈ found ∧ m.1 ≠ Data.lendingName := fun m hm => by
      simpa using List.mem_filter.1 (Members.mem_of_mem_ofList hm)
    have hreads : ∀ m ∈ Members.ofList (found.filter fun m => m.1 != Data.lendingName),
        Reads r (some (f m.2)) m.2 := fun m hm => by
      obtain ⟨path', d', -, hm⟩ := entries_ok hfound m (hmem m hm).1
      exact h _ _ _ hm
    unfold Schema.table
    dsimp only
    rw [visible_record, entries_reads hreads, Checked.map_ok, List.filter_eq_self.2 fun m hm => ?_, Members.ofList_ofList]
    simpa using (hmem m hm).2
  · cases hread

end Schema

end VariantForge
