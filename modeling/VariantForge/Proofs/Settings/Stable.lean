import VariantForge.Proofs.Settings.Reading
import VariantForge.Proofs.Text.Units
import VariantForge.Settings.Shape

/-!
# Stable shapes — candidates, rules, spells and variants

What is read of a record with certain members is told by what is read of each (`candidate_ok` and its like), and
members that are written down are found where they are looked for. So these records are read again as they were
read. Rules lie inside each other, and a record of one is just as deep as it (`reads_rule`).
-/

namespace VariantForge.Schema

open Checked

variable {p : List Step} {get : String → Option Data}

/-! ## Candidates and variants -/

theorem candidate_ok {name url : Checked String} {ref : Checked (Option String)} {c : Candidate} :
    (Candidate.mk <$> name <*> url <*> ref) = .ok c ↔ name = .ok c.name ∧ url = .ok c.url ∧ ref = .ok c.ref := by
  cases c
  simp only [seq_eq_ok, map_eq_ok]
  aesop

theorem stable_candidate : Stable candidate fun c => some c.toData := by
  intro path d c h path'
  obtain ⟨get, h⟩ := record_ok h
  obtain ⟨hname, hurl, href⟩ := candidate_ok.1 h
  dsimp only
  rw [Candidate.toData, candidate, record_eq]
  refine candidate_ok.2 ⟨field_eq_ok rfl (stable_text _ _ _ hname), field_eq_ok rfl (stable_text _ _ _ hurl),
    field_eq_ok ?_ (stable_text.optional _ _ _ href)⟩
  simp [Members.get?]

theorem variant_ok {name label : Checked String} {spells : Checked (List String)} {d : VariantDefinition} :
    (VariantDefinition.mk <$> name <*> label <*> spells) = .ok d ↔
      name = .ok d.name ∧ label = .ok d.label ∧ spells = .ok d.spells := by
  cases d
  simp only [seq_eq_ok, map_eq_ok]
  aesop

theorem stable_variant : Stable variant fun d => some d.toData := by
  intro path d v h path'
  obtain ⟨get, h⟩ := record_ok h
  obtain ⟨hname, hlabel, hspells⟩ := variant_ok.1 h
  dsimp only
  rw [VariantDefinition.toData, variant, record_eq]
  exact variant_ok.2 ⟨field_eq_ok rfl (stable_text _ _ _ hname), field_eq_ok rfl (stable_text _ _ _ hlabel),
    field_eq_ok rfl (stable_text.list _ _ _ hspells)⟩

/-! ## Rules -/

/-- Whether a string is the text of a text that was read from one that is not empty. -/
theorem reads_textOf {path : List Step} {d : Option Data} {s : String} (h : text path d = .ok s) :
    Reads text (some (.text (Text.ofString s).toString)) (Text.ofString s).toString :=
  reads_text (Text.toString_ofString_ne_empty (text_eq_ok h))

theorem stable_replaceRule : Stable replaceRule fun rule => some rule.toData := by
  intro path d rule h path'
  obtain ⟨get, h⟩ := record_ok h
  simp only [seq_eq_ok, map_eq_ok] at h
  obtain ⟨_, flags, ⟨_, pattern, ⟨_, replacement, ⟨find, hfind, rfl⟩, -, rfl⟩, hpattern, rfl⟩, hflags, rfl⟩ := h
  dsimp only
  rw [Rule.toData, replaceRule, record_eq, field_eq_ok rfl (reads_textOf hfind),
    field_eq_ok (r := anyText) rfl fun _ => rfl, field_eq_ok ?_ (stable_bool.optional _ _ _ hpattern),
    field_eq_ok ?_ (stable_anyText.optional _ _ _ hflags)]
  · simp only [map_ok, ok_seq_ok, Text.ofString_toString]
  · simp [Members.get?, Members.get?_append]
  · simp [Members.get?, Members.get?_append]

theorem stable_insertRule (side : Side) : Stable (insertRule side) fun rule => some rule.toData := by
  intro path d rule h path'
  obtain ⟨get, h⟩ := record_ok h
  simp only [seq_eq_ok, map_eq_ok] at h
  obtain ⟨_, pattern, ⟨_, put, ⟨anchor, hanchor, rfl⟩, hput, rfl⟩, hpattern, rfl⟩ := h
  dsimp only
  rw [Rule.toData, insertRule, record_eq, field_eq_ok rfl (reads_textOf hanchor), field_eq_ok rfl (reads_textOf hput),
    field_eq_ok ?_ (stable_bool.optional _ _ _ hpattern)]
  · simp only [map_ok, ok_seq_ok, Text.ofString_toString]
  · simp [Members.get?]

theorem replaceRule_form {path : List Step} {d : Option Data} {rule : Rule} (h : replaceRule path d = .ok rule) :
    ∃ find replacement pattern flags, rule = .replace find replacement pattern flags := by
  obtain ⟨get, h⟩ := record_ok h
  simp only [seq_eq_ok, map_eq_ok] at h
  obtain ⟨_, _, ⟨_, _, ⟨_, _, ⟨_, -, rfl⟩, -, rfl⟩, -, rfl⟩, -, rfl⟩ := h
  exact ⟨_, _, _, _, rfl⟩

theorem insertRule_form {side : Side} {path : List Step} {d : Option Data} {rule : Rule}
    (h : insertRule side path d = .ok rule) : ∃ anchor put pattern, rule = .insert side anchor put pattern := by
  obtain ⟨get, h⟩ := record_ok h
  simp only [seq_eq_ok, map_eq_ok] at h
  obtain ⟨_, _, ⟨_, _, ⟨_, -, rfl⟩, -, rfl⟩, -, rfl⟩ := h
  exact ⟨_, _, _, rfl⟩

theorem oneOfKinds_ok {α : Type} {kinds : List (String × Reader α)} {path : List Step} {d : Option Data} {a : α}
    (h : oneOfKinds kinds path d = .ok a) : ∃ kind ∈ kinds, kind.2 path d = .ok a := by
  unfold oneOfKinds at h
  split at h
  · dsimp only at h
    split at h
    · rename_i r hr
      refine ⟨r, ?_, h⟩
      split at hr
      · exact List.mem_of_find?_eq_some hr
      · cases hr
    · cases h
  · cases h

theorem oneOfKinds_eq {α : Type} {kinds : List (String × Reader α)} (kind : String × Reader α) {own : Members Data}
    (hkind : Members.get? own "kind" = some (.text kind.1))
    (hfind : kinds.find? (fun r => r.1 == kind.1) = some kind) (path : List Step) :
    oneOfKinds kinds path (some (.record own [])) = kind.2 path (some (.record own [])) := by
  unfold oneOfKinds
  simp only [get?_record, hkind, hfind]

theorem allToData_eq (rules : List Rule) : Rule.allToData rules = rules.map Rule.toData := by
  induction rules with
  | nil => rfl
  | cons rule rest ih => rw [Rule.allToData, ih, List.map_cons]

theorem depth_le_depthAll {ds : List Data} {d : Data} (h : d ∈ ds) : d.depth ≤ Data.depthAll ds := by
  induction ds with
  | nil => cases h
  | cons x rest ih =>
    rw [Data.depthAll]
    rcases List.mem_cons.1 h with rfl | h
    · exact Nat.le_max_left ..
    · exact Nat.le_trans (ih h) (Nat.le_max_right ..)

theorem depth_firstOf (rules : List Rule) :
    Data.depthAll (rules.map Rule.toData) + 1 < (Rule.firstOf rules).toData.depth := by
  rw [Rule.toData, allToData_eq]
  simp only [Data.depth, Data.depthMembers]
  omega

/-- A rule that was read is read again, if only as deep as it is. -/
theorem reads_rule {n : Nat} {path : List Step} {d : Option Data} {rule : Rule} (h : ruleOfDepth n path d = .ok rule)
    {m : Nat} (hm : rule.toData.depth < m) : Reads (ruleOfDepth m) (some rule.toData) rule := by
  induction n generalizing path d rule m with
  | zero => cases h
  | succ n ih =>
    obtain ⟨m, rfl⟩ : ∃ m', m = m' + 1 := ⟨m - 1, by omega⟩
    obtain ⟨kind, hkind, h⟩ := oneOfKinds_ok h
    intro path'
    simp only [List.mem_cons, List.not_mem_nil, or_false] at hkind
    rcases hkind with rfl | rfl | rfl | rfl
    · have hstable : replaceRule path' (some rule.toData) = .ok rule := stable_replaceRule _ _ _ h path'
      obtain ⟨find, replacement, pattern, flags, rfl⟩ := replaceRule_form h
      rw [Rule.toData] at hstable ⊢
      exact (oneOfKinds_eq ("replace", replaceRule) rfl rfl path').trans hstable
    · have hstable : insertRule .after path' (some rule.toData) = .ok rule :=
        stable_insertRule .after _ _ _ h path'
      obtain ⟨anchor, put, pattern, rfl⟩ := insertRule_form h
      rw [Rule.toData] at hstable ⊢
      exact (oneOfKinds_eq ("insert_after", insertRule .after) rfl rfl path').trans hstable
    · have hstable : insertRule .before path' (some rule.toData) = .ok rule :=
        stable_insertRule .before _ _ _ h path'
      obtain ⟨anchor, put, pattern, rfl⟩ := insertRule_form h
      rw [Rule.toData] at hstable ⊢
      exact (oneOfKinds_eq ("insert_before", insertRule .before) rfl rfl path').trans hstable
    · dsimp only at h
      obtain ⟨get, h⟩ := record_ok h
      obtain ⟨rules, hrules, rfl⟩ := map_eq_ok.1 h
      obtain ⟨hne, hall⟩ := nonEmptyList_ok hrules
      have hdepth := depth_firstOf rules
      have hreads : Reads (nonEmptyList (ruleOfDepth m)) (some (.list (rules.map Rule.toData))) rules := by
        refine reads_nonEmptyList hne fun rule hrule => ?_
        obtain ⟨path'', d', hread⟩ := hall rule hrule
        have := depth_le_depthAll (List.mem_map_of_mem (f := Rule.toData) hrule)
        exact ih hread (by omega)
      rw [Rule.toData, allToData_eq]
      refine (oneOfKinds_eq ("first_of", _) rfl rfl path').trans ?_
      dsimp only
      rw [record_eq, field_eq_ok rfl hreads, map_ok]

theorem stable_rule : Stable rule fun r => some r.toData :=
  fun _ _ _ h => reads_rule h (Nat.lt_succ_self _)

/-! ## Spells -/

/-- The members of a spell's record that tell its work. -/
def workMembers : Work → Members Data
  | .edit file marker rules =>
    [("file", .text file), ("marker", .text marker.toString), ("rules", .list (rules.map Rule.toData))]
  | .patch file => [("patchFile", .text file)]
  | .mergeRequest remote ref => [("remote", .text remote), ("ref", .text ref)]

/-- The members that every spell's record begins with. -/
def spellMembers (s : Spell) : Members Data :=
  [("id", .text s.id)] ++ Data.given "description" (s.description.map .text) ++
    Data.given "requires" (s.requires.map Data.texts) ++ [("kind", .text s.kind.name)]

theorem spell_toData (s : Spell) : s.toData = .record (spellMembers s ++ workMembers s.work) [] := by
  rw [Spell.toData, spellMembers]
  cases s.work <;> simp [workMembers, allToData_eq]

theorem spellMk_ok {id : Checked String} {description : Checked (Option String)}
    {requires : Checked (Option (List String))} {work : Checked Work} {s : Spell} :
    (Spell.mk <$> id <*> description <*> requires <*> work) = .ok s ↔
      id = .ok s.id ∧ description = .ok s.description ∧ requires = .ok s.requires ∧ work = .ok s.work := by
  cases s
  simp only [seq_eq_ok, map_eq_ok]
  aesop

/-- What is read of a work that edits a file. -/
def editWork (p : List Step) (get : String → Option Data) : Checked Work :=
  (fun file marker rules => Work.edit file (Text.ofString marker) rules)
    <$> field "file" text p get <*> field "marker" text p get <*> field "rules" (nonEmptyList rule) p get

/-- What is read of a work that applies a patch. -/
def patchWork (p : List Step) (get : String → Option Data) : Checked Work :=
  Work.patch <$> field "patchFile" text p get

/-- What is read of a work that merges a request. -/
def mergeWork (p : List Step) (get : String → Option Data) : Checked Work :=
  Work.mergeRequest <$> field "remote" (withDefault (.text "origin") text) p get <*> field "ref" text p get

/-- The kinds of spells, each with its reader. -/
def spellKinds : List (String × Reader Spell) :=
  [("text_rewrite", spellWith editWork), ("diff_patch", spellWith patchWork), ("merge_request", spellWith mergeWork)]

theorem spell_eq : spell = oneOfKinds spellKinds := rfl

theorem get?_workMembers {name : String} (h : name ∈ ["id", "description", "requires", "kind"]) (w : Work) :
    Members.get? (workMembers w) name = none := by
  simp only [List.mem_cons, List.not_mem_nil, or_false] at h
  rcases h with rfl | rfl | rfl | rfl <;> cases w <;> rfl

theorem get?_spell {name : String} (h : name ∉ ["id", "description", "requires", "kind"]) (s : Spell) :
    Members.get? (spellMembers s ++ workMembers s.work) name = Members.get? (workMembers s.work) name := by
  simp only [List.mem_cons, List.not_mem_nil, or_false, not_or] at h
  have hnone : Members.get? (spellMembers s) name = none := by
    simp [spellMembers, Members.get?_append, Members.get?, Ne.symm h.1, Ne.symm h.2.1, Ne.symm h.2.2.1,
      Ne.symm h.2.2.2]
  rw [Members.get?_append, hnone, Option.none_or]

/-- A spell is read again if its work is, from whatever members stand before those that tell it. -/
theorem reads_spellWith {work : List Step → (String → Option Data) → Checked Work} {path : List Step}
    {d : Option Data} {s : Spell} (h : spellWith work path d = .ok s)
    (hwork : ∀ p get, work p get = .ok s.work →
      ∀ path', work path' (Members.get? (spellMembers s ++ workMembers s.work)) = .ok s.work) :
    Reads (spellWith work) (some s.toData) s := by
  intro path'
  obtain ⟨get, h⟩ := record_ok h
  obtain ⟨hid, hdescription, hrequires, hw⟩ := spellMk_ok.1 h
  rw [spell_toData, spellWith, record_eq]
  refine spellMk_ok.2 ⟨field_eq_ok ?_ (stable_text _ _ _ hid), field_eq_ok ?_ (stable_anyText.optional _ _ _ hdescription),
    field_eq_ok ?_ (stable_text.list.optional _ _ _ hrequires), hwork _ _ hw _⟩
  · rw [Members.get?_append, get?_workMembers (by simp), Option.or_none]
    rfl
  · rw [Members.get?_append, get?_workMembers (by simp), Option.or_none]
    simp [spellMembers, Members.get?, Members.get?_append]
  · rw [Members.get?_append, get?_workMembers (by simp), Option.or_none]
    simp [spellMembers, Members.get?, Members.get?_append]
    rfl

theorem get?_kind (s : Spell) :
    Members.get? (spellMembers s ++ workMembers s.work) "kind" = some (.text s.kind.name) := by
  rw [Members.get?_append, get?_workMembers (by simp), Option.or_none]
  simp [spellMembers, Members.get?, Members.get?_append]

/-- What is found in a spell's record by those who look for its work. -/
def Spell.found (s : Spell) : String → Option Data := Members.get? (spellMembers s ++ workMembers s.work)

theorem editWork_reads {s : Spell} (h : editWork p get = .ok s.work) :
    s.kind = .edit ∧ ∀ path', editWork path' (Spell.found s) = .ok s.work := by
  simp only [editWork, seq_eq_ok, map_eq_ok] at h
  obtain ⟨_, rules, ⟨_, marker, ⟨file, hfile, rfl⟩, hmarker, rfl⟩, hrules, hwork⟩ := h
  refine ⟨by rw [Spell.kind, ← hwork], fun path' => ?_⟩
  have hfound {name : String} (hname : name ∉ ["id", "description", "requires", "kind"]) :
      Spell.found s name = Members.get? (workMembers (.edit file (Text.ofString marker) rules)) name := by
    rw [Spell.found, get?_spell hname, ← hwork]
  rw [editWork, field_eq_ok (hfound (by simp)) (stable_text _ _ _ hfile),
    field_eq_ok (hfound (by simp)) (reads_textOf hmarker),
    field_eq_ok (hfound (by simp)) (stable_rule.nonEmptyList _ _ _ hrules)]
  simp only [map_ok, ok_seq_ok, Text.ofString_toString, hwork]

theorem patchWork_reads {s : Spell} (h : patchWork p get = .ok s.work) :
    s.kind = .patch ∧ ∀ path', patchWork path' (Spell.found s) = .ok s.work := by
  obtain ⟨file, hfile, hwork⟩ := map_eq_ok.1 h
  refine ⟨by rw [Spell.kind, ← hwork], fun path' => ?_⟩
  have hfound : Spell.found s "patchFile" = some (.text file) := by
    rw [Spell.found, get?_spell (by simp), ← hwork]
    rfl
  rw [patchWork, field_eq_ok hfound (stable_text _ _ _ hfile), map_ok, hwork]

theorem mergeWork_reads {s : Spell} (h : mergeWork p get = .ok s.work) :
    s.kind = .mergeRequest ∧ ∀ path', mergeWork path' (Spell.found s) = .ok s.work := by
  obtain ⟨_, ref, hg, href, hwork⟩ := seq_eq_ok.1 h
  obtain ⟨remote, hremote, rfl⟩ := map_eq_ok.1 hg
  refine ⟨by rw [Spell.kind, ← hwork], fun path' => ?_⟩
  have hfound {name : String} (hname : name ∉ ["id", "description", "requires", "kind"]) :
      Spell.found s name = Members.get? (workMembers (.mergeRequest remote ref)) name := by
    rw [Spell.found, get?_spell hname, ← hwork]
  rw [mergeWork, field_eq_ok (hfound (by simp)) ((stable_text.withDefault (fun _ => rfl) _) _ _ _ hremote),
    field_eq_ok (hfound (by simp)) (stable_text _ _ _ href), map_ok, ok_seq_ok, hwork]

theorem stable_spell : Stable spell fun s => some s.toData := by
  intro path d s h path'
  -- a spell is read again by the reader of its kind, if its work is
  have hagain (kind : SpellKind) {work : List Step → (String → Option Data) → Checked Work}
      (hfind : spellKinds.find? (fun r => r.1 == kind.name) = some (kind.name, spellWith work))
      (hread : spellWith work path d = .ok s)
      (hwork : ∀ {p get}, work p get = .ok s.work → s.kind = kind ∧ ∀ path', work path' (Spell.found s) = .ok s.work) :
      spell path' (some s.toData) = .ok s := by
    obtain ⟨get, hs⟩ := record_ok hread
    obtain ⟨hkind, -⟩ := hwork (spellMk_ok.1 hs).2.2.2
    have hreads := reads_spellWith hread (fun p get hw => (hwork hw).2) path'
    rw [spell_toData] at hreads ⊢
    rw [spell_eq, oneOfKinds_eq (kind.name, spellWith work) (by rw [get?_kind, hkind]) hfind]
    exact hreads
  rw [spell_eq] at h
  obtain ⟨kind, hkind, h⟩ := oneOfKinds_ok h
  simp only [spellKinds, List.mem_cons, List.not_mem_nil, or_false] at hkind
  rcases hkind with rfl | rfl | rfl
  · exact hagain .edit rfl h editWork_reads
  · exact hagain .patch rfl h patchWork_reads
  · exact hagain .mergeRequest rfl h mergeWork_reads

end VariantForge.Schema
