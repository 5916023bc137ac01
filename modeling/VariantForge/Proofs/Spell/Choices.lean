import VariantForge.Proofs.Text.Search
import VariantForge.Spell.Rule

/-!
# Choices — a rule is its leaves, a list of rules is a chain

A choice of rules, however deep it is, does what the first of its leaves does that finds anything in the
text (`apply_eq_applyFirst_leaves`); a leaf is looked at only if all leaves before it found nothing. In a
list each rule works on what the ones before it made (`Feeds`), and those that find nothing may as well be
left out.
-/

namespace VariantForge.Rule

variable {content content' : Text} {rule leaf : Rule} {rules before after : List Rule} {edit : Edit}
  {edits : List Edit} {edited done : Edited} {e : Pattern.Error}

/-! ## Leaves -/

/-- An insertion whose pattern can be used puts its text in next to the first place that it fits. -/
theorem applyInsert_eq {c : Pattern.Compiled} {side : Side} {anchor text : Text} {pattern : Option Bool}
    (hcompile : compileTarget anchor pattern "m" = .ok c) :
    applyInsert content side anchor text pattern = .ok (match c.search? content with
      | none => ⟨content, false⟩
      | some m => ⟨content.insertedAt text (insertPoint side m), true⟩) := by
  rw [applyInsert, hcompile]
  dsimp only [bind, Except.bind]
  cases c.search? content <;> rfl

mutual

/-- The rules that are no choices and make up a rule, from left to right. -/
def leaves : Rule → List Rule
  | .replace find replacement pattern flags => [.replace find replacement pattern flags]
  | .insert side anchor text pattern => [.insert side anchor text pattern]
  | .firstOf rules => leavesOfAll rules

/-- The leaves of several rules. -/
def leavesOfAll : List Rule → List Rule
  | [] => []
  | rule :: rest => leaves rule ++ leavesOfAll rest

end

/-- Whether a rule is no choice. -/
def IsLeaf : Rule → Prop
  | .firstOf _ => False
  | _ => True

mutual

theorem isLeaf_of_mem_leaves : (rule : Rule) → leaf ∈ rule.leaves → leaf.IsLeaf
  | .replace find replacement pattern flags => fun h => by
    rw [leaves, List.mem_singleton] at h
    subst h
    trivial
  | .insert side anchor text pattern => fun h => by
    rw [leaves, List.mem_singleton] at h
    subst h
    trivial
  | .firstOf rules => fun h => by
    rw [leaves] at h
    exact isLeaf_of_mem_leavesOfAll rules h

theorem isLeaf_of_mem_leavesOfAll : (rules : List Rule) → leaf ∈ leavesOfAll rules → leaf.IsLeaf
  | [] => fun h => by
    rw [leavesOfAll] at h
    cases h
  | rule :: rules => fun h => by
    rw [leavesOfAll, List.mem_append] at h
    exact h.elim (isLeaf_of_mem_leaves rule) (isLeaf_of_mem_leavesOfAll rules)

end

/-- Why a pattern cannot be used, if it cannot. -/
def faultOf : Except Pattern.Error Pattern.Compiled → Option Pattern.Error
  | .ok _ => none
  | .error e => some e

/-- What is wrong with the pattern or the flags of a leaf. -/
def fault? : Rule → Option Pattern.Error
  | .replace find _ pattern flags => faultOf (compileTarget find pattern (replaceFlags flags))
  | .insert _ anchor _ pattern => faultOf (compileTarget anchor pattern "m")
  | .firstOf _ => none

/-- Whether a rule finds nothing in a text, and leaves it as it is. -/
def Passes (content : Text) (rule : Rule) : Prop := rule.apply content = .ok ⟨content, false⟩

/-- Whether a leaf of a rule is tried on a text: all leaves before it find nothing. -/
def Reaches (content : Text) (rule leaf : Rule) : Prop :=
  ∃ before after, rule.leaves = before ++ leaf :: after ∧ ∀ l ∈ before, l.Passes content

/-- What becomes of a leaf: it fails if its pattern or its flags cannot be used, and only then; and what finds
nothing leaves the text as it is. -/
inductive Ends (content : Text) : Except Pattern.Error Pattern.Compiled → Except Pattern.Error Edit → Prop where
  | error (e : Pattern.Error) : Ends content (.error e) (.error e)
  | ok (c : Pattern.Compiled) (edit : Edit) (hidle : edit.matched = false → edit = ⟨content, false⟩) :
      Ends content (.ok c) (.ok edit)

theorem applyReplace_ends (content find replacement : Text) (pattern : Option Bool) (flags : Option String) :
    Ends content (compileTarget find pattern (replaceFlags flags))
      (applyReplace content find replacement pattern flags) := by
  rw [applyReplace]
  cases compileTarget find pattern (replaceFlags flags) with
  | error e => exact .error e
  | ok c =>
    dsimp only [bind, Except.bind]
    split
    · exact .ok c _ fun _ => rfl
    · split
      · exact .ok c _ fun h => by cases h
      · exact .ok c _ fun h => by cases h

theorem applyInsert_ends (content : Text) (side : Side) (anchor text : Text) (pattern : Option Bool) :
    Ends content (compileTarget anchor pattern "m") (applyInsert content side anchor text pattern) := by
  rw [applyInsert]
  cases compileTarget anchor pattern "m" with
  | error e => exact .error e
  | ok c =>
    dsimp only [bind, Except.bind]
    cases c.search? content with
    | none => exact .ok c _ fun _ => rfl
    | some m => exact .ok c _ fun h => by cases h

theorem Ends.idle {r : Except Pattern.Error Pattern.Compiled} {a : Except Pattern.Error Edit} (h : Ends content r a)
    (ha : a = .ok edit) (hidle : edit.matched = false) : edit = ⟨content, false⟩ := by
  cases h with
  | error e => cases ha
  | ok c edit' h' =>
    cases ha
    exact h' hidle

theorem Ends.fault {r : Except Pattern.Error Pattern.Compiled} {a : Except Pattern.Error Edit} (h : Ends content r a) :
    faultOf r = some e ↔ a = .error e := by
  cases h <;> simp [faultOf]

/-- A leaf fails if its pattern or its flags cannot be used, and only then. -/
theorem fault?_eq_some (h : leaf.IsLeaf) : leaf.fault? = some e ↔ leaf.apply content = .error e := by
  cases leaf with
  | replace find replacement pattern flags =>
    rw [apply]
    exact (applyReplace_ends content find replacement pattern flags).fault
  | insert side anchor text pattern =>
    rw [apply]
    exact (applyInsert_ends content side anchor text pattern).fault
  | firstOf rules => exact h.elim

/-! ## One after the other on one text -/

theorem applyFirst_cons : applyFirst content (rule :: rules) =
    match rule.apply content with
    | .error e => .error e
    | .ok edit => if edit.matched then .ok edit else applyFirst content rules :=
  applyFirst.eq_2 content rule rules

theorem applyFirst_append : applyFirst content (rules ++ after) =
    match applyFirst content rules with
    | .error e => .error e
    | .ok edit => if edit.matched then .ok edit else applyFirst content after := by
  induction rules with
  | nil => rw [applyFirst]; rfl
  | cons rule rules ih =>
    rw [List.cons_append, applyFirst_cons, applyFirst_cons, ih]
    cases rule.apply content with
    | error e => rfl
    | ok edit =>
      dsimp only
      cases h : edit.matched with
      | true => simp [h]
      | false => rfl

/-- A leaf alone is a choice without others. -/
theorem applyFirst_singleton {r : Except Pattern.Error Pattern.Compiled} (h : Ends content r (leaf.apply content)) :
    applyFirst content [leaf] = leaf.apply content := by
  rw [applyFirst_cons, applyFirst]
  cases hleaf : leaf.apply content with
  | error e => rfl
  | ok edit =>
    dsimp only
    cases hidle : edit.matched with
    | true => rfl
    | false =>
      rw [h.idle hleaf hidle]
      rfl

mutual

/-- A rule does what a choice of its leaves does. -/
theorem apply_eq_applyFirst_leaves (content : Text) : (rule : Rule) → rule.apply content = applyFirst content rule.leaves
  | .replace find replacement pattern flags => by
    have h := applyReplace_ends content find replacement pattern flags
    rw [leaves, applyFirst_singleton (by rw [apply]; exact h)]
  | .insert side anchor text pattern => by
    have h := applyInsert_ends content side anchor text pattern
    rw [leaves, applyFirst_singleton (by rw [apply]; exact h)]
  | .firstOf rules => by rw [apply, leaves, applyFirst_leavesOfAll content rules]

theorem applyFirst_leavesOfAll (content : Text) : (rules : List Rule) →
    applyFirst content rules = applyFirst content (leavesOfAll rules)
  | [] => rfl
  | rule :: rules => by
    rw [applyFirst_cons, leavesOfAll, applyFirst_append, apply_eq_applyFirst_leaves content rule,
      applyFirst_leavesOfAll content rules]

end

/-- A choice that finds nothing leaves the text as it is. -/
theorem applyFirst_idle (h : applyFirst content rules = .ok edit) (hidle : edit.matched = false) :
    edit = ⟨content, false⟩ := by
  induction rules with
  | nil =>
    rw [applyFirst] at h
    cases h
    rfl
  | cons rule rules ih =>
    rw [applyFirst_cons] at h
    cases hrule : rule.apply content with
    | error e => simp [hrule] at h
    | ok edit' =>
      simp only [hrule] at h
      split at h
      · cases h
        simp_all
      · exact ih h

theorem apply_idle (h : rule.apply content = .ok edit) (hidle : edit.matched = false) : edit = ⟨content, false⟩ := by
  rw [apply_eq_applyFirst_leaves] at h
  exact applyFirst_idle h hidle

/-- Whether a result ends a choice: a failure does, and an edit that found something. -/
def Final (r : Except Pattern.Error Edit) : Prop := ∀ edit, r = .ok edit → edit.matched = true

theorem not_final_passes (h : leaf.Passes content) : ¬ Final (leaf.apply content) := fun hfinal => by
  have := hfinal _ h
  cases this

/-- A choice ends with the first of its rules that does not pass. -/
theorem applyFirst_eq_final {r : Except Pattern.Error Edit} (hr : Final r) : applyFirst content rules = r ↔
    ∃ before leaf after, rules = before ++ leaf :: after ∧ (∀ l ∈ before, Passes content l) ∧ leaf.apply content = r := by
  induction rules with
  | nil =>
    rw [applyFirst]
    constructor
    · rintro rfl
      exact absurd (hr _ rfl) (by simp)
    · rintro ⟨before, leaf, after, heq, -⟩
      simp at heq
  | cons rule rules ih =>
    -- A rule that passes is skipped on both sides; one that does not is the one that ends the choice.
    by_cases hpass : Passes content rule
    · have hskip : applyFirst content (rule :: rules) = applyFirst content rules := by
        rw [applyFirst_cons, hpass]
        rfl
      rw [hskip, ih]
      constructor
      · rintro ⟨before, leaf, after, rfl, hbefore, hleaf⟩
        exact ⟨rule :: before, leaf, after, rfl, by simpa using ⟨hpass, hbefore⟩, hleaf⟩
      · rintro ⟨before, leaf, after, heq, hbefore, hleaf⟩
        cases before with
        | nil =>
          cases heq
          exact absurd (hleaf ▸ hr) (not_final_passes hpass)
        | cons b before =>
          cases heq
          exact ⟨before, leaf, after, rfl, fun l hl => hbefore l (by simp [hl]), hleaf⟩
    · have hstop : applyFirst content (rule :: rules) = rule.apply content := by
        rw [applyFirst_cons]
        cases hrule : rule.apply content with
        | error e => rfl
        | ok edit =>
          cases hidle : edit.matched with
          | true => simp [hidle]
          | false =>
            obtain rfl := apply_idle hrule hidle
            exact absurd hrule hpass
      rw [hstop]
      constructor
      · exact fun h => ⟨[], rule, rules, rfl, by simp, h⟩
      · rintro ⟨before, leaf, after, heq, hbefore, hleaf⟩
        cases before with
        | nil =>
          cases heq
          exact hleaf
        | cons b before =>
          cases heq
          exact absurd (hbefore _ (by simp)) hpass

/-- A choice finds nothing only if none of its rules does. -/
theorem applyFirst_eq_idle : applyFirst content rules = .ok ⟨content, false⟩ ↔ ∀ l ∈ rules, Passes content l := by
  induction rules with
  | nil => simp [applyFirst]
  | cons rule rules ih =>
    rw [applyFirst_cons, List.forall_mem_cons, ← ih]
    cases hrule : rule.apply content with
    | error e => simp [Passes, hrule]
    | ok edit =>
      cases hidle : edit.matched with
      | true =>
        have hne : edit ≠ ⟨content, false⟩ := fun h => by simp [h] at hidle
        simp [Passes, hrule, hidle, hne]
      | false =>
        obtain rfl := apply_idle hrule hidle
        simp [Passes, hrule]

/-! ## One after the other, each on what the one before made -/

/-- Whether rules make these edits, and at last a text, each working on what the one before it made. -/
inductive Feeds : Text → List Rule → List Edit → Text → Prop where
  | nil (content : Text) : Feeds content [] [] content
  | cons {rule : Rule} {content : Text} {edit : Edit} {rules : List Rule} {edits : List Edit} {content' : Text}
      (happly : rule.apply content = .ok edit) (hrest : Feeds edit.content rules edits content') :
      Feeds content (rule :: rules) (edit :: edits) content'

/-- The rules whose edits found something, in order. -/
def used (rules : List Rule) (edits : List Edit) : List Rule :=
  ((rules.zip edits).filter (·.2.matched)).map (·.1)

/-- The rules whose edits found nothing, in order. -/
def unused (rules : List Rule) (edits : List Edit) : List Rule :=
  ((rules.zip edits).filter (!·.2.matched)).map (·.1)

theorem applyNext_eq (h : rule.apply done.content = .ok edit) : applyNext done rule =
    .ok ⟨edit.content, done.matched + if edit.matched then 1 else 0,
      done.unmatched ++ if edit.matched then [] else [rule.describe]⟩ := by
  rw [applyNext, h]
  dsimp only [bind, Except.bind]
  cases edit.matched <;> simp <;> rfl

theorem foldlM_applyNext (h : Feeds done.content rules edits content') : rules.foldlM applyNext done =
    .ok ⟨content', done.matched + edits.countP (·.matched), done.unmatched ++ (unused rules edits).map describe⟩ := by
  generalize hstart : done.content = start at h
  induction h generalizing done with
  | nil content =>
    subst hstart
    simp [unused]
    rfl
  | @cons rule content edit rules edits content' happly hrest ih =>
    subst hstart
    rw [List.foldlM_cons, applyNext_eq happly]
    dsimp only [bind, Except.bind]
    rw [ih rfl]
    cases hm : edit.matched <;> simp [unused, hm, Nat.add_assoc, Nat.add_comm 1]

theorem feeds_of_foldlM (h : rules.foldlM applyNext done = .ok edited) :
    ∃ edits, Feeds done.content rules edits edited.content := by
  induction rules generalizing done with
  | nil =>
    cases h
    exact ⟨[], .nil _⟩
  | cons rule rules ih =>
    rw [List.foldlM_cons] at h
    cases hrule : rule.apply done.content with
    | error e =>
      rw [applyNext, hrule] at h
      cases h
    | ok edit =>
      rw [applyNext_eq hrule] at h
      obtain ⟨edits, hedits⟩ := ih h
      exact ⟨edit :: edits, .cons hrule hedits⟩

theorem Feeds.det {edits' : List Edit} {content'' : Text} (h : Feeds content rules edits content')
    (h' : Feeds content rules edits' content'') : edits = edits' ∧ content' = content'' := by
  induction h generalizing edits' with
  | nil content =>
    cases h'
    exact ⟨rfl, rfl⟩
  | cons happly hrest ih =>
    cases h' with
    | cons happly' hrest' =>
      cases happly.symm.trans happly'
      obtain ⟨rfl, rfl⟩ := ih hrest'
      exact ⟨rfl, rfl⟩

/-- What found something makes the same text alone. -/
theorem Feeds.used (h : Feeds content rules edits content') :
    Feeds content (used rules edits) (edits.filter (·.matched)) content' := by
  induction h with
  | nil content => exact .nil content
  | @cons rule content edit rules edits content' happly hrest ih =>
    cases hm : edit.matched with
    | true =>
      simp only [Rule.used, List.zip_cons_cons, List.filter_cons, hm, if_true, List.map_cons]
      exact .cons happly ih
    | false =>
      have hsame : edit.content = content := by rw [apply_idle happly hm]
      simp only [Rule.used, List.zip_cons_cons, List.filter_cons, hm, Bool.false_eq_true, if_false]
      exact hsame ▸ ih

theorem Feeds.length (h : Feeds content rules edits content') :
    edits.countP (·.matched) + (unused rules edits).length = rules.length := by
  induction h with
  | nil content => rfl
  | @cons rule content edit rules edits content' happly hrest ih =>
    cases hm : edit.matched <;> simp_all [unused] <;> omega

/-- A list of rules fails at the first of them that does. -/
theorem foldlM_applyNext_eq_error : rules.foldlM applyNext done = .error e ↔
    ∃ before rule after edits content', rules = before ++ rule :: after ∧
      Feeds done.content before edits content' ∧ rule.apply content' = .error e := by
  induction rules generalizing done with
  | nil =>
    constructor
    · intro h
      cases h
    · rintro ⟨before, rule, after, edits, content', heq, -⟩
      simp at heq
  | cons rule rules ih =>
    rw [List.foldlM_cons]
    cases hrule : rule.apply done.content with
    | error e' =>
      have hstep : applyNext done rule = .error e' := by
        rw [applyNext, hrule]
        rfl
      rw [hstep]
      constructor
      · intro h
        cases h
        exact ⟨[], rule, rules, [], _, rfl, .nil _, hrule⟩
      · rintro ⟨before, rule', after, edits, content', heq, hfeeds, herror⟩
        cases hfeeds with
        | nil =>
          cases heq
          cases hrule.symm.trans herror
          rfl
        | cons happly hrest =>
          cases heq
          cases hrule.symm.trans happly
    | ok edit =>
      rw [applyNext_eq hrule]
      dsimp only [bind, Except.bind]
      rw [ih]
      constructor
      · rintro ⟨before, rule', after, edits, content', rfl, hfeeds, herror⟩
        exact ⟨rule :: before, rule', after, edit :: edits, content', rfl, .cons hrule hfeeds, herror⟩
      · rintro ⟨before, rule', after, edits, content', heq, hfeeds, herror⟩
        cases hfeeds with
        | nil =>
          cases heq
          cases hrule.symm.trans herror
        | cons happly hrest =>
          cases heq
          cases hrule.symm.trans happly
          exact ⟨_, rule', after, _, content', rfl, hrest, herror⟩

/-! ## Both together -/

/-- What a rule does to a text when it finds something: what the first leaf does that does not pass. -/
theorem apply_eq_final {r : Except Pattern.Error Edit} (hr : Final r) :
    rule.apply content = r ↔ ∃ leaf, Reaches content rule leaf ∧ leaf.apply content = r := by
  rw [apply_eq_applyFirst_leaves, applyFirst_eq_final hr]
  constructor
  · rintro ⟨before, leaf, after, heq, hbefore, hleaf⟩
    exact ⟨leaf, ⟨before, after, heq, hbefore⟩, hleaf⟩
  · rintro ⟨leaf, ⟨before, after, heq, hbefore⟩, hleaf⟩
    exact ⟨before, leaf, after, heq, hbefore, hleaf⟩

theorem Reaches.isLeaf (h : Reaches content rule leaf) : leaf.IsLeaf := by
  obtain ⟨before, after, heq, -⟩ := h
  exact isLeaf_of_mem_leaves rule (by simp [heq])

theorem apply_eq_ok_iff : rule.apply content = .ok edit ↔
    (edit.matched = true ∧ ∃ leaf, Reaches content rule leaf ∧ leaf.apply content = .ok edit) ∨
      (edit = ⟨content, false⟩ ∧ ∀ leaf ∈ rule.leaves, leaf.Passes content) := by
  cases hm : edit.matched with
  | true =>
    have hfinal : Final (.ok edit) := fun _ h => by
      cases h
      exact hm
    have hne : edit ≠ ⟨content, false⟩ := fun h => by simp [h] at hm
    rw [apply_eq_final hfinal]
    simp only [true_and, hne, false_and, or_false]
  | false =>
    constructor
    · intro h
      obtain rfl := apply_idle h hm
      rw [apply_eq_applyFirst_leaves, applyFirst_eq_idle] at h
      exact .inr ⟨rfl, h⟩
    · rintro (⟨h, -⟩ | ⟨rfl, h⟩)
      · cases h
      · rw [apply_eq_applyFirst_leaves, applyFirst_eq_idle]
        exact h

theorem apply_eq_error_iff :
    rule.apply content = .error e ↔ ∃ leaf, Reaches content rule leaf ∧ leaf.fault? = some e := by
  rw [apply_eq_final (fun _ h => by cases h)]
  constructor
  · rintro ⟨leaf, hreaches, hleaf⟩
    exact ⟨leaf, hreaches, (fault?_eq_some hreaches.isLeaf).2 hleaf⟩
  · rintro ⟨leaf, hreaches, hleaf⟩
    exact ⟨leaf, hreaches, (fault?_eq_some hreaches.isLeaf).1 hleaf⟩

/-- A list of rules makes what its rules make one after the other, and counts them. -/
theorem applyAll_eq_ok_iff : applyAll content rules = .ok edited ↔
    ∃ edits, Feeds content rules edits edited.content ∧ edited.matched = edits.countP (·.matched) ∧
      edited.unmatched = (unused rules edits).map describe := by
  constructor
  · intro h
    obtain ⟨edits, hfeeds⟩ := feeds_of_foldlM h
    have hsame := h.symm.trans (foldlM_applyNext hfeeds)
    simp only [Except.ok.injEq, Nat.zero_add, List.nil_append] at hsame
    exact ⟨edits, hfeeds, congrArg Edited.matched hsame, congrArg Edited.unmatched hsame⟩
  · rintro ⟨edits, hfeeds, hmatched, hunmatched⟩
    rw [applyAll, foldlM_applyNext hfeeds, Nat.zero_add, List.nil_append, ← hmatched, ← hunmatched]

/-- Where all edits found something, no rule is unused. -/
theorem unused_of_matched (h : ∀ edit ∈ edits, edit.matched = true) : unused rules edits = [] := by
  rw [unused, List.map_eq_nil_iff, List.filter_eq_nil_iff]
  rintro ⟨rule, edit⟩ hmem
  simpa using h edit (List.of_mem_zip hmem).2

/-- The rules that found something make the same text without the others. -/
theorem applyAll_used (h : Feeds content rules edits content') :
    applyAll content (used rules edits) = .ok ⟨content', edits.countP (·.matched), []⟩ := by
  rw [applyAll_eq_ok_iff]
  refine ⟨edits.filter (·.matched), h.used, ?_, ?_⟩
  · simp [List.countP_filter]
  · rw [unused_of_matched (fun edit hedit => (List.mem_filter.1 hedit).2), List.map_nil]

/-- A choice is its leaves, and a list of rules is a chain. A choice of any depth does to a text what the first
of its leaves does that finds something there, all leaves being tried on that same text; it fails if a
leaf that cannot be used is reached before that, and only then; and if it finds nothing the text stays. In a
list each rule works on what the ones before it made, the first that fails ends it, those that found something
make the same text alone, each rule is counted or described, and those described are those that found nothing,
in order. -/
theorem apply_as_leaves (content : Text) :
    (∀ (rule : Rule) edit, rule.apply content = .ok edit ↔
      (edit.matched = true ∧ ∃ leaf, Reaches content rule leaf ∧ leaf.apply content = .ok edit) ∨
        (edit = ⟨content, false⟩ ∧ ∀ leaf ∈ rule.leaves, leaf.Passes content)) ∧
    (∀ (rule : Rule) e, rule.apply content = .error e ↔ ∃ leaf, Reaches content rule leaf ∧ leaf.fault? = some e) ∧
    (∀ (rule : Rule) edit, rule.apply content = .ok edit → edit.matched = false → edit.content = content) ∧
    (∀ rule : Rule, ∀ leaf ∈ rule.leaves, leaf.IsLeaf) ∧
    (∀ rules edited, applyAll content rules = .ok edited ↔
      ∃ edits, Feeds content rules edits edited.content ∧
        edited.matched = edits.countP (·.matched) ∧
        edited.unmatched = (unused rules edits).map describe ∧
        applyAll content (used rules edits) = .ok ⟨edited.content, edited.matched, []⟩ ∧
        edited.matched + edited.unmatched.length = rules.length) ∧
    (∀ rules e, applyAll content rules = .error e ↔
      ∃ before rule after edits content', rules = before ++ rule :: after ∧
        Feeds content before edits content' ∧ rule.apply content' = .error e) := by
  refine ⟨fun _ _ => apply_eq_ok_iff, fun _ _ => apply_eq_error_iff, fun rule edit h hidle => ?_,
    fun rule leaf => isLeaf_of_mem_leaves rule, fun rules edited => ?_, fun _ _ => foldlM_applyNext_eq_error⟩
  · rw [apply_idle h hidle]
  · rw [applyAll_eq_ok_iff]
    constructor
    · rintro ⟨edits, hfeeds, hmatched, hunmatched⟩
      refine ⟨edits, hfeeds, hmatched, hunmatched, ?_, ?_⟩
      · rw [applyAll_used hfeeds, hmatched]
      · rw [hmatched, hunmatched, List.length_map, hfeeds.length]
    · rintro ⟨edits, hfeeds, hmatched, hunmatched, -⟩
      exact ⟨edits, hfeeds, hmatched, hunmatched⟩

deriving instance DecidableEq for Except

/-- A leaf whose pattern cannot be used: a group in it has no end. -/
def broken : Rule := .replace (Text.ofString "(") (Text.ofString ")") (some true) none

/-- A choice within a choice: of a word, of a place after a letter, and of what may come last. -/
def nested (last : List Rule) : Rule :=
  .firstOf
    [.replace (Text.ofString "zero") (Text.ofString "one") none none,
      .firstOf (.insert .after (Text.ofString "b") (Text.ofString "!") none :: last)]

/-- A leaf that cannot be used is a fault only where no leaf before it finds anything. -/
theorem apply_as_leaves_nested :
    ((nested []).apply (Text.ofString "ac") = .ok ⟨Text.ofString "ac", false⟩ ∧
      (Edit.mk (Text.ofString "ac") false).content = Text.ofString "ac") ∧
    (∃ leaf, Reaches (Text.ofString "abc") (nested [broken]) leaf ∧
      leaf.apply (Text.ofString "abc") = .ok ⟨Text.ofString "ab!c", true⟩) ∧
    ∃ leaf, Reaches (Text.ofString "ac") (nested [broken]) leaf ∧
      leaf.fault? = some (.badSource "(" "gm" .unterminatedGroup) := by
  have hidle : (nested []).apply (Text.ofString "ac") = .ok ⟨Text.ofString "ac", false⟩ := by decide +kernel
  have hfound : (nested [broken]).apply (Text.ofString "abc") = .ok ⟨Text.ofString "ab!c", true⟩ := by
    decide +kernel
  have hfault : (nested [broken]).apply (Text.ofString "ac") =
      .error (.badSource "(" "gm" .unterminatedGroup) := by decide +kernel
  refine ⟨⟨hidle, (apply_as_leaves _).2.2.1 _ _ hidle rfl⟩, ?_, ((apply_as_leaves _).2.1 _ _).1 hfault⟩
  obtain ⟨-, h⟩ | ⟨h, -⟩ := ((apply_as_leaves _).1 _ _).1 hfound
  · exact h
  · cases congrArg Edit.matched h

end VariantForge.Rule
