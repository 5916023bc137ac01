import VariantForge.Proofs.Spell.Recast
import VariantForge.Proofs.Spell.Verbatim

/-!
# Insertions — an edit that only puts text in takes none away

Rules that only insert make a text grow at some places (`insertions`), and the marker goes to its end. If
all that was put in is cut out again, the last first, the text is what it was (`Restores`). The bytes of the file
are restored in the same way where no insertion comes between the halves of a pair or brings two together
(`Whole`): then they are what was read, which is all of the file if it was well-formed.
-/

namespace VariantForge

/-! ## Cutting out -/

/-- Whether cutting out pieces, one after the other, leads from one list to another. -/
inductive Restores {α : Type} : List (List α) → List α → List α → Prop where
  | done (us : List α) : Restores [] us us
  | cut {pieces : List (List α)} {old : List α} (before part after : List α)
      (h : Restores pieces (before ++ after) old) : Restores (part :: pieces) (before ++ part ++ after) old

section

variable {α : Type} {pieces : List (List α)} {new old : List α}

theorem Restores.length (h : Restores pieces new old) :
    new.length = old.length + (pieces.map List.length).sum := by
  induction h with
  | done us => rfl
  | cut before part after h ih =>
    simp only [List.length_append, List.map_cons, List.sum_cons] at ih ⊢
    omega

/-- One more piece is cut out at last. -/
theorem Restores.snoc {before part after : List α} (h : Restores pieces new (before ++ part ++ after)) :
    Restores (pieces ++ [part]) new (before ++ after) := by
  generalize hold : before ++ part ++ after = old at h
  induction h with
  | done us =>
    subst hold
    exact .cut before part after (.done _)
  | cut before' part' after' h ih => exact .cut before' part' after' (ih hold)

end

namespace Text

variable {content text marker : Text} {places : List (Nat × Text)} {i : Nat}

/-- A text after others were put in at places, one after the other. -/
def grown (content : Text) (places : List (Nat × Text)) : Text :=
  places.foldl (fun t place => t.insertedAt place.2 place.1) content

/-- Whether the units or bytes of a text are, at each place where another is put in, only parted by those of
the other. -/
def Parts {α : Type} (seen : Text → List α) (content : Text) : List (Nat × Text) → Prop
  | [] => True
  | (i, text) :: rest =>
    (∃ before after, seen (content.insertedAt text i) = before ++ seen text ++ after ∧
      seen content = before ++ after) ∧ Parts seen (content.insertedAt text i) rest

/-- What was put in is cut out again, the last first. -/
theorem Parts.restores {α : Type} {seen : Text → List α} (h : Parts seen content places) :
    Restores (places.map fun place => seen place.2).reverse (seen (content.grown places)) (seen content) := by
  induction places generalizing content with
  | nil => exact .done _
  | cons place rest ih =>
    obtain ⟨⟨before, after, hnew, hold⟩, hrest⟩ := h
    rw [List.map_cons, List.reverse_cons, hold]
    have hlater := ih hrest
    rw [hnew] at hlater
    exact hlater.snoc

theorem parts_units (content : Text) (places : List (Nat × Text)) : Parts Text.units content places := by
  induction places generalizing content with
  | nil => trivial
  | cons place rest ih =>
    exact ⟨⟨content.units.take place.1, content.units.drop place.1, rfl, (List.take_append_drop ..).symm⟩, ih _⟩

/-- Whether no text is put in between the halves of a pair, and none brings two halves together. -/
def Whole (content : Text) : List (Nat × Text) → Prop
  | [] => True
  | (i, text) :: rest =>
    (text.units = [] ∨
      WholeCut (content.take i).units (content.drop i).units ∧ WholeCut (content.take i).units text.units ∧
        WholeCut text.units (content.drop i).units) ∧ Whole (content.insertedAt text i) rest

/-- The bytes of a text in a list. -/
def bytesOf (t : Text) : List UInt8 := (Utf8.encodeText t).toList

theorem bytesOf_append {a b : Text} (h : WholeCut a.units b.units) : bytesOf (a ++ b) = bytesOf a ++ bytesOf b :=
  Utf8.encodeText_append h

theorem bytesOf_nil : bytesOf ⟨[]⟩ = [] := by
  rw [bytesOf, Utf8.toList_encodeText]
  rfl

theorem Whole.parts (h : Whole content places) : Parts bytesOf content places := by
  induction places generalizing content with
  | nil => trivial
  | cons place rest ih =>
    obtain ⟨i, text⟩ := place
    refine ⟨?_, ih h.2⟩
    have hall : content.take i ++ content.drop i = content := congrArg Text.mk (List.take_append_drop i content.units)
    -- An empty text parts nothing, even if it comes between the halves of a pair.
    rcases h.1 with hempty | ⟨hcut, hbefore, hafter⟩
    · have hsame : content.insertedAt text i = content := by
        have hnone : content.take i ++ text = content.take i := congrArg Text.mk (by rw [hempty]; exact List.append_nil _)
        rw [insertedAt, hnone, hall]
      have htext : bytesOf text = [] := by
        rw [← bytesOf_nil, ← hempty]
      exact ⟨[], bytesOf content, by rw [hsame, htext]; rfl, rfl⟩
    · refine ⟨bytesOf (content.take i), bytesOf (content.drop i), ?_, ?_⟩
      · have hlast : WholeCut (content.take i ++ text).units (content.drop i).units := by
          by_cases hempty : text.units = []
          · have hunits : (content.take i ++ text).units = (content.take i).units := by
              rw [← List.append_nil (content.take i).units, ← hempty]
              rfl
            rwa [hunits]
          · have hsame : (content.take i ++ text).units.getLast? = text.units.getLast? := by
              have hunits : (content.take i ++ text).units = (content.take i).units ++ text.units := rfl
              rw [hunits, List.getLast?_append_of_ne_nil _ hempty]
            rw [WholeCut, hsame]
            exact hafter
        rw [insertedAt, bytesOf_append hlast, bytesOf_append hbefore]
      · rw [← bytesOf_append hcut, hall]

/-! ## The marker -/

/-- What the marker adds to a text: a line of its own, unless the text has it somewhere. -/
def markerLine (content marker : Text) : Text :=
  if content.contains marker then ⟨[]⟩
  else ⟨(if content.units.isEmpty || content.endsWithUnit lineFeed then [] else [lineFeed]) ++ marker.units ++ [lineFeed]⟩

theorem withMarker_eq (content marker : Text) : content.withMarker marker = content ++ content.markerLine marker := by
  rw [withMarker, markerLine]
  split
  · exact congrArg Text.mk (List.append_nil _).symm
  · exact congrArg Text.mk (by simp)

/-- A marker's line begins after a line feed, with one, or with the text. -/
theorem wholeCut_markerLine (content marker : Text) : WholeCut content.units (content.markerLine marker).units := by
  intro hlead
  rw [markerLine]
  split
  · rfl
  · dsimp only
    split
    case isTrue hend =>
      rw [Bool.or_eq_true, List.isEmpty_iff, endsWithUnit, beq_iff_eq] at hend
      rcases hend with hnil | hfeed
      · rw [hnil] at hlead
        cases hlead
      · rw [hfeed] at hlead
        cases hlead
    case isFalse => rfl

end Text

/-! ## What rules put in -/

namespace Rule

open Text Pattern

variable {content : Text} {rule leaf : Rule} {rules leaves : List Rule} {edit : Edit} {edits : List Edit} {last : Text}

/-- Whether all leaves of a rule put text in next to an anchor. -/
def OnlyInserts (rule : Rule) : Prop :=
  ∀ leaf ∈ rule.leaves, ∃ side anchor text pattern, leaf = .insert side anchor text pattern

/-- Where an insertion puts text in, and which. -/
def insertion? (content : Text) : Rule → Option (Nat × Text)
  | .insert side anchor text pattern =>
    match compileTarget anchor pattern "m" with
    | .ok c => (c.search? content).map fun m => (insertPoint side m, text)
    | .error _ => none
  | _ => none

/-- Where rules put text in one after the other, each by the first of its leaves that finds its anchor. -/
def insertions (content : Text) : List Rule → List (Nat × Text)
  | [] => []
  | rule :: rest =>
    match rule.leaves.findSome? (insertion? content) with
    | some place => place :: insertions (content.insertedAt place.2 place.1) rest
    | none => insertions content rest

/-- What an insertion makes of a text. -/
def editOf (content : Text) : Option (Nat × Text) → Edit
  | some place => ⟨content.insertedAt place.2 place.1, true⟩
  | none => ⟨content, false⟩

theorem applyInsert_editOf {side : Side} {anchor text : Text} {pattern : Option Bool}
    (h : applyInsert content side anchor text pattern = .ok edit) :
    edit = editOf content (insertion? content (.insert side anchor text pattern)) := by
  rw [insertion?]
  cases hcompile : compileTarget anchor pattern "m" with
  | error e =>
    rw [applyInsert, hcompile] at h
    cases h
  | ok c =>
    rw [applyInsert_eq hcompile] at h
    dsimp only
    cases hsearch : c.search? content with
    | none =>
      rw [hsearch] at h
      cases h
      rfl
    | some m =>
      rw [hsearch] at h
      cases h
      rfl

theorem applyFirst_editOf (honly : ∀ leaf ∈ leaves, ∃ side anchor text pattern, leaf = .insert side anchor text pattern)
    (h : applyFirst content leaves = .ok edit) : edit = editOf content (leaves.findSome? (insertion? content)) := by
  induction leaves with
  | nil =>
    rw [applyFirst] at h
    cases h
    rfl
  | cons leaf rest ih =>
    obtain ⟨side, anchor, text, pattern, rfl⟩ := honly leaf (by simp)
    rw [applyFirst_cons, apply] at h
    cases hleaf : applyInsert content side anchor text pattern with
    | error e =>
      rw [hleaf] at h
      cases h
    | ok edit' =>
      rw [hleaf, applyInsert_editOf hleaf] at h
      rw [List.findSome?_cons]
      cases hplace : insertion? content (.insert side anchor text pattern) with
      | some place =>
        rw [hplace] at h
        cases h
        rfl
      | none =>
        rw [hplace] at h
        exact ih (fun leaf hleaf => honly leaf (by simp [hleaf])) h

/-- Rules that only insert make a text grow at the places of their insertions. -/
theorem Feeds.grown (h : Feeds content rules edits last) (honly : ∀ rule ∈ rules, rule.OnlyInserts) :
    last = content.grown (insertions content rules) := by
  induction h with
  | nil content => rfl
  | @cons rule content edit rules edits last happly hrest ih =>
    have hlater := ih fun rule hrule => honly rule (by simp [hrule])
    rw [apply_eq_applyFirst_leaves] at happly
    have hedit := applyFirst_editOf (honly rule (by simp)) happly
    rw [insertions]
    cases hplace : rule.leaves.findSome? (insertion? content) with
    | none =>
      rw [hplace] at hedit
      rw [hlater, hedit]
      rfl
    | some place =>
      rw [hplace] at hedit
      rw [hlater, hedit]
      rfl

/-! ## Insertions that keep pairs -/

/-- Whether a rule puts a well-formed text in next to a well-formed text that it looks for itself. -/
def InsertsPlainly : Rule → Prop
  | .insert _ anchor text pattern =>
    pattern ≠ some true ∧ isWellFormed anchor.units = true ∧ isWellFormed text.units = true
  | _ => False

/-- Where a well-formed text stands, no pair is cut in two before it or after it. -/
theorem wholeCut_standsAt {part us : List UInt16} {i : Nat} (hpart : part ≠ []) (hwell : isWellFormed part = true)
    (h : standsAt part us i = true) :
    WholeCut (us.take i) (us.drop i) ∧ WholeCut (us.take (i + part.length)) (us.drop (i + part.length)) := by
  obtain ⟨rest, hrest⟩ := standsAt_iff.1 h
  constructor
  · intro _
    rw [← hrest, List.head?_append_of_ne_nil _ hpart]
    exact head?_of_isWellFormed hwell
  · have htake : us.take (i + part.length) = us.take i ++ part := by
      rw [List.take_add, ← hrest, List.take_left]
    intro hlead
    rw [htake, List.getLast?_append_of_ne_nil _ hpart, getLast?_of_isWellFormed hwell] at hlead
    cases hlead

theorem wholeCut_insertion? {place : Nat × Text} (hplain : leaf.InsertsPlainly)
    (h : insertion? content leaf = some place) :
    WholeCut (content.take place.1).units (content.drop place.1).units ∧ isWellFormed place.2.units = true := by
  cases leaf with
  | insert side anchor text pattern =>
    obtain ⟨hpattern, hanchor, htext⟩ := hplain
    have hread : Flags.read? "m" = some { multiline := true } := by decide
    have hf : (⟨false, false, false, true, false, false, false, false⟩ : Flags).Plain := ⟨rfl, rfl, rfl, rfl⟩
    rw [insertion?, compileTarget_verbatim hpattern hread hf] at h
    dsimp only at h
    rw [search?_literal hf, Option.map_map, Option.map_eq_some_iff] at h
    obtain ⟨i, hi, rfl⟩ := h
    refine ⟨?_, htext⟩
    obtain ⟨-, hstands, hfirst⟩ := indexOf?_eq_some.1 hi
    by_cases hempty : anchor.units = []
    · -- Nothing stands first at the very beginning, where nothing is cut in two.
      have hzero : i = 0 := by
        by_contra hne
        have := hfirst 0 (Nat.pos_of_ne_zero hne)
        rw [hempty, standsAt_nil] at this
        cases this
      have hlength : anchor.length = 0 := by rw [Text.length, hempty, List.length_nil]
      have hpoint : insertPoint side ⟨i, i + anchor.length, [none]⟩ = 0 := by
        rw [hzero, hlength]
        cases side <;> rfl
      intro hlead
      simp only [Function.comp_apply, hpoint] at hlead
      cases hlead
    · obtain ⟨hbefore, hafter⟩ := wholeCut_standsAt hempty hanchor hstands
      cases side with
      | after => exact hafter
      | before => exact hbefore
  | replace find replacement pattern flags => exact hplain.elim
  | firstOf rules => exact hplain.elim

/-- Rules that look for well-formed texts themselves, and put such texts in, keep all pairs. -/
theorem whole_insertions (h : ∀ rule ∈ rules, ∀ leaf ∈ rule.leaves, leaf.InsertsPlainly) :
    content.Whole (insertions content rules) := by
  induction rules generalizing content with
  | nil => trivial
  | cons rule rest ih =>
    have hlater (content : Text) : content.Whole (insertions content rest) :=
      ih fun rule hrule => h rule (by simp [hrule])
    rw [insertions]
    cases hplace : rule.leaves.findSome? (insertion? content) with
    | none => exact hlater content
    | some place =>
      obtain ⟨leaf, hleaf, hinsertion⟩ := List.exists_of_findSome?_eq_some hplace
      obtain ⟨hcut, hwell⟩ := wholeCut_insertion? (h rule (by simp) leaf hleaf) hinsertion
      refine ⟨.inr ⟨hcut, ?_, ?_⟩, hlater _⟩
      · intro _
        exact head?_of_isWellFormed hwell
      · intro hlead
        rw [getLast?_of_isWellFormed hwell] at hlead
        cases hlead

end Rule

namespace Spell

open Forge Disk

variable {c : WorkingCopy} {s : Spell} {file path : String} {marker : Text} {rules : List Rule} {d d' : Disk}

/-- What an edit adds to a text: what its rules put in, in order, and the line of the marker. -/
def added (content marker : Text) (rules : List Rule) : List Text :=
  let places := Rule.insertions content rules
  places.map (·.2) ++ [(content.grown places).markerLine marker]

/-- What was added is cut out again, the line of the marker first. -/
theorem restores_added {α : Type} {seen : Text → List α} {content : Text}
    (hparts : content.Parts seen (Rule.insertions content rules))
    (hline : ∀ t : Text, seen (t ++ t.markerLine marker) = seen t ++ seen (t.markerLine marker)) :
    Restores ((added content marker rules).reverse.map seen)
      (seen ((content.grown (Rule.insertions content rules)).withMarker marker)) (seen content) := by
  have hgrown := hparts.restores
  rw [added, List.reverse_append, List.reverse_singleton, List.singleton_append, List.map_cons, ← List.map_reverse,
    List.map_map, Text.withMarker_eq, hline, ← List.append_nil (_ ++ _)]
  refine .cut _ _ [] ?_
  rw [List.append_nil, List.map_reverse]
  exact hgrown

/-- What an edit that only inserts leaves of a file. -/
theorem Edits.restores (h : Edits path marker rules d .applied d') (honly : ∀ rule ∈ rules, rule.OnlyInserts) :
    ∃ (bytes : ByteArray) (text : Text), d.read path = .ok bytes ∧ d'.read path = .ok (Utf8.encodeText text) ∧
      Restores ((added (Utf8.decodeText bytes) marker rules).reverse.map Text.units) text.units
        (Utf8.decodeText bytes).units ∧
      ((Utf8.decodeText bytes).Whole (Rule.insertions (Utf8.decodeText bytes) rules) →
        Restores ((added (Utf8.decodeText bytes) marker rules).reverse.map Text.bytesOf) text.bytesOf
          (Utf8.decodeText bytes).bytesOf) := by
  cases h with
  | @written bytes edited _ hfile hread hmarker hrules hwrite =>
    obtain ⟨edits, hfeeds, -⟩ := Rule.applyAll_eq_ok_iff.1 hrules
    refine ⟨bytes, edited.content.withMarker marker, hread, read_write hread hwrite, ?_, fun hwhole => ?_⟩
    · rw [hfeeds.grown honly]
      exact restores_added (Text.parts_units ..) fun t => rfl
    · rw [hfeeds.grown honly]
      exact restores_added hwhole.parts fun t => Text.bytesOf_append (Text.wholeCut_markerLine t marker)

/-- An edit that only inserts and is applied takes nothing away. Cutting out what it added, the last first, gives
back the text that the file was read as. Cutting out the bytes of what it added gives back the bytes of that
text, if no insertion came between the halves of a pair or brought two together, which none does where
well-formed texts are put in next to well-formed texts; and these bytes are the file if it was well-formed,
and only then. -/
theorem cast_restores (o : Outside) (dir : String) (w w' : World) (outcome : CastOutcome)
    (hwork : s.work = .edit file marker rules) (honly : ∀ rule ∈ rules, rule.OnlyInserts)
    (hrun : runOn w (cast o dir c s) = (.ok outcome, w')) (happlied : outcome.status = .applied) :
    ∃ (bytes : ByteArray) (text : Text), w.disk.read (editPath c file) = .ok bytes ∧
      w'.disk.read (editPath c file) = .ok (Utf8.encodeText text) ∧
      Restores ((added (Utf8.decodeText bytes) marker rules).reverse.map Text.units) text.units
        (Utf8.decodeText bytes).units ∧
      ((Utf8.decodeText bytes).Whole (Rule.insertions (Utf8.decodeText bytes) rules) →
        Restores ((added (Utf8.decodeText bytes) marker rules).reverse.map Text.bytesOf)
          (Utf8.encodeText text).toList (Utf8.encodeText (Utf8.decodeText bytes)).toList) ∧
      ((∀ rule ∈ rules, ∀ leaf ∈ rule.leaves, leaf.InsertsPlainly) →
        (Utf8.decodeText bytes).Whole (Rule.insertions (Utf8.decodeText bytes) rules)) ∧
      (Utf8.encodeText (Utf8.decodeText bytes) = bytes ↔ bytes.IsValidUTF8) := by
  obtain ⟨outcome', w₁, hrun', hedits⟩ := cast_edits (c := c) o dir w hwork
  cases hrun'.symm.trans hrun
  rw [happlied] at hedits
  obtain ⟨bytes, text, hread, hwritten, hunits, hbytes⟩ := hedits.restores honly
  exact ⟨bytes, text, hread, hwritten, hunits, hbytes, Rule.whole_insertions, Utf8.encodeText_decodeText_iff⟩

/-- A disk with a file of some bytes. -/
def holding (bytes : ByteArray) : Disk where
  entries := [(["c"], .directory), (["c", "a"], .file bytes newFileMode)]

/-- An edit of that file. -/
def marking (rules : List Rule) : Spell where
  id := "i"
  work := .edit "a" (.ofString "marked") rules

/-- An edit that finds its file and writes it is applied. -/
theorem cast_applied {bytes : ByteArray} {edited : Edited} (o : Outside) (dir : String)
    (hwork : s.work = .edit file marker rules) (hread : d.read (editPath c file) = .ok bytes)
    (hfile : d.isFile (editPath c file) = true) (hmarker : (Utf8.decodeText bytes).contains marker = false)
    (hrules : Rule.applyAll (Utf8.decodeText bytes) rules = .ok edited)
    (hwrite : (d.write (editPath c file) (Utf8.encodeText (edited.content.withMarker marker))).isOk = true) :
    ∃ outcome w', runOn { disk := d } (cast o dir c s) = (.ok outcome, w') ∧ outcome.status = .applied ∧
      w'.disk.read (editPath c file) = .ok (Utf8.encodeText (edited.content.withMarker marker)) := by
  obtain ⟨d', hd'⟩ : ∃ d', d.write (editPath c file) (Utf8.encodeText (edited.content.withMarker marker)) = .ok d' := by
    cases hd : d.write (editPath c file) (Utf8.encodeText (edited.content.withMarker marker)) with
    | ok d' => exact ⟨d', rfl⟩
    | error fault =>
      rw [hd] at hwrite
      cases hwrite
  obtain ⟨outcome, w', hrun, hedits⟩ := cast_edits (c := c) o dir { disk := d } hwork
  obtain ⟨hstatus, rfl⟩ := hedits.det (.written hfile hread hmarker hrules hd')
  exact ⟨outcome, w', hrun, hstatus, read_write hread hd'⟩

theorem onlyInserts_insert (side : Side) (anchor text : Text) (pattern : Option Bool) :
    (Rule.insert side anchor text pattern).OnlyInserts := by
  intro leaf hleaf
  rw [Rule.leaves, List.mem_singleton] at hleaf
  exact ⟨side, anchor, text, pattern, hleaf⟩

/-- A file with a letter beyond ASCII is restored. -/
theorem cast_restores_holding :
    let bytes : ByteArray := ⟨#[0x78, 0xC3, 0xA9]⟩
    let rules : List Rule := [.insert .after (.ofString "x") (.ofString "!") none]
    ∃ outcome w' text, runOn { disk := holding bytes } (cast silent "/s" tornCopy (marking rules)) = (.ok outcome, w') ∧
      outcome.status = .applied ∧ w'.disk.read (editPath tornCopy "a") = .ok (Utf8.encodeText text) ∧
      Restores ((added (Utf8.decodeText bytes) (.ofString "marked") rules).reverse.map Text.bytesOf)
        (Utf8.encodeText text).toList bytes.toList := by
  intro bytes rules
  have hwork : (marking rules).work = .edit "a" (.ofString "marked") rules := rfl
  have hread : (holding bytes).read (editPath tornCopy "a") = .ok bytes := by decide +kernel
  have hrules : Rule.applyAll (Utf8.decodeText bytes) rules = .ok ⟨⟨[0x78, 0x21, 0xE9]⟩, 1, []⟩ := by decide +kernel
  obtain ⟨outcome, w', hrun, hstatus, -⟩ := cast_applied silent "/s" hwork hread (by decide +kernel) (by decide +kernel)
    hrules (by decide +kernel)
  have honly : ∀ rule ∈ rules, rule.OnlyInserts := by simp [rules, onlyInserts_insert]
  have hplain : ∀ rule ∈ rules, ∀ leaf ∈ rule.leaves, leaf.InsertsPlainly := by
    simp only [rules, List.mem_singleton, forall_eq, Rule.leaves]
    exact ⟨by decide, by decide +kernel, by decide +kernel⟩
  obtain ⟨bytes', text, hread', hwritten, -, hbytes, hwhole, -⟩ :=
    cast_restores silent "/s" { disk := holding bytes } w' outcome hwork honly hrun hstatus
  cases hread.symm.trans hread'
  have hsame : Utf8.encodeText (Utf8.decodeText bytes) = bytes := by decide +kernel
  have hrestores := hbytes (hwhole hplain)
  rw [hsame] at hrestores
  exact ⟨outcome, w', text, hrun, hstatus, hwritten, hrestores⟩

/-! ## Files that are not restored -/

/-- Whether the bytes of all that an edit added can be cut out of what was written, in some order, so that the
file is left as it was. -/
def Restored (bytes written : ByteArray) (marker : Text) (rules : List Rule) : Prop :=
  ∃ order : List (List UInt8), order.Perm ((added (Utf8.decodeText bytes) marker rules).map Text.bytesOf) ∧
    Restores order written.toList bytes.toList

theorem Restored.length {bytes written : ByteArray} (h : Restored bytes written marker rules) :
    written.toList.length = bytes.toList.length +
      ((added (Utf8.decodeText bytes) marker rules).map fun t => t.bytesOf.length).sum := by
  obtain ⟨order, horder, hrestores⟩ := h
  have hsum := (horder.map List.length).sum_nat
  rw [hrestores.length, hsum, List.map_map]
  rfl

/-- An edit whose bytes are not as many as those of the file and of what was added restores nothing. -/
theorem cast_spoils (bytes : ByteArray) (rules : List Rule) (edited : Edited)
    (hread : (holding bytes).read (editPath tornCopy "a") = .ok bytes)
    (hfile : (holding bytes).isFile (editPath tornCopy "a") = true)
    (hmarker : (Utf8.decodeText bytes).contains (.ofString "marked") = false)
    (hrules : Rule.applyAll (Utf8.decodeText bytes) rules = .ok edited)
    (hwrite : ((holding bytes).write (editPath tornCopy "a")
      (Utf8.encodeText (edited.content.withMarker (.ofString "marked")))).isOk = true)
    (hlength : (Utf8.encodeText (edited.content.withMarker (.ofString "marked"))).toList.length ≠ bytes.toList.length +
      ((added (Utf8.decodeText bytes) (.ofString "marked") rules).map fun t => t.bytesOf.length).sum) :
    ∃ outcome w' written, runOn { disk := holding bytes } (cast silent "/s" tornCopy (marking rules)) = (.ok outcome, w') ∧
      outcome.status = .applied ∧ w'.disk.read (editPath tornCopy "a") = .ok written ∧
      ¬ Restored bytes written (.ofString "marked") rules := by
  have hwork : (marking rules).work = .edit "a" (.ofString "marked") rules := rfl
  obtain ⟨outcome, w', hrun, hstatus, hwritten⟩ := cast_applied silent "/s" hwork hread hfile hmarker hrules hwrite
  exact ⟨outcome, w', _, hrun, hstatus, hwritten, fun hrestored => hlength hrestored.length⟩

/-- Whether an edit of a file by rules that only insert is applied, and the file is not restored. -/
def Spoils (bytes : ByteArray) (rules : List Rule) : Prop :=
  (∀ rule ∈ rules, rule.OnlyInserts) ∧
    ∃ outcome w' written, runOn { disk := holding bytes } (cast silent "/s" tornCopy (marking rules)) = (.ok outcome, w') ∧
      outcome.status = .applied ∧ w'.disk.read (editPath tornCopy "a") = .ok written ∧
      ¬ Restored bytes written (.ofString "marked") rules

/-- Bytes that are no text are not restored; nor is a character beyond the first plane, next to half of which
something is put in; nor are two halves cut out that were put in next to each other. -/
theorem cast_not_restored :
    Spoils ⟨#[0x78, 0xFF]⟩ [.insert .after (.ofString "x") (.ofString "!") none] ∧
    Spoils ⟨#[0xF0, 0x9F, 0x98, 0x80]⟩ [.insert .after (.ofString ".") (.ofString "!") (some true)] ∧
    Spoils ⟨#[0x61, 0x62]⟩
      [.insert .after (.ofString "a") ⟨[0xD83D]⟩ none, .insert .before (.ofString "b") ⟨[0xDE00]⟩ none] := by
  refine ⟨⟨?_, ?_⟩, ⟨?_, ?_⟩, ⟨?_, ?_⟩⟩
  · simp [onlyInserts_insert]
  · exact cast_spoils _ _ ⟨⟨[0x78, 0x21, 0xFFFD]⟩, 1, []⟩ (by decide +kernel) (by decide +kernel) (by decide +kernel)
      (by decide +kernel) (by decide +kernel) (by decide +kernel)
  · simp [onlyInserts_insert]
  · exact cast_spoils _ _ ⟨⟨[0xD83D, 0x21, 0xDE00]⟩, 1, []⟩ (by decide +kernel) (by decide +kernel) (by decide +kernel)
      (by decide +kernel) (by decide +kernel) (by decide +kernel)
  · simp [onlyInserts_insert]
  · exact cast_spoils _ _ ⟨⟨[0x61, 0xD83D, 0xDE00, 0x62]⟩, 2, []⟩ (by decide +kernel) (by decide +kernel)
      (by decide +kernel) (by decide +kernel) (by decide +kernel) (by decide +kernel)

end Spell

end VariantForge
