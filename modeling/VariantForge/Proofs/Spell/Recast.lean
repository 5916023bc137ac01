import Mathlib.Data.List.Forall2
import VariantForge.Proofs.Disk.Rewritten
import VariantForge.Proofs.Outcome
import VariantForge.Proofs.Text.Utf8
import VariantForge.Spell.Cast

/-!
# Casting again — what edits leave for a second time

`Edits` says what becomes of one edit on a disk, and `Edits.again` that the same edit then finds its
marker, or fails as it failed. Other edits do not change that as long as they lead to other files
(`Edits.kept`). So a list of edits that is cast a second time changes nothing (`recast_idle`).
-/

namespace VariantForge.Spell

open Forge Disk

variable {o : Outside} {dir path : String} {c : WorkingCopy} {s t : Spell} {marker : Text} {rules : List Rule}
  {d d' : Disk} {status : CastStatus} {spells : List Spell}

/-! ## One edit -/

/-- What becomes of an edit of the file at a path: its status, and the disk that it leaves. -/
inductive Edits (path : String) (marker : Text) (rules : List Rule) (d : Disk) : CastStatus → Disk → Prop where
  | missing (hfile : d.isFile path = false) : Edits path marker rules d .notFound d
  | unreadable {fault : DiskFault} (hfile : d.isFile path = true) (hread : d.read path = .error fault) :
      Edits path marker rules d .partiallyApplied d
  | marked {bytes : ByteArray} (hfile : d.isFile path = true) (hread : d.read path = .ok bytes)
      (hmarker : (Utf8.decodeText bytes).contains marker = true) :
      Edits path marker rules d .alreadyApplied d
  | unusable {bytes : ByteArray} {e : Pattern.Error} (hfile : d.isFile path = true)
      (hread : d.read path = .ok bytes) (hmarker : (Utf8.decodeText bytes).contains marker = false)
      (hrules : Rule.applyAll (Utf8.decodeText bytes) rules = .error e) :
      Edits path marker rules d .partiallyApplied d
  | refused {bytes : ByteArray} {edited : Edited} {fault : DiskFault} (hfile : d.isFile path = true)
      (hread : d.read path = .ok bytes) (hmarker : (Utf8.decodeText bytes).contains marker = false)
      (hrules : Rule.applyAll (Utf8.decodeText bytes) rules = .ok edited)
      (hwrite : d.write path (Utf8.encodeText (edited.content.withMarker marker)) = .error fault) :
      Edits path marker rules d .partiallyApplied d
  | written {bytes : ByteArray} {edited : Edited} {d' : Disk} (hfile : d.isFile path = true)
      (hread : d.read path = .ok bytes) (hmarker : (Utf8.decodeText bytes).contains marker = false)
      (hrules : Rule.applyAll (Utf8.decodeText bytes) rules = .ok edited)
      (hwrite : d.write path (Utf8.encodeText (edited.content.withMarker marker)) = .ok d') :
      Edits path marker rules d .applied d'

/-- The status that is reported for the end of a cast. -/
def statusOf : Except Failure CastOutcome → CastStatus
  | .ok outcome => outcome.status
  | .error _ => .partiallyApplied

theorem castEdit_edits (s : Spell) (file : String) (marker : Text) (rules : List Rule) (w : World) :
    ∃ r w', runOn w (castEdit c s file marker rules) = (r, w') ∧
      Edits (editPath c file) marker rules w.disk (statusOf r) w'.disk := by
  rw [castEdit, runOn_bind_ok (runOn_look ..)]
  cases hfile : w.disk.isFile (editPath c file) with
  | false => exact ⟨_, _, rfl, .missing hfile⟩
  | true =>
    rw [if_neg (by simp)]
    cases hread : w.disk.read (editPath c file) with
    | error fault =>
      rw [runOn_bind_error (by rw [runOn_readFile, hread, mapError_error])]
      exact ⟨_, _, rfl, .unreadable hfile hread⟩
    | ok bytes =>
      rw [runOn_bind_ok (by rw [runOn_readFile, hread, mapError_ok])]
      dsimp only
      cases hmarker : (Utf8.decodeText bytes).contains marker with
      | true =>
        rw [if_pos rfl]
        exact ⟨_, _, rfl, .marked hfile hread hmarker⟩
      | false =>
        rw [if_neg (by simp), applyRules]
        cases hrules : Rule.applyAll (Utf8.decodeText bytes) rules with
        | error e =>
          rw [runOn_bind_error (runOn_throw ..)]
          exact ⟨_, _, rfl, .unusable hfile hread hmarker hrules⟩
        | ok edited =>
          rw [runOn_bind_ok (runOn_pure ..)]
          obtain ⟨_, w', hdisk, hskip⟩ := Still.skip
            (.forIn fun rule _ => .bind .log fun _ => .pure _)
            (Total.forIn fun rule _ => .bind (.log _ _ _) fun _ => .pure _) w
          rw [hskip]
          have hchange := runOn_change w' (·.write (editPath c file) (Utf8.encodeText (edited.content.withMarker marker)))
          rw [hdisk] at hchange
          cases hwrite : w.disk.write (editPath c file) (Utf8.encodeText (edited.content.withMarker marker)) with
          | error fault =>
            rw [hwrite] at hchange
            refine ⟨_, _, runOn_bind_error hchange, ?_⟩
            rw [hdisk]
            exact .refused hfile hread hmarker hrules hwrite
          | ok d' =>
            rw [hwrite] at hchange
            exact ⟨_, _, runOn_bind_ok hchange, .written hfile hread hmarker hrules hwrite⟩

theorem cast_edits (o : Outside) (dir : String) (w : World) (hwork : s.work = .edit file marker rules) :
    ∃ outcome w', runOn w (cast o dir c s) = (.ok outcome, w') ∧
      Edits (editPath c file) marker rules w.disk outcome.status w'.disk := by
  let w₁ : World := { w with journal := w.journal ++ [.logged .info s!"casting spell: {s.id}" none] }
  obtain ⟨r, w', hrun, h⟩ := castEdit_edits (c := c) s file marker rules w₁
  rw [cast, runOn_bind_ok (runOn_log ..), hwork]
  dsimp only
  rw [runOn_bind_ok (runOn_attempt ..), hrun]
  cases r with
  | ok outcome => exact ⟨outcome, w', rfl, h⟩
  | error f => exact ⟨_, w', rfl, h⟩

/-- An edit becomes one thing only. -/
theorem Edits.det {status' : CastStatus} {d₁ d₂ : Disk} (h : Edits path marker rules d status d₁)
    (h' : Edits path marker rules d status' d₂) : status = status' ∧ d₁ = d₂ := by
  cases h <;> cases h' <;> simp_all

/-- An edit that is not applied leaves the disk as it is. -/
theorem Edits.idle (h : Edits path marker rules d status d') (hne : status ≠ .applied) : d' = d := by
  cases h <;> first | rfl | exact absurd rfl hne

/-! ## The same edit again -/

/-- The status of an edit that is cast again. -/
def again : CastStatus → CastStatus
  | .applied => .alreadyApplied
  | status => status

theorem again_ne_applied (status : CastStatus) : again status ≠ .applied := by
  cases status <;> decide

theorem contains_withMarker (t marker : Text) : (t.withMarker marker).contains marker = true := by
  rw [Text.withMarker]
  split
  · assumption
  · exact Text.occursIn_iff.2 ⟨t.units ++ _, [Text.lineFeed], rfl⟩

/-- An edit that was applied finds its marker, whatever the rules and the bytes of the file were. -/
theorem Edits.again (hwell : Text.isWellFormed marker.units = true)
    (h : Edits path marker rules d status d') : Edits path marker rules d' (again status) d' := by
  cases h with
  | written hfile hread hmarker hrules hwrite =>
    obtain ⟨p, old, mode, hp, hget, rfl⟩ := write_file hfile hwrite
    refine .marked ?_ (read_write hread hwrite)
      (Utf8.contains_decodeText_encodeText hwell (contains_withMarker ..))
    rwa [← (resembles_put hget _).isFile_eq]
  | missing hfile => exact .missing hfile
  | unreadable hfile hread => exact .unreadable hfile hread
  | marked hfile hread hmarker => exact .marked hfile hread hmarker
  | unusable hfile hread hmarker hrules => exact .unusable hfile hread hmarker hrules
  | refused hfile hread hmarker hrules hwrite => exact .refused hfile hread hmarker hrules hwrite

/-! ## Edits of other files -/

theorem Edits.resembles (h : Edits path marker rules d status d') : Resembles false d d' := by
  cases h with
  | written hfile hread hmarker hrules hwrite =>
    obtain ⟨p, old, mode, hp, hget, rfl⟩ := write_file hfile hwrite
    exact resembles_put hget _
  | _ => exact .refl _

/-- What becomes of an edit that is not applied does not change with an edit of another file. -/
theorem Edits.kept {other : String} {marker' : Text} {rules' : List Rule} {status' : CastStatus}
    (h : Edits path marker rules d status d) (hne : status ≠ .applied) (hapart : Apart d path other)
    (ht : Edits other marker' rules' d status' d') : Edits path marker rules d' status d' := by
  by_cases hidle : status' = .applied
  · subst hidle
    cases ht with
    | @written bytes edited _ hfile' hread' hmarker' hrules' hwrite' =>
      obtain ⟨p, old, mode, hp, hget, rfl⟩ := write_file hfile' hwrite'
      have hpath : d.locate path ≠ .ok p := by
        intro hp'
        have := hapart p hp' hp
        rw [hget] at this
        cases this
      have hlike := resembles_put hget (Utf8.encodeText (edited.content.withMarker marker'))
      have hfiles : d.isFile path = _ := hlike.isFile_eq
      cases h with
      | missing hfile => exact .missing (hfiles ▸ hfile)
      | unreadable hfile hread =>
        exact .unreadable (hfiles ▸ hfile) ((read_rewrite hget hpath).trans hread)
      | marked hfile hread hmarker =>
        exact .marked (hfiles ▸ hfile) ((read_rewrite hget hpath).trans hread) hmarker
      | unusable hfile hread hmarker hrules =>
        exact .unusable (hfiles ▸ hfile) ((read_rewrite hget hpath).trans hread) hmarker hrules
      | refused hfile hread hmarker hrules hwrite =>
        exact .refused (hfiles ▸ hfile) ((read_rewrite hget hpath).trans hread) hmarker hrules
          (write_rewrite_error hget hpath hwrite)
      | written => exact absurd rfl hne
  · rwa [ht.idle hidle]

/-! ## Lists of edits -/

/-- Whether a spell is an edit of the file at a path, with a marker that is well-formed. -/
inductive Rewrites (c : WorkingCopy) (s : Spell) : String → Prop where
  | edit {file : String} {marker : Text} {rules : List Rule} (hwork : s.work = .edit file marker rules)
      (hwell : Text.isWellFormed marker.units = true) : Rewrites c s (editPath c file)

/-- Whether two spells edit no file in common. -/
def Apart (c : WorkingCopy) (d : Disk) (s t : Spell) : Prop :=
  ∀ a b, Rewrites c s a → Rewrites c t b → d.Apart a b

/-- Whether a spell is an edit that ends with some status and leaves a disk as it is. -/
def Settled (c : WorkingCopy) (d : Disk) (s : Spell) (status : CastStatus) : Prop :=
  ∃ file marker rules, s.work = .edit file marker rules ∧ status ≠ .applied ∧
    Edits (editPath c file) marker rules d status d

theorem Apart.resembles (h : Apart c d s t) (hd : Resembles false d d') : Apart c d' s t :=
  fun a b ha hb => (h a b ha hb).resembles hd

/-- One cast of an edit settles it, and leaves other edits settled. -/
theorem cast_settles (o : Outside) (dir : String) (w : World) (hs : ∃ a, Rewrites c s a) :
    ∃ outcome w', runOn w (cast o dir c s) = (.ok outcome, w') ∧ Resembles false w.disk w'.disk ∧
      Settled c w'.disk s (again outcome.status) ∧
      ∀ t st, (∃ b, Rewrites c t b) → Apart c w.disk t s → Settled c w.disk t st → Settled c w'.disk t st := by
  obtain ⟨_, @⟨file, marker, rules, hwork, hwell⟩⟩ := hs
  obtain ⟨outcome, w', hrun, h⟩ := cast_edits (c := c) o dir w hwork
  refine ⟨outcome, w', hrun, h.resembles, ⟨file, marker, rules, hwork, again_ne_applied _, h.again hwell⟩, ?_⟩
  rintro t st ⟨_, @⟨file₁, marker₁, rules₁, hwork₁, hwell₁⟩⟩ hapart ⟨file₂, marker₂, rules₂, hwork₂, hne, ht⟩
  cases hwork₁.symm.trans hwork₂
  exact ⟨_, _, _, hwork₂, hne, ht.kept hne (hapart _ _ (.edit hwork₁ hwell₁) (.edit hwork hwell)) h⟩

/-- A settled edit ends as it is settled to. -/
theorem Settled.cast (h : Settled c d s status) (o : Outside) (dir : String) (w : World) (hd : w.disk = d) :
    ∃ outcome w', runOn w (cast o dir c s) = (.ok outcome, w') ∧ w'.disk = d ∧ outcome.status = status := by
  obtain ⟨file, marker, rules, hwork, -, hst⟩ := h
  obtain ⟨outcome, w', hrun, hedit⟩ := cast_edits (c := c) o dir w hwork
  rw [hd] at hedit
  obtain ⟨hstatus, hdisk⟩ := hedit.det hst
  exact ⟨outcome, w', hrun, hdisk, hstatus⟩

/-- A first pass over edits of different files settles all of them. -/
theorem mapM_settles (o : Outside) (dir : String) (hspells : ∀ s ∈ spells, ∃ a, Rewrites c s a) (w : World)
    (hapart : spells.Pairwise (Apart c w.disk)) :
    ∃ outcomes w', runOn w (spells.mapM (cast o dir c)) = (.ok outcomes, w') ∧
      Resembles false w.disk w'.disk ∧
      List.Forall₂ (fun s r => Settled c w'.disk s (again r.status)) spells outcomes ∧
      ∀ t st, (∃ b, Rewrites c t b) → (∀ s ∈ spells, Apart c w.disk t s) → Settled c w.disk t st →
        Settled c w'.disk t st := by
  induction spells generalizing w with
  | nil => exact ⟨[], w, rfl, .refl _, .nil, fun _ _ _ _ h => h⟩
  | cons s rest ih =>
    have hs : ∃ a, Rewrites c s a := hspells s (by simp)
    obtain ⟨r, w₁, hrun, hdisk, hsettled, hkept⟩ := cast_settles o dir w hs
    rw [List.pairwise_cons] at hapart
    obtain ⟨rs, w', hrest, hdisk', hall, hkept'⟩ := ih (fun t ht => hspells t (by simp [ht])) w₁
      (hapart.2.imp fun h => h.resembles hdisk)
    refine ⟨r :: rs, w', ?_, hdisk.trans hdisk', .cons ?_ hall, ?_⟩
    · rw [List.mapM_cons, runOn_bind_ok hrun, runOn_bind_ok hrest, runOn_pure]
    · exact hkept' s _ hs (fun t ht => (hapart.1 t ht).resembles hdisk) hsettled
    · intro t st ht htapart hst
      refine hkept' t st ht (fun u hu => (htapart u (by simp [hu])).resembles hdisk) ?_
      exact hkept t st ht (htapart s (by simp)) hst

/-- A pass over settled edits changes nothing. -/
theorem mapM_settled (o : Outside) (dir : String) {statuses : List CastStatus}
    (h : List.Forall₂ (fun s st => Settled c d s st) spells statuses) (w : World) (hd : w.disk = d) :
    ∃ outcomes w', runOn w (spells.mapM (cast o dir c)) = (.ok outcomes, w') ∧ w'.disk = d ∧
      outcomes.map (·.status) = statuses := by
  induction h generalizing w with
  | nil => exact ⟨[], w, rfl, hd, rfl⟩
  | cons hs _ ih =>
    obtain ⟨r, w₁, hrun, hdisk, hstatus⟩ := hs.cast o dir w hd
    obtain ⟨rs, w', hrest, hdisk', hstatuses⟩ := ih w₁ hdisk
    refine ⟨r :: rs, w', ?_, hdisk', ?_⟩
    · rw [List.mapM_cons, runOn_bind_ok hrun, runOn_bind_ok hrest, runOn_pure]
    · rw [List.map_cons, hstatus, hstatuses]

/-- Edits of different files that are cast a second time change nothing: what was applied is found to
be there already, and all else becomes what it became. -/
theorem recast_idle (o : Outside) (dir : String) (c : WorkingCopy) (spells : List Spell) (w : World)
    (hspells : ∀ s ∈ spells, ∃ a, Rewrites c s a) (hapart : spells.Pairwise (Apart c w.disk)) :
    ∃ first w₁ second w₂, runOn w (spells.mapM (cast o dir c)) = (.ok first, w₁) ∧
      runOn w₁ (spells.mapM (cast o dir c)) = (.ok second, w₂) ∧ w₂.disk = w₁.disk ∧
      second.map (·.status) = first.map (fun r => again r.status) ∧ ∀ r ∈ second, r.status ≠ .applied := by
  obtain ⟨first, w₁, hfirst, -, hsettled, -⟩ := mapM_settles o dir hspells w hapart
  have hstatuses : List.Forall₂ (fun s st => Settled c w₁.disk s st) spells (first.map fun r => again r.status) :=
    List.forall₂_map_right_iff.2 hsettled
  obtain ⟨second, w₂, hsecond, hdisk, hsame⟩ := mapM_settled o dir hstatuses w₁ rfl
  refine ⟨first, w₁, second, w₂, hfirst, hsecond, hdisk, hsame, fun r hr => ?_⟩
  have hr : r.status ∈ second.map (·.status) := List.mem_map_of_mem hr
  rw [hsame] at hr
  obtain ⟨r', -, hr'⟩ := List.mem_map.1 hr
  exact hr' ▸ again_ne_applied r'.status

/-- An outside that answers nothing. -/
def silent : Outside where
  run w _ := ⟨w.disk, false, .ok ⟨none, "", ""⟩⟩
  fetch _ _ := (false, .silent)
  cancelsWait _ := false
  clock _ := none
  searchPath := none
  processors := 1

/-- A disk with a file that is no text throughout, and another one. -/
def torn : Disk where
  entries := [(["c"], .directory), (["c", "a"], .file ⟨#[0x78, 0xFF]⟩ newFileMode),
    (["c", "b"], .file ⟨#[0x79]⟩ newFileMode)]

/-- A working copy in the directory of these files. -/
def tornCopy : WorkingCopy := ⟨"/c", "r", "r", "1", ⟨"n", "u", none⟩, none, false⟩

/-- An edit of the torn file, which takes away what is no text. -/
def mending : Spell where
  id := "m"
  work := .edit "a" (.ofString "marked") [.replace ⟨[0xFFFD]⟩ ⟨[]⟩ none none]

/-- An edit of the other file by a pattern that cannot be used. -/
def spoiled : Spell where
  id := "s"
  work := .edit "b" (.ofString "marked") [.replace (.ofString "(") ⟨[]⟩ (some true) none]

/-- One edit is applied and one partially here, the first time. -/
theorem recast_idle_torn :
    (∀ s ∈ [mending, spoiled], ∃ a, Rewrites tornCopy s a) ∧
      [mending, spoiled].Pairwise (Apart tornCopy torn) ∧
      ∃ first w₁ second w₂,
        runOn { disk := torn } ([mending, spoiled].mapM (cast silent "/s" tornCopy)) = (.ok first, w₁) ∧
        runOn w₁ ([mending, spoiled].mapM (cast silent "/s" tornCopy)) = (.ok second, w₂) ∧
        w₂.disk = w₁.disk ∧ second.map (·.status) = first.map (fun r => again r.status) ∧
        ∀ r ∈ second, r.status ≠ .applied := by
  have hspells : ∀ s ∈ [mending, spoiled], ∃ a, Rewrites tornCopy s a := by
    rintro s hs
    rcases List.mem_pair.1 hs with rfl | rfl
    · exact ⟨_, .edit rfl (by decide +kernel)⟩
    · exact ⟨_, .edit rfl (by decide +kernel)⟩
  have hapart : [mending, spoiled].Pairwise (Apart tornCopy torn) := by
    refine List.pairwise_pair.2 ?_
    rintro _ _ ⟨hwork, -⟩ ⟨hwork', -⟩
    cases hwork
    cases hwork'
    have ha : torn.locate (editPath tornCopy "a") = .ok ["c", "a"] := by decide +kernel
    have hb : torn.locate (editPath tornCopy "b") = .ok ["c", "b"] := by decide +kernel
    exact .of_locate ha hb (by decide)
  exact ⟨hspells, hapart,
    recast_idle silent "/s" tornCopy [mending, spoiled] { disk := torn } hspells hapart⟩

end VariantForge.Spell
