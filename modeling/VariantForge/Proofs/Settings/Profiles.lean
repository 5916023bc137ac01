import VariantForge.Proofs.Settings.Layers
import VariantForge.Proofs.Settings.Projection

/-!
# Profiles — those that a file defines, and those that are found without it

What a settings file holds is taken apart before a profile is looked for: into its settings and the profiles of its own
table, each under its name (`SettingsFile.ofData_ok`). Only what stands under the reserved name is dropped, wherever a
table is read. So the profile that a file defines is laid over its settings, and the environment over both.

A name that a file does not define is not always unknown. The table is asked like any object, and to some names every
object answers by itself (`SettingsFile.emptyProfiles`): a profile of such a name is found, and is empty. Under every
other name none is found, and loading fails (`Settings.load_profile`).
-/

namespace VariantForge

open Data

/-! ## Tables -/

/-- Members without that of the reserved name. -/
def Members.counted (ms : Members Data) : Members Data := ms.filter fun m => m.1 != lendingName

theorem Members.get?_counted (ms : Members Data) (n : String) :
    get? ms.counted n = if n = lendingName then none else get? ms n := by
  rw [counted, get?_filter (· != lendingName)]
  by_cases h : n = lendingName
  · rw [if_neg (by simp [h]), if_pos h]
  · rw [if_pos (by simp [h]), if_neg h]

namespace Schema

variable {α : Type} {r : Reader α} {g : Data → α} {path : List Step} {ms : Members α}

/-- A table holds what the members of a record are read as, but for that of the reserved name. -/
theorem table_eq_map {name : List Step → String → List Issue} {own : Members Data}
    (order : Members.InOrder (Members.names own))
    (hg : ∀ m ∈ own, ∀ path a, r path (some m.2) = .ok a → a = g m.2)
    (h : table name r path (some (.record own [])) = .ok ms) : ms = own.counted.map fun m => (m.1, g m.2) := by
  rw [table, visible_record] at h
  obtain ⟨found, hfound, rfl⟩ := Checked.map_eq_ok.1 h
  have hfilter : (found.filter fun m => m.1 != lendingName) = own.counted.map fun m => (m.1, g m.2) := by
    rw [entries_eq_map hg hfound, List.filter_map]
    rfl
  -- reading changes no name, so what is read stands in the order of what was written
  have hnames : Members.names (own.counted.map fun m => (m.1, g m.2)) = Members.names own.counted := by
    simp [Members.names]
  rw [hfilter, Members.ofList_of_inOrder (hnames ▸ order.filter _)]

theorem table_any {d : Data} {ms : Members Data} (hd : d.Ordered) (h : table anyName any path (some d) = .ok ms) :
    ms = d.members.counted := by
  cases d with
  | record own lent =>
    obtain ⟨rfl, order, -⟩ := hd.of_record
    rw [table_eq_map order (g := id) (fun m _ path a ha => (Checked.ok_inj ha).symm) h]
    simp [members]
  | _ => cases h

/-- The profiles of a file are the records in its table. -/
theorem profiles_eq {ps : Option (Members (Members Data))} {d : Option Data} (hd : ∀ x, d = some x → x.Ordered)
    (h : profiles path d = .ok ps) (n : String) :
    Members.get? (ps.getD []) n =
      if n = lendingName then none else (d.bind fun x => x.get? n).map fun p => p.members.counted := by
  cases d with
  | none =>
    cases h
    simp [Members.get?]
  | some x =>
    obtain ⟨ms, htable, rfl⟩ := Checked.map_eq_ok.1 h
    cases x with
    | record own lent =>
      obtain ⟨rfl, order, values⟩ := (hd _ rfl).of_record
      have hms := table_eq_map (g := fun p => p.members.counted) order
        (fun m hm path a ha => table_any (values m hm) ha) htable
      rw [Option.getD_some, hms, Members.get?_map fun p : Data => p.members.counted, Members.get?_counted,
        Option.bind_some, get?_record]
      split
      · rfl
      · rfl
    | _ => cases htable

end Schema

/-! ## What a file defines -/

namespace SettingsFile

/-- The settings among what a file holds. -/
def base (d : Data) : Data := .record (d.members.filter fun m => m.1 != "profiles" && m.1 != lendingName) []

/-- What the table of a file's profiles has under a name. -/
def own? (d : Data) (n : String) : Option Data := (d.get? "profiles").bind fun table => table.get? n

variable {d : Data} {f : SettingsFile} {n : String} {p : Data}

theorem ofData_ok (hd : d.Ordered) (h : ofData d = .ok f) :
    Data.record f.settings [] = base d ∧
      ∀ n, Members.get? f.profiles n = if n = lendingName then none else (own? d n).map fun p => p.members.counted := by
  replace h := Checked.result_eq_ok.1 h
  cases d with
  | record own lent =>
    obtain ⟨rfl, order, values⟩ := hd.of_record
    obtain ⟨ps, hps, rfl⟩ := Checked.map_eq_ok.1 h
    refine ⟨?_, fun n => Schema.profiles_eq (fun x hx => ?_) hps n⟩
    · rw [base, members, Members.ofList_of_inOrder (order.filter _)]
    · rw [Schema.get?_record] at hx
      exact values _ (Members.mem_of_get? hx)
  | _ => cases h

theorem profile?_of_own (hd : d.Ordered) (h : ofData d = .ok f) (hn : n ≠ lendingName) (hp : own? d n = some p) :
    f.profile? n = some p.members.counted := by
  rw [profile?, (ofData_ok hd h).2, if_neg hn, hp]
  rfl

/-- A name that the file does not define stands for an empty profile, or for none. -/
theorem profile?_of_missing (hd : d.Ordered) (h : ofData d = .ok f) (hn : own? d n = none ∨ n = lendingName) :
    f.profile? n = if n ∈ emptyProfiles then some [] else none := by
  have hget : Members.get? f.profiles n = none := by
    rw [(ofData_ok hd h).2]
    rcases hn with hn | hn
    · rw [hn]
      split
      · rfl
      · rfl
    · rw [if_pos hn]
  rw [profile?, hget]
  simp

theorem requested_of_blank {request : Option String} (h : request.bind Text.nonBlank? = none) :
    f.requested request = .ok none := by
  rw [requested, h]

theorem requested_of_name {request : Option String} (h : request.bind Text.nonBlank? = some n) :
    f.requested request = (f.profile? n).elim (.error n) fun p => .ok (some p) := by
  rw [requested, h]
  dsimp only
  cases f.profile? n with
  | none => rfl
  | some p => rfl

end SettingsFile

/-! ## What is loaded -/

namespace Settings

open Forge SettingsFile

variable {w : World} {path : Option String} {r : Request} {d : Data} {f : SettingsFile} {p : Option (Members Data)}
  {n : String}

/-- What a settings file holds, if it can be read. -/
def held? (w : World) (file : String) : Option Data :=
  match w.disk.read file with
  | .error _ => none
  | .ok bytes =>
    match parse file (Utf8.decode bytes) with
    | .error _ => none
    | .ok d => some d

/-- Whether such data are what settings are loaded from: what the named file holds, or nothing if none is named. -/
def Source (w : World) (path : Option String) (r : Request) (d : Data) : Prop :=
  match path.filter (!·.isEmpty) with
  | none => d = .record [] []
  | some name => held? w (filePath r.directory name) = some d

/-- What is made of data with the environment laid over them: the configuration that they stand for, or the failure
that says what is wrong with them. -/
def made (w : World) (r : Request) (d : Data) : Except Failure Configuration :=
  match (Schema.settings [] (some (d.merge (Environment.overrides r.environment)))).result with
  | .ok s => .ok (s.complete ("/" ++ "/".intercalate w.disk.here) r.directory)
  | .error e => .error (.ofRejection e)

theorem held?_eq_some {file : String} (h : held? w file = some d) :
    ∃ bytes, w.disk.read file = .ok bytes ∧ parse file (Utf8.decode bytes) = .ok d := by
  unfold held? at h
  split at h
  · cases h
  · rename_i bytes hread
    split at h
    · cases h
    · rename_i hparse
      cases h
      exact ⟨bytes, hread, hparse⟩

theorem Source.ordered (h : Source w path r d) : d.Ordered := by
  unfold Source at h
  split at h
  · rw [h]
    exact ordered_nil
  · obtain ⟨_, -, hparse⟩ := held?_eq_some h
    exact parse_ordered hparse

theorem Source.load (h : Source w path r d) : runOn w (load path r) = runOn w (loadData d r) := by
  unfold Source at h
  split at h
  · rename_i hpath
    rw [load_eq, hpath, h]
    rfl
  · rename_i name hpath
    obtain ⟨_, hread, hparse⟩ := held?_eq_some h
    obtain ⟨rfl, hne⟩ := Option.filter_eq_some_iff.1 hpath
    exact load_file (by simpa using hne) hread hparse

theorem runOn_loadFile (h : f.requested r.profile = .ok p) :
    runOn w (loadFile f r) = (made w r ((Data.record f.settings []).merge (.record (p.getD []) [])), w) := by
  rw [loadFile, ofFile, h, made, ← layered_eq]
  dsimp only [SettingsFile.read]
  cases (Schema.settings [] (some (f.layered p r.environment))).result with
  | error e => rfl
  | ok s =>
    dsimp only
    rw [runOn_bind, runOn_here]
    rfl

theorem runOn_loadFile_unknown (h : f.requested r.profile = .error n) :
    runOn w (loadFile f r) = (.error (.unknownProfile n), w) := by
  rw [loadFile, ofFile, h]
  rfl

/-- What is loaded, by the profile that is asked for. One that the file defines is laid over its settings, without what
it has under the reserved name. Of those that the file does not define some are found, and change nothing; and so does
the one that it defines under the reserved name. -/
theorem load_profile (h : Source w path r d) :
    (∀ e, ofData d = .error e → runOn w (load path r) = (.error (.ofRejection e), w)) ∧
      ∀ f, ofData d = .ok f →
        (r.profile.bind Text.nonBlank? = none → runOn w (load path r) = (made w r (base d), w)) ∧
        ∀ n, r.profile.bind Text.nonBlank? = some n →
          (∀ p, own? d n = some p → n ≠ lendingName →
            runOn w (load path r) = (made w r ((base d).merge (.record p.members.counted [])), w)) ∧
          (own? d n = none → n ∉ emptyProfiles →
            ∃ e, runOn w (load path r) = (.error e, w) ∧ e.message = s!"config profile not found: {n}") ∧
          (own? d n = none ∨ n = lendingName → n ∈ emptyProfiles →
            runOn w (load path r) = (made w r (base d), w)) := by
  refine ⟨fun e he => ?_, fun f hf => ?_⟩
  · rw [h.load, loadData, he]
    rfl
  obtain ⟨hbase, -⟩ := ofData_ok h.ordered hf
  have hload : runOn w (load path r) = runOn w (loadFile f r) := by rw [h.load, loadData, hf]
  -- an empty profile and none at all are laid over the settings alike
  have hnothing : (base d).merge (.record [] []) = base d := by simp [base, merge, mergeMembers, members]
  refine ⟨fun hblank => ?_, fun n hn => ⟨fun p hp hname => ?_, fun hmissing hname => ?_, fun hmissing hname => ?_⟩⟩
  · rw [hload, runOn_loadFile (requested_of_blank hblank), hbase, Option.getD_none, hnothing]
  · have hprofile : f.requested r.profile = .ok (some p.members.counted) := by
      rw [requested_of_name hn, profile?_of_own h.ordered hf hname hp]
      rfl
    rw [hload, runOn_loadFile hprofile, hbase, Option.getD_some]
  · have hprofile : f.requested r.profile = .error n := by
      rw [requested_of_name hn, profile?_of_missing h.ordered hf (.inl hmissing), if_neg hname]
      rfl
    exact ⟨.unknownProfile n, by rw [hload, runOn_loadFile_unknown hprofile], rfl⟩
  · have hprofile : f.requested r.profile = .ok (some []) := by
      rw [requested_of_name hn, profile?_of_missing h.ordered hf hmissing, if_pos hname]
      rfl
    rw [hload, runOn_loadFile hprofile, hbase, Option.getD_some, hnothing]

/-- What is known of a file that was read without looking at all that it holds. -/
theorem exists_source {w : World} {name : String} {r : Request} (hne : name ≠ "") {p : Data → Bool}
    (h : (held? w (filePath r.directory name)).any p = true) : ∃ d, Source w (some name) r d ∧ p d = true := by
  obtain ⟨d, hd, hp⟩ := (Option.any_eq_true _ _).1 h
  refine ⟨d, ?_, hp⟩
  rw [Source, show (some name).filter (!·.isEmpty) = some name by simp [hne]]
  exact hd

/-- The profile of the file on `profiled` is laid over its settings, whatever blanks are around its name. -/
theorem load_fast :
    let w : World := ⟨profiled, false, 0, []⟩
    let r : Request := ⟨some " fast ", "/", []⟩
    ∃ d p, Source w (some "forge.json") r d ∧ own? d "fast" = some p ∧
      runOn w (load (some "forge.json") r) = (made w r ((base d).merge (.record p.members.counted [])), w) := by
  intro w r
  obtain ⟨d, hsource, hfile⟩ : ∃ d, Source w (some "forge.json") r d ∧ ((ofData d).isOk && (own? d "fast").isSome) = true :=
    exists_source (by decide) (by decide +kernel)
  rw [Bool.and_eq_true] at hfile
  obtain ⟨p, hp⟩ := Option.isSome_iff_exists.1 hfile.2
  cases hf : ofData d with
  | error e => simp [hf, Except.isOk, Except.toBool] at hfile
  | ok f =>
    have hfast : r.profile.bind Text.nonBlank? = some "fast" := by decide
    exact ⟨d, p, hsource, hp, (((load_profile hsource).2 f hf).2 "fast" hfast).1 p hp (by decide)⟩

/-- A disk with a settings file that says nothing. -/
def unprofiled : Disk := ⟨[(["forge.json"], .file (Utf8.encode "\x7b\x7d") newFileMode)], []⟩

/-- A profile is found though the file defines none. -/
theorem load_constructor :
    let w : World := ⟨unprofiled, false, 0, []⟩
    let r : Request := ⟨some "constructor", "/", []⟩
    ∃ d c, Source w (some "forge.json") r d ∧ own? d "constructor" = none ∧
      (runOn w (load (some "forge.json") r)).1 = .ok c := by
  intro w r
  obtain ⟨d, hsource, hnone⟩ : ∃ d, Source w (some "forge.json") r d ∧ (own? d "constructor").isNone = true :=
    exists_source (by decide) (by decide +kernel)
  have hok : (runOn w (load (some "forge.json") r)).1.isOk = true := by decide +kernel
  cases hc : (runOn w (load (some "forge.json") r)).1 with
  | error e =>
    rw [hc] at hok
    cases hok
  | ok c => exact ⟨d, c, hsource, Option.isNone_iff_eq_none.1 hnone, rfl⟩

end Settings

end VariantForge
