import VariantForge.Proofs.Settings.Parts
import VariantForge.Proofs.Toml.Ordered
import VariantForge.Settings.Load

/-!
# Layers — the environment over a profile over a file

JSON and TOML give records whose names are in order, and none that lends (`Settings.parse_ordered`). So are the
settings and the profiles that a file is taken apart into (`SettingsFile.ordered_of_parse`).

What the environment sets stands at the places of its variables (`Environment.hasLeaf_overrides`). A file, a profile
and an environment laid over each other hold what the environment sets, then what the profile sets, then what the file
sets, and nothing else (`SettingsFile.layered_of_plain`).
-/

namespace VariantForge

open Data

/-! ## What files hold -/

namespace Json

theorem ordered_read (fuel : Nat) :
    (∀ cs d rest, readValue fuel cs = some (d, rest) → Ordered d) ∧
      (∀ before cs d rest, readItems fuel before cs = some (d, rest) → Ordered d) ∧
      ∀ before cs d rest, Ordered (.record before []) → readMembers fuel before cs = some (d, rest) → Ordered d := by
  induction fuel with
  | zero =>
    refine ⟨fun cs d rest h => ?_, fun before cs d rest h => ?_, fun before cs d rest _ h => ?_⟩
    · rw [readValue] at h; cases h
    · rw [readItems] at h; cases h
    · rw [readMembers] at h; cases h
  | succ fuel ih =>
    obtain ⟨ihvalue, ihitems, ihmembers⟩ := ih
    refine ⟨fun cs d rest h => ?_, fun before cs d rest h => ?_, fun before cs d rest hbefore h => ?_⟩
    · unfold readValue at h
      split at h
      · obtain ⟨r, -, hr⟩ := Option.map_eq_some_iff.1 h
        cases hr
        exact .value nofun
      · split at h
        · cases h
          exact .value nofun
        · exact ihitems _ _ _ _ h
      · split at h
        · cases h
          exact ordered_nil
        · exact ihmembers _ _ _ _ ordered_nil h
      all_goals
        obtain ⟨r, -, hr⟩ := Option.map_eq_some_iff.1 h
        cases hr
        exact .value nofun
    · unfold readItems at h
      split at h
      · cases h
      · split at h
        · exact ihitems _ _ _ _ h
        · cases h
          exact .value nofun
        · cases h
    · unfold readMembers at h
      split at h
      · split at h
        · cases h
        · split at h
          · split at h
            · cases h
            · rename_i hvalue
              have hput := hbefore.put (ihvalue _ _ _ hvalue)
              dsimp only at h
              split at h
              · exact ihmembers _ _ _ _ (hput _) h
              · cases h
                exact hput _
              · cases h
          · cases h
      · cases h

theorem read_ordered {s : String} {d : Data} (h : read? s = some d) : d.Ordered := by
  unfold read? at h
  dsimp only at h
  split at h
  · rename_i hvalue
    split at h
    · cases h
      exact (ordered_read _).1 _ _ _ hvalue
    · cases h
  · cases h

end Json

/-- What a settings file holds has its names in order. -/
theorem Settings.parse_ordered {path text : String} {d : Data} (h : parse path text = .ok d) : d.Ordered := by
  unfold parse at h
  split at h
  · split at h
    · rename_i hread
      cases h
      exact Toml.read_ordered hread
    · cases h
    · cases h
  · split at h
    · rename_i hread
      cases h
      exact Json.read_ordered hread
    · cases h

/-! ## Settings and profiles -/

/-- Members of ordered data are ordered data when they are put together anew. -/
theorem Data.ordered_ofList {ms : List (String × Data)} (h : ∀ m ∈ ms, Ordered m.2) :
    Ordered (.record (Members.ofList ms) []) :=
  .record (Members.inOrder_ofList ms) fun m hm => h m (Members.mem_of_mem_ofList hm)

/-- A table that was read of ordered data holds what was read of ordered members. -/
theorem Schema.table_ok {α : Type} {name : List Step → String → List Issue} {r : Reader α} {path : List Step}
    {d : Data} {ms : Members α} (h : Schema.table name r path (some d) = .ok ms) (hd : d.Ordered) :
    ∃ found : List (String × α), ms = Members.ofList found ∧
      ∀ m ∈ found, ∃ path x, x.Ordered ∧ r path (some x) = .ok m.2 := by
  cases d with
  | record own lent =>
    obtain ⟨rfl, -, values⟩ := hd.of_record
    rw [Schema.table, Schema.visible_record] at h
    obtain ⟨found, hfound, rfl⟩ := Checked.map_eq_ok.1 h
    refine ⟨_, rfl, fun m hm => ?_⟩
    obtain ⟨path', x, hx, hread⟩ := Schema.entries_ok hfound m (List.mem_filter.1 hm).1
    exact ⟨path', x, values _ hx, hread⟩
  | _ => cases h

theorem Schema.profiles_ok {path : List Step} {d : Option Data} {ps : Members (Members Data)}
    (h : Schema.profiles path d = .ok (some ps)) (hd : ∀ x, d = some x → x.Ordered) :
    ∀ m ∈ ps, (Data.record m.2 []).Ordered := by
  obtain ⟨x, rfl, htable⟩ := Schema.optional_ok h
  obtain ⟨found, rfl, hfound⟩ := Schema.table_ok htable (hd x rfl)
  intro m hm
  obtain ⟨path', y, hy, hread⟩ := hfound m (Members.mem_of_mem_ofList hm)
  obtain ⟨values, hvalues, hread⟩ := Schema.table_ok hread hy
  rw [hvalues]
  refine ordered_ofList fun v hv => ?_
  obtain ⟨_, z, hz, hread⟩ := hread v hv
  rw [← show z = v.2 from Checked.ok_inj hread]
  exact hz

namespace SettingsFile

/-- The settings and the profiles of a file have their names in order. -/
theorem ordered_of_parse {path text : String} {d : Data} (hparse : Settings.parse path text = .ok d)
    {f : SettingsFile} (h : ofData d = .ok f) :
    (Data.record f.settings []).Ordered ∧ ∀ m ∈ f.profiles, (Data.record m.2 []).Ordered := by
  replace h := Checked.result_eq_ok.1 h
  have hd := Settings.parse_ordered hparse
  cases d with
  | record own lent =>
    obtain ⟨rfl, -, values⟩ := hd.of_record
    obtain ⟨ps, hps, rfl⟩ := Checked.map_eq_ok.1 h
    refine ⟨ordered_ofList fun m hm => values m (List.mem_filter.1 hm).1, ?_⟩
    cases ps with
    | none => exact nofun
    | some ps =>
      refine Schema.profiles_ok hps fun x hx => ?_
      rw [Schema.get?_record] at hx
      exact values _ (Members.mem_of_get? hx)
  | _ => cases h

end SettingsFile

/-! ## What is laid over them -/

namespace Environment

/-- The places that variables of the environment go to. -/
def places : List (List String × String) :=
  [(["chamber"], "FORGE_CHAMBER"), (["output_dir"], "FORGE_OUTPUT_DIR"), (["spells_dir"], "FORGE_SPELLS_DIR"),
    (["toolchain", "version"], "FORGE_NDK_VERSION"), (["toolchain", "api_level"], "FORGE_API_LEVEL"),
    (["toolchain", "system_root"], "ANDROID_NDK_LATEST_HOME"), (["build", "jobs"], "FORGE_BUILD_JOBS")]

/-- The member that a variable gives, if it is said. -/
def said (env : Members String) (key name : String) : Members Data := Data.given key ((given? env name).map .text)

/-- Members in a record of their own, if there are any. -/
def part (key : String) (ms : Members Data) : Members Data := if ms.isEmpty then [] else [(key, .record ms [])]

variable {env : Members String} {key name : String} {ms : Members Data} {way : List String} {v : Data}

/-- What the environment says about the toolchain. -/
def toolchain (env : Members String) : Members Data :=
  [said env "version" "FORGE_NDK_VERSION", said env "api_level" "FORGE_API_LEVEL",
    said env "system_root" "ANDROID_NDK_LATEST_HOME"].flatten

/-- What the environment says. -/
def settings (env : Members String) : Members Data :=
  [said env "chamber" "FORGE_CHAMBER", said env "output_dir" "FORGE_OUTPUT_DIR",
    said env "spells_dir" "FORGE_SPELLS_DIR", part "toolchain" (toolchain env),
    part "build" (said env "jobs" "FORGE_BUILD_JOBS")].flatten

theorem overrides_eq (env : Members String) : overrides env = .record (settings env) [] := by
  simp only [overrides, settings, toolchain, said, part, Data.given, Option.map_map, List.flatten_cons,
    List.flatten_nil, List.append_nil, List.append_assoc]
  rfl

theorem names_said (env : Members String) (key name : String) :
    (Members.names (said env key name)).Sublist [key] := by
  rw [said, Data.given]
  cases given? env name with
  | none => exact List.nil_sublist _
  | some t => exact List.Sublist.refl _

theorem names_part (key : String) (ms : Members Data) : (Members.names (part key ms)).Sublist [key] := by
  rw [part]
  split
  · exact List.nil_sublist _
  · exact List.Sublist.refl _

theorem names_toolchain (env : Members String) :
    (Members.names (toolchain env)).Sublist ["version", "api_level", "system_root"] := by
  simp only [toolchain, List.flatten_cons, List.flatten_nil, List.append_nil, Members.names_append]
  exact (names_said ..).append ((names_said ..).append (names_said ..))

theorem names_settings (env : Members String) :
    (Members.names (settings env)).Sublist ["chamber", "output_dir", "spells_dir", "toolchain", "build"] := by
  simp only [settings, List.flatten_cons, List.flatten_nil, List.append_nil, Members.names_append]
  exact (names_said ..).append ((names_said ..).append ((names_said ..).append
    ((names_part ..).append (names_part ..))))

theorem plain_said (env : Members String) (key name : String) : ∀ m ∈ said env key name, Plain m.2 := by
  rw [said, Data.given]
  cases given? env name with
  | none => exact fun m hm => by cases hm
  | some t => exact List.forall_mem_singleton.2 (.value rfl)

theorem plain_part (h : Plain (.record ms [])) : ∀ m ∈ part key ms, Plain m.2 := by
  rw [part]
  split
  · exact nofun
  · exact List.forall_mem_singleton.2 h

/-- Members under different names that are no array indices are in order. -/
theorem plain_record {keys : List String} (hnames : (Members.names ms).Sublist keys) (hkeys : keys.Nodup)
    (hwords : ∀ k ∈ keys, Members.index? k = none ∧ k ≠ lendingName) (hvalues : ∀ m ∈ ms, Plain m.2) :
    Plain (.record ms []) :=
  .record (Members.inOrder_of_nodup (hkeys.sublist hnames) fun n hn => (hwords n (hnames.subset hn)).1)
    (fun hn => (hwords _ (hnames.subset hn)).2 rfl) hvalues

theorem plain_overrides (env : Members String) : Plain (overrides env) := by
  have htoolchain : Plain (.record (toolchain env) []) := by
    refine plain_record (names_toolchain env) (by decide) (by decide) ?_
    simp only [toolchain, List.flatten_cons, List.flatten_nil, List.append_nil, List.forall_mem_append]
    exact ⟨plain_said _ _ _, plain_said _ _ _, plain_said _ _ _⟩
  have hbuild : Plain (.record (said env "jobs" "FORGE_BUILD_JOBS") []) :=
    plain_record (names_said ..) (by decide) (by decide) (plain_said _ _ _)
  rw [overrides_eq]
  refine plain_record (names_settings env) (by decide) (by decide) ?_
  simp only [settings, List.flatten_cons, List.flatten_nil, List.append_nil, List.forall_mem_append]
  exact ⟨plain_said _ _ _, plain_said _ _ _, plain_said _ _ _, plain_part htoolchain, plain_part hbuild⟩

theorem hasLeaf_said :
    (Data.record (said env key name) []).HasLeaf way v ↔ ∃ t, given? env name = some t ∧ way = [key] ∧ v = .text t := by
  rw [said, Data.given]
  cases given? env name with
  | none =>
    refine ⟨fun h => absurd h not_hasLeaf_nil, ?_⟩
    rintro ⟨_, h, -⟩
    cases h
  | some t =>
    constructor
    · rintro ⟨hne, hat, -⟩
      obtain ⟨name, rest, rfl⟩ := List.exists_cons_of_ne_nil hne
      obtain ⟨x, hx, hat⟩ := Option.bind_eq_some_iff.1 hat
      obtain ⟨rfl, rfl⟩ : key = name ∧ Data.text t = x := by simpa [Members.get?] using hx
      cases rest with
      | nil => exact ⟨t, rfl, rfl, (Option.some.inj hat).symm⟩
      | cons name' rest => cases hat
    · rintro ⟨t', ht, rfl, rfl⟩
      obtain rfl := Option.some.inj ht
      exact hasLeaf_cons (x := .text t) (by simp [Members.get?]) rfl (isLeaf_of_isRecord rfl)

theorem hasLeaf_part :
    (Data.record (part key ms) []).HasLeaf way v ↔ ∃ rest, way = key :: rest ∧ (Data.record ms []).HasLeaf rest v := by
  rw [part]
  cases ms with
  | nil => exact ⟨fun h => absurd h not_hasLeaf_nil, fun ⟨_, _, h⟩ => absurd h not_hasLeaf_nil⟩
  | cons m ms =>
    constructor
    · rintro ⟨hne, hat, hleaf⟩
      obtain ⟨name, rest, rfl⟩ := List.exists_cons_of_ne_nil hne
      obtain ⟨x, hx, hat⟩ := Option.bind_eq_some_iff.1 hat
      obtain ⟨rfl, rfl⟩ : key = name ∧ Data.record (m :: ms) [] = x := by simpa [Members.get?] using hx
      cases rest with
      | nil =>
        obtain rfl := Option.some.inj hat
        cases hleaf _ _ rfl
      | cons name' rest => exact ⟨_, rfl, by simp, hat, hleaf⟩
    · rintro ⟨rest, rfl, -, hat, hleaf⟩
      exact hasLeaf_cons (x := .record (m :: ms) []) (by simp [Members.get?]) hat hleaf

/-- The environment sets what its variables say, at their places. -/
theorem hasLeaf_overrides :
    (overrides env).HasLeaf way v ↔ ∃ name t, (way, name) ∈ places ∧ given? env name = some t ∧ v = .text t := by
  have hsettings : (Members.names (settings env)).Nodup := List.Nodup.sublist (names_settings env) (by decide)
  have htoolchain : (Members.names (toolchain env)).Nodup := List.Nodup.sublist (names_toolchain env) (by decide)
  rw [overrides_eq, settings, hasLeaf_flatten hsettings]
  simp only [List.mem_cons, List.not_mem_nil, or_false, exists_eq_or_imp, exists_eq_left, hasLeaf_part, hasLeaf_said]
  rw [toolchain]
  simp only [hasLeaf_flatten htoolchain, List.mem_cons, List.not_mem_nil, or_false, exists_eq_or_imp, exists_eq_left,
    hasLeaf_said]
  constructor
  · rintro (⟨t, ht, rfl, rfl⟩ | ⟨t, ht, rfl, rfl⟩ | ⟨t, ht, rfl, rfl⟩ |
      ⟨_, rfl, ⟨t, ht, rfl, rfl⟩ | ⟨t, ht, rfl, rfl⟩ | ⟨t, ht, rfl, rfl⟩⟩ | ⟨_, rfl, t, ht, rfl, rfl⟩) <;>
      exact ⟨_, t, by simp [places], ht, rfl⟩
  · rintro ⟨name, t, hplace, ht, rfl⟩
    simp only [places, List.mem_cons, Prod.mk.injEq, List.not_mem_nil, or_false] at hplace
    rcases hplace with ⟨rfl, rfl⟩ | ⟨rfl, rfl⟩ | ⟨rfl, rfl⟩ | ⟨rfl, rfl⟩ | ⟨rfl, rfl⟩ | ⟨rfl, rfl⟩ | ⟨rfl, rfl⟩ <;>
      simp [ht]

theorem given?_of_trim {raw : String} (h : Members.get? env name = some raw)
    (hne : Text.trim raw ≠ "") : given? env name = some (Text.trim raw) := by
  simp [given?, h, Text.nonBlank?, hne]

end Environment

/-! ## One record over another -/

/-- What becomes of a record over which another is laid: its members are replaced whole, but records that meet are
merged in turn; laying it over again changes nothing; and names stand where they stood, new ones after them. -/
structure Data.Overlaid (base upper merged : Data) : Prop where
  members : ∀ name, Members.get? merged.members name =
    match Members.get? upper.members name with
    | some v => some (stacked (Members.get? base.members name) v)
    | none => Members.get? base.members name
  again : merged.merge upper = merged
  order : Members.InOrder (Members.names merged.members)
  kept : (Members.names base.members).Sublist (Members.names merged.members)
  added : Members.wordNames (Members.names merged.members) =
    Members.wordNames (Members.names base.members) ++
      Members.wordNames ((Members.names upper.members).filter fun n => n ∉ Members.names base.members)

theorem Data.overlaid_merge {base upper : Data} (hbase : Plain base) (hb : base.isRecord = true) (hupper : Plain upper)
    (hu : upper.isRecord = true) : Overlaid base upper (base.merge upper) := by
  obtain ⟨below, rfl, horder, -⟩ := hbase.cases_record.resolve_right (by simp [hb])
  obtain ⟨own, rfl, order, reserved⟩ := hupper.cases_record.resolve_right (by simp [hu])
  have hmerge := merge_record reserved (.record below []) []
  refine ⟨fun name => ?_, merge_merge hupper _, ?_, ?_, ?_⟩
  · rw [hmerge]
    exact get?_overlay order.nodup below name
  · rw [hmerge]
    exact inOrder_overlay horder own
  · rw [hmerge]
    exact names_sublist_overlay below own
  · rw [hmerge]
    exact wordNames_overlay order.nodup below

/-! ## The layers -/

namespace SettingsFile

/-- What a file, a profile and an environment give together. -/
structure Layered (file profile : Data) (env : Members String) (merged : Data) : Prop where
  ofEnvironment : ∀ way name raw, (way, name) ∈ Environment.places → Members.get? env name = some raw →
    Text.trim raw ≠ "" → merged.at? way = some (.text (Text.trim raw))
  ofProfile : ∀ way v, way ≠ [] → profile.at? way = some v → v.isRecord = false →
    (Environment.overrides env).Spares way → merged.at? way = some v
  ofFile : ∀ way v, way ≠ [] → file.at? way = some v → profile.Spares way →
    (Environment.overrides env).Spares way → merged.at? way = some v
  leaf : ∀ way v, merged.HasLeaf way v →
    (Environment.overrides env).HasLeaf way v ∨ profile.HasLeaf way v ∨ file.HasLeaf way v

variable {f : SettingsFile} {profile : Option (Members Data)} {env : Members String}

theorem layered_eq (f : SettingsFile) (profile : Option (Members Data)) (env : Members String) :
    f.layered profile env =
      ((Data.record f.settings []).merge (.record (profile.getD []) [])).merge (Environment.overrides env) := by
  cases profile with
  | none => simp [layered, merge, mergeMembers, members]
  | some p => rfl

theorem layered_of_plain (hfile : Plain (.record f.settings [])) (hprofile : Plain (.record (profile.getD []) []))
    (env : Members String) :
    Layered (.record f.settings []) (.record (profile.getD []) []) env (f.layered profile env) := by
  have henv := Environment.plain_overrides env
  have hmiddle := hprofile.merge hfile rfl
  rw [layered_eq]
  refine ⟨fun way name raw hplace hraw hne => ?_, fun way v hne hat hv hspares => ?_,
    fun way v hne hat hspares hspares' => ?_, fun way v hleaf => ?_⟩
  · obtain ⟨hway, hat, -⟩ := Environment.hasLeaf_overrides.2 ⟨name, _, hplace, Environment.given?_of_trim hraw hne, rfl⟩
    obtain ⟨n, rest, rfl⟩ := List.exists_cons_of_ne_nil hway
    exact at?_merge_upper henv rfl hat _
  · obtain ⟨n, rest, rfl⟩ := List.exists_cons_of_ne_nil hne
    exact at?_merge_lower henv hspares (at?_merge_upper hprofile hv hat _)
  · obtain ⟨n, rest, rfl⟩ := List.exists_cons_of_ne_nil hne
    exact at?_merge_lower henv hspares' (at?_merge_lower hprofile hspares hat)
  · have hrecord : (Environment.overrides env).isRecord = true := rfl
    rcases hleaf.of_merge henv hmiddle (hprofile.isRecord_merge _) hrecord with h | h
    · exact .inl h
    · exact .inr (h.of_merge hprofile hfile rfl rfl)

theorem requested_ok {request : Option String} (h : f.requested request = .ok profile) :
    profile.getD [] = [] ∨ ∃ name, (name, profile.getD []) ∈ f.profiles := by
  unfold requested at h
  split at h
  · cases h
    exact .inl rfl
  · split at h
    · rename_i hprofile
      cases h
      unfold profile? at hprofile
      split at hprofile
      · rename_i hget
        cases hprofile
        exact .inr ⟨_, Members.mem_of_get? hget⟩
      · split at hprofile
        · cases hprofile
          exact .inl rfl
        · cases hprofile
    · cases h

/-- A file whose profile sets what the file sets. -/
def profiled : String :=
  "\x7b\"build\":\x7b\"dir\":\"b\",\"jobs\":\"1\"\x7d," ++
    "\"profiles\":\x7b\"fast\":\x7b\"build\":\x7b\"jobs\":\"8\"\x7d\x7d\x7d\x7d"

/-- Whether such a file can be read, and its profile found, without a reserved name or a date in them. -/
def readable : Bool :=
  match Settings.parse "/forge.json" profiled with
  | .ok d =>
    match ofData d with
    | .ok f =>
      match f.requested (some "fast") with
      | .ok p => isClean (.record f.settings []) && isClean (.record (p.getD []) [])
      | .error _ => false
    | .error _ => false
  | .error _ => false

end SettingsFile

end VariantForge
