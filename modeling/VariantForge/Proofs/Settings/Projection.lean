import VariantForge.Proofs.Execution
import VariantForge.Proofs.Path.Inside
import VariantForge.Proofs.Settings.Parts
import VariantForge.Settings.Load

/-!
# Loading again — a configuration that was loaded loads as itself

A path that was resolved is resolved to itself from anywhere (`Path.resolve_resolved`), and a configuration's record
says all that it was completed by. So loading what a loaded configuration holds, with no profile and an empty
environment, gives that configuration, from whatever directory (`Settings.load_again`).
-/

namespace VariantForge

/-! ## Resolved paths -/

theorem Path.resolve_resolved (here dir cwd : String) (paths : List String) :
    resolve here [dir, resolve cwd paths] = resolve cwd paths := by
  obtain ⟨ns, hns, h⟩ := exists_resolve cwd paths
  rw [h]
  have habs := isAbsolute_absolute ns
  have hne : (absolute ns).toList ≠ [] := by simp [toList_absolute]
  rw [isAbsolute] at habs
  simp only [resolve, List.foldl_cons, List.foldl_nil]
  rw [stepInto, if_neg hne, if_pos habs]
  show absolute (normalParts false (absolute ns).toList) = absolute ns
  rw [toList_absolute, normalParts_absolute hns]

theorem Path.resolve_ne_empty (cwd : String) (paths : List String) : resolve cwd paths ≠ "" := by
  intro h
  have : (resolve cwd paths).toList = [] := by rw [h]; rfl
  simp [resolve] at this

/-! ## Completed settings -/

namespace Configuration

/-- A configuration whose settings say what they were completed by. -/
def settled (c : Configuration) : Configuration := { c with settings := c.written }

/-- It is the same configuration. -/
theorem settled_toData (c : Configuration) : c.settled.toData = c.toData := rfl

end Configuration

theorem Toolchain.address_ne_empty (version : String) : address version ≠ "" := by
  intro h
  have hzip := (String.append_eq_empty_iff.1 h).2
  revert hzip
  decide

namespace Settings

theorem complete_outputDir (here cwd : String) (s : Settings) :
    ∃ paths, (s.complete here cwd).outputDir = Path.resolve here paths := by
  rw [complete]
  cases s.outputDir with
  | none => exact ⟨_, rfl⟩
  | some dir => exact ⟨_, rfl⟩

theorem complete_downloadUrl {path : List Step} {d : Option Data} {s : Settings}
    (h : Schema.settings path d = .ok s) (here cwd : String) : (s.complete here cwd).downloadUrl ≠ "" := by
  obtain ⟨_, _, h⟩ := Schema.toolchain_ok h
  show s.toolchain.downloadUrl.getD (Toolchain.address s.toolchain.version) ≠ ""
  cases hurl : s.toolchain.downloadUrl with
  | none => exact Toolchain.address_ne_empty _
  | some url => exact Schema.downloadUrl_ne_empty h hurl

theorem complete_named {path : List Step} {d : Option Data} {s : Settings}
    (h : Schema.settings path d = .ok s) (here cwd : String) : (s.complete here cwd).Named := by
  refine ⟨Path.resolve_ne_empty _ _, ?_, Path.resolve_ne_empty _ _, complete_downloadUrl h here cwd⟩
  obtain ⟨paths, hpaths⟩ := complete_outputDir here cwd s
  rw [hpaths]
  exact Path.resolve_ne_empty _ _

/-- What a completed configuration says is complete, wherever it is looked at from. -/
theorem complete_written (here cwd here' cwd' : String) (s : Settings) :
    (s.complete here cwd).written.complete here' cwd' = (s.complete here cwd).settled := by
  obtain ⟨paths, hpaths⟩ := complete_outputDir here cwd s
  have houtput : Path.resolve here' [cwd', (s.complete here cwd).outputDir] = (s.complete here cwd).outputDir := by
    rw [hpaths, Path.resolve_resolved]
  have hchamber : Path.resolve here' [cwd', (s.complete here cwd).chamber] = (s.complete here cwd).chamber :=
    Path.resolve_resolved _ _ _ _
  have hspells : Path.resolve here' [cwd', (s.complete here cwd).spellsDir] = (s.complete here cwd).spellsDir :=
    Path.resolve_resolved _ _ _ _
  simp only [Configuration.settled, Configuration.written, Settings.complete, Option.elim_some,
    Option.getD_some] at houtput hchamber hspells ⊢
  rw [houtput, hchamber, hspells]

/-! ## The file -/

/-- Loads settings from the file that was read. -/
def loadFile (file : SettingsFile) (r : Request) : Forge Configuration := do
  match ofFile file r with
  | .ok s => return s.complete (← Forge.here) r.directory
  | .error f => throw f

/-- Loads settings from the value that a file holds. -/
def loadData (d : Data) (r : Request) : Forge Configuration :=
  match SettingsFile.ofData d with
  | .ok file => loadFile file r
  | .error e => throw (.ofRejection e)

open Forge

variable {path : Option String} {r : Request} {c : Configuration} {w w' : World}

theorem load_eq (path : Option String) (r : Request) :
    load path r = (match path.filter (!·.isEmpty) with
      | some path => readFile (filePath r.directory path)
      | none => pure .empty) >>= fun file => loadFile file r := by
  rw [load]
  cases path.filter (!·.isEmpty) <;> rfl

/-- Loading from a file is loading from what it holds. -/
theorem load_file {name : String} (hname : name ≠ "") {bytes : ByteArray}
    (hread : w.disk.read (filePath r.directory name) = .ok bytes) {d : Data}
    (hparse : parse (filePath r.directory name) (Utf8.decode bytes) = .ok d) :
    runOn w (load (some name) r) = runOn w (loadData d r) := by
  have hgiven : (some name).filter (!·.isEmpty) = some name := by simp [hname]
  rw [load_eq, hgiven]
  dsimp only
  rw [runOn_bind, readFile, runOn_bind, runOn_readFile, hread, loadData]
  simp only [mapError_ok, hparse]
  cases SettingsFile.ofData d <;> rfl

/-- What is loaded is made of settings that were read. -/
theorem complete_of_load (h : runOn w (load path r) = (.ok c, w')) :
    ∃ d s here, Schema.settings [] (some d) = .ok s ∧ c = s.complete here r.directory := by
  rw [load_eq] at h
  obtain ⟨file, w₁, -, h⟩ := of_bind_ok h
  unfold loadFile at h
  split at h
  · rename_i s hs
    cases h
    unfold ofFile at hs
    split at hs
    · cases hs
    · split at hs
      · rename_i hread
        cases hs
        exact ⟨_, s, _, Checked.result_eq_ok.1 hread, rfl⟩
      · cases hs
  · cases h

/-! ## A configuration as a file -/

theorem ofData_toData (c : Configuration) : SettingsFile.ofData c.toData = .ok ⟨c.members, []⟩ := by
  have hnames : Members.InOrder (Members.names c.members) :=
    Members.inOrder_of_nodup (by simp [Configuration.members]) (by simp [Configuration.members]; decide)
  have hmembers : Members.ofList (c.members.filter fun m => m.1 != "profiles" && m.1 != Data.lendingName) = c.members :=
    Members.ofList_of_inOrder hnames
  rw [SettingsFile.ofData, Configuration.toData_eq]
  dsimp only
  rw [hmembers, Schema.field, Schema.get?_record]
  rfl

/-- Nothing is laid over a file for no profile and an empty environment. -/
theorem ofFile_bottom {ms : Members Data} {s : Settings} (h : Schema.settings [] (some (.record ms [])) = .ok s)
    (directory : String) : ofFile ⟨ms, []⟩ ⟨none, directory, []⟩ = .ok s := by
  have hread : SettingsFile.read ⟨ms, []⟩ none [] = .ok s := Checked.result_eq_ok.2 h
  unfold ofFile
  dsimp only [SettingsFile.requested, Option.bind]
  rw [hread]

theorem loadData_toData {d : Data} {s : Settings} (h : Schema.settings [] (some d) = .ok s)
    (here cwd directory : String) (w : World) :
    runOn w (loadData (s.complete here cwd).toData ⟨none, directory, []⟩) = (.ok (s.complete here cwd).settled, w) := by
  have hreads : Schema.settings [] (some (.record (s.complete here cwd).members [])) =
      .ok (s.complete here cwd).written := Schema.reads_written h (complete_named h _ _) []
  rw [loadData, ofData_toData]
  dsimp only
  rw [loadFile, ofFile_bottom hreads]
  dsimp only
  rw [runOn_bind, runOn_here]
  dsimp only
  rw [complete_written, runOn_pure]

/-- A configuration that was loaded is loaded again from what it holds, as it is, whatever the directory. No profile
is asked for, and the environment is empty. -/
theorem load_again (h : runOn w (load path r) = (.ok c, w')) (directory : String) (w₂ : World) :
    runOn w₂ (loadData c.toData ⟨none, directory, []⟩) = (.ok c.settled, w₂) ∧
      c.settled.toData = c.toData ∧
      ∀ (name : String) (bytes : ByteArray), name ≠ "" → w₂.disk.read (filePath directory name) = .ok bytes →
        parse (filePath directory name) (Utf8.decode bytes) = .ok c.toData →
        runOn w₂ (load (some name) ⟨none, directory, []⟩) = (.ok c.settled, w₂) := by
  obtain ⟨d, s, here, hread, rfl⟩ := complete_of_load h
  have hagain := loadData_toData hread here r.directory directory w₂
  exact ⟨hagain, Configuration.settled_toData _,
    fun name bytes hname hbytes hparse => (load_file (r := ⟨none, directory, []⟩) hname hbytes hparse).trans hagain⟩

/-- A disk with one settings file, whose profile writes a number as a text. -/
def profiled : Disk :=
  let text := "\x7b\"build\":\x7b\"target\":\"a.so\"\x7d," ++
    "\"profiles\":\x7b\"fast\":\x7b\"build\":\x7b\"jobs\":\"8\"\x7d\x7d\x7d\x7d"
  ⟨[(["forge.json"], .file (Utf8.encode text) newFileMode)], []⟩

/-- The settings of such a file load again elsewhere. -/
theorem profiled_again : ∃ c w,
    runOn ⟨profiled, false, 0, []⟩ (load (some "/forge.json") ⟨some "fast", "/", []⟩) = (.ok c, w) ∧
      runOn w (loadData c.toData ⟨none, "/elsewhere", []⟩) = (.ok c.settled, w) ∧
      c.settled.toData = c.toData := by
  have hok : (runOn ⟨profiled, false, 0, []⟩ (load (some "/forge.json") ⟨some "fast", "/", []⟩)).1.isOk = true := by
    decide +kernel
  rcases h : runOn ⟨profiled, false, 0, []⟩ (load (some "/forge.json") ⟨some "fast", "/", []⟩) with ⟨f | c, w⟩
  · rw [h] at hok
    cases hok
  · exact ⟨c, w, rfl, (load_again h "/elsewhere" w).1, (load_again h "/elsewhere" w).2.1⟩

end Settings

end VariantForge
