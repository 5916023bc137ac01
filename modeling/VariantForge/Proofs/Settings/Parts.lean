import VariantForge.Proofs.Settings.Stable

/-!
# Settings again — a configuration that is written down is read as itself

Each part of the settings is read again from its record (`stable_source`, `stable_retry`, `reads_toolchain`,
`stable_build`, `stable_package`). A configuration's record stands for its settings with the three directories and the
address it was completed by (`Configuration.written`), and is read as these (`reads_written`).
-/

namespace VariantForge

/-! ## Records of the parts -/

/-- What a configuration says about the source. -/
def SourceSettings.toData (s : SourceSettings) : Data := .record
  [("candidates", .list (s.candidates.map Candidate.toData)), ("depth", .number s.depth),
    ("pin_fetch_depth", .number s.pinFetchDepth), ("git_user_name", .text s.gitUserName),
    ("git_user_email", .text s.gitUserEmail)] []

/-- What a configuration says about retries. -/
def RetrySettings.toData (s : RetrySettings) : Data := .record
  [("max_attempts", .number s.maxAttempts), ("delay_seconds", .number s.delaySeconds)] []

/-- What a configuration with this address says about the toolchain. -/
def ToolchainSettings.toData (s : ToolchainSettings) (url : String) : Data := .record
  ([("version", .text s.version), ("api_level", .number s.apiLevel)] ++
    Data.given "system_root" (s.systemRoot.map .text) ++
    [("host_tag", .text s.hostTag), ("ccache", .bool s.ccache),
      ("download_timeout_seconds", .number s.downloadTimeoutSeconds),
      ("max_download_bytes", .number s.maxDownloadBytes), ("download_url", .text url)]) []

/-- What a configuration says about the build. -/
def BuildSettings.toData (s : BuildSettings) : Data := .record
  ([("dir", .text s.directory), ("target", .text s.target)] ++ Data.given "jobs" (s.jobs.map .number) ++
    [("configure_log_tail", .number s.configureLogTail), ("compile_log_tail", .number s.compileLogTail),
      ("meson_options", .ofTexts s.mesonOptions), ("env", .ofTexts s.environment)]) []

/-- What a configuration says about packages. -/
def PackageSettings.toData (s : PackageSettings) : Data := .record
  [("prefix", .text s.namePrefix), ("library_name", .text s.libraryName), ("soname", .text s.soname),
    ("author", .text s.author), ("vendor", .text s.vendor), ("package_version", .text s.packageVersion),
    ("min_api", .number s.minApi), ("schema_version", .number s.schemaVersion)] []

/-- The members of a configuration's record. -/
def Configuration.members (c : Configuration) : Members Data :=
  [("chamber", .text c.chamber), ("output_dir", .text c.outputDir), ("spells_dir", .text c.spellsDir),
    ("default_variant", .text c.settings.defaultVariant), ("report", .bool c.settings.report),
    ("source", c.settings.source.toData), ("retry", c.settings.retry.toData),
    ("toolchain", c.settings.toolchain.toData c.downloadUrl), ("build", c.settings.build.toData),
    ("package", c.settings.package.toData), ("transforms", .list (c.settings.spells.map Spell.toData)),
    ("variants", .list (c.settings.variants.map VariantDefinition.toData))]

theorem Configuration.toData_eq (c : Configuration) : c.toData = .record c.members [] := rfl

/-- The settings that a configuration's record stands for: its directories and its address are said. -/
def Configuration.written (c : Configuration) : Settings :=
  { c.settings with
    chamber := c.chamber
    outputDir := some c.outputDir
    spellsDir := c.spellsDir
    toolchain := { c.settings.toolchain with downloadUrl := some c.downloadUrl } }

/-- A configuration whose directories and whose address are not empty. -/
structure Configuration.Named (c : Configuration) : Prop where
  chamber : c.chamber ≠ ""
  outputDir : c.outputDir ≠ ""
  spellsDir : c.spellsDir ≠ ""
  downloadUrl : c.downloadUrl ≠ ""

namespace Schema

open Checked

variable {path : List Step} {d : Option Data}

theorem Reads.withDefault {α : Type} {r : Reader α} {d : Data} {a : α} (h : Reads r (some d) a) (default : Data) :
    Reads (withDefault default r) (some d) a := h

theorem Reads.optional {α : Type} {r : Reader α} {d : Data} {a : α} (h : Reads r (some d) a) :
    Reads (optional r) (some d) (some a) := fun path => by
  rw [Schema.optional, h path, map_ok]

theorem optional_ok {α : Type} {r : Reader α} {a : α} (h : optional r path d = .ok (some a)) :
    ∃ x, d = some x ∧ r path (some x) = .ok a := by
  cases d with
  | none => cases h
  | some x =>
    obtain ⟨b, hb, hab⟩ := map_eq_ok.1 h
    obtain rfl := Option.some.inj hab
    exact ⟨x, rfl, hb⟩

theorem recordOr_ok {α : Type} {k : List Step → (String → Option Data) → Checked α} {a : α}
    (h : recordOr k path d = .ok a) : ∃ get, k path get = .ok a := record_ok h

theorem recordOr_eq {α : Type} (k : List Step → (String → Option Data) → Checked α) (path : List Step)
    (own : Members Data) : recordOr k path (some (.record own [])) = k path (Members.get? own) := record_eq k path own

theorem stable_textOr (default : String) : Stable (textOr default) fun s => some (.text s) :=
  stable_text.withDefault (fun _ => rfl) _

theorem stable_countOr (default : Nat) : Stable (countOr default) fun x => some (.number x) :=
  (stable_coercedNumber _).withDefault (fun _ => rfl) _

theorem stable_texts : Stable texts fun ms => some (.ofTexts ms) :=
  stable_anyText.table.withDefault (fun _ => rfl) _

/-! ## The parts -/

theorem sourceMk_ok {candidates : Checked (List Candidate)} {depth pinFetchDepth : Checked Number}
    {gitUserName gitUserEmail : Checked String} {s : SourceSettings} :
    (SourceSettings.mk <$> candidates <*> depth <*> pinFetchDepth <*> gitUserName <*> gitUserEmail) = .ok s ↔
      candidates = .ok s.candidates ∧ depth = .ok s.depth ∧ pinFetchDepth = .ok s.pinFetchDepth ∧
        gitUserName = .ok s.gitUserName ∧ gitUserEmail = .ok s.gitUserEmail := by
  cases s
  simp only [seq_eq_ok, map_eq_ok]
  aesop

theorem stable_source : Stable source fun s => some s.toData := by
  intro path d s h path'
  obtain ⟨get, h⟩ := recordOr_ok h
  obtain ⟨hcandidates, hdepth, hpin, hname, hemail⟩ := sourceMk_ok.1 h
  refine (recordOr_eq _ path' _).trans (sourceMk_ok.2 ⟨?_, ?_, ?_, ?_, ?_⟩)
  · exact field_eq_ok rfl (stable_candidate.nonEmptyList.withDefault (fun _ => rfl) _ _ _ _ hcandidates)
  · exact field_eq_ok rfl (stable_countOr _ _ _ _ hdepth)
  · exact field_eq_ok rfl (stable_countOr _ _ _ _ hpin)
  · exact field_eq_ok rfl (stable_textOr _ _ _ _ hname)
  · exact field_eq_ok rfl (stable_textOr _ _ _ _ hemail)

theorem retryMk_ok {maxAttempts delaySeconds : Checked Number} {s : RetrySettings} :
    (RetrySettings.mk <$> maxAttempts <*> delaySeconds) = .ok s ↔
      maxAttempts = .ok s.maxAttempts ∧ delaySeconds = .ok s.delaySeconds := by
  cases s
  simp only [seq_eq_ok, map_eq_ok]
  aesop

theorem stable_retry : Stable retry fun s => some s.toData := by
  intro path d s h path'
  obtain ⟨get, h⟩ := recordOr_ok h
  obtain ⟨hattempts, hdelay⟩ := retryMk_ok.1 h
  refine (recordOr_eq _ path' _).trans (retryMk_ok.2 ⟨?_, ?_⟩)
  · exact field_eq_ok rfl (stable_countOr _ _ _ _ hattempts)
  · exact field_eq_ok rfl ((stable_coercedNumber _).withDefault (fun _ => rfl) _ _ _ _ hdelay)

theorem toolchainMk_ok {version hostTag : Checked String} {apiLevel timeout bytes : Checked Number}
    {systemRoot downloadUrl : Checked (Option String)} {ccache : Checked Bool} {s : ToolchainSettings} :
    (ToolchainSettings.mk <$> version <*> apiLevel <*> systemRoot <*> downloadUrl <*> hostTag <*> ccache
        <*> timeout <*> bytes) = .ok s ↔
      version = .ok s.version ∧ apiLevel = .ok s.apiLevel ∧ systemRoot = .ok s.systemRoot ∧
        downloadUrl = .ok s.downloadUrl ∧ hostTag = .ok s.hostTag ∧ ccache = .ok s.ccache ∧
        timeout = .ok s.downloadTimeoutSeconds ∧ bytes = .ok s.maxDownloadBytes := by
  cases s
  constructor
  · simp only [seq_eq_ok, map_eq_ok]
    aesop
  · rintro ⟨rfl, rfl, rfl, rfl, rfl, rfl, rfl, rfl⟩
    rfl

/-- An address that was read is not empty. -/
theorem downloadUrl_ne_empty {s : ToolchainSettings} (h : toolchain path d = .ok s) {url : String}
    (hurl : s.downloadUrl = some url) : url ≠ "" := by
  obtain ⟨get, h⟩ := recordOr_ok h
  obtain ⟨-, -, -, hread, -, -, -, -⟩ := toolchainMk_ok.1 h
  rw [hurl] at hread
  obtain ⟨_, -, hread⟩ := optional_ok hread
  exact text_eq_ok hread

/-- What is said of the toolchain is read again, with the address that was said. -/
theorem reads_toolchain {s : ToolchainSettings} (h : toolchain path d = .ok s) {url : String} (hurl : url ≠ "") :
    Reads toolchain (some (s.toData url)) { s with downloadUrl := some url } := by
  intro path'
  obtain ⟨get, h⟩ := recordOr_ok h
  obtain ⟨hversion, hlevel, hroot, -, htag, hccache, htimeout, hbytes⟩ := toolchainMk_ok.1 h
  refine (recordOr_eq _ path' _).trans (toolchainMk_ok.2 ⟨?_, ?_, ?_, ?_, ?_, ?_, ?_, ?_⟩)
  · exact field_eq_ok rfl (stable_textOr _ _ _ _ hversion)
  · exact field_eq_ok rfl (stable_countOr _ _ _ _ hlevel)
  · exact field_eq_ok (by simp [Members.get?, Members.get?_append]) (stable_text.optional _ _ _ hroot)
  · exact field_eq_ok (by simp [Members.get?, Members.get?_append]) (reads_text hurl).optional
  · exact field_eq_ok (by simp [Members.get?, Members.get?_append]) (stable_textOr _ _ _ _ htag)
  · exact field_eq_ok (by simp [Members.get?, Members.get?_append])
      (stable_bool.withDefault (fun _ => rfl) _ _ _ _ hccache)
  · exact field_eq_ok (by simp [Members.get?, Members.get?_append]) (stable_countOr _ _ _ _ htimeout)
  · exact field_eq_ok (by simp [Members.get?, Members.get?_append])
      ((stable_coercedNumber _).withDefault (fun _ => rfl) _ _ _ _ hbytes)

theorem buildMk_ok {directory target : Checked String} {jobs : Checked (Option Number)}
    {configureLogTail compileLogTail : Checked Number} {mesonOptions environment : Checked (Members String)}
    {s : BuildSettings} :
    (BuildSettings.mk <$> directory <*> target <*> jobs <*> configureLogTail <*> compileLogTail <*> mesonOptions
        <*> environment) = .ok s ↔
      directory = .ok s.directory ∧ target = .ok s.target ∧ jobs = .ok s.jobs ∧
        configureLogTail = .ok s.configureLogTail ∧ compileLogTail = .ok s.compileLogTail ∧
        mesonOptions = .ok s.mesonOptions ∧ environment = .ok s.environment := by
  cases s
  simp only [seq_eq_ok, map_eq_ok]
  aesop

theorem stable_build : Stable build fun s => some s.toData := by
  intro path d s h path'
  obtain ⟨get, h⟩ := recordOr_ok h
  obtain ⟨hdir, htarget, hjobs, hconfigure, hcompile, hoptions, henv⟩ := buildMk_ok.1 h
  refine (recordOr_eq _ path' _).trans (buildMk_ok.2 ⟨?_, ?_, ?_, ?_, ?_, ?_, ?_⟩)
  · exact field_eq_ok rfl (stable_textOr _ _ _ _ hdir)
  · exact field_eq_ok rfl (stable_textOr _ _ _ _ htarget)
  · exact field_eq_ok (by simp [Members.get?, Members.get?_append])
      ((stable_coercedNumber _).optional _ _ _ hjobs)
  · exact field_eq_ok (by simp [Members.get?, Members.get?_append]) (stable_countOr _ _ _ _ hconfigure)
  · exact field_eq_ok (by simp [Members.get?, Members.get?_append]) (stable_countOr _ _ _ _ hcompile)
  · exact field_eq_ok (by simp [Members.get?, Members.get?_append]) (stable_texts _ _ _ hoptions)
  · exact field_eq_ok (by simp [Members.get?, Members.get?_append]) (stable_texts _ _ _ henv)

theorem packageMk_ok {namePrefix libraryName soname author vendor packageVersion : Checked String}
    {minApi schemaVersion : Checked Number} {s : PackageSettings} :
    (PackageSettings.mk <$> namePrefix <*> libraryName <*> soname <*> author <*> vendor <*> packageVersion
        <*> minApi <*> schemaVersion) = .ok s ↔
      namePrefix = .ok s.namePrefix ∧ libraryName = .ok s.libraryName ∧ soname = .ok s.soname ∧
        author = .ok s.author ∧ vendor = .ok s.vendor ∧ packageVersion = .ok s.packageVersion ∧
        minApi = .ok s.minApi ∧ schemaVersion = .ok s.schemaVersion := by
  cases s
  simp only [seq_eq_ok, map_eq_ok]
  aesop

theorem stable_package : Stable package fun s => some s.toData := by
  intro path d s h path'
  obtain ⟨get, h⟩ := recordOr_ok h
  obtain ⟨hpre, hlibrary, hsoname, hauthor, hvendor, hversion, hapi, hschema⟩ := packageMk_ok.1 h
  refine (recordOr_eq _ path' _).trans (packageMk_ok.2 ⟨?_, ?_, ?_, ?_, ?_, ?_, ?_, ?_⟩)
  · exact field_eq_ok rfl (stable_textOr _ _ _ _ hpre)
  · exact field_eq_ok rfl (stable_textOr _ _ _ _ hlibrary)
  · exact field_eq_ok rfl (stable_textOr _ _ _ _ hsoname)
  · exact field_eq_ok rfl (stable_textOr _ _ _ _ hauthor)
  · exact field_eq_ok rfl (stable_textOr _ _ _ _ hvendor)
  · exact field_eq_ok rfl (stable_textOr _ _ _ _ hversion)
  · exact field_eq_ok rfl (stable_countOr _ _ _ _ hapi)
  · exact field_eq_ok rfl (stable_countOr _ _ _ _ hschema)

/-! ## All settings -/

theorem settingsMk_ok {chamber spellsDir defaultVariant : Checked String} {outputDir : Checked (Option String)}
    {report : Checked Bool} {source : Checked SourceSettings} {retry : Checked RetrySettings}
    {toolchain : Checked ToolchainSettings} {build : Checked BuildSettings} {package : Checked PackageSettings}
    {spells : Checked (List Spell)} {variants : Checked (List VariantDefinition)} {s : Settings} :
    (Settings.mk <$> chamber <*> outputDir <*> spellsDir <*> defaultVariant <*> report <*> source <*> retry
        <*> toolchain <*> build <*> package <*> spells <*> variants) = .ok s ↔
      chamber = .ok s.chamber ∧ outputDir = .ok s.outputDir ∧ spellsDir = .ok s.spellsDir ∧
        defaultVariant = .ok s.defaultVariant ∧ report = .ok s.report ∧ source = .ok s.source ∧
        retry = .ok s.retry ∧ toolchain = .ok s.toolchain ∧ build = .ok s.build ∧ package = .ok s.package ∧
        spells = .ok s.spells ∧ variants = .ok s.variants := by
  cases s
  constructor
  · simp only [seq_eq_ok, map_eq_ok]
    aesop
  · rintro ⟨rfl, rfl, rfl, rfl, rfl, rfl, rfl, rfl, rfl, rfl, rfl, rfl⟩
    rfl

theorem toolchain_ok {s : Settings} (h : settings path d = .ok s) :
    ∃ path d, toolchain path d = .ok s.toolchain := by
  obtain ⟨get, h⟩ := record_ok h
  obtain ⟨-, -, -, -, -, -, -, htoolchain, -⟩ := settingsMk_ok.1 h
  exact ⟨_, _, htoolchain⟩

/-- A configuration made of settings that were read is read again, from its record, as what it says. -/
theorem reads_written {c : Configuration} (h : settings path d = .ok c.settings) (hc : c.Named) :
    Reads settings (some c.toData) c.written := by
  intro path'
  obtain ⟨get, h⟩ := record_ok h
  obtain ⟨-, -, -, hdefault, hreport, hsource, hretry, htoolchain, hbuild, hpackage, hspells, hvariants⟩ :=
    settingsMk_ok.1 h
  rw [Configuration.toData_eq]
  refine (record_eq _ path' _).trans (settingsMk_ok.2 ⟨?_, ?_, ?_, ?_, ?_, ?_, ?_, ?_, ?_, ?_, ?_, ?_⟩)
  · exact field_eq_ok rfl ((reads_text hc.chamber).withDefault _)
  · exact field_eq_ok rfl (reads_text hc.outputDir).optional
  · exact field_eq_ok rfl ((reads_text hc.spellsDir).withDefault _)
  · exact field_eq_ok rfl (stable_textOr _ _ _ _ hdefault)
  · exact field_eq_ok rfl (stable_bool.withDefault (fun _ => rfl) _ _ _ _ hreport)
  · exact field_eq_ok rfl (stable_source _ _ _ hsource)
  · exact field_eq_ok rfl (stable_retry _ _ _ hretry)
  · exact field_eq_ok rfl (reads_toolchain htoolchain hc.downloadUrl)
  · exact field_eq_ok rfl (stable_build _ _ _ hbuild)
  · exact field_eq_ok rfl (stable_package _ _ _ hpackage)
  · exact field_eq_ok rfl (stable_spell.list.withDefault (fun _ => rfl) _ _ _ _ hspells)
  · exact field_eq_ok rfl (stable_variant.list.withDefault (fun _ => rfl) _ _ _ _ hvariants)

end Schema

end VariantForge
