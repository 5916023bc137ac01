import VariantForge.Data.Basic
import VariantForge.Settings.Basic

/-!
Rules, spells, variants and settings as records, as they stand in a settings file.
-/

namespace VariantForge

/-- A member that is left out if there is no value. -/
def Data.given (name : String) (value : Option Data) : List (String × Data) :=
  (value.map fun v => (name, v)).toList

/-- A list of strings. -/
def Data.texts (values : List String) : Data := .list (values.map .text)

/-- Strings under names. -/
def Data.ofTexts (members : Members String) : Data := .record (members.map fun m => (m.1, .text m.2)) []

namespace Rule

/-- The kind of a rule that puts text next to an anchor. -/
def insertKind : Side → String
  | .after => "insert_after"
  | .before => "insert_before"

mutual

/-- A rule as a record. -/
def toData : Rule → Data
  | .replace find replacement pattern flags =>
    .record ([("kind", .text "replace"), ("find", .text find.toString),
      ("replace", .text replacement.toString)] ++ Data.given "regex" (pattern.map .bool) ++
      Data.given "flags" (flags.map .text)) []
  | .insert side anchor text pattern =>
    .record ([("kind", .text (insertKind side)), ("anchor", .text anchor.toString),
      ("text", .text text.toString)] ++ Data.given "regex" (pattern.map .bool)) []
  | .firstOf rules => .record [("kind", .text "first_of"), ("rules", .list (allToData rules))] []

/-- Rules as records. -/
def allToData : List Rule → List Data
  | [] => []
  | rule :: rest => toData rule :: allToData rest

end

end Rule

/-- A spell as a record. -/
def Spell.toData (s : Spell) : Data :=
  let work : List (String × Data) := match s.work with
    | .edit file marker rules =>
      [("file", .text file), ("marker", .text marker.toString), ("rules", .list (Rule.allToData rules))]
    | .patch file => [("patchFile", .text file)]
    | .mergeRequest remote ref => [("remote", .text remote), ("ref", .text ref)]
  .record ([("id", .text s.id)] ++ Data.given "description" (s.description.map .text) ++
    Data.given "requires" (s.requires.map Data.texts) ++ [("kind", .text s.kind.name)] ++ work) []

/-- A variant's definition as a record. -/
def VariantDefinition.toData (d : VariantDefinition) : Data :=
  .record [("name", .text d.name), ("label", .text d.label), ("transforms", .texts d.spells)] []

/-- A candidate as a record. -/
def Candidate.toData (c : Candidate) : Data :=
  .record ([("name", .text c.name), ("url", .text c.url)] ++ Data.given "ref" (c.ref.map .text)) []

/-- A configuration as a record. -/
def Configuration.toData (c : Configuration) : Data :=
  let s := c.settings
  let source : Data := .record
    [("candidates", .list (s.source.candidates.map Candidate.toData)), ("depth", .number s.source.depth),
      ("pin_fetch_depth", .number s.source.pinFetchDepth), ("git_user_name", .text s.source.gitUserName),
      ("git_user_email", .text s.source.gitUserEmail)] []
  let retry : Data := .record
    [("max_attempts", .number s.retry.maxAttempts), ("delay_seconds", .number s.retry.delaySeconds)] []
  let toolchain : Data := .record
    ([("version", .text s.toolchain.version), ("api_level", .number s.toolchain.apiLevel)] ++
      Data.given "system_root" (s.toolchain.systemRoot.map .text) ++
      [("host_tag", .text s.toolchain.hostTag), ("ccache", .bool s.toolchain.ccache),
        ("download_timeout_seconds", .number s.toolchain.downloadTimeoutSeconds),
        ("max_download_bytes", .number s.toolchain.maxDownloadBytes),
        ("download_url", .text c.downloadUrl)]) []
  let build : Data := .record
    ([("dir", .text s.build.directory), ("target", .text s.build.target)] ++
      Data.given "jobs" (s.build.jobs.map .number) ++
      [("configure_log_tail", .number s.build.configureLogTail),
        ("compile_log_tail", .number s.build.compileLogTail),
        ("meson_options", .ofTexts s.build.mesonOptions), ("env", .ofTexts s.build.environment)]) []
  let package : Data := .record
    [("prefix", .text s.package.namePrefix), ("library_name", .text s.package.libraryName),
      ("soname", .text s.package.soname), ("author", .text s.package.author),
      ("vendor", .text s.package.vendor), ("package_version", .text s.package.packageVersion),
      ("min_api", .number s.package.minApi), ("schema_version", .number s.package.schemaVersion)] []
  .record
    [("chamber", .text c.chamber), ("output_dir", .text c.outputDir), ("spells_dir", .text c.spellsDir),
      ("default_variant", .text s.defaultVariant), ("report", .bool s.report), ("source", source),
      ("retry", retry), ("toolchain", toolchain), ("build", build), ("package", package),
      ("transforms", .list (s.spells.map Spell.toData)),
      ("variants", .list (s.variants.map VariantDefinition.toData))] []

end VariantForge
