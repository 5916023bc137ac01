import VariantForge.Settings.Basic
import VariantForge.Settings.Schema

/-!
The shape of settings: which members there are, of what type, and what counts where one is missing.
-/

namespace VariantForge

namespace Data

mutual

/-- How many values lie inside each other at most. -/
def depth : Data → Nat
  | .list items => depthAll items + 1
  | .record own lent => max (depthMembers own) (depthMembers lent) + 1
  | _ => 1

/-- The greatest depth of some values. -/
def depthAll : List Data → Nat
  | [] => 0
  | d :: rest => max (depth d) (depthAll rest)

/-- The greatest depth of some members. -/
def depthMembers : List (String × Data) → Nat
  | [] => 0
  | (_, d) :: rest => max (depth d) (depthMembers rest)

end

end Data

namespace Schema

/-- A place that the source can be cloned from. -/
def candidate : Reader Candidate := record fun p get =>
  Candidate.mk <$> field "name" text p get <*> field "url" text p get
    <*> field "ref" (optional text) p get

/-- A rule that replaces what it finds. -/
def replaceRule : Reader Rule := record fun p get =>
  (fun find replacement pattern flags =>
      Rule.replace (Text.ofString find) (Text.ofString replacement) pattern flags)
    <$> field "find" text p get <*> field "replace" anyText p get
    <*> field "regex" (optional bool) p get <*> field "flags" (optional anyText) p get

/-- A rule that puts text next to an anchor. -/
def insertRule (side : Side) : Reader Rule := record fun p get =>
  (fun anchor text pattern => Rule.insert side (Text.ofString anchor) (Text.ofString text) pattern)
    <$> field "anchor" text p get <*> field "text" text p get
    <*> field "regex" (optional bool) p get

/-- A rule whose parts lie inside each other at most `n` deep. -/
def ruleOfDepth : Nat → Reader Rule
  | 0 => wrongType "object"
  | n + 1 => oneOfKinds
    [("replace", replaceRule), ("insert_after", insertRule .after), ("insert_before", insertRule .before),
      ("first_of", record fun p get =>
        Rule.firstOf <$> field "rules" (nonEmptyList (ruleOfDepth n)) p get)]

/-- A rule. -/
def rule : Reader Rule := fun path d => ruleOfDepth ((d.elim 0 Data.depth) + 1) path d

/-- A spell whose work is read by `work`. -/
def spellWith (work : List Step → (String → Option Data) → Checked Work) : Reader Spell :=
  record fun p get =>
    Spell.mk <$> field "id" text p get <*> field "description" (optional anyText) p get
      <*> field "requires" (optional (list text)) p get <*> work p get

/-- A spell. -/
def spell : Reader Spell := oneOfKinds
  [("text_rewrite", spellWith fun p get =>
      (fun file marker rules => Work.edit file (Text.ofString marker) rules)
        <$> field "file" text p get <*> field "marker" text p get
        <*> field "rules" (nonEmptyList rule) p get),
    ("diff_patch", spellWith fun p get => Work.patch <$> field "patchFile" text p get),
    ("merge_request", spellWith fun p get =>
      Work.mergeRequest <$> field "remote" (withDefault (.text "origin") text) p get
        <*> field "ref" text p get)]

/-- A variant's definition. -/
def variant : Reader VariantDefinition := record fun p get =>
  VariantDefinition.mk <$> field "name" text p get <*> field "label" text p get
    <*> field "transforms" (list text) p get

/-- The candidates that count where none are named. -/
def builtInCandidates : Data :=
  .list (Candidate.builtIn.map fun c => .record [("name", .text c.name), ("url", .text c.url)] [])

/-- A string that counts as `default` if it is missing. -/
def textOr (default : String) : Reader String := withDefault (.text default) text

/-- Rules of counts: whole and positive. -/
def countRules : List NumberRule := [.whole, .positive]

/-- A count that counts as `default` if it is missing. -/
def countOr (default : Nat) : Reader Number := withDefault (.ofNat default) (coercedNumber countRules)

/-- A record that counts as an empty one if it is missing. -/
def recordOr (r : List Step → (String → Option Data) → Checked α) : Reader α :=
  withDefault (.record [] []) (record r)

/-- A table of strings. -/
def texts : Reader (Members String) := withDefault (.record [] []) (table anyName anyText)

/-- The part about the source. -/
def source : Reader SourceSettings := recordOr fun p get =>
  SourceSettings.mk
    <$> field "candidates" (withDefault builtInCandidates (nonEmptyList candidate)) p get
    <*> field "depth" (countOr 500) p get <*> field "pin_fetch_depth" (countOr 100) p get
    <*> field "git_user_name" (textOr "DragonDriver") p get
    <*> field "git_user_email" (textOr "driver@dragon.local") p get

/-- The part about retries. -/
def retry : Reader RetrySettings := recordOr fun p get =>
  RetrySettings.mk <$> field "max_attempts" (countOr 3) p get
    <*> field "delay_seconds" (withDefault (.ofNat 15) (coercedNumber [.notNegative])) p get

/-- The part about the toolchain. Downloads may have four binary gigabytes. -/
def toolchain : Reader ToolchainSettings := recordOr fun p get =>
  ToolchainSettings.mk <$> field "version" (textOr "android-ndk-r29") p get
    <*> field "api_level" (countOr 35) p get <*> field "system_root" (optional text) p get
    <*> field "download_url" (optional text) p get <*> field "host_tag" (textOr "linux-x86_64") p get
    <*> field "ccache" (withDefault (.bool true) bool) p get
    <*> field "download_timeout_seconds" (countOr 1800) p get
    <*> field "max_download_bytes"
      (withDefault (.ofNat (4 * 1024 * 1024 * 1024)) (coercedNumber [.whole, .notNegative])) p get

/-- The part about the build. -/
def build : Reader BuildSettings := recordOr fun p get =>
  BuildSettings.mk <$> field "dir" (textOr "build-dragon") p get
    <*> field "target" (textOr "src/freedreno/vulkan/libvulkan_freedreno.so") p get
    <*> field "jobs" (optional (coercedNumber countRules)) p get
    <*> field "configure_log_tail" (countOr 30) p get <*> field "compile_log_tail" (countOr 50) p get
    <*> field "meson_options" texts p get <*> field "env" texts p get

/-- The part about packages. -/
def package : Reader PackageSettings := recordOr fun p get =>
  PackageSettings.mk <$> field "prefix" (textOr "Dragon") p get
    <*> field "library_name" (textOr "vulkan.dragon.so") p get
    <*> field "soname" (textOr "vulkan.adreno.so") p get
    <*> field "author" (textOr "DragonDriver") p get <*> field "vendor" (textOr "Mesa") p get
    <*> field "package_version" (textOr "1") p get <*> field "min_api" (countOr 27) p get
    <*> field "schema_version" (countOr 1) p get

/-- All settings. -/
def settings : Reader Settings := record fun p get =>
  Settings.mk <$> field "chamber" (textOr "driver_chamber") p get
    <*> field "output_dir" (optional text) p get <*> field "spells_dir" (textOr "spells") p get
    <*> field "default_variant" (textOr "tiger") p get
    <*> field "report" (withDefault (.bool true) bool) p get <*> field "source" source p get
    <*> field "retry" retry p get <*> field "toolchain" toolchain p get <*> field "build" build p get
    <*> field "package" package p get
    <*> field "transforms" (withDefault (.list []) (list spell)) p get
    <*> field "variants" (withDefault (.list []) (list variant)) p get

/-- Any value. -/
def any : Reader Data := fun _ d => .ok (d.getD .null)

/-- The profiles of a file: records under names that are not empty. -/
def profiles : Reader (Option (Members (Members Data))) :=
  optional (table nonEmptyName (table anyName any))

end Schema

end VariantForge
