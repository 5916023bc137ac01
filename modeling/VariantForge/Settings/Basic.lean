import VariantForge.Source.WorkingCopy
import VariantForge.Spell.Catalog
import VariantForge.Toolchain.Profile
import VariantForge.Variant.Registry

/-!
Settings: what a run does where, and how.
-/

namespace VariantForge

/-- Where the source comes from. -/
structure SourceSettings where
  candidates : List Candidate
  depth : Number
  pinFetchDepth : Number
  gitUserName : String
  gitUserEmail : String

/-- How often things are tried. -/
structure RetrySettings where
  maxAttempts : Number
  delaySeconds : Number

/-- Which toolchain is used, and where it comes from. No bound is set by a bound of zero bytes. -/
structure ToolchainSettings where
  version : String
  apiLevel : Number
  systemRoot : Option String
  downloadUrl : Option String
  hostTag : String
  ccache : Bool
  downloadTimeoutSeconds : Number
  maxDownloadBytes : Number

/-- How variants are built. -/
structure BuildSettings where
  directory : String
  target : String
  jobs : Option Number
  configureLogTail : Number
  compileLogTail : Number
  mesonOptions : Members String
  environment : Members String

/-- What packages say about themselves. -/
structure PackageSettings where
  namePrefix : String
  libraryName : String
  soname : String
  author : String
  vendor : String
  packageVersion : String
  minApi : Number
  schemaVersion : Number

/-- Settings as they are written down, completed by defaults. -/
structure Settings where
  chamber : String
  outputDir : Option String
  spellsDir : String
  defaultVariant : String
  report : Bool
  source : SourceSettings
  retry : RetrySettings
  toolchain : ToolchainSettings
  build : BuildSettings
  package : PackageSettings
  spells : List Spell
  variants : List VariantDefinition

/-- Settings that a run can start from: its directories are absolute, and the address of the
toolchain is known. -/
structure Configuration where
  settings : Settings
  chamber : String
  outputDir : String
  spellsDir : String
  downloadUrl : String

/-- Where a version of the toolchain is offered. -/
def Toolchain.address (version : String) : String :=
  s!"https://dl.google.com/android/repository/{version}-linux.zip"

/-- Completes settings that were read in the directory `cwd`. Without a directory of its own the
output goes to the chamber. -/
def Settings.complete (here cwd : String) (s : Settings) : Configuration :=
  let chamber := Path.resolve here [cwd, s.chamber]
  { settings := s
    chamber
    outputDir := s.outputDir.elim chamber fun dir => Path.resolve here [cwd, dir]
    spellsDir := Path.resolve here [cwd, s.spellsDir]
    downloadUrl := s.toolchain.downloadUrl.getD (Toolchain.address s.toolchain.version) }

end VariantForge
