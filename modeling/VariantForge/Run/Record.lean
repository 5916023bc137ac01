import VariantForge.Build
import VariantForge.Package.Make
import VariantForge.Retry
import VariantForge.Run.Report
import VariantForge.Spell.Cast

/-!
What a run finds and makes, as records.
-/

namespace VariantForge

/-- A variant with its spells as a record. -/
def Variant.toData (v : Variant) : Data :=
  .record
    [("name", .text v.name), ("label", .text v.label), ("transforms", .list (v.spells.map Spell.toData))] []

/-- A source tree as a record. -/
def WorkingCopy.toData (w : WorkingCopy) : Data :=
  .record
    [("root", .text w.root), ("revision", .text w.revision), ("baseRevision", .text w.baseRevision),
      ("version", .text w.version), ("source", w.source.toData),
      ("requestedRevision", w.requestedRevision.elim .null .text), ("pinned", .bool w.pinned)] []

/-- The programs that build tools as a record. -/
def NativeProfile.toData (n : NativeProfile) : Data :=
  .record [("cc", .text n.cc), ("cxx", .text n.cxx), ("pkgConfig", .text n.pkgConfig)] []

/-- A toolchain as the build sees it, as a record. -/
def Profile.toData (p : Profile) : Data :=
  .record
    [("platform", .text p.platform), ("arch", .text p.arch), ("cpu", .text p.cpu),
      ("endian", .text p.endian),
      ("apiLevel", .number p.apiLevel), ("binDir", .text p.binDir), ("launcher", .texts p.launcher),
      ("cc", .text p.cc), ("cxx", .text p.cxx), ("ar", .text p.ar), ("strip", .text p.strip),
      ("cLinker", .text p.cLinker), ("cppLinker", .text p.cppLinker),
      ("cppCompilerFlags", .texts p.cppCompilerFlags), ("cArgs", .texts p.cArgs),
      ("cppArgs", .texts p.cppArgs),
      ("pkgConfig", .text p.pkgConfig), ("native", p.native.toData),
      ("mesonOptions", .ofTexts p.mesonOptions),
      ("env", .ofTexts p.environment)] []

/-- The outcome of a spell as a record. -/
def CastOutcome.toData (c : CastOutcome) : Data :=
  .record
    ([("id", .text c.id), ("kind", .text c.kind.name), ("status", .text c.status.name),
      ("detail", .text c.detail)] ++ Data.given "matchedRules" (c.matchedRules.map .ofNat) ++
      Data.given "unmatchedRules" (c.unmatchedRules.map .ofNat)) []

/-- What a build made as a record. -/
def BuildResult.toData (r : BuildResult) : Data :=
  .record [("artifactPath", .text r.artifact), ("variant", .text r.variant), ("logPath", .text r.log)] []

/-- What a package is as a record. -/
def Descriptor.toData (d : Descriptor) : Data :=
  .record
    [("prefix", .text d.namePrefix), ("variant", .text d.variant), ("version", .text d.version),
      ("revision", .text d.revision), ("fileName", .text d.fileName)] []

/-- How a command ended as a record. -/
def CommandResult.toData (r : CommandResult) : Data :=
  .record
    [("code", r.code.elim .null fun n => .number (.ofInt n)), ("stdout", .text r.output),
      ("stderr", .text r.errors)] []

/-- A command as a record. -/
def Command.toData (c : Command) : Data :=
  .record
    ([("cmd", .text c.program), ("args", .texts c.arguments)] ++ Data.given "cwd" (c.directory.map .text) ++
      Data.given "env" (c.environment.map .ofTexts) ++ Data.given "logFile" (c.logFile.map .text)) []

/-- A policy of retries as a record. -/
def RetryPolicy.toData (p : RetryPolicy) : Data :=
  .record [("maxAttempts", .number p.maxAttempts), ("delayMs", .number p.delayMs)] []

end VariantForge
