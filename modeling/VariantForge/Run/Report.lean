import VariantForge.Settings.Record
import VariantForge.World

/-!
What is told about a run: its summary, and the report that is written to a file.
-/

namespace VariantForge

/-- The steps of a variant. -/
inductive Stage where
  | reset
  | transform
  | build
  | package
  deriving DecidableEq

/-- The name of a step. -/
def Stage.name : Stage → String
  | .reset => "reset"
  | .transform => "transform"
  | .build => "build"
  | .package => "package"

/-- A variant that failed: at which step and why. -/
structure VariantFailure where
  name : String
  label : String
  stage : Stage
  message : String
  code : Option String
  deriving DecidableEq

/-- What came of a run. -/
structure Summary where
  requested : String
  succeeded : List String
  failed : List VariantFailure
  archives : List String
  warnings : List Warning
  ok : Bool
  deriving DecidableEq

/-- A warning as a record. One about a spell begins with what it is about, others end with it. -/
def Warning.toData (w : Warning) : Data :=
  let subject := Data.given "variant" (w.variant.map .text) ++ Data.given "transform" (w.spell.map .text)
  let words : List (String × Data) := [("event", .text w.event.name), ("message", .text w.message)]
  .record (if w.spell.isSome then subject ++ words else words ++ subject) []

/-- A failed variant as a record. -/
def VariantFailure.toData (f : VariantFailure) : Data :=
  .record ([("name", .text f.name), ("label", .text f.label), ("stage", .text f.stage.name),
    ("message", .text f.message)] ++ Data.given "code" (f.code.map .text)) []

/-- The members of a summary as a record. -/
def Summary.members (s : Summary) : Members Data :=
  [("requested", .text s.requested), ("succeeded", .texts s.succeeded),
    ("failed", .list (s.failed.map VariantFailure.toData)), ("archives", .texts s.archives),
    ("warnings", .list (s.warnings.map Warning.toData)), ("ok", .bool s.ok)]

/-- A toolchain as a record. -/
def Toolchain.toData (t : Toolchain) : Data :=
  .record [("root", .text t.root), ("version", .text t.version), ("source", .text t.source.name)] []

namespace Report

/-- The name of the file that a report is written to. -/
def fileName : String := "forge-report.json"

/-- The source as a report shows it. -/
def source (w : WorkingCopy) : Data :=
  .record
    [("name", .text w.source.name), ("url", .text w.source.url), ("version", .text w.version),
      ("revision", .text w.revision), ("requestedRevision", w.requestedRevision.elim .null .text),
      ("pinned", .bool w.pinned)] []

/-- The report of a run: the members of its summary, when it began and ended, and what it was made
with. There is none if a time is out of reach. -/
def make (summary : Members Data) (w : WorkingCopy) (t : Toolchain) (started finished : Instant) :
    Option Data := do
  let started ← started
  let finished ← finished
  return .record
    (Members.putAll summary
      [("startedAt", .text (Calendar.isoText started)), ("finishedAt", .text (Calendar.isoText finished)),
        ("source", source w), ("toolchain", t.toData)]) []

/-- Writes a report to a directory and gives the path of its file. -/
def write (dir : String) (report : Data) : Forge String := do
  Forge.makeDirectories dir
  let file := Path.join [dir, fileName]
  Forge.writeText file (report.pretty ++ "\n")
  return file

end Report

end VariantForge
