import VariantForge.Source.WorkingCopy
import VariantForge.Text.Basic
import VariantForge.Text.LowerCase
import VariantForge.Text.Utf8
import VariantForge.Toolchain.Profile
import VariantForge.World

/-!
Building a variant: machine files are written, what an earlier build left is removed, and the build
is configured and compiled. The output of each step goes to a log of its own, whose end is kept if
the step fails.
-/

namespace VariantForge

/-- How variants are built. -/
structure BuildOptions where
  chamber : String
  directory : String
  target : String
  jobs : Option Number := none
  configureLogTail : Number
  compileLogTail : Number
  profile : ProfileSettings

/-- What a build made. -/
structure BuildResult where
  artifact : String
  variant : String
  log : String
  deriving DecidableEq

namespace Build

/-- The name of the file that describes the machine that is built for. -/
def crossFileName : String := "cross_dragon"

/-- The name of the file that describes the machine that builds. -/
def nativeFileName : String := "native_dragon"

/-- The name of a step's program. -/
def program : BuildStep → String
  | .configure => "meson"
  | .compile => "ninja"

/-- The log of a step. -/
def logPath (opts : BuildOptions) (step : BuildStep) (label : String) : String :=
  Path.join [opts.chamber, s!"{program step}_{Text.slug label}.log"]

/-- The last lines of a log; none if it cannot be read. -/
def logTail (path : String) (max : Number) : Forge String := do
  match ← Forge.attempt (Forge.readFile path) with
  | .ok bytes => return Text.tailLines (Utf8.decode bytes) max
  | .error _ => return Text.tailLines "" max

/-- The arguments of the first step. -/
def configureArguments (opts : BuildOptions) (p : Profile) : List String :=
  ["setup", opts.directory, "--cross-file=" ++ Path.join [opts.chamber, crossFileName],
    "--native-file=" ++ Path.join [opts.chamber, nativeFileName]] ++ p.optionArguments

/-- The number of jobs: as many as there are processors unless told otherwise. -/
def jobs (o : Outside) (opts : BuildOptions) : Number := opts.jobs.getD (.ofNat o.processors)

/-- The arguments of the second step. -/
def compileArguments (o : Outside) (opts : BuildOptions) : List String :=
  ["-C", opts.directory, "-j" ++ (jobs o opts).text, opts.target]

/-- The environment of both steps: programs of the toolchain come first. -/
def environment (o : Outside) (p : Profile) : Members String :=
  Members.put p.environment "PATH" (p.binDir ++ ":" ++ o.searchPath.getD "")

/-- The command of a step, which is run in the working copy. -/
def command (o : Outside) (opts : BuildOptions) (w : WorkingCopy) (label : String) (p : Profile)
    (step : BuildStep) (arguments : List String) : Command :=
  { program := program step, arguments, directory := some w.root
    environment := some (environment o p), logFile := some (logPath opts step label), cancellable := true }

/-- Runs a step in the working copy; if it fails the end of its log goes with the failure. -/
def runStep (o : Outside) (opts : BuildOptions) (w : WorkingCopy) (label : String) (p : Profile)
    (step : BuildStep) (arguments : List String) (tail : Number) : Forge Unit := do
  let r ← Forge.run o (command o opts w label p step arguments)
  if !r.succeeded then
    let log := logPath opts step label
    let end_ ← logTail log tail
    let failure := Failure.build step label log end_
    Forge.log .error failure.message (some [("log", .text log)])
    throw failure

/-- Builds a variant of the working copy. -/
def run (o : Outside) (opts : BuildOptions) (w : WorkingCopy) (t : Toolchain) (label : String) :
    Forge BuildResult := do
  let p := Profile.derive t opts.profile
  Forge.makeDirectories opts.chamber
  Forge.writeText (Path.join [opts.chamber, crossFileName]) (MachineFile.render (MachineFile.cross p))
  Forge.writeText (Path.join [opts.chamber, nativeFileName]) (MachineFile.render (MachineFile.native p))
  let directory := Path.join [w.root, opts.directory]
  Forge.change (·.removeAll directory)
  Forge.log .info s!"configuring {label}"
  runStep o opts w label p .configure (configureArguments opts p) opts.configureLogTail
  Forge.log .info s!"compiling {label} with {(jobs o opts).text} jobs"
  runStep o opts w label p .compile (compileArguments o opts) opts.compileLogTail
  let artifact := Path.join [directory, opts.target]
  return { artifact, variant := label, log := logPath opts .compile label }

end Build

end VariantForge
