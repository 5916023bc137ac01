import VariantForge.CommandLine.Exit
import VariantForge.Host

/-!
The command line itself.

The run works on a disk in memory that holds the settings files at hand; afterwards the files that
it made or changed are written out. No other program is within reach: a command ends as one that was
not found, and a request as one that could not be sent.
-/

namespace VariantForge.Program

/-- The variables of the environment that the program looks at. -/
def variableNames : List String :=
  ["PATH", "LOG_LEVEL", "LOG_PRETTY", "FORGE_CHAMBER", "FORGE_OUTPUT_DIR", "FORGE_SPELLS_DIR",
    "FORGE_NDK_VERSION", "FORGE_API_LEVEL", "FORGE_BUILD_JOBS", "ANDROID_NDK_LATEST_HOME"]

/-- The environment, as far as the program looks at it. -/
def environment : IO (Members String) := do
  let found ← variableNames.mapM fun name => return (← IO.getEnv name).map (name, ·)
  return found.filterMap id

/-- The settings files that an invocation may ask for. -/
def settingsFiles (args : List String) (cwd : String) : List String :=
  let named := (Arguments.value? args Invocation.configFlag).toList
  (named ++ ["forge.toml", "forge.json"]).map (Settings.filePath cwd)

/-- A disk with a directory, in which relative paths start. -/
def diskAt (cwd : String) : Disk :=
  let start : Disk := { entries := [], here := Path.components cwd }
  (start.makeDirectories cwd).1

/-- Puts a file on a disk, and the directories above it. -/
def putFile (d : Disk) (path : String) (bytes : ByteArray) : Disk :=
  ((d.makeDirectories (Path.dirname path)).1.write path bytes).toOption.getD d

/-- Copies those files onto a disk that can be read. -/
def readAll (d : Disk) (paths : List String) : IO Disk :=
  paths.foldlM (fun d (path : String) => do
    match ← (IO.FS.readBinFile path).toBaseIO with
    | .ok bytes => return putFile d path bytes
    | .error _ => return d) d

/-- The path of a place. -/
def pathOf (p : Place) : String := "/" ++ "/".intercalate p

/-- The files that are on a disk and were not there, or not with these bytes, before. -/
def made (before after : Disk) : List (String × ByteArray) :=
  after.entries.filterMap fun (p, e) =>
    match e, before.get? p with
    | .file bytes _, some (.file old _) => if old == bytes then none else some (pathOf p, bytes)
    | .file bytes _, _ => some (pathOf p, bytes)
    | _, _ => none

/-- Writes files out, and the directories above them. -/
def writeAll (files : List (String × ByteArray)) : IO Unit :=
  files.forM fun ((path : String), bytes) => do
    IO.FS.createDirAll (Path.dirname path)
    IO.FS.writeBinFile path bytes

/-- The outside of a run on this disk alone, at the beginning of time. -/
def outside (env : Members String) : Outside :=
  { run := (Host.mk env).run
    fetch := fun _ _ => (false, .failed "fetch failed")
    cancelsWait := fun _ => false
    clock := fun _ => some 0
    searchPath := Members.get? env "PATH"
    processors := 1 }

end VariantForge.Program

open VariantForge in
/-- Runs one invocation, prints its lines, and ends with its code. -/
def main (args : List String) : IO UInt32 := do
  let cwd := (← IO.currentDir).toString
  let env ← Program.environment
  let disk ← Program.readAll (Program.diskAt cwd) (Program.settingsFiles args cwd)
  let e := Invocation.exit (Program.outside env) args cwd env { disk }
  e.lines.forM fun line => IO.println line.shown
  Program.writeAll (Program.made disk e.world.disk)
  return e.code.toUInt32
