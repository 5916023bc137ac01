import VariantForge.Data.Json
import VariantForge.Settings.Layers
import VariantForge.Text.Utf8
import VariantForge.Toml.Reader
import VariantForge.World

/-!
Loading settings: from a file, if there is one, with the profile that was asked for and the
environment laid over it. A file is read as TOML if its name says so, else as JSON.
-/

namespace VariantForge.Settings

/-- Whether the name of a file says that it holds TOML. -/
def isToml (path : String) : Bool := Text.lower (Path.extension path) == ".toml"

/-- The value that a settings file holds. -/
def parse (path text : String) : Except Failure Data :=
  if isToml path then
    match Toml.read text with
    | .ok d => .ok d
    | .error .malformed => .error .badToml
    | .error .noSuchDate => .error .badDate
  else
    match Json.read? text with
    | some d => .ok d
    | none => .error .badJson

/-- The path of a settings file that is named in a directory. -/
def filePath (cwd path : String) : String := if Path.isAbsolute path then path else Path.join [cwd, path]

/-- Reads a settings file. -/
def readFile (path : String) : Forge SettingsFile := do
  let bytes ← Forge.readFile path
  match parse path (Utf8.decode bytes) with
  | .error f => throw f
  | .ok d =>
    match SettingsFile.ofData d with
    | .ok file => return file
    | .error r => throw (.ofRejection r)

/-- Where settings come from besides their file. -/
structure Request where
  profile : Option String := none
  directory : String
  environment : Members String

/-- The settings of a file that was read. -/
def ofFile (file : SettingsFile) (r : Request) : Except Failure Settings :=
  match file.requested r.profile with
  | .error name => .error (.unknownProfile name)
  | .ok profile =>
    match file.read profile r.environment with
    | .ok s => .ok s
    | .error r => .error (.ofRejection r)

/-- Loads settings from a file, or without one. -/
def load (path : Option String) (r : Request) : Forge Configuration := do
  let file ← match path.filter (!·.isEmpty) with
    | some path => readFile (filePath r.directory path)
    | none => pure .empty
  match ofFile file r with
  | .ok s => return s.complete (← Forge.here) r.directory
  | .error f => throw f

end VariantForge.Settings
