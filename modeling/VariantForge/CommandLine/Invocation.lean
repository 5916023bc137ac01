import VariantForge.Run.Forge
import VariantForge.Settings.Load
import VariantForge.Text.Basic

/-!
One invocation on the command line: settings are loaded, the variants are built, and the exit code
says whether anything was packaged. Whatever fails is written to the log.
-/

namespace VariantForge

/-! ## Words

There are flags with values, and words by position. -/

namespace Arguments

/-- The word after the first occurrence of a flag, unless it is blank. -/
def valueAfter (name : String) : List String → Option String
  | [] => none
  | a :: rest => if a = name then rest.head?.filter (!·.isEmpty) else valueAfter name rest

/-- The rest of the first word that begins with a flag and an equals sign. -/
def valueWithin (name : String) (args : List String) : Option String :=
  (args.find? (Text.startsWith · (name ++ "="))).map fun a =>
    String.ofList (a.toList.drop (name.length + 1))

/-- The value of a flag: the word after it, else what a word gives it with an equals sign. -/
def value? (args : List String) (name : String) : Option String :=
  (valueAfter name args).or (valueWithin name args)

/-- The words that are neither flags nor values of the flags that take one. -/
def positional (valueFlags : List String) : List String → List String
  | [] => []
  | a :: rest =>
    if valueFlags.contains a then
      match rest with
      | [] => []
      | _ :: rest => positional valueFlags rest
    else if Text.startsWith a "--" then positional valueFlags rest
    else a :: positional valueFlags rest

end Arguments

/-! ## Invocations -/

namespace Invocation

/-- How the command line is used. -/
def usage : String :=
  "usage: driver-forge [variant|all] [revision] [--config <file>] [--profile <name>]"

/-- The flag that names the settings file. -/
def configFlag : String := "--config"

/-- The flag that names the profile. -/
def profileFlag : String := "--profile"

/-- The settings file that counts if none is named: the first of these that is there. -/
def defaultConfig (cwd : String) : Forge (Option String) :=
  Forge.look fun d => ["forge.toml", "forge.json"].find? fun name => d.exists_ (Path.join [cwd, name])

/-- Loads the settings that the words ask for and builds the variants that they name. -/
def runWith (o : Outside) (args : List String) (cwd : String) (env : Members String) : Forge Bool := do
  let words := Arguments.positional [configFlag, profileFlag] args
  let config ← match Arguments.value? args configFlag with
    | some path => pure (some path)
    | none => defaultConfig cwd
  let c ← Settings.load config
    { profile := Arguments.value? args profileFlag, directory := cwd, environment := env }
  match Plan.make c with
  | .error f => throw f
  | .ok plan => return (← Run.run o plan { variant := words[0]?, revision := words[1]? }).ok

/-- Runs an invocation and gives its exit code. -/
def run (o : Outside) (args : List String) (cwd : String) (env : Members String) : Forge Nat := do
  if args.contains "--help" || args.contains "-h" then
    Forge.log .info usage
    return 0
  match ← Forge.attempt (runWith o args cwd env) with
  | .ok built => return if built then 0 else 1
  | .error f =>
    Forge.log .error s!"forge failed: {f.message}"
      (some (Data.given "code" (f.code?.map .text) ++ Data.given "details" (f.details?.map .text)))
    return 1

end Invocation

end VariantForge
