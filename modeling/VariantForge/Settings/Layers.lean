import VariantForge.Data.Basic
import VariantForge.Settings.Shape

/-!
The layers of settings. At the bottom lies what a file says, over it the profile that was asked for,
and over that the environment. A profile is looked for among those of the file, and some names stand
for an empty profile in every file.
-/

namespace VariantForge

/-- What a settings file says: its settings and its profiles. -/
structure SettingsFile where
  settings : Members Data
  profiles : Members (Members Data)

namespace SettingsFile

/-- The file that says nothing. -/
def empty : SettingsFile := ⟨[], []⟩

/-- Takes the profiles out of a file's content. The member of the reserved name does not count. -/
def ofData (d : Data) : Except Rejection SettingsFile :=
  let reader : Reader SettingsFile := fun path d =>
    match d with
    | some (.record own lent) =>
      let rest := own.filter fun m => m.1 != "profiles" && m.1 != Data.lendingName
      (fun found => ⟨Members.ofList rest, found.getD []⟩) <$>
        Schema.field "profiles" Schema.profiles path (Data.record own lent).get?
    | d => Schema.wrongType "object" path d
  (reader [] (some d)).result

/-- Names that stand for an empty profile where the file has none of that name. -/
def emptyProfiles : List String := Data.lendingName :: Data.offeredNames

/-- The profile of a name. -/
def profile? (f : SettingsFile) (name : String) : Option (Members Data) :=
  match Members.get? f.profiles name with
  | some p => some p
  | none => if emptyProfiles.contains name then some [] else none

end SettingsFile

/-- A value of the environment without blanks around it, unless it is blank. -/
def Environment.given? (env : Members String) (name : String) : Option String :=
  (Members.get? env name).bind Text.nonBlank?

/-- What the environment says. -/
def Environment.overrides (env : Members String) : Data :=
  let pick (key name : String) : List (String × Data) :=
    ((given? env name).map fun v => (key, Data.text v)).toList
  let part (key : String) (members : List (String × Data)) : List (String × Data) :=
    if members.isEmpty then [] else [(key, .record members [])]
  .record
    (pick "chamber" "FORGE_CHAMBER" ++ pick "output_dir" "FORGE_OUTPUT_DIR" ++
      pick "spells_dir" "FORGE_SPELLS_DIR" ++
      part "toolchain" (pick "version" "FORGE_NDK_VERSION" ++ pick "api_level" "FORGE_API_LEVEL" ++
        pick "system_root" "ANDROID_NDK_LATEST_HOME") ++
      part "build" (pick "jobs" "FORGE_BUILD_JOBS")) []

/-- The profile that a request asks for: none for no request or a blank one. -/
def SettingsFile.requested (f : SettingsFile) (request : Option String) :
    Except String (Option (Members Data)) :=
  match request.bind Text.nonBlank? with
  | none => .ok none
  | some name =>
    match f.profile? name with
    | some p => .ok (some p)
    | none => .error name

/-- The layers laid over each other. -/
def SettingsFile.layered (f : SettingsFile) (profile : Option (Members Data)) (env : Members String) :
    Data :=
  let bottom := Data.record f.settings []
  let middle := match profile with
    | some p => bottom.merge (.record p [])
    | none => bottom
  middle.merge (Environment.overrides env)

/-- The settings that a file, a profile and an environment give together. -/
def SettingsFile.read (f : SettingsFile) (profile : Option (Members Data)) (env : Members String) :
    Except Rejection Settings :=
  (Schema.settings [] (some (f.layered profile env))).result

end VariantForge
