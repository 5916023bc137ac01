import VariantForge.Archive.Pack
import VariantForge.Build
import VariantForge.Settings.Schema

/-!
Packages: what they say about themselves, and how they are made.

The values of the metadata come as they were given and are checked here, so that no package is made with a blank
name or an odd number. To package a variant its library is copied to a directory of its own, gets its name
set, and goes with the metadata into an archive. That directory is removed in the end whatever happens;
whatever fails on the way is a failure of packaging.
-/

namespace VariantForge

/-! ## Metadata -/

/-- What goes into the metadata of packages, unchecked but for the front of their names. -/
structure MetadataSettings where
  namePrefix : String
  author : Option Data
  vendor : Option Data
  packageVersion : Option Data
  minApi : Option Data
  schemaVersion : Option Data
  libraryName : Option Data

/-- The metadata of a package. -/
structure Metadata where
  schemaVersion : Number
  name : String
  description : String
  author : String
  packageVersion : String
  vendor : String
  driverVersion : String
  minApi : Number
  libraryName : String
  deriving DecidableEq

namespace Metadata

/-- The description of a package. -/
def describe (version label : String) (builtAt : Instant) : String :=
  s!"Mesa {version} - {label} variant - Built: {Calendar.minuteText builtAt}"

/-- The metadata of a variant's package, made at some time. -/
def make (s : MetadataSettings) (label version : String) (builtAt : Instant) :
    Except Rejection Metadata :=
  let count : Reader Number := Schema.number [.whole, .positive]
  let text (name : String) (value : Option Data) := Schema.member name Schema.text value
  let checked : Checked Metadata :=
    Metadata.mk <$> Schema.member "schemaVersion" count s.schemaVersion
      <*> text "name" (some (.text s!"{s.namePrefix} {label}"))
      <*> text "description" (some (.text (describe version label builtAt)))
      <*> text "author" s.author <*> text "packageVersion" s.packageVersion <*> text "vendor" s.vendor
      <*> text "driverVersion" (some (.text version)) <*> Schema.member "minApi" count s.minApi
      <*> text "libraryName" s.libraryName
  checked.result

/-- The metadata as a record. -/
def toData (m : Metadata) : Data :=
  .record
    [("schemaVersion", .number m.schemaVersion), ("name", .text m.name),
      ("description", .text m.description), ("author", .text m.author),
      ("packageVersion", .text m.packageVersion), ("vendor", .text m.vendor),
      ("driverVersion", .text m.driverVersion), ("minApi", .number m.minApi),
      ("libraryName", .text m.libraryName)] []

end Metadata

/-- What a package is and how its file is called. -/
structure Descriptor where
  namePrefix : String
  variant : String
  version : String
  revision : String
  fileName : String
  deriving DecidableEq

/-- The descriptor of a variant's package. -/
def Descriptor.make (namePrefix label version revision : String) : Descriptor :=
  { namePrefix, variant := label, version, revision
    fileName := s!"{namePrefix}-{label}-{version}-{revision}.zip" }

/-! ## Making a package -/

/-- How packages are made. -/
structure PackageOptions where
  chamber : String
  outputDir : String
  soname : String
  libraryName : String
  metadata : MetadataSettings

/-- A package that was made. -/
structure PackagedArtifact where
  descriptor : Descriptor
  archive : String
  bytes : Nat

namespace Package

/-- The name of the file that holds the metadata. -/
def metadataFile : String := "meta.json"

/-- A file for an archive. -/
structure Source where
  path : String
  name : String

/-- Reads a file for an archive. -/
def load (path name : String) : Forge Archive.Packed := do
  let bytes ← Forge.readFile path
  let mode ← Forge.look fun d => match d.look? path with
    | some (.file _ mode) => mode
    | _ => newFileMode
  return { name, bytes, mode }

/-- The name that a file gets in an archive. -/
def memberName (name : String) : Forge String :=
  match Archive.checkFileName name with
  | .ok name => return name
  | .error fault => throw (.memberName fault)

/-- Writes files into an archive in the place of one that is there, and gives its size. The archive
is made beside its place first. -/
def writeArchive (files : List Source) (target : String) : Forge Nat := do
  let target := Path.resolve (← Forge.here) [target]
  Forge.makeDirectories (Path.dirname target)
  let names ← files.mapM fun f => memberName f.name
  let packed ← (files.zip names).mapM fun (f, name) => load f.path name
  let bytes := Archive.pack packed
  let part := target ++ ".tmp"
  Forge.finally_
    (do
      Forge.change (·.write part bytes)
      Forge.change (·.removeFile target)
      Forge.change (·.rename part target))
    (Forge.change (·.removeFile part))
  return bytes.size

/-- The directory in which a variant's package is put together. -/
def stagingDir (opts : PackageOptions) (label : String) : String :=
  Path.join [opts.chamber, "staging-" ++ Text.slug label]

/-- The descriptor of a variant's package. -/
def descriptor (opts : PackageOptions) (w : WorkingCopy) (label : String) : Descriptor :=
  .make opts.metadata.namePrefix label w.version w.revision

/-- The text of the metadata file. -/
def metadataText (m : Metadata) : String := m.toData.pretty ++ "\n"

/-- The command that sets the name of a library. -/
def command (opts : PackageOptions) (staged : String) : Command :=
  { program := "patchelf", arguments := ["--set-soname", opts.soname, staged] }

/-- Where the library of a variant's package is put together. -/
def libraryPath (opts : PackageOptions) (label : String) : String :=
  Path.join [stagingDir opts label, opts.libraryName]

/-- Copies what a build made and has the name of the library set. -/
def stage (o : Outside) (opts : PackageOptions) (artifact label : String) : Forge Unit := do
  let staging := stagingDir opts label
  Forge.makeDirectories staging
  let staged := Path.join [staging, Path.basename artifact]
  Forge.change (·.copy artifact staged)
  let r ← Forge.run o (command opts staged)
  if !r.succeeded then throw (.libraryName label r.failure)
  if staged ≠ libraryPath opts label then Forge.change (·.rename staged (libraryPath opts label))

/-- Writes the metadata, and the archive of it and the library. -/
def finish (o : Outside) (opts : PackageOptions) (w : WorkingCopy) (label : String) :
    Forge PackagedArtifact := do
  let descriptor := descriptor opts w label
  let archive := Path.join [opts.outputDir, descriptor.fileName]
  let builtAt ← Forge.now o
  match Metadata.make opts.metadata label w.version builtAt with
  | .error r => throw (.ofRejection r)
  | .ok metadata =>
    let metadataPath := Path.join [stagingDir opts label, metadataFile]
    Forge.writeText metadataPath (metadataText metadata)
    let bytes ←
      writeArchive [⟨libraryPath opts label, opts.libraryName⟩, ⟨metadataPath, metadataFile⟩] archive
    Forge.log .info s!"packaged {descriptor.fileName}" (some [("bytes", .ofNat bytes)])
    return { descriptor, archive, bytes }

/-- Puts a variant's package together. -/
def assemble (o : Outside) (opts : PackageOptions) (artifact : String) (w : WorkingCopy) (label : String) :
    Forge PackagedArtifact := do
  stage o opts artifact label
  finish o opts w label

/-- Failures of packaging as they are, all others as causes of one. -/
def asPackaging (label : String) (f : Failure) : Failure :=
  match f with
  | .libraryName .. => f
  | f => .packaging label f.message

/-- Packages what a build made. -/
def run (o : Outside) (opts : PackageOptions) (artifact : String) (w : WorkingCopy) (label : String) :
    Forge PackagedArtifact := do
  if !(← Forge.look (·.isFile artifact)) then throw (.artifactMissing artifact)
  let staging := stagingDir opts label
  Forge.change (·.removeAll staging)
  Forge.finally_
    (tryCatch (assemble o opts artifact w label) fun f => throw (asPackaging label f))
    (Forge.change (·.removeAll staging))

end Package

end VariantForge
