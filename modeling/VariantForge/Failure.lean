import VariantForge.Archive.Fault
import VariantForge.Command
import VariantForge.Disk.Fault
import VariantForge.Number.Decimal
import VariantForge.Pattern.Error
import VariantForge.Settings.Issue
import VariantForge.Text.Basic
import VariantForge.Variant.Registry

/-!
Why an operation failed.

A failure is a cause; its words are made from it by `Failure.message`. Failures of the forge itself
also carry a code, and some of them details from the step that failed.
-/

namespace VariantForge

/-! ## The toolchain

Why it could not be fetched, unpacked or found. -/

/-- Why an archive could not be downloaded. -/
inductive DownloadFault where
  | refused (status : Nat) (body : String)
  | noBody
  | announcedTooLong (bound length : Number)
  | tooLong (bound : Number)
  | timedOut (bound : Number)
  deriving DecidableEq

/-- The fault in words. -/
def DownloadFault.message : DownloadFault → String
  | .refused status body => Text.trim s!"NDK download failed: HTTP {status} {body}"
  | .noBody => "NDK download failed: empty body"
  | .announcedTooLong bound length =>
    s!"NDK archive exceeds {bound.text} bytes (Content-Length {length.text})"
  | .tooLong bound => s!"NDK archive exceeds {bound.text} bytes"
  | .timedOut bound => s!"NDK download timed out after {bound.text}ms"

/-- Why an archive's member was not unpacked: it leads out of the directory, or it exceeds a
bound. -/
inductive UnpackFault where
  | tooMany (bound : Nat)
  | blankName
  | badPath (name : String)
  | escaped (name : String)
  | memberTooLarge (name : String) (size bound : Nat)
  | tooLarge (total bound : Nat)
  | linkEscapes (name target : String)
  deriving DecidableEq

/-- The fault in words. -/
def UnpackFault.message : UnpackFault → String
  | .tooMany bound => s!"zip too many entries: maxEntries={bound}"
  | .blankName => "zip entry filename empty"
  | .badPath name => s!"zip entry path is not allowed: {name}"
  | .escaped name => s!"zip entry escaped output dir: {name}"
  | .memberTooLarge name size bound => s!"zip entry too large: {name} size={size} maxFileBytes={bound}"
  | .tooLarge total bound => s!"zip too large: total={total} maxTotalBytes={bound}"
  | .linkEscapes name target => s!"zip entry symlink escapes output dir: {name} -> {target}"

/-- Why there is no toolchain; `details` say more about the step that failed. -/
inductive ToolchainFault where
  | download (version details : String)
  | unpack (version details : String)
  | noDirectory (version : String)
  deriving DecidableEq

/-- The fault in words. -/
def ToolchainFault.message : ToolchainFault → String
  | .download version _ => s!"failed to download NDK {version}"
  | .unpack version _ => s!"failed to unpack NDK {version}"
  | .noDirectory version => s!"NDK archive did not contain {version}/"

/-- What the fault says about the step that failed. -/
def ToolchainFault.details? : ToolchainFault → Option String
  | .download _ details => some details
  | .unpack _ details => some details
  | .noDirectory _ => none

/-! ## Failures -/

/-- What failed when the source was fetched. -/
inductive AcquisitionStep where
  | clone
  | identity
  | revision
  deriving DecidableEq

/-- The two steps of a build. -/
inductive BuildStep where
  | configure
  | compile
  deriving DecidableEq

/-- The cause of a failure. -/
inductive Failure where
  /-- The source could not be fetched. -/
  | acquisition (step : AcquisitionStep) (details : String)
  /-- There is no toolchain. -/
  | toolchain (fault : ToolchainFault)
  /-- A step of a build failed; the end of its log is kept. -/
  | build (step : BuildStep) (label logPath logTail : String)
  /-- There is nothing to package. -/
  | artifactMissing (path : String)
  /-- The library's name could not be set. -/
  | libraryName (label details : String)
  /-- Packaging failed in another way. -/
  | packaging (label details : String)
  /-- Variants are badly defined. -/
  | variants (fault : RegistryFault)
  /-- A git command failed. -/
  | git (arguments : List String) (result : CommandResult)
  /-- A value is not what it should be. -/
  | issues (found : List Issue)
  /-- A settings file cannot be read as TOML. -/
  | badToml
  /-- A settings file holds a date that there is not. -/
  | badDate
  /-- A settings file cannot be read as JSON. -/
  | badJson
  /-- There is no such profile. -/
  | unknownProfile (name : String)
  /-- A pattern cannot be used. -/
  | pattern (error : Pattern.Error)
  /-- An operation on the disk failed. -/
  | disk (fault : DiskFault)
  /-- A program cannot be started with such an argument. -/
  | argument (fault : ArgumentFault)
  /-- A program cannot be started for a reason other than that it is missing or denied. -/
  | start (reason : DiskReason)
  /-- An archive cannot be read. -/
  | archive (fault : ArchiveFault)
  /-- A name cannot be used in an archive. -/
  | memberName (fault : Archive.NameFault)
  /-- An archive is not to be unpacked. -/
  | unpack (fault : UnpackFault)
  /-- A download failed. -/
  | download (fault : DownloadFault)
  /-- A point in time is out of reach. -/
  | invalidTime
  /-- The run was cancelled. -/
  | cancelled
  /-- The run was cancelled during a wait. -/
  | cancelledWait
  /-- A request could not be sent. -/
  | network (text : String)
  /-- Something else from outside, in its own words. -/
  | other (text : String)
  /-- Something that is not a failure was given as one. -/
  | value (v : Data)
  /-- A value has no text and stands for no number, where one of them is needed. -/
  | noText

namespace Failure

/-- The failure in words. -/
def message : Failure → String
  | .acquisition .clone _ => "failed to clone source from all candidates"
  | .acquisition .identity _ => "failed to configure git identity"
  | .acquisition .revision _ => "could not resolve the checked-out revision"
  | .toolchain fault => fault.message
  | .build .configure label .. => s!"meson setup failed for {label}"
  | .build .compile label .. => s!"compilation failed for {label}"
  | .artifactMissing path => s!"build artifact missing: {path}"
  | .libraryName label _ => s!"patchelf failed for {label}"
  | .packaging label _ => s!"packaging failed for {label}"
  | .variants fault => fault.message
  | .git arguments result => Command.line "git" arguments ++ " failed: " ++ result.failure
  | .issues found => Issue.allText found
  | .badToml => "settings file is not valid TOML"
  | .badDate => "Invalid Datetime"
  | .badJson => "settings file is not valid JSON"
  | .unknownProfile name => s!"config profile not found: {name}"
  | .pattern error => error.message
  | .disk fault => fault.message
  | .argument fault => fault.message
  | .start reason => s!"spawn {reason.code}"
  | .archive fault => fault.message
  | .memberName fault => fault.message
  | .unpack fault => fault.message
  | .download fault => fault.message
  | .invalidTime => "Invalid time value"
  | .cancelled => "This operation was aborted"
  | .cancelledWait => "The operation was aborted"
  | .network text => text
  | .other text => text
  | .value v => v.plainText
  | .noText => "Cannot convert object to primitive value"

/-- Whether the failure can be put in words. -/
def hasWords : Failure → Bool
  | .value v => v.hasText
  | _ => true

/-- The failure of a value that was turned down. -/
def ofRejection : Rejection → Failure
  | .issues found => .issues found
  | .noText => .noText

/-- The code of a failure of the forge itself. -/
def code? : Failure → Option String
  | .acquisition .. => some "ACQUISITION_FAILED"
  | .toolchain _ => some "TOOLCHAIN_UNAVAILABLE"
  | .build .configure .. => some "CONFIGURE_FAILED"
  | .build .compile .. => some "COMPILE_FAILED"
  | .artifactMissing _ => some "ARTIFACT_MISSING"
  | .libraryName .. => some "PACKAGING_FAILED"
  | .packaging .. => some "PACKAGING_FAILED"
  | .variants _ => some "INVALID_VARIANT_DEFINITION"
  | _ => none

/-- What a failure of the forge itself says about the step that failed. -/
def details? : Failure → Option String
  | .acquisition _ details => some details
  | .toolchain fault => fault.details?
  | .build _ _ _ logTail => some logTail
  | .libraryName _ details => some details
  | .packaging _ details => some details
  | _ => none

end Failure

end VariantForge
