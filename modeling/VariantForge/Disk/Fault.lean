import VariantForge.Text.Quoted

/-!
Why an operation on the disk failed. Arguments that an operation of the system does not accept are looked at
before the operation begins.
-/

namespace VariantForge

/-! ## Arguments -/

/-- What is wrong with an argument. -/
inductive ArgumentReason where
  | nullInPath
  | nullInText
  | blank
  deriving DecidableEq

/-- The reason in words. -/
def ArgumentReason.words : ArgumentReason → String
  | .nullInPath => "must be a string, Uint8Array, or URL without null bytes"
  | .nullInText => "must be a string without null bytes"
  | .blank => "cannot be empty"

/-- An argument that is not accepted. -/
structure ArgumentFault where
  name : String
  value : String
  reason : ArgumentReason
  deriving DecidableEq

namespace ArgumentFault

/-- The short name of all such faults. -/
def code : String := "ERR_INVALID_ARG_VALUE"

/-- The fault in words. A name with a point in it is that of a property. -/
def message (f : ArgumentFault) : String :=
  let kind := if f.name.toList.contains '.' then "property" else "argument"
  s!"The {kind} '{f.name}' {f.reason.words}. Received {Text.inspected f.value}"

end ArgumentFault

/-- Whether a string holds the character of number zero. -/
def Text.hasNull (s : String) : Bool := s.toList.contains (Char.ofNat 0)

/-! ## Operations -/

/-- What stood in the way of an operation on the disk. -/
inductive DiskReason where
  | missing
  | taken
  | isDirectory
  | notDirectory
  | notEmpty
  | denied
  | tooManyLinks
  | nameTooLong
  | invalid
  deriving DecidableEq

/-- The short name of a reason. -/
def DiskReason.code : DiskReason → String
  | .missing => "ENOENT"
  | .taken => "EEXIST"
  | .isDirectory => "EISDIR"
  | .notDirectory => "ENOTDIR"
  | .notEmpty => "ENOTEMPTY"
  | .denied => "EACCES"
  | .tooManyLinks => "ELOOP"
  | .nameTooLong => "ENAMETOOLONG"
  | .invalid => "EINVAL"

/-- The reason in words. -/
def DiskReason.description : DiskReason → String
  | .missing => "no such file or directory"
  | .taken => "file already exists"
  | .isDirectory => "illegal operation on a directory"
  | .notDirectory => "not a directory"
  | .notEmpty => "directory not empty"
  | .denied => "permission denied"
  | .tooManyLinks => "too many symbolic links encountered"
  | .nameTooLong => "name too long"
  | .invalid => "invalid argument"

/-- An operation that failed, with the one or two paths that it was given; a directory where only a
file may be removed; or an argument that no operation accepts. -/
inductive DiskFault where
  | call (reason : DiskReason) (operation : String) (paths : List String)
  | directoryKept (path : String)
  | argument (fault : ArgumentFault)
  deriving DecidableEq

/-- The fault in words. -/
def DiskFault.message : DiskFault → String
  | .call reason operation paths =>
    let shown := paths.map fun p => "'" ++ Text.shown p ++ "'"
    let where_ := if shown.isEmpty then "" else " " ++ " -> ".intercalate shown
    s!"{reason.code}: {reason.description}, {operation}{where_}"
  | .directoryKept path => s!"Path is a directory: rm returned EISDIR (is a directory) {path}"
  | .argument fault => fault.message

/-- The short name that a fault carries. -/
def DiskFault.code : DiskFault → String
  | .call reason .. => reason.code
  | .directoryKept _ => "ERR_FS_EISDIR"
  | .argument _ => ArgumentFault.code

end VariantForge
