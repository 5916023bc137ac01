import VariantForge.Disk.Basic

/-!
Reading and changing the disk.

Each operation either gives the changed disk or names what stood in its way and leaves the disk as
it was; only directories made on the way to another stay.
-/

namespace VariantForge.Disk

/-- The fault of an operation on one path. -/
def fault (reason : DiskReason) (operation path : String) : DiskFault := .call reason operation [path]

/-- The fault of a path that holds a null, given as the argument of some name. -/
def nullFault? (name path : String) : Option DiskFault :=
  if Text.hasNull path then some (.argument ⟨name, path, .nullInPath⟩) else none

/-- Fails if a path holds a null. -/
def checkPath (path : String) (name : String := "path") : Except DiskFault Unit :=
  match nullFault? name path with
  | some f => .error f
  | none => .ok ()

/-- The bytes of a file. -/
def read (d : Disk) (path : String) : Except DiskFault ByteArray := do
  checkPath path
  match d.locate path with
  | .error r => .error (fault r "open" path)
  | .ok p =>
    match d.get? p with
    | some (.file bytes mode) => if mayRead mode then .ok bytes else .error (fault .denied "open" path)
    | some .directory => .error (.call .isDirectory "read" [])
    | some (.link _) => .error (fault .tooManyLinks "open" path)
    | none => .error (fault .missing "open" path)

/-- Writes a file. One that is there keeps its mode; a link is followed to the file it stands for. -/
def write (d : Disk) (path : String) (bytes : ByteArray) : Except DiskFault Disk := do
  checkPath path
  match d.locateFile path with
  | .error r => .error (fault r "open" path)
  | .ok p =>
    match d.get? p with
    | some (.file _ mode) =>
      if mayWrite mode then .ok (d.put p (.file bytes mode)) else .error (fault .denied "open" path)
    | some .directory => .error (fault .isDirectory "open" path)
    | some (.link _) => .error (fault .tooManyLinks "open" path)
    | none => .ok (d.put p (.file bytes newFileMode))

/-- Writes a file where there is nothing yet, not even a link. -/
def create (d : Disk) (path : String) (bytes : ByteArray) : Except DiskFault Disk := do
  checkPath path
  match d.locateSelf path with
  | .error r => .error (fault r "open" path)
  | .ok p =>
    match d.get? p with
    | some _ => .error (fault .taken "open" path)
    | none => .ok (d.put p (.file bytes newFileMode))

/-- The place where a path starts. -/
def origin (d : Disk) (path : String) : Place := if fromRoot path then [] else d.here

/-- Makes one directory where there is nothing yet. -/
def makeDirectory (d : Disk) (path : String) : Except DiskReason Disk :=
  if path.isEmpty then .error .missing
  else if isLongPath path then .error .nameTooLong
  else
    match (names path).reverse.dropWhile (·.isEmpty) with
    | [] => .error .taken
    | last :: before => do
      let here ← d.walk true linkBound (d.origin path) before.reverse
      match d.get? here with
      | some .directory =>
        if last = "." ∨ last = ".." then .error .taken
        else if isLongName last then .error .nameTooLong
        else if (d.get? (here ++ [last])).isSome then .error .taken
        else .ok (d.put (here ++ [last]) .directory)
      | some _ => .error .notDirectory
      | none => .error .missing

/-- The path before the last slash, without any slash the path itself. -/
def pathAbove (path : String) : String :=
  match path.toList.reverse.dropWhile (· != '/') with
  | [] => path
  | _ :: rest => String.ofList rest.reverse

/-- What it means that a directory could not be made for a reason other than that the one above it
is missing: a directory that is there will do. `inner` says whether another is to be made in it. -/
def acceptDirectory (d : Disk) (inner : Bool) (path : String) (r : DiskReason) : Option DiskFault :=
  match r with
  | .denied => some (fault r "mkdir" path)
  | .notDirectory => some (fault r "mkdir" path)
  | r =>
    match d.locate path with
    | .ok p =>
      match d.get? p with
      | some .directory => none
      | some _ => some (fault (if inner && r = .taken then .notDirectory else .taken) "mkdir" path)
      | none => some (fault (if inner && r = .taken then .notDirectory else .missing) "mkdir" path)
    | .error e => some (fault (if inner && r = .taken then .notDirectory else e) "mkdir" path)

/-- Makes a directory and, if the one above it is missing, that one before it. The number bounds the
directories above. -/
def makeUpward (d : Disk) (inner : Bool) (path : String) : Nat → Disk × Option DiskFault
  | 0 => (d, some (fault .missing "mkdir" path))
  | bound + 1 =>
    let settle (d : Disk) (r : DiskReason) : Disk × Option DiskFault := (d, d.acceptDirectory inner path r)
    match d.makeDirectory path with
    | .ok made => (made, none)
    | .error .missing =>
      let above := pathAbove path
      if above = path then if inner then (d, none) else settle d .taken
      else
        match makeUpward d true above bound with
        | (d, some f) => (d, some f)
        | (d, none) =>
          match d.makeDirectory path with
          | .ok made => (made, none)
          | .error r => settle d r
    | .error r => settle d r

/-- Makes a directory and those above it, unless they are there. The fault, if there is one, names the
directory that could not be made; those made before it stay. -/
def makeDirectories (d : Disk) (path : String) : Disk × Option DiskFault :=
  match nullFault? "path" path with
  | some f => (d, some f)
  | none => d.makeUpward false path (path.length + 1)

/-- Removes whatever a path names, with all that lies below it; there may be nothing. A link is
removed and not what it points to. -/
def removeAll (d : Disk) (path : String) : Except DiskFault Disk := do
  checkPath path
  match d.locateSelf path with
  | .error .missing => .ok d
  | .error r => .error (fault r "lstat" path)
  | .ok p => .ok (d.cut p)

/-- Removes the file or link that a path names; there may be nothing. -/
def removeFile (d : Disk) (path : String) : Except DiskFault Disk := do
  checkPath path
  match d.locateSelf path with
  | .error .missing => .ok d
  | .error r => .error (fault r "lstat" path)
  | .ok p =>
    match d.get? p with
    | some .directory => .error (.directoryKept path)
    | _ => .ok (d.cut p)

/-- Copies a file with its mode. -/
def copy (d : Disk) (source target : String) : Except DiskFault Disk := do
  let fail (r : DiskReason) : Except DiskFault Disk := .error (.call r "copyfile" [source, target])
  checkPath source "src"
  checkPath target "dest"
  match d.locate source with
  | .error r => fail r
  | .ok p =>
    match d.get? p with
    | some (.file bytes mode) =>
      if !mayRead mode then fail .denied
      else
        match d.locateFile target with
        | .error r => fail r
        | .ok q =>
          match d.get? q with
          | some .directory => fail .isDirectory
          | some (.file _ old) => if mayWrite old then .ok (d.put q (.file bytes mode)) else fail .denied
          | _ => .ok (d.put q (.file bytes mode))
    | some _ => fail .isDirectory
    | none => fail .missing

/-- The entries of a disk with those at and below one place moved to another. -/
def moveEntries (d : Disk) (p q : Place) : Disk :=
  { d with
    entries := (d.cut q).entries.map fun e =>
      if p.isPrefixOf e.1 then (q ++ e.1.drop p.length, e.2) else e }

/-- Moves a file, a link or a directory. A file does not take the place of a directory, nor a
directory that of a file or of a directory with something in it. -/
def rename (d : Disk) (source target : String) : Except DiskFault Disk := do
  let fail (r : DiskReason) : Except DiskFault Disk := .error (.call r "rename" [source, target])
  checkPath source "oldPath"
  checkPath target "newPath"
  match d.locateSelf source, d.locateSelf target with
  | .error r, _ => fail r
  | _, .error r => fail r
  | .ok p, .ok q =>
    match d.get? p, d.get? q with
    | none, _ => fail .missing
    | some e, there =>
      if !e.isDirectory && endsInSlash target then fail .notDirectory
      else if p = q then .ok d
      else if p.isPrefixOf q then fail .invalid
      else if q.isPrefixOf p then fail .notEmpty
      else if e.isDirectory then
        match there with
        | none => .ok (d.moveEntries p q)
        | some .directory => if (d.below q).isEmpty then .ok (d.moveEntries p q) else fail .notEmpty
        | some _ => fail .notDirectory
      else
        match there with
        | some .directory => fail .isDirectory
        | _ => .ok (d.moveEntries p q)

/-- Makes a symbolic link where there is nothing yet. -/
def makeLink (d : Disk) (target path : String) : Except DiskFault Disk := do
  let fail (r : DiskReason) : Except DiskFault Disk := .error (.call r "symlink" [target, path])
  checkPath target "target"
  checkPath path
  if target.isEmpty then throw (.call .missing "symlink" [target, path])
  if isLongPath target then throw (.call .nameTooLong "symlink" [target, path])
  match d.locateSelf path with
  | .error r => fail r
  | .ok p =>
    match d.get? p with
    | some _ => fail .taken
    | none => .ok (d.put p (.link (Text.shown target)))

/-- Sets the mode of a file. -/
def setMode (d : Disk) (path : String) (mode : Nat) : Except DiskFault Disk := do
  checkPath path
  match d.locate path with
  | .error r => .error (fault r "chmod" path)
  | .ok p =>
    match d.get? p with
    | some (.file bytes _) => .ok (d.put p (.file bytes mode))
    | some _ => .ok d
    | none => .error (fault .missing "chmod" path)

/-- The names in a directory. -/
def list (d : Disk) (path : String) : Except DiskFault (List String) :=
  match d.locate path with
  | .error r => .error (fault r "scandir" path)
  | .ok p =>
    match d.get? p with
    | some .directory =>
      .ok (d.entries.filterMap fun e => if e.1.dropLast == p then e.1.getLast? else none)
    | some _ => .error (fault .notDirectory "scandir" path)
    | none => .error (fault .missing "scandir" path)

end VariantForge.Disk
