import VariantForge.Disk.Fault

/-!
A disk: directories, files and symbolic links.

Every entry has a place, the names that lead to it from the root. A path is walked name by name as
an operating system does it: a link is followed to where it points, a double point climbs from
where the walk really is, and nothing lies below a file. At most forty links are followed.
-/

namespace VariantForge

/-- Where an entry is: the names from the root down. -/
abbrev Place := List String

/-- What may be at a place. The mode of a file says who may read, write and execute it. -/
inductive Entry where
  | file (bytes : ByteArray) (mode : Nat)
  | directory
  | link (target : String)
  deriving Inhabited

namespace Entry

/-- Whether this is a directory. -/
def isDirectory : Entry → Bool
  | .directory => true
  | _ => false

/-- Whether this is a file. -/
def isFile : Entry → Bool
  | .file .. => true
  | _ => false

end Entry

/-- The mode of a new file: all may read it, its owner may write it. -/
def newFileMode : Nat := 0o644

/-- Whether the owner may read a file of this mode. -/
def mayRead (mode : Nat) : Bool := mode.testBit 8

/-- Whether the owner may write a file of this mode. -/
def mayWrite (mode : Nat) : Bool := mode.testBit 7

/-- Whether the owner may execute a file of this mode. -/
def mayExecute (mode : Nat) : Bool := mode.testBit 6

/-- A disk: what is at each place, and the place that relative paths start from. Only the first
entry for a place counts. -/
structure Disk where
  entries : List (Place × Entry)
  here : Place := []
  deriving Inhabited

namespace Disk

/-- The names that a path goes through, as they can be shown; blank ones stand for the place reached
so far. -/
def names (path : String) : List String := ((Text.shown path).toList.splitOn '/').map String.ofList

/-- What is at a place. The root is always a directory. -/
def get? (d : Disk) (p : Place) : Option Entry :=
  if p.isEmpty then some .directory else (d.entries.find? (·.1 == p)).map (·.2)

/-- Puts an entry at a place, in the place of what is there. -/
def put (d : Disk) (p : Place) (e : Entry) : Disk :=
  { d with entries := (p, e) :: d.entries.filter (·.1 != p) }

/-- Takes away what is at a place and all that lies below it. -/
def cut (d : Disk) (p : Place) : Disk :=
  { d with entries := d.entries.filter fun e => !p.isPrefixOf e.1 }

/-- The entries below a place. -/
def below (d : Disk) (p : Place) : List (Place × Entry) :=
  d.entries.filter fun e => p.isPrefixOf e.1 && e.1 != p

/-- The most bytes that a name may have. -/
def nameLimit : Nat := 255

/-- The most bytes that a path may have. -/
def pathLimit : Nat := 4095

/-- Whether a name has too many bytes. -/
def isLongName (name : String) : Bool := nameLimit < name.utf8ByteSize

/-- Whether a path has too many bytes. -/
def isLongPath (path : String) : Bool := pathLimit < (Text.shown path).utf8ByteSize

/-- How many links a walk may follow. -/
def linkBound : Nat := 40

/-- Whether a link points to a path from the root. -/
def fromRoot (target : String) : Bool := target.toList.head? == some '/'

/-- How far a walk gets before it follows a link: to a place, to where it cannot go on, or to a link
in some directory, with the names that are left. -/
inductive Leg where
  | arrived (p : Place)
  | stopped (reason : DiskReason)
  | link (here : Place) (target : String) (rest : List String)

/-- Walks from a place along names up to the first link that is to be followed. `follow` says whether
a link at the very end is. There need not be anything at the place reached. -/
def leg (d : Disk) (follow : Bool) (here : Place) : List String → Leg
  | [] => .arrived here
  | name :: rest =>
    if name = "" ∨ name = "." then leg d follow here rest
    else if name = ".." then leg d follow here.dropLast rest
    else
      let there := here ++ [name]
      if isLongName name then .stopped .nameTooLong
      else match d.get? there with
      | none => if rest.isEmpty then .arrived there else .stopped .missing
      | some .directory => leg d follow there rest
      | some (.file ..) => if rest.isEmpty then .arrived there else .stopped .notDirectory
      | some (.link target) => if rest.isEmpty && !follow then .arrived there else .link here target rest

/-- Walks from a place along names and gives the place reached. The number bounds the links that are
followed. -/
def walk (d : Disk) (follow : Bool) : Nat → Place → List String → Except DiskReason Place
  | links, here, ns =>
    match d.leg follow here ns with
    | .arrived p => .ok p
    | .stopped r => .error r
    | .link here target rest =>
      match links with
      | 0 => .error .tooManyLinks
      | links + 1 => walk d follow links (if fromRoot target then [] else here) (names target ++ rest)

/-- Walks a path, which must not be blank, from the root or from where relative paths start. -/
def walkPath (d : Disk) (follow : Bool) (path : String) : Except DiskReason Place :=
  if path.isEmpty then .error .missing
  else if isLongPath path then .error .nameTooLong
  else d.walk follow linkBound (if fromRoot path then [] else d.here) (names path)

/-- The place that a path stands for, links followed. -/
def locate (d : Disk) (path : String) : Except DiskReason Place := d.walkPath true path

/-- Whether a path ends in a slash. -/
def endsInSlash (path : String) : Bool := path.toList.getLast? == some '/'

/-- The place of a file that is to be written. A path that ends in a slash can only name a directory, in one
that must be there. -/
def locateFile (d : Disk) (path : String) : Except DiskReason Place := do
  if !endsInSlash path then return ← d.locate path
  if isLongPath path then throw .nameTooLong
  match (names path).reverse.dropWhile (·.isEmpty) with
  | [] => throw .isDirectory
  | _ :: before =>
    let p ← d.walk true linkBound (if fromRoot path then [] else d.here) before.reverse
    match d.get? p with
    | some .directory => throw .isDirectory
    | some _ => throw .notDirectory
    | none => throw .missing

/-- The place that a path names, a link at its end not followed. -/
def locateSelf (d : Disk) (path : String) : Except DiskReason Place := d.walkPath false path

/-- What a path leads to, links followed. -/
def look? (d : Disk) (path : String) : Option Entry :=
  match d.locate path with
  | .ok p => d.get? p
  | .error _ => none

/-- Whether a path leads to a directory. -/
def isDirectory (d : Disk) (path : String) : Bool := (d.look? path).any Entry.isDirectory

/-- Whether a path leads to a file. -/
def isFile (d : Disk) (path : String) : Bool := (d.look? path).any Entry.isFile

/-- Whether a path leads to anything. -/
def exists_ (d : Disk) (path : String) : Bool := (d.look? path).isSome

end Disk

end VariantForge
