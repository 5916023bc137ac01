import VariantForge.Archive.Directory
import VariantForge.World

/-!
Unpacking a toolchain's archive.

Members may not leave the directory they are unpacked in. A symbolic link is made if what it points
to lies inside; files that may be executed keep their mode. The number of members, their sizes and
the sum of the sizes are bounded.
-/

namespace VariantForge

/-- Bounds on an archive. -/
structure UnpackLimits where
  maxEntries : Option Number := none
  maxTotalBytes : Option Number := none
  maxFileBytes : Option Number := none

namespace Unpack

/-- A bound as a whole number, one at least; the default where none is given. -/
def limitOr (default : Nat) (given : Option Number) : Nat :=
  match given with
  | some (.finite q) => max 1 q.floor.toNat
  | _ => default

/-- The bound on the number of members. -/
def maxEntries (l : UnpackLimits) : Nat := limitOr 200000 l.maxEntries

/-- The bound on the sum of the sizes: sixteen binary gigabytes unless told otherwise. -/
def maxTotalBytes (l : UnpackLimits) : Nat := limitOr (16 * 1024 * 1024 * 1024) l.maxTotalBytes

/-- The bound on one size: two binary gigabytes unless told otherwise. -/
def maxFileBytes (l : UnpackLimits) : Nat := limitOr (2 * 1024 * 1024 * 1024) l.maxFileBytes

/-- Whether a member's path leads out of the directory, or is that directory itself. -/
def leadsOut (path : String) : Bool :=
  let p := Path.normalize path
  p == "." || p == ".." || Text.startsWith p "../" || Text.occurs "/../".toList p.toList ||
    Text.startsWith p "/" || isDrive p.toList
where
  /-- Whether characters begin with a letter, a colon and a slash. -/
  isDrive : List Char → Bool
    | c :: ':' :: '/' :: _ => c.isAlpha
    | _ => false

/-- How many members were unpacked, and the sum of their sizes. -/
structure Progress where
  entries : Nat := 0
  total : Nat := 0

/-- Fails with an unpacking fault. -/
def refuse (fault : UnpackFault) : Forge α := throw (.unpack fault)

/-- The bytes of a member. -/
def content (c : Archive.Contents) (m : Archive.Member) : Forge ByteArray :=
  match Archive.content c m with
  | .ok bytes => return bytes
  | .error fault => throw (.archive fault)

/-- Makes a link, unless it would point out of the directory. -/
def makeLink (outDir name path : String) (bytes : ByteArray) : Forge Unit := do
  let target := Text.trim (Utf8.decode bytes)
  let resolved := Path.resolve (← Forge.here) [Path.dirname path, target]
  if target.isEmpty || Path.isAbsolute target || !Path.isInside outDir resolved then
    refuse (.linkEscapes name target)
  Forge.change (·.makeLink target path)

/-- Makes a file with the bytes of a member. A file whose bytes cannot be read is made empty. -/
def makeFile (c : Archive.Contents) (m : Archive.Member) (path : String) : Forge Unit := do
  match Archive.content c m with
  | .ok bytes =>
    Forge.change (·.create path bytes)
    if m.mode &&& 0o111 ≠ 0 then Forge.change (·.setMode path (m.mode &&& 0o777))
  | .error (.inflate fault) =>
    Forge.change (·.create path .empty)
    throw (.archive (.inflate fault))
  | .error fault => throw (.archive fault)

/-- Unpacks one member after the bounds were checked. -/
def place (c : Archive.Contents) (outDir : String) (m : Archive.Member) (path : String) : Forge Unit := do
  Forge.makeDirectories (Path.dirname path)
  if m.isLink then makeLink outDir m.name path (← content c m) else makeFile c m path

/-- Unpacks one member. -/
def unpackMember (c : Archive.Contents) (l : UnpackLimits) (outDir : String) (p : Progress)
    (m : Archive.Member) : Forge Progress := do
  let entries := p.entries + 1
  if maxEntries l < entries then refuse (.tooMany (maxEntries l))
  if m.name.isEmpty then refuse .blankName
  if leadsOut m.name then refuse (.badPath m.name)
  let path := Path.resolve (← Forge.here) [Path.join [outDir, m.name]]
  if !Path.isInside outDir path then refuse (.escaped m.name)
  if m.isDirectory then
    Forge.makeDirectories path
    return { p with entries }
  if maxFileBytes l < m.size then refuse (.memberTooLarge m.name m.size (maxFileBytes l))
  let total := p.total + m.size
  if maxTotalBytes l < total then refuse (.tooLarge total (maxTotalBytes l))
  place c outDir m path
  return { entries, total }

/-- Unpacks `n` members from a position of the directory on. -/
def unpackFrom (c : Archive.Contents) (l : UnpackLimits) (outDir : String) (p : Progress) :
    Nat → Nat → Forge Progress
  | 0, _ => return p
  | n + 1, i => do
    match Archive.memberAt c i with
    | .error fault => throw (.archive fault)
    | .ok (m, next) =>
      let p ← unpackMember c l outDir p m
      unpackFrom c l outDir p n next

/-- Unpacks an archive into a directory and gives the number of its members. -/
def run (archive outDir : String) (l : UnpackLimits) : Forge Nat := do
  let here ← Forge.here
  let archive := Path.resolve here [archive]
  let outDir := Path.resolve here [outDir]
  Forge.makeDirectories outDir
  match Archive.open? (← Forge.readFile archive) with
  | .error fault => throw (.archive fault)
  | .ok c => return (← unpackFrom c l outDir {} c.count c.start).entries

end Unpack

end VariantForge
