import VariantForge.Archive.Inflate
import VariantForge.Archive.Name
import VariantForge.Archive.Pack
import VariantForge.Text.Utf8

/-!
Reading archives.

An archive ends with a record that tells where its directory begins and how many members it has.
The directory is read member by member; nothing is known of a member before those in front of it
have been read. A member's bytes stand behind a record of their own at the place that the directory
names, stored as they are or compressed.
-/

namespace VariantForge.Archive

/-- The byte at a position, zero past the end. -/
def byteAt (bytes : ByteArray) (i : Nat) : Nat := ((bytes[i]?).getD 0).toNat

/-- The number in two bytes, the low byte first. -/
def number2 (bytes : ByteArray) (i : Nat) : Nat := byteAt bytes i + 256 * byteAt bytes (i + 1)

/-- The number in four bytes. -/
def number4 (bytes : ByteArray) (i : Nat) : Nat := number2 bytes i + 65536 * number2 bytes (i + 2)

/-- The number in eight bytes. -/
def number8 (bytes : ByteArray) (i : Nat) : Nat := number4 bytes i + 4294967296 * number4 bytes (i + 4)

/-- Fails unless `size` bytes stand at a position. -/
def need (bytes : ByteArray) (i size : Nat) : Except ArchiveFault Unit :=
  if size = 0 ∨ i + size ≤ bytes.size then .ok () else .error .unexpectedEnd

/-- An archive: its bytes, where its directory begins and the number of its members. -/
structure Contents where
  bytes : ByteArray
  start : Nat
  count : Nat

/-- What the directory says about a member. -/
structure Member where
  name : String
  flags : Nat
  method : Nat
  packedSize : Nat
  size : Nat
  attributes : Nat
  offset : Nat

namespace Member

/-- The mode that the member's file had where the archive was made. -/
def mode (m : Member) : Nat := m.attributes / 65536 % 65536

/-- Whether the member's bytes are encrypted. -/
def isEncrypted (m : Member) : Bool := m.flags.testBit 0

/-- Whether the name stands for a directory. -/
def isDirectory (m : Member) : Bool := m.name.toList.getLast? == some '/'

/-- Whether the mode is that of a symbolic link. -/
def isLink (m : Member) : Bool := m.mode / 4096 % 16 == 10

end Member

/-- The length of the last record without its comment. -/
def endSize : Nat := 22

/-- Looks for the last record from a position on downwards. -/
def findEnd (bytes : ByteArray) : Nat → Nat → Option Nat
  | 0, _ => none
  | tries + 1, i =>
    if number4 bytes i = 0x06054B50 then some i
    else if i = 0 then none else findEnd bytes tries (i - 1)

/-- Reads where the directory begins from the wide record, which the last record at `i` leaves it
to. -/
def openWide (bytes : ByteArray) (i : Nat) : Except ArchiveFault Contents := do
  if i < 20 then throw .unexpectedEnd
  let locator := i - 20
  if number4 bytes locator ≠ 0x07064B50 then throw .badLocator
  let wide := number8 bytes (locator + 8)
  need bytes wide 56
  if number4 bytes wide ≠ 0x06064B50 then throw .badWideEnd
  return ⟨bytes, number8 bytes (wide + 48), number8 bytes (wide + 32)⟩

/-- Opens an archive. The last record with the right signature counts, within as many bytes of the
end as its comment may have. -/
def open? (bytes : ByteArray) : Except ArchiveFault Contents := do
  if bytes.size < endSize then throw .noEnd
  match findEnd bytes (min (bytes.size - endSize) 65535 + 1) (bytes.size - endSize) with
  | none => throw .noEnd
  | some i =>
    let disk := number2 bytes (i + 4)
    if disk ≠ 0 then throw (.severalDisks disk)
    let count := number2 bytes (i + 10)
    let start := number4 bytes (i + 16)
    let comment := number2 bytes (i + 20)
    let expected := bytes.size - i - endSize
    if comment ≠ expected then throw (.commentLength expected comment)
    if count = 65535 ∨ start = 4294967295 then openWide bytes i else return ⟨bytes, start, count⟩

/-- The extra fields between two positions, each with its number and its data. `bound` limits their
number. -/
def extraFields (bytes : ByteArray) (stop : Nat) : Nat → Nat → Except ArchiveFault (List (Nat × ByteArray))
  | 0, _ => .ok []
  | bound + 1, i =>
    if stop < i + 4 then .ok []
    else
      let next := i + 4 + number2 bytes (i + 2)
      if stop < next then .error .extraTooLong
      else do
        let rest ← extraFields bytes stop bound next
        return (number2 bytes i, bytes.extract (i + 4) next) :: rest

/-- The sizes and the place of a member, which stand in the wide field where they do not fit. -/
structure Extent where
  size : Nat
  packedSize : Nat
  offset : Nat

/-- A number that stands for one in the wide field. -/
def wideMark : Nat := 4294967295

/-- Takes a number from the wide field at a position unless it stands in the record itself, and
gives the position after it. -/
def widened (field : ByteArray) (what : String) (value i : Nat) : Except ArchiveFault (Nat × Nat) :=
  if value ≠ wideMark then .ok (value, i)
  else if field.size < i + 8 then .error (.wideFieldShort what)
  else .ok (number8 field i, i + 8)

/-- The extent of a member after a look at its wide field. -/
def widenedExtent (extra : List (Nat × ByteArray)) (e : Extent) : Except ArchiveFault Extent := do
  if e.size ≠ wideMark ∧ e.packedSize ≠ wideMark ∧ e.offset ≠ wideMark then return e
  match extra.find? (·.1 == 1) with
  | none => throw .noWideField
  | some (_, field) =>
    let (size, i) ← widened field "uncompressed size" e.size 0
    let (packedSize, i) ← widened field "compressed size" e.packedSize i
    let (offset, _) ← widened field "relative header offset" e.offset i
    return { size, packedSize, offset }

/-- The name in a field for names in Unicode: of the known version, and made for the bytes of the
name in the record. -/
def unicodeName? (raw : ByteArray) (field : Nat × ByteArray) : Option String :=
  let data := field.2
  if field.1 = 0x7075 ∧ 6 ≤ data.size ∧ byteAt data 0 = 1 ∧
      number4 data 1 = (Checksum.ofBytes raw).toNat then
    some (Utf8.decode (data.extract 5 data.size))
  else none

/-- The member whose record stands at a position, and the position after the record. -/
def memberAt (c : Contents) (i : Nat) : Except ArchiveFault (Member × Nat) := do
  let b := c.bytes
  need b i 46
  let signature := number4 b i
  if signature ≠ 0x02014B50 then throw (.badRecord signature)
  let flags := number2 b (i + 8)
  let method := number2 b (i + 10)
  let nameLength := number2 b (i + 28)
  let extraLength := number2 b (i + 30)
  let commentLength := number2 b (i + 32)
  if flags.testBit 6 then throw .strongEncryption
  let nameStart := i + 46
  need b nameStart (nameLength + extraLength + commentLength)
  let raw := b.extract nameStart (nameStart + nameLength)
  let extraStart := nameStart + nameLength
  let extra ← extraFields b (extraStart + extraLength) (extraLength + 1) extraStart
  let extent ← widenedExtent extra ⟨number4 b (i + 24), number4 b (i + 20), number4 b (i + 42)⟩
  let own := if flags.testBit 11 then Utf8.decode raw else CodePage.decode raw
  let given := (extra.findSome? (unicodeName? raw)).getD own
  let expected := if flags.testBit 0 then extent.size + 12 else extent.size
  if method = 0 ∧ extent.packedSize ≠ expected then
    throw (.sizeMismatch extent.packedSize extent.size)
  let name ← (checkName given).mapError .name
  let member : Member :=
    { name, flags, method, packedSize := extent.packedSize, size := extent.size
      attributes := number4 b (i + 38), offset := extent.offset }
  return (member, extraStart + extraLength + commentLength)

/-- The bytes of a member. -/
def content (c : Contents) (m : Member) : Except ArchiveFault ByteArray := do
  if m.isEncrypted then throw .encrypted
  let b := c.bytes
  need b m.offset 30
  let signature := number4 b m.offset
  if signature ≠ 0x04034B50 then throw (.badLocalRecord signature)
  let start := m.offset + 30 + number2 b (m.offset + 26) + number2 b (m.offset + 28)
  if m.method ≠ 0 ∧ m.method ≠ 8 then throw (.unknownMethod m.method)
  if m.packedSize ≠ 0 ∧ b.size < start + m.packedSize then throw (.dataOverflow start m.packedSize b.size)
  let packed := b.extract start (start + m.packedSize)
  if m.method = 0 then return packed
  match Inflate.unpack packed with
  | .ok bytes => return bytes
  | .error fault => throw (.inflate fault)

/-- The names and bytes of `n` members from a position of the directory on. -/
def contentsFrom (c : Contents) : Nat → Nat → Except ArchiveFault (List (String × ByteArray))
  | 0, _ => .ok []
  | n + 1, i => do
    let (member, next) ← memberAt c i
    let bytes ← content c member
    return (member.name, bytes) :: (← contentsFrom c n next)

/-- The names and bytes of all members of an archive in order. -/
def members (bytes : ByteArray) : Except ArchiveFault (List (String × ByteArray)) := do
  let c ← open? bytes
  contentsFrom c c.count c.start

end VariantForge.Archive
