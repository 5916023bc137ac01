import VariantForge.Text.Utf8

/-!
The checksum of archives: the remainder of the bytes, lowest bit first, by a polynomial of degree
32, with all bits turned round before and after.
-/

namespace VariantForge.Checksum

/-- One bit's step of the division. -/
def shift (r : UInt32) : UInt32 := if r &&& 1 = 1 then (r >>> 1) ^^^ 0xEDB88320 else r >>> 1

/-- Eight steps of the division. -/
def shiftByte (r : UInt32) : UInt32 := shift (shift (shift (shift (shift (shift (shift (shift r)))))))

/-- The remainder after one more byte. -/
def addByte (r : UInt32) (b : UInt8) : UInt32 := shiftByte ((r ^^^ b.toUInt32) &&& 0xFF) ^^^ (r >>> 8)

/-- The checksum of some bytes. -/
def ofBytes (bytes : ByteArray) : UInt32 := bytes.foldl addByte 0xFFFFFFFF ^^^ 0xFFFFFFFF

end VariantForge.Checksum

/-!
Making archives. Members are stored as they are, in the given order and with a fixed date, so that
equal contents make equal archives.
-/

namespace VariantForge.Archive

/-- A file to be packed: its name in the archive, its bytes and its mode. -/
structure Packed where
  name : String
  bytes : ByteArray
  mode : Nat

/-- A number in `n` bytes, the low byte first. -/
def littleEndian : Nat → Nat → List UInt8
  | 0, _ => []
  | n + 1, value => value.toUInt8 :: littleEndian n (value / 256)

namespace Packed

/-- What both records of a file share: versions aside, its flags, method, date, checksum, sizes and
the length of its name. The date is the first of 1980. -/
def shared (f : Packed) : List UInt8 :=
  let size := f.bytes.size
  littleEndian 2 0x800 ++ littleEndian 2 0 ++ littleEndian 2 0 ++ littleEndian 2 0x21 ++
    littleEndian 4 (Checksum.ofBytes f.bytes).toNat ++ littleEndian 4 size ++ littleEndian 4 size ++
    littleEndian 2 (Utf8.encode f.name).size ++ littleEndian 2 0

/-- The record in front of a file's bytes, its name included. -/
def localRecord (f : Packed) : ByteArray :=
  ⟨(littleEndian 4 0x04034B50 ++ littleEndian 2 20 ++ f.shared).toArray⟩ ++ Utf8.encode f.name

/-- The record of a file in the directory; its bytes are at `offset`. -/
def directoryRecord (f : Packed) (offset : Nat) : ByteArray :=
  ⟨(littleEndian 4 0x02014B50 ++ littleEndian 2 0x33F ++ littleEndian 2 20 ++ f.shared ++ littleEndian 2 0 ++
    littleEndian 2 0 ++ littleEndian 2 0 ++ littleEndian 4 ((0x8000 + f.mode) * 65536) ++
    littleEndian 4 offset).toArray⟩ ++ Utf8.encode f.name

end Packed

/-- The files with their records, and the directory, for files that begin at a position. -/
def packFrom : Nat → List Packed → ByteArray × ByteArray
  | _, [] => (.empty, .empty)
  | offset, f :: rest =>
    let front := f.localRecord ++ f.bytes
    let (fronts, records) := packFrom (offset + front.size) rest
    (front ++ fronts, f.directoryRecord offset ++ records)

/-- The archive of some files. -/
def pack (files : List Packed) : ByteArray :=
  let (fronts, records) := packFrom 0 files
  fronts ++ records ++
    ⟨(littleEndian 4 0x06054B50 ++ littleEndian 2 0 ++ littleEndian 2 0 ++ littleEndian 2 files.length ++
      littleEndian 2 files.length ++ littleEndian 4 records.size ++ littleEndian 4 fronts.size ++
      littleEndian 2 0).toArray⟩

end VariantForge.Archive
