import VariantForge.Text.Units

/-!
UTF-8: strings to bytes and bytes to strings.

Any bytes can be read. A sequence that stops being well-formed gives one U+FFFD for its longest
well-formed beginning, and reading goes on with the first byte that does not fit.
-/

namespace VariantForge.Utf8

/-- What the first byte of a longer sequence announces: how many bytes follow it, the range of
the first of them, and the bits it carries itself. -/
structure Lead where
  following : Nat
  low : UInt8
  high : UInt8
  bits : Nat

/-- The sequences that may begin with a byte from 0x80 on. Overlong forms, surrogates and values
past U+10FFFF are shut out by the range of the second byte. -/
def lead? (b : UInt8) : Option Lead :=
  if b < 0xC2 then none
  else if b < 0xE0 then some ⟨1, 0x80, 0xBF, b.toNat - 0xC0⟩
  else if b < 0xF0 then
    some ⟨2, if b = 0xE0 then 0xA0 else 0x80, if b = 0xED then 0x9F else 0xBF, b.toNat - 0xE0⟩
  else if b < 0xF5 then
    some ⟨3, if b = 0xF0 then 0x90 else 0x80, if b = 0xF4 then 0x8F else 0xBF, b.toNat - 0xF0⟩
  else none

/-- Reads `n` continuation bytes, the first between `low` and `high`. Gives the value if all are
there, and what is left after those that fit. -/
def continuation : Nat → UInt8 → UInt8 → Nat → List UInt8 → Option Nat × List UInt8
  | 0, _, _, value, rest => (some value, rest)
  | _ + 1, _, _, _, [] => (none, [])
  | n + 1, low, high, value, b :: rest =>
    if low ≤ b && b ≤ high then continuation n 0x80 0xBF (value * 64 + (b.toNat - 0x80)) rest
    else (none, b :: rest)

theorem length_continuation_le (n : Nat) (low high : UInt8) (value : Nat) (bytes : List UInt8) :
    (continuation n low high value bytes).2.length ≤ bytes.length := by
  induction n generalizing low high value bytes with
  | zero => simp [continuation]
  | succ n ih =>
    cases bytes with
    | nil => simp [continuation]
    | cons b rest =>
      simp only [continuation]
      split
      · exact Nat.le_succ_of_le (ih ..)
      · simp

/-- Reads bytes as characters after those in `before`, which stand in reverse order. -/
def charsAfter (before : List Char) : List UInt8 → List Char
  | [] => before.reverse
  | b :: rest =>
    if b < 0x80 then charsAfter (Char.ofNat b.toNat :: before) rest
    else
      match lead? b with
      | none => charsAfter (Text.replacementChar :: before) rest
      | some lead =>
        let read := continuation lead.following lead.low lead.high lead.bits rest
        let point := (read.1.map Text.charsOfPoint).getD [Text.replacementChar]
        charsAfter (point.reverse ++ before) read.2
  termination_by bytes => bytes.length
  decreasing_by
    all_goals simp only [List.length_cons]
    · omega
    · omega
    · exact Nat.lt_succ_of_le (length_continuation_le lead.following lead.low lead.high lead.bits rest)

/-- The characters that bytes stand for. -/
def decodeChars (bytes : ByteArray) : List Char := charsAfter [] bytes.toList

/-- The string that bytes stand for. -/
def decode (bytes : ByteArray) : String := String.ofList (decodeChars bytes)

/-- The bytes of a string; half a surrogate pair that stands alone is written as U+FFFD. -/
def encode (s : String) : ByteArray := (Text.shown s).toUTF8

/-- The string that bytes stand for, if they are well-formed. -/
def decode? (bytes : ByteArray) : Option String :=
  (String.fromUTF8? bytes).map fun s =>
    if s.toList.any Text.isHalf then String.ofList (s.toList.flatMap fun c => Text.charsOfPoint c.toNat) else s

/-- The text that bytes stand for. -/
def decodeText (bytes : ByteArray) : Text := ⟨(decodeChars bytes).flatMap Text.unitsOfChar⟩

/-- The bytes of a text. -/
def encodeText (t : Text) : ByteArray := encode t.toString

end VariantForge.Utf8

/-!
Texts of the shell. The shell works on bytes, so a text of the shell has one character for each byte,
from U+0000 to U+00FF.
-/

namespace VariantForge.Shell.Octets

/-- Bytes as a text of the shell. -/
def ofBytes (bytes : ByteArray) : String := String.ofList (bytes.toList.map fun b => Char.ofNat b.toNat)

/-- The bytes of a text of the shell. -/
def bytes (s : String) : ByteArray := ⟨(s.toList.map fun c => c.toNat.toUInt8).toArray⟩

/-- The text of the shell for a string. -/
def ofString (s : String) : String := ofBytes (Utf8.encode s)

/-- The string that a text of the shell stands for. -/
def toString (s : String) : String := Utf8.decode (bytes s)

/-- Whether the bytes of one text come before those of another. -/
def le (a b : String) : Bool := decide (a ≤ b)

end VariantForge.Shell.Octets
