import VariantForge.Text.Basic

/-!
Names in archives. A name is a relative path with slashes that nowhere climbs, so that it leads to
a place below the one where the archive is unpacked.
-/

namespace VariantForge

/-! ## Old letters

Each byte of an old file name is one character. The bytes below the blank and the one
after the tilde have signs of their own, as do those from 128 on. -/

namespace CodePage

/-- Characters of the bytes 1 to 31. -/
def signs : String := "☺☻♥♦♣♠•◘○◙♂♀♪♫☼►◄↕‼¶§▬↨↑↓→←∟↔▲▼"

/-- Characters of the bytes 128 to 255. -/
def upper : String :=
  "ÇüéâäàåçêëèïîìÄÅÉæÆôöòûùÿÖÜ¢£¥₧ƒáíóúñÑªº¿⌐¬½¼¡«»░▒▓│┤╡╢╖╕╣║╗╝╜╛┐└┴┬├─┼╞╟╚╔╩╦╠═╬╧╨╤╥╙╘╒╓╫╪┘┌█▄▌▐▀αßΓπΣσµτΦΘΩδ∞φε∩≡±≥≤⌠⌡÷≈°∙·√ⁿ²■\u00A0"

/-- The character that a byte stands for. -/
def char (b : UInt8) : Char :=
  let n := b.toNat
  if n = 0 then Char.ofNat 0
  else if n < 32 then (signs.toList[n - 1]?).getD '?'
  else if n = 127 then '⌂'
  else if n < 128 then Char.ofNat n
  else (upper.toList[n - 128]?).getD '?'

/-- The string that bytes stand for. -/
def decode (bytes : ByteArray) : String := String.ofList (bytes.toList.map char)

end CodePage

/-! ## Names -/

namespace Archive

/-- Why a name cannot be used in an archive. -/
inductive NameFault where
  | empty
  | absolute (name : String)
  | relative (name : String)
  | endsInSlash (name : String)
  deriving DecidableEq

/-- The fault in words. -/
def NameFault.message : NameFault → String
  | .empty => "empty metadataPath"
  | .absolute name => s!"absolute path: {name}"
  | .relative name => s!"invalid relative path: {name}"
  | .endsInSlash name => s!"file path cannot end with '/': {name}"

/-- Whether a path begins with a letter and a colon. -/
def startsWithDrive (name : String) : Bool :=
  match name.toList with
  | c :: ':' :: _ => c.isAlpha
  | _ => false

/-- A name with slashes between its parts, unless it could lead elsewhere. -/
def checkName (name : String) : Except NameFault String :=
  let name := Text.replaceChar name '\\' '/'
  if startsWithDrive name || Text.startsWith name "/" then .error (.absolute name)
  else if (name.toList.splitOn '/').contains ['.', '.'] then .error (.relative name)
  else .ok name

/-- The name that a file gets in an archive: not blank, and not that of a directory. -/
def checkFileName (name : String) : Except NameFault String := do
  if name.isEmpty then throw .empty
  let name ← checkName name
  if Text.endsWith name "/" then throw (.endsInSlash name)
  return name

end Archive

end VariantForge
