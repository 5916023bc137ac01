import VariantForge.Archive.Name

/-!
What may be wrong with an archive.
-/

namespace VariantForge

/-- Faults of compressed data. -/
inductive InflateFault where
  | badBlockType
  | badStoredLengths
  | tooManySymbols
  | badCodeLengths
  | badRepeat
  | missingEnd
  | badLiteralSet
  | badDistanceSet
  | badLiteral
  | badDistance
  | tooFarBack
  | endOfInput
  deriving DecidableEq

/-- The fault in words. -/
def InflateFault.message : InflateFault → String
  | .badBlockType => "invalid block type"
  | .badStoredLengths => "invalid stored block lengths"
  | .tooManySymbols => "too many length or distance symbols"
  | .badCodeLengths => "invalid code lengths set"
  | .badRepeat => "invalid bit length repeat"
  | .missingEnd => "invalid code -- missing end-of-block"
  | .badLiteralSet => "invalid literal/lengths set"
  | .badDistanceSet => "invalid distances set"
  | .badLiteral => "invalid literal/length code"
  | .badDistance => "invalid distance code"
  | .tooFarBack => "invalid distance too far back"
  | .endOfInput => "unexpected end of file"

/-- The short name of a fault: the data are wrong, or there are too few of them. -/
def InflateFault.code : InflateFault → String
  | .endOfInput => "Z_BUF_ERROR"
  | _ => "Z_DATA_ERROR"

/-- Faults of an archive's structure, its records being read in order. -/
inductive ArchiveFault where
  | noEnd
  | severalDisks (disk : Nat)
  | commentLength (expected found : Nat)
  | badLocator
  | badWideEnd
  | unexpectedEnd
  | badRecord (signature : Nat)
  | strongEncryption
  | extraTooLong
  | noWideField
  | wideFieldShort (what : String)
  | sizeMismatch (stored size : Nat)
  | name (fault : Archive.NameFault)
  | encrypted
  | badLocalRecord (signature : Nat)
  | unknownMethod (method : Nat)
  | dataOverflow (start size whole : Nat)
  | inflate (fault : InflateFault)
  deriving DecidableEq

/-- A number in base sixteen without zeros in front. -/
def hexText (n : Nat) : String := String.ofList (Nat.toDigits 16 n)

/-- The fault in words. -/
def ArchiveFault.message : ArchiveFault → String
  | .noEnd => "end of central directory record signature not found"
  | .severalDisks disk => s!"multi-disk zip files are not supported: found disk number: {disk}"
  | .commentLength expected found => s!"invalid comment length. expected: {expected}. found: {found}"
  | .badLocator => "invalid zip64 end of central directory locator signature"
  | .badWideEnd => "invalid zip64 end of central directory record signature"
  | .unexpectedEnd => "unexpected EOF"
  | .badRecord signature => s!"invalid central directory file header signature: 0x{hexText signature}"
  | .strongEncryption => "strong encryption is not supported"
  | .extraTooLong => "extra field length exceeds extra field buffer size"
  | .noWideField => "expected zip64 extended information extra field"
  | .wideFieldShort what => s!"zip64 extended information extra field does not include {what}"
  | .sizeMismatch stored size =>
    s!"compressed/uncompressed size mismatch for stored file: {stored} != {size}"
  | .name fault => fault.message
  | .encrypted => "entry is encrypted, and options.decrypt !== false"
  | .badLocalRecord signature => s!"invalid local file header signature: 0x{hexText signature}"
  | .unknownMethod method => s!"unsupported compression method: {method}"
  | .dataOverflow start size whole => s!"file data overflows file bounds: {start} + {size} > {whole}"
  | .inflate fault => fault.message

end VariantForge
