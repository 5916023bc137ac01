import VariantForge.Number.Basic

/-!
White space and trimming, looking for one string in another, and the last lines of a text.

Blank characters are the space separators of Unicode, the tabs and line ends of ASCII, the line
and paragraph separators and the byte order mark. All of them lie below U+10000, so the same set
serves for characters and for UTF-16 code units.

Lines end at a line feed, or at a carriage return with a line feed; line feeds at the very end of the text do not
count as lines.
-/

namespace VariantForge.Text

/-- Code points that count as white space. -/
def isBlankPoint (p : Nat) : Bool :=
  (9 ≤ p && p ≤ 13) || p == 0x20 || p == 0xA0 || p == 0x1680 || (0x2000 ≤ p && p ≤ 0x200A) ||
  p == 0x2028 || p == 0x2029 || p == 0x202F || p == 0x205F || p == 0x3000 || p == 0xFEFF

/-- White space characters. -/
def isBlank (c : Char) : Bool := isBlankPoint c.toNat

/-- A list of characters without the blanks at its two ends. -/
def trimChars (cs : List Char) : List Char :=
  ((cs.dropWhile isBlank).reverse.dropWhile isBlank).reverse

/-- A string without the blanks at its two ends. -/
def trim (s : String) : String := String.ofList (trimChars s.toList)

/-- The trimmed string, unless nothing is left of it. -/
def nonBlank? (s : String) : Option String :=
  let t := trim s
  if t.isEmpty then none else some t

/-- Whether the characters `part` occur in a list of characters. -/
def occurs (part : List Char) : List Char → Bool
  | [] => part.isEmpty
  | c :: rest => part.isPrefixOf (c :: rest) || occurs part rest

/-- Whether a string begins with another. -/
def startsWith (s start : String) : Bool := start.toList.isPrefixOf s.toList

/-- Whether a string ends with another. -/
def endsWith (s tail : String) : Bool := tail.toList.reverse.isPrefixOf s.toList.reverse

/-- A string with one character put in place of another. -/
def replaceChar (s : String) (old new : Char) : String :=
  String.ofList (s.toList.map (fun c => if c = old then new else c))

/-! ## Lines -/

/-- Makes each carriage return with its line feed one line feed, after the characters in `before`,
which stand in reverse order. -/
def unixLineEndsAfter (before : List Char) : List Char → List Char
  | [] => before.reverse
  | c :: rest =>
    if c = '\r' ∧ rest.head? = some '\n' then unixLineEndsAfter before rest
    else unixLineEndsAfter (c :: before) rest

/-- The characters without line feeds at the end. -/
def dropFinalLineFeeds (cs : List Char) : List Char :=
  (cs.reverse.dropWhile (· == '\n')).reverse

/-- The lines that a log consists of. -/
def logLines (s : String) : List (List Char) :=
  (dropFinalLineFeeds (unixLineEndsAfter [] s.toList)).splitOn '\n'

/-- Where the last `max` of `n` items begin, `max` being cut to a whole number. A bound between
zero and one, which is cut to zero, keeps everything. -/
def tailStart (n : Nat) (max : Number) : Nat :=
  match max with
  | .finite q => if q < 1 then 0 else n - q.floor.toNat
  | .infinite _ => 0
  | .nan => 0

/-- The last lines of a text, at most `max` of them; none for a bound that is not positive. -/
def tailLines (s : String) (max : Number) : String :=
  if max ≤ 0 then ""
  else
    let lines := logLines s
    String.ofList (List.intercalate ['\n'] (lines.drop (tailStart lines.length max)))

end VariantForge.Text
