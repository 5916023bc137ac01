import VariantForge.Text.Units

/-!
Strings in double quotes, as JSON writes them: a quote and a backslash are escaped, the control
characters below the blank are written by letter or by number, half a surrogate pair that stands
alone by number, and all else stands for itself.
-/

namespace VariantForge.Text

/-- A digit of base sixteen. -/
def hexDigit (n : Nat) : Char := Char.ofNat (if n < 10 then 48 + n else 87 + n)

/-- Digits of `n` in base sixteen, `width` of them. -/
def hexDigits : Nat → Nat → List Char
  | 0, _ => []
  | width + 1, n => hexDigits width (n / 16) ++ [hexDigit (n % 16)]

/-- What stands for a character between double quotes. -/
def quotedChar (c : Char) : List Char :=
  if c = '"' then ['\\', '"']
  else if c = '\\' then ['\\', '\\']
  else if c.toNat < 0x20 then
    if c = '\n' then ['\\', 'n']
    else if c = '\t' then ['\\', 't']
    else if c = '\r' then ['\\', 'r']
    else if c.toNat = 8 then ['\\', 'b']
    else if c.toNat = 12 then ['\\', 'f']
    else '\\' :: 'u' :: hexDigits 4 c.toNat
  else [c]

/-- What stands for a character that no half of a pair is next to. -/
def quotedAlone (c : Char) : List Char :=
  if isHalf c then '\\' :: 'u' :: hexDigits 4 (halfUnit c).toNat else quotedChar c

/-- What stands for characters between double quotes, after what is in `before` in reverse order. -/
def quotedAfter (before : List Char) : List Char → List Char
  | [] => before.reverse
  | [c] => ((quotedAlone c).reverse ++ before).reverse
  | c :: d :: rest =>
    if isHalf c && isHalf d && isLead (halfUnit c) && isTrail (halfUnit d) then
      quotedAfter (d :: c :: before) rest
    else quotedAfter ((quotedAlone c).reverse ++ before) (d :: rest)

/-- The string in double quotes. -/
def quoted (s : String) : String := String.ofList ('"' :: quotedAfter [] s.toList ++ ['"'])

/-! ## Words about an argument

A string stands in single quotes, or in double quotes or grave accents if it holds those before
them and not these. Control characters, the backslash, the quote itself and half a surrogate pair
that stands alone are written with a backslash, by letter or by number. What is long is cut off. -/

/-- The grave accent. -/
def graveAccent : Char := Char.ofNat 96

/-- The quote that a string is shown in. -/
def inspectionQuote (cs : List Char) : Char :=
  if !cs.contains '\'' then '\''
  else if !cs.contains '"' then '"'
  else if !cs.contains graveAccent && !occurs ['$', '\x7b'] cs then graveAccent
  else '\''
where
  /-- Whether characters occur in a list. -/
  occurs (part : List Char) : List Char → Bool
    | [] => part.isEmpty
    | c :: rest => part.isPrefixOf (c :: rest) || occurs part rest

/-- What stands for a character in a string that is shown in some quotes. -/
def inspectedChar (quote c : Char) : List Char :=
  let n := c.toNat
  if c = '\\' then ['\\', '\\']
  else if c = '\'' ∧ quote = '\'' then ['\\', '\'']
  else if n = 8 then ['\\', 'b']
  else if n = 9 then ['\\', 't']
  else if n = 10 then ['\\', 'n']
  else if n = 12 then ['\\', 'f']
  else if n = 13 then ['\\', 'r']
  else if n < 32 ∨ (126 < n ∧ n < 160) then '\\' :: 'x' :: (hexDigits 2 n).map Char.toUpper
  else if isHalf c then '\\' :: 'u' :: hexDigits 4 (halfUnit c).toNat
  else [c]

/-- How many units of a string are shown. -/
def inspectionLimit : Nat := 128

/-- The string as it is shown. -/
def inspected (s : String) : String :=
  let quote := inspectionQuote s.toList
  let whole := String.ofList (quote :: s.toList.flatMap (inspectedChar quote) ++ [quote])
  if (ofString whole).length ≤ inspectionLimit then whole
  else ((ofString whole).take inspectionLimit).toString ++ "..."

end VariantForge.Text
