/-!
Text as a sequence of UTF-16 code units.

An edit counts positions in code units and a pattern may cut a surrogate pair in two, so a
`Text` need not be well-formed. A `String` holds half a pair that stands alone as one of 2048
characters for private use, from U+10F000 on, and those characters themselves as the two halves of
their pair. So every sequence of units has a string of its own, from which it comes back.
-/

namespace VariantForge

/-- A text: any sequence of UTF-16 code units. -/
structure Text where
  units : List UInt16
  deriving DecidableEq, Inhabited

namespace Text

/-- Stands for what cannot be shown as a character. -/
def replacementChar : Char := '\uFFFD'

/-- First halves of surrogate pairs. -/
def isLead (u : UInt16) : Bool := 0xD800 ≤ u && u ≤ 0xDBFF

/-- Second halves of surrogate pairs. -/
def isTrail (u : UInt16) : Bool := 0xDC00 ≤ u && u ≤ 0xDFFF

/-- The code point that a surrogate pair stands for. -/
def pairPoint (lead trail : UInt16) : Nat :=
  0x10000 + (lead.toNat - 0xD800) * 0x400 + (trail.toNat - 0xDC00)

/-- The code units of a code point: one below U+10000, a surrogate pair from there on. -/
def unitsOfPoint (p : Nat) : List UInt16 :=
  if p < 0x10000 then [p.toUInt16]
  else [(0xD800 + (p - 0x10000) / 0x400).toUInt16, (0xDC00 + (p - 0x10000) % 0x400).toUInt16]

/-- The first of the characters that stand for half a pair. -/
def halfBase : Nat := 0x10F000

/-- Whether a code point is one of those whose characters stand for half a pair. -/
def isHalfPoint (p : Nat) : Bool := halfBase ≤ p && p < halfBase + 0x800

/-- Whether a character stands for half a pair. -/
def isHalf (c : Char) : Bool := isHalfPoint c.toNat

/-- The character that stands for half a pair. -/
def halfChar (u : UInt16) : Char := Char.ofNat (halfBase + (u.toNat - 0xD800))

/-- The half of a pair that a character stands for. -/
def halfUnit (c : Char) : UInt16 := (0xD800 + (c.toNat - halfBase)).toUInt16

/-- The code units of one character. -/
def unitsOfChar (c : Char) : List UInt16 := if isHalf c then [halfUnit c] else unitsOfPoint c.toNat

/-- The text of a string. -/
def ofString (s : String) : Text := ⟨s.toList.flatMap unitsOfChar⟩

/-- The characters that a string holds for a code point. -/
def charsOfPoint (p : Nat) : List Char :=
  if isHalfPoint p then (unitsOfPoint p).map halfChar else [Char.ofNat p]

/-- One unit read alone as a character. -/
def loneChar (u : UInt16) : Char :=
  if isLead u || isTrail u then halfChar u else Char.ofNat u.toNat

/-- Reads units as characters after those in `before`, which stand in reverse order. -/
def charsAfter (before : List Char) : List UInt16 → List Char
  | [] => before.reverse
  | [u] => (loneChar u :: before).reverse
  | u :: v :: rest =>
    if isLead u && isTrail v then charsAfter ((charsOfPoint (pairPoint u v)).reverse ++ before) rest
    else charsAfter (loneChar u :: before) (v :: rest)

/-- The characters that a string holds for a text. -/
def chars (t : Text) : List Char := charsAfter [] t.units

/-- The text as a string. -/
def toString (t : Text) : String := String.ofList t.chars

/-- Characters with the halves that meet in them put together, after those in `before`, which stand
in reverse order. -/
def joinedAfter (before : List Char) : List Char → List Char
  | [] => before.reverse
  | [c] => (c :: before).reverse
  | c :: d :: rest =>
    if isHalf c && isHalf d && isLead (halfUnit c) && isTrail (halfUnit d) then
      joinedAfter ((charsOfPoint (pairPoint (halfUnit c) (halfUnit d))).reverse ++ before) rest
    else joinedAfter (c :: before) (d :: rest)

/-- The string with the halves that meet in it put together. -/
def joined (s : String) : String :=
  if s.toList.any isHalf then String.ofList (joinedAfter [] s.toList) else s

/-- The characters that can be shown, after those in `before`, which stand in reverse order: a pair
is one character, half a pair that stands alone is U+FFFD. -/
def shownAfter (before : List Char) : List Char → List Char
  | [] => before.reverse
  | [c] => ((if isHalf c then replacementChar else c) :: before).reverse
  | c :: d :: rest =>
    if isHalf c then
      if isHalf d && isLead (halfUnit c) && isTrail (halfUnit d) then
        shownAfter (Char.ofNat (pairPoint (halfUnit c) (halfUnit d)) :: before) rest
      else shownAfter (replacementChar :: before) (d :: rest)
    else shownAfter (c :: before) (d :: rest)

/-- The string as it can be shown: U+FFFD stands for half a pair. -/
def shown (s : String) : String :=
  if s.toList.any isHalf then String.ofList (shownAfter [] s.toList) else s

instance : Append Text := ⟨fun s t => ⟨s.units ++ t.units⟩⟩

/-- The number of code units. -/
def length (t : Text) : Nat := t.units.length

/-- The first `n` units. -/
def take (t : Text) (n : Nat) : Text := ⟨t.units.take n⟩

/-- All units but the first `n`. -/
def drop (t : Text) (n : Nat) : Text := ⟨t.units.drop n⟩

/-- Whether `needle` occurs in a list of units. -/
def occursIn (needle : List UInt16) : List UInt16 → Bool
  | [] => needle.isEmpty
  | u :: rest => needle.isPrefixOf (u :: rest) || occursIn needle rest

/-- Whether the text holds `part` somewhere. -/
def contains (t part : Text) : Bool := occursIn part.units t.units

/-- Whether the text ends in the unit `u`. -/
def endsWithUnit (t : Text) (u : UInt16) : Bool := t.units.getLast? == some u

end Text

end VariantForge
