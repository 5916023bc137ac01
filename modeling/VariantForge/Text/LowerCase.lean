import VariantForge.Text.Basic
import VariantForge.Unicode.CaseRuns
import VariantForge.Unicode.Letters

/-!
Small letters of any script.

Every letter goes to one small letter, but for two: a capital I with a dot keeps its dot as a
letter of its own, and a capital sigma at the end of a word becomes a final sigma.
-/

namespace VariantForge.Text

/-- The small letter of a code point. -/
def lowerPoint (p : Nat) : Nat :=
  if p < 128 then (if 65 ≤ p ∧ p ≤ 90 then p + 32 else p) else Unicode.mapped Unicode.lowerRuns p

/-- Whether the next character, those aside that do not separate letters, is a letter with case. -/
def letterNext (cs : List Char) : Bool :=
  match cs.dropWhile (fun c => Unicode.caseIgnorable.has c.toNat) with
  | c :: _ => Unicode.cased.has c.toNat
  | [] => false

/-- Whether a sigma between these characters ends a word; those before it stand in reverse order. -/
def endsWord (before after : List Char) : Bool := letterNext before && !letterNext after

/-- The small letters of one character between others. -/
def lowerChar (before : List Char) (c : Char) (after : List Char) : List Char :=
  if c.toNat = 0x3A3 then [if endsWord before after then '\u03C2' else '\u03C3']
  else if c.toNat = 0x130 then ['i', '\u0307']
  else [Char.ofNat (lowerPoint c.toNat)]

/-- The small letters of a list of characters, after those in `done`; what came before and what is
done stand in reverse order. -/
def lowerAfter (before done : List Char) : List Char → List Char
  | [] => done.reverse
  | c :: rest => lowerAfter (c :: before) ((lowerChar before c rest).reverse ++ done) rest

/-- A list of characters in small letters. -/
def lowerChars (cs : List Char) : List Char := lowerAfter [] [] cs

/-- A string in small letters. -/
def lower (s : String) : String := String.ofList (lowerChars s.toList)

/-! ## Slugs

Slugs are names made fit for a file name. A slug holds small letters of ASCII, digits, points and
single hyphens between them, and is never empty. -/

/-- The characters that a slug keeps, hyphens apart. -/
def isSlugChar (c : Char) : Bool := ('a' ≤ c && c ≤ 'z') || ('0' ≤ c && c ≤ '9') || c == '.'

/-- The words of a name: what lies between characters that a slug does not keep. -/
def slugWords (cs : List Char) : List (List Char) :=
  ((cs.map (fun c => if isSlugChar c then c else '-')).splitOn '-').filter (!·.isEmpty)

/-- The slug of a name, `variant` if the name has no words. -/
def slug (name : String) : String :=
  let words := slugWords (lowerChars (trimChars name.toList))
  if words.isEmpty then "variant" else String.ofList (List.intercalate ['-'] words)

end VariantForge.Text
