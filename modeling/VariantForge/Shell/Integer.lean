import VariantForge.Number.Basic

/-!
Whole numbers of 64 bits in texts of the shell. A numeral that is too large stands for the largest number,
or for the smallest one after a minus sign.
-/

namespace VariantForge.Shell.Integer

/-- The largest number. -/
def largest : Int := 9223372036854775807

/-- The smallest number. -/
def smallest : Int := -9223372036854775808

/-- The nearest number that there is. -/
def clamp (n : Int) : Int := if n < smallest then smallest else if largest < n then largest else n

/-- Whether a number is one that there is. -/
def inRange (n : Int) : Bool := smallest ≤ n && n ≤ largest

/-- The number with the same last 64 bits. -/
def wrap (n : Int) : Int := n.bmod 18446744073709551616

/-- Whether a character is blank. -/
def isBlank (c : Char) : Bool := c == ' ' || ('\t' ≤ c && c ≤ '\r')

/-- The value of a digit in some base. -/
def digit? (base : Nat) (c : Char) : Option Nat :=
  let n :=
    if c.isDigit then c.toNat - 48
    else if c.isLower then c.toNat - 87
    else if c.isUpper then c.toNat - 55
    else base
  if n < base then some n else none

/-- The digits at the front in some base, as a number, with what comes after them. -/
def digits (base : Nat) : Nat → List Char → Nat × List Char
  | n, [] => (n, [])
  | n, c :: rest =>
    match digit? base c with
    | some d => digits base (n * base + d) rest
    | none => (n, c :: rest)

/-- The numeral at the front without a sign. In base 0 a zero announces octal digits, `0x`
hexadecimal ones and `0b` binary ones. -/
def unsigned? (base : Nat) (cs : List Char) : Option (Nat × List Char) :=
  let starts (base : Nat) (cs : List Char) : Bool := (cs.head?.bind (digit? base)).isSome
  match base, cs with
  | 0, '0' :: x :: rest =>
    if (x = 'x' ∨ x = 'X') ∧ starts 16 rest then some (digits 16 0 rest)
    else if (x = 'b' ∨ x = 'B') ∧ starts 2 rest then some (digits 2 0 rest)
    else some (digits 8 0 cs)
  | 0, cs => if starts 10 cs then some (digits 10 0 cs) else none
  | base, cs => if starts base cs then some (digits base 0 cs) else none

/-- The numeral at the front, after blanks and with a sign, with what comes after it. -/
def leading? (base : Nat) (cs : List Char) : Option (Int × List Char) :=
  match cs.dropWhile isBlank with
  | '-' :: rest => (unsigned? base rest).map fun r => (-(r.1 : Int), r.2)
  | '+' :: rest => (unsigned? base rest).map fun r => ((r.1 : Int), r.2)
  | rest => (unsigned? base rest).map fun r => ((r.1 : Int), r.2)

/-- The number that a text is, with nothing but blanks around it. In base 0 a blank text is zero. -/
def read? (base : Nat) (s : String) : Option Int :=
  match leading? base s.toList with
  | some (n, rest) => if rest.all isBlank && inRange n then some n else none
  | none => if base = 0 ∧ s.toList.all isBlank then some 0 else none

/-- The largest count. -/
def largestCount : Nat := 2147483647

/-- The count that a text is. -/
def count? (s : String) : Option Nat :=
  match read? 10 s with
  | some n => if 0 ≤ n && n ≤ largestCount then some n.toNat else none
  | none => none

end VariantForge.Shell.Integer
