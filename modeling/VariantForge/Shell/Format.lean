import VariantForge.Number.Decimal
import VariantForge.Shell.Integer

/-!
Conversions of numbers and texts into fields, as formats such as `%5.2f` ask for them.

A number with a fraction is rounded to as many binary digits as the program keeps, and that value is then
written exactly, a tie going to the even digit.
-/

namespace VariantForge.Shell

/-- A number that a format writes. Zero may have a sign. -/
inductive Real where
  | finite (negative : Bool) (size : Rat)
  | infinite (negative : Bool)
  | nan (negative : Bool)

/-- The sign of a number. -/
def Real.isNegative : Real → Bool
  | .finite n _ | .infinite n | .nan n => n

/-- A conversion: its flags, width and precision, and its letter. -/
structure Conversion where
  flags : List Char := []
  width : Nat := 0
  precision : Option Nat := none
  letter : Char

namespace Conversion

/-- Whether a flag is set. -/
def has (c : Conversion) (flag : Char) : Bool := c.flags.contains flag

/-- The most characters that a field is filled up to. -/
def widest : Nat := 16777216

/-- With a width that may be negative: then the field stands at the left. -/
def withWidth (c : Conversion) (n : Int) : Conversion :=
  let width := min n.natAbs widest
  if n < 0 then { c with flags := '-' :: c.flags, width } else { c with width }

/-- With a precision, which does not count if it is negative. -/
def withPrecision (c : Conversion) (n : Int) : Conversion :=
  { c with precision := if n < 0 then none else some (min n.toNat widest) }

/-- A text as a field. -/
def field (c : Conversion) (s : List Char) : List Char :=
  let gap := List.replicate (c.width - s.length) ' '
  if c.has '-' then s ++ gap else gap ++ s

/-- A number as a field: zeros may stand between what comes before the digits and the digits. -/
def numeric (c : Conversion) (zeros : Bool) (before digits : List Char) : List Char :=
  if zeros && c.has '0' && !c.has '-' then
    before ++ List.replicate (c.width - before.length - digits.length) '0' ++ digits
  else c.field (before ++ digits)

/-- What comes before the digits of a number that may be negative. -/
def sign (c : Conversion) (negative : Bool) : List Char :=
  if negative then ['-'] else if c.has '+' then ['+'] else if c.has ' ' then [' '] else []

/-- A text of which no more counts than the precision says. -/
def text (c : Conversion) (s : List Char) : List Char :=
  c.field (match c.precision with
    | some n => s.take n
    | none => s)

/-- Digits in some base, at least as many as the precision says. -/
def digits (c : Conversion) (base n : Nat) : List Char :=
  let ds := if n = 0 ∧ c.precision = some 0 then [] else Nat.toDigits base n
  List.replicate (c.precision.getD 1 - ds.length) '0' ++ ds

/-- A whole number with a sign. -/
def integer (c : Conversion) (n : Int) : List Char :=
  c.numeric c.precision.isNone (c.sign (n < 0)) (c.digits 10 n.natAbs)

/-- A whole number without a sign. -/
def natural (c : Conversion) (n : Nat) : List Char :=
  match c.letter with
  | 'o' =>
    let ds := c.digits 8 n
    c.numeric c.precision.isNone [] (if c.has '#' && ds.head? != some '0' then '0' :: ds else ds)
  | 'x' =>
    c.numeric c.precision.isNone (if c.has '#' && n != 0 then ['0', 'x'] else []) (c.digits 16 n)
  | 'X' =>
    let ds := (c.digits 16 n).map Char.toUpper
    c.numeric c.precision.isNone (if c.has '#' && n != 0 then ['0', 'X'] else []) ds
  | _ => c.numeric c.precision.isNone [] (c.digits 10 n)

/-- A whole number of digits after a point, with as many places as said. -/
def placed (alternative : Bool) (places n : Nat) : List Char :=
  let ds := Nat.toDigits 10 n
  let ds := List.replicate (places + 1 - ds.length) '0' ++ ds
  let whole := ds.take (ds.length - places)
  if places = 0 then (if alternative then whole ++ ['.'] else whole)
  else whole ++ '.' :: ds.drop (ds.length - places)

/-- A positive number with a fixed count of places. -/
def fixed (alternative : Bool) (places : Nat) (x : Rat) : List Char :=
  placed alternative places (Number.roundedQuotient (x.num.natAbs * Nat.pow 10 places) x.den)

/-- The digits of a number before and after the point, as one whole number with `places` after it, and the
power of ten that belongs to it. -/
def scaled (places : Nat) (x : Rat) : Nat × Int :=
  if x = 0 then (0, 0)
  else
    let e := Number.decimalOrder x - 1
    let q := x / Number.powerOfTen (e - places)
    let n := Number.roundedQuotient q.num.natAbs q.den
    if n = Nat.pow 10 (places + 1) then (Nat.pow 10 places, e + 1) else (n, e)

/-- An exponent of at least two digits. -/
def exponent (letter : Char) (e : Int) : List Char :=
  let ds := Nat.toDigits 10 e.natAbs
  letter :: (if e < 0 then '-' else '+') :: (if ds.length < 2 then '0' :: ds else ds)

/-- A positive number with an exponent. -/
def scientific (letter : Char) (alternative : Bool) (places : Nat) (x : Rat) : List Char :=
  let (n, e) := scaled places x
  placed alternative places n ++ exponent letter e

/-- Digits without the zeros at the end of a fraction, and without the point if nothing is left after it. -/
def trimmed (cs : List Char) : List Char :=
  if cs.contains '.' then
    let cs := (cs.reverse.dropWhile (· == '0')).reverse
    if cs.getLast? == some '.' then cs.dropLast else cs
  else cs

/-- A positive number with or without an exponent, whichever suits its size. -/
def general (letter : Char) (alternative : Bool) (precision : Nat) (x : Rat) : List Char :=
  let precision := max precision 1
  let (n, e) := scaled (precision - 1) x
  let trim (cs : List Char) : List Char := if alternative then cs else trimmed cs
  if -4 ≤ e ∧ e < precision then trim (fixed alternative (precision - 1 - e).toNat x)
  else trim (placed alternative (precision - 1) n) ++ exponent letter e

/-- A positive number in hexadecimal digits with an exponent of two. Without a precision all digits are
written. `lead` is how many bits stand before the point. -/
def binary (lead : Nat) (alternative : Bool) (precision : Option Nat) (x : Rat) : List Char :=
  let (n, e) : Nat × Int :=
    if x = 0 then (0, 0)
    else
      let e := Number.binaryOrder x.num.natAbs x.den - lead
      let q := x / Number.powerOfTwo (e - 64)
      (q.floor.toNat, e)
  let places := precision.getD 16
  let n := Number.roundedQuotient n (1 <<< (64 - 4 * min places 16))
  let ds := Nat.toDigits 16 n
  let ds := List.replicate (min places 16 + 1 - ds.length) '0' ++ ds
  let whole := ds.take (ds.length - min places 16)
  let fraction := ds.drop (ds.length - min places 16) ++ List.replicate (places - 16) '0'
  let fraction := if precision.isNone then (fraction.reverse.dropWhile (· == '0')).reverse else fraction
  let point := if fraction.isEmpty && !alternative then [] else ['.']
  '0' :: 'x' :: whole ++ point ++ fraction ++ 'p' :: (if e < 0 then '-' else '+') :: Nat.toDigits 10 e.natAbs

/-- A number with a fraction. `lead` is how many bits stand before the point where digits are hexadecimal. -/
def real (c : Conversion) (lead : Nat) (x : Real) : List Char :=
  let upper := c.letter.isUpper
  let cased (cs : List Char) : List Char := if upper then cs.map Char.toUpper else cs
  let sign := c.sign x.isNegative
  match x with
  | .nan _ => c.field (sign ++ cased "nan".toList)
  | .infinite _ => c.field (sign ++ cased "inf".toList)
  | .finite _ size =>
    let places := c.precision.getD 6
    let alternative := c.has '#'
    match c.letter.toLower with
    | 'f' => c.numeric true sign (fixed alternative places size)
    | 'e' => c.numeric true sign (cased (scientific 'e' alternative places size))
    | 'g' => c.numeric true sign (cased (general 'e' alternative places size))
    | _ =>
      let ds := cased (binary lead alternative c.precision size)
      c.numeric true (sign ++ ds.take 2) (ds.drop 2)

end Conversion

namespace Real

/-- A positive rational rounded to some count of binary digits, halves to the even one. No digit stands for
less than two to the power `least`. -/
def rounded (digits : Nat) (least : Int) (x : Rat) : Rat :=
  if x = 0 then 0
  else
    let e := max (Number.binaryOrder x.num.natAbs x.den - digits) least
    let q := x / Number.powerOfTwo e
    (Number.roundedQuotient q.num.natAbs q.den : Rat) * Number.powerOfTwo e

/-- How a program keeps numbers with fractions: binary digits, the least power of two, the first power of
two that is too large, and how many bits stand before a hexadecimal point. -/
structure Kind where
  digits : Nat
  least : Int
  limit : Int
  lead : Nat

/-- Numbers of 64 bits. -/
def double : Kind := ⟨53, -1074, 1024, 1⟩

/-- Numbers of 80 bits. -/
def extended : Kind := ⟨64, -16445, 16384, 4⟩

/-- The number of some kind that is nearest to a rational. -/
def ofRat (k : Kind) (negative : Bool) (x : Rat) : Real :=
  let r := rounded k.digits k.least x
  if Number.powerOfTwo k.limit ≤ r then .infinite negative else .finite negative r

/-- Decimal digits with a point and an exponent at the front. -/
def decimal? (cs : List Char) : Option (Rat × List Char) :=
  let (whole, rest) := Number.spanDigits cs
  let (fraction, rest) := match rest with
    | '.' :: r =>
      let (fraction, after) := Number.spanDigits r
      if whole.isEmpty && fraction.isEmpty then ([], rest) else (fraction, after)
    | r => ([], r)
  if whole.isEmpty && fraction.isEmpty then none
  else
    let (e, rest) := match rest with
      | [] => ((0 : Int), rest)
      | _ => (Number.readExponent? rest).getD (0, rest)
    let e := max (min (e - fraction.length) 6000) (-6000)
    some ((Number.digitsValue (whole ++ fraction) : Rat) * Number.powerOfTen e, rest)

/-- Hexadecimal digits with a point and an exponent of two, after the mark that announces them. -/
def hexadecimal? (cs : List Char) : Option (Rat × List Char) :=
  let isDigit (c : Char) : Bool := (Integer.digit? 16 c).isSome
  let whole := cs.takeWhile isDigit
  let rest := cs.drop whole.length
  let fraction := match rest with
    | '.' :: r => r.takeWhile isDigit
    | _ => []
  let rest := match rest with
    | '.' :: r => if whole.isEmpty && fraction.isEmpty then rest else r.drop fraction.length
    | r => r
  if whole.isEmpty && fraction.isEmpty then none
  else
    let (e, rest) : Int × List Char := match rest with
      | p :: r =>
        if p = 'p' ∨ p = 'P' then
          match Integer.leading? 10 r with
          | some (e, after) => if r.head?.any Integer.isBlank then (0, rest) else (e, after)
          | none => (0, rest)
        else (0, rest)
      | [] => (0, [])
    let n := (Integer.digits 16 0 (whole ++ fraction)).1
    some ((n : Rat) * Number.powerOfTwo (max (min (e - 4 * fraction.length) 20000) (-20000)), rest)

/-- Whether a list begins with some lower case letters, written in any case. -/
def startsWith (word : String) (cs : List Char) : Bool :=
  word.toList == (cs.take word.length).map Char.toLower

/-- The number at the front of a text, after blanks and with a sign, with what comes after it. -/
def leading? (k : Kind) (cs : List Char) : Option (Real × List Char) :=
  let (negative, cs) := match cs.dropWhile Integer.isBlank with
    | '-' :: rest => (true, rest)
    | '+' :: rest => (false, rest)
    | rest => (false, rest)
  let finite (r : Rat × List Char) : Real × List Char := (ofRat k negative r.1, r.2)
  if startsWith "infinity" cs then some (.infinite negative, cs.drop 8)
  else if startsWith "inf" cs then some (.infinite negative, cs.drop 3)
  else if startsWith "nan" cs then some (.nan negative, cs.drop 3)
  else if startsWith "0x" cs then
    match hexadecimal? (cs.drop 2) with
    | some r => some (finite r)
    | none => some (.finite negative 0, cs.drop 1)
  else (decimal? cs).map finite

end Real

end VariantForge.Shell
