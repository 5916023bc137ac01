import VariantForge.Number.Basic

/-!
Numbers written in decimal digits.

`Number.text` writes the fewest digits that read back as the same number, and of those the
nearest; whole numbers below ten to the power 21 and fractions down to a millionth are written
positionally, others with an exponent. `Number.read?` understands decimal, binary, octal and
hexadecimal numerals with blanks around them.
-/

namespace VariantForge.Number

/-- Ten to a power that may be negative. -/
def powerOfTen (e : Int) : Rat := if 0 ≤ e then Nat.pow 10 e.toNat else mkRat 1 (Nat.pow 10 (-e).toNat)

/-- Two to a power that may be negative. -/
def powerOfTwo (e : Int) : Rat := if 0 ≤ e then (1 <<< e.toNat : Nat) else mkRat 1 (1 <<< (-e).toNat)

/-- The rationals that round to one number. -/
structure Cell where
  low : Rat
  high : Rat
  closed : Bool

/-- Whether a rational lies in the cell. -/
def Cell.holds (c : Cell) (x : Rat) : Bool :=
  if c.closed then c.low ≤ x && x ≤ c.high else c.low < x && x < c.high

/-- The rationals that round to the positive number `x`: up to half of its last binary digit on
both sides, a quarter below a power of two. The ends belong to it when its digits are even. -/
def cell (x : Rat) : Cell :=
  let e := lastDigit x.num.natAbs x.den
  let step := powerOfTwo e
  let m := (x / step).floor.toNat
  let below := if m = 1 <<< 52 ∧ -1074 < e then step / 4 else step / 2
  ⟨x - below, x + step / 2, m % 2 = 0⟩

/-- A positive decimal: `digits` times ten to the power `exponent`. -/
structure Decimal where
  digits : Nat
  exponent : Int

/-- The value of a decimal. -/
def Decimal.value (d : Decimal) : Rat := d.digits * powerOfTen d.exponent

/-- The distance between two rationals. -/
def distance (a b : Rat) : Rat := if a < b then b - a else a - b

/-- Of the two neighbours of `x` on the grid of multiples of ten to the power `e`, the nearer one
that the cell holds, the even one for a tie. -/
def onGrid? (c : Cell) (x : Rat) (e : Int) : Option Decimal :=
  let lower : Decimal := ⟨(x / powerOfTen e).floor.toNat, e⟩
  let upper : Decimal := ⟨lower.digits + 1, e⟩
  match c.holds lower.value, c.holds upper.value with
  | false, false => none
  | true, false => some lower
  | false, true => some upper
  | true, true =>
    if distance lower.value x < distance upper.value x then some lower
    else if distance upper.value x < distance lower.value x then some upper
    else some (if lower.digits % 2 = 0 then lower else upper)

/-- The least whole number `e` with `x < 10 ^ e`, for positive `x`. The first guess comes from the
number of binary digits and is at most one too small. -/
def decimalOrder (x : Rat) : Int :=
  let guess : Int := ((binaryOrder x.num.natAbs x.den - 1) * 30103).fdiv 100000
  if x < powerOfTen guess then guess
  else if x < powerOfTen (guess + 1) then guess + 1 else guess + 2

/-- The first decimal of `n`, `n + 1`, ... digits that reads back as `x`; `tries` bounds how many
counts are tried. -/
def shortestFrom (c : Cell) (x : Rat) (order : Int) : Nat → Nat → Decimal
  | _, 0 => ⟨0, 0⟩
  | n, tries + 1 =>
    match onGrid? c x (order - n) with
    | some d => if d.digits = 0 then shortestFrom c x order (n + 1) tries else d
    | none => shortestFrom c x order (n + 1) tries

/-- The shortest decimal that reads back as the positive number `x`. Seventeen digits are always
enough. -/
def shortest (x : Rat) : Decimal := shortestFrom (cell x) x (decimalOrder x) 1 18

/-- A list of zeros. -/
def zeros (n : Nat) : List Char := List.replicate n '0'

/-- The text of a positive decimal. -/
def Decimal.text (d : Decimal) : List Char :=
  let all := (Nat.toDigits 10 d.digits).reverse.dropWhile (· == '0') |>.reverse
  let n := all.length
  let point : Int := d.exponent + (Nat.toDigits 10 d.digits).length
  if n ≤ point ∧ point ≤ 21 then all ++ zeros (point.toNat - n)
  else if 0 < point ∧ point ≤ 21 then all.take point.toNat ++ '.' :: all.drop point.toNat
  else if -6 < point ∧ point ≤ 0 then '0' :: '.' :: zeros (-point).toNat ++ all
  else
    let e := point - 1
    let sign := if e < 0 then '-' else '+'
    let mantissa := if n = 1 then all else all.take 1 ++ '.' :: all.drop 1
    mantissa ++ 'e' :: sign :: Nat.toDigits 10 e.natAbs

/-- The text of a number. -/
def text : Number → String
  | .nan => "NaN"
  | .infinite negative => if negative then "-Infinity" else "Infinity"
  | .finite q =>
    if q = 0 then "0"
    else if q < 0 then String.ofList ('-' :: (shortest (-q)).text)
    else String.ofList (shortest q).text

/-- The digits at the front of a list, with what follows them. -/
def spanDigits (cs : List Char) : List Char × List Char :=
  (cs.takeWhile Char.isDigit, cs.dropWhile Char.isDigit)

/-- The value of a list of decimal digits. -/
def digitsValue (cs : List Char) : Nat := cs.foldl (fun n c => n * 10 + (c.toNat - 48)) 0

/-- The number nearest to `digits` times ten to the power `exponent`. Exponents far outside the
range of the format are decided by the count of digits alone. -/
def ofScientific (negative : Bool) (digits : List Char) (exponent : Int) : Number :=
  let significant := digits.dropWhile (· == '0')
  if significant.isEmpty then .finite 0
  else
    let order := significant.length + exponent
    if 400 < order then .infinite negative
    else if order < -400 then .finite 0
    else
      let size := (digitsValue significant : Rat) * powerOfTen exponent
      nearest (if negative then -size else size)

/-- The exponent part of a numeral: a mark, a sign if there is one, and digits. Without a mark the
exponent is zero and nothing is read. -/
def readExponent? (cs : List Char) : Option (Int × List Char) :=
  match cs with
  | c :: rest =>
    if c = 'e' ∨ c = 'E' then
      let (negative, rest) := match rest with
        | '+' :: r => (false, r)
        | '-' :: r => (true, r)
        | r => (false, r)
      let (ds, rest) := spanDigits rest
      if ds.isEmpty then none
      else some (if negative then -(digitsValue ds : Int) else digitsValue ds, rest)
    else some (0, cs)
  | [] => some (0, [])

/-- An unsigned decimal numeral that takes up the whole list. Digits may be missing before or
after the point, not both. -/
def readDecimal? (negative : Bool) (cs : List Char) : Option Number := do
  let (whole, rest) := spanDigits cs
  let (fraction, rest) := match rest with
    | '.' :: r => spanDigits r
    | r => ([], r)
  if whole.isEmpty ∧ fraction.isEmpty then none
  let (e, rest) ← readExponent? rest
  if rest.isEmpty then
    some (ofScientific negative (whole ++ fraction) (e - fraction.length))
  else none

/-- The value of a digit in bases up to sixteen. -/
def digitValue? (c : Char) : Option Nat :=
  if '0' ≤ c ∧ c ≤ '9' then some (c.toNat - 48)
  else if 'a' ≤ c ∧ c ≤ 'f' then some (c.toNat - 87)
  else if 'A' ≤ c ∧ c ≤ 'F' then some (c.toNat - 55)
  else none

/-- A natural number in the given base; none if there are no digits or others among them. -/
def readNat? (base : Nat) (cs : List Char) : Option Nat :=
  if cs.isEmpty then none
  else cs.foldlM (fun n c => do
    let d ← digitValue? c
    if d < base then some (n * base + d) else none) 0

/-- A numeral without blanks around it. -/
def readChars? (cs : List Char) : Option Number :=
  match cs with
  | [] => some (.finite 0)
  | '0' :: 'x' :: rest | '0' :: 'X' :: rest => (readNat? 16 rest).map (ofInt ·)
  | '0' :: 'o' :: rest | '0' :: 'O' :: rest => (readNat? 8 rest).map (ofInt ·)
  | '0' :: 'b' :: rest | '0' :: 'B' :: rest => (readNat? 2 rest).map (ofInt ·)
  | '+' :: rest => if rest = "Infinity".toList then some (.infinite false) else readDecimal? false rest
  | '-' :: rest => if rest = "Infinity".toList then some (.infinite true) else readDecimal? true rest
  | cs => if cs = "Infinity".toList then some (.infinite false) else readDecimal? false cs

end VariantForge.Number
