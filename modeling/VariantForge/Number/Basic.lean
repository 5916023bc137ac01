/-!
Numbers as settings files and requests carry them: the values of the 64-bit binary format, held
exactly. A finite number is the rational it stands for, so comparing and cutting are the
operations on rationals; only `nearest` rounds. There is one zero.
-/

namespace VariantForge

/-- A value of the 64-bit binary format, without the sign of zero. -/
inductive Number where
  | finite (value : Rat)
  | infinite (negative : Bool)
  | nan
  deriving DecidableEq, Inhabited

namespace Number

/-- The least number `e` with `a < 2 ^ e * b`, for positive `a` and `b`. -/
def binaryOrder (a b : Nat) : Int :=
  let e : Int := (a.log2 : Int) - b.log2
  if 0 ≤ e then (if a < b <<< e.toNat then e else e + 1)
  else (if a <<< (-e).toNat < b then e else e + 1)

/-- The quotient of two natural numbers rounded to a whole number, halves to the even one. -/
def roundedQuotient (a b : Nat) : Nat :=
  let q := a / b
  let r := a % b
  if 2 * r < b then q else if b < 2 * r then q + 1 else if q % 2 = 0 then q else q + 1

/-- The power of two that the last digit of a number of this size stands for: 53 digits are kept,
and none below 2 to the power -1074. -/
def lastDigit (a b : Nat) : Int := max (binaryOrder a b - 53) (-1074)

/-- The number nearest to a rational, the even neighbour for a tie, infinite past the largest. -/
def nearest (x : Rat) : Number :=
  let a := x.num.natAbs
  if a = 0 then .finite 0
  else
    let e := lastDigit a x.den
    let m := if 0 ≤ e then roundedQuotient a (x.den <<< e.toNat)
      else roundedQuotient (a <<< (-e).toNat) x.den
    let size : Rat := if 0 ≤ e then (m <<< e.toNat : Nat) else mkRat m (1 <<< (-e).toNat)
    if (1 <<< 1024 : Nat) ≤ size then .infinite (x.num < 0)
    else .finite (if x.num < 0 then -size else size)

/-- A whole number that needs no rounding, such as a count. -/
def ofNat (n : Nat) : Number := .finite n

instance : OfNat Number n := ⟨ofNat n⟩

/-- A whole number, rounded if it is too long. -/
def ofInt (n : Int) : Number := nearest n

/-- Strictly smaller; false if either is not a number. -/
def less : Number → Number → Bool
  | .finite a, .finite b => a < b
  | .finite _, .infinite negative => !negative
  | .infinite negative, .finite _ => negative
  | .infinite a, .infinite b => a && !b
  | _, _ => false

/-- Smaller or equal; false if either is not a number. -/
def lessEq : Number → Number → Bool
  | .finite a, .finite b => a ≤ b
  | .finite _, .infinite negative => !negative
  | .infinite negative, .finite _ => negative
  | .infinite a, .infinite b => a || !b
  | _, _ => false

instance : LT Number := ⟨fun a b => less a b = true⟩
instance : LE Number := ⟨fun a b => lessEq a b = true⟩
instance (a b : Number) : Decidable (a < b) := inferInstanceAs (Decidable (less a b = true))
instance (a b : Number) : Decidable (a ≤ b) := inferInstanceAs (Decidable (lessEq a b = true))

/-- Neither infinite nor undefined. -/
def isFinite : Number → Bool
  | .finite _ => true
  | _ => false

/-- A finite number without a fraction. -/
def isWhole : Number → Bool
  | .finite q => q.den == 1
  | _ => false

/-- The largest whole number that is not larger. -/
def floor : Number → Number
  | .finite q => .finite q.floor
  | x => x

/-- The larger of two numbers; undefined if either is. -/
def larger (a b : Number) : Number :=
  match a, b with
  | .nan, _ => .nan
  | _, .nan => .nan
  | a, b => if a < b then b else a

/-- The whole number nearest by, halves upwards. -/
def rounded : Number → Number
  | .finite q => .finite (q + mkRat 1 2).floor
  | x => x

/-- The product with a positive whole number. -/
def times (x : Number) (n : Nat) : Number :=
  match x with
  | .finite q => nearest (q * n)
  | x => x

/-- The quotient by a positive whole number. -/
def dividedBy (x : Number) (n : Nat) : Number :=
  match x with
  | .finite q => nearest (q / n)
  | x => x

/-- The sum of two numbers. -/
def plus : Number → Number → Number
  | .finite a, .finite b => nearest (a + b)
  | .finite _, x => x
  | .infinite a, .infinite b => if a = b then .infinite a else .nan
  | .infinite a, .finite _ => .infinite a
  | _, _ => .nan

end Number

end VariantForge
