import VariantForge.Shell.Format

/-!
Reckoning with numbers of 64 bits that have fractions. Each result is the number nearest to the true one.
-/

namespace VariantForge.Shell.Awk

/-- The number nearest to a rational. -/
def number (x : Rat) : Real := Real.ofRat Real.double (x < 0) (if x < 0 then -x else x)

/-- The rational that a number is, unless it has no bound. -/
def rational? : Real → Option Rat
  | .finite negative size => some (if negative then -size else size)
  | _ => none

/-- Whether a number is zero. -/
def isZero : Real → Bool
  | .finite _ size => size == 0
  | _ => false

/-- The sum of two numbers. -/
def add (a b : Real) : Real :=
  match rational? a, rational? b with
  | some x, some y => number (x + y)
  | none, some _ => a
  | some _, none => b
  | none, none =>
    match a, b with
    | .infinite m, .infinite n => if m = n then a else .nan true
    | .nan _, _ => a
    | _, _ => b

/-- A number with the other sign. -/
def negated : Real → Real
  | .finite n x => .finite (!n) x
  | .infinite n => .infinite (!n)
  | .nan n => .nan (!n)

/-- The product of two numbers. -/
def multiply (a b : Real) : Real :=
  match rational? a, rational? b with
  | some x, some y => number (x * y)
  | _, _ =>
    match a, b with
    | .nan _, _ => a
    | _, .nan _ => b
    | _, _ => if isZero a || isZero b then .nan true else .infinite (a.isNegative != b.isNegative)

/-- The quotient of two numbers. -/
def divide (a b : Real) : Real :=
  match rational? a, rational? b with
  | some x, some y =>
    if y = 0 then (if x = 0 then .nan true else .infinite (a.isNegative != b.isNegative)) else number (x / y)
  | some _, none => match b with
    | .nan _ => b
    | _ => .finite (a.isNegative != b.isNegative) 0
  | none, some _ => match a with
    | .nan _ => a
    | _ => .infinite (a.isNegative != b.isNegative)
  | none, none => .nan true

/-- A rational without what stands after the point. -/
def truncated (x : Rat) : Int := if x < 0 then -((-x).floor) else x.floor

/-- What is left of a number when another one is taken away as often as it can be. -/
def remainder (a b : Real) : Real :=
  match rational? a, rational? b with
  | some x, some y => if y = 0 then .nan true else number (x - y * truncated (x / y))
  | some _, none => match b with
    | .nan _ => b
    | _ => a
  | _, _ => .nan true

/-- How fine the steps are that functions are reckoned in. -/
def scale : Nat := 120

/-- A rational cut to fine steps. -/
def cut (x : Rat) : Rat := ((x * (1 <<< scale : Nat)).floor : Rat) / (1 <<< scale : Nat)

/-- The sum of a series whose next term `next` gives from the number of a term and that term. -/
def series (next : Nat → Rat → Rat) : Nat → Nat → Rat → Rat → Rat
  | 0, _, _, total => total
  | fuel + 1, n, term, total =>
    if term = 0 then total else
      let after := cut (next n term)
      series next fuel (n + 1) after (total + after)

/-- The square root of a number that is not negative. -/
def squareRoot (x : Rat) : Rat :=
  let digits := Nat.sqrt_ (x.num.natAbs * (1 <<< (2 * scale)) / x.den)
  (digits : Rat) / (1 <<< scale : Nat)
where
  /-- The whole part of the square root of a whole number. -/
  Nat.sqrt_ (n : Nat) : Nat :=
    let rec go : Nat → Nat → Nat
      | 0, guess => guess
      | fuel + 1, guess =>
        let next := (guess + n / guess) / 2
        if guess ≤ next then guess else go fuel next
    if n = 0 then 0 else go (2 * n.log2 + 8) (1 <<< (n.log2 / 2 + 1))

/-- The natural logarithm of two. -/
def logOfTwo : Rat := 2 * series (fun n t => t * (2 * n - 1) / (9 * (2 * n + 1))) 100 1 (1 / 3) (1 / 3)

/-- The exponential of a number that is not large. -/
def exponential (x : Rat) : Rat :=
  let k := (x / logOfTwo).floor
  let r := cut (x - logOfTwo * k)
  series (fun n t => t * r / n) 100 1 1 1 * Number.powerOfTwo k

/-- The natural logarithm of a positive number. -/
def logarithm (x : Rat) : Rat :=
  let k := Number.binaryOrder x.num.natAbs x.den - 1
  let m := x / Number.powerOfTwo k
  let y := cut ((m - 1) / (m + 1))
  2 * series (fun n t => t * y * y * (2 * n - 1) / (2 * n + 1)) 400 1 y y + logOfTwo * k

/-- The angle whose tangent is a number between zero and one. -/
def arcTangent (x : Rat) : Rat :=
  let half (x : Rat) : Rat := cut (x / (1 + squareRoot (1 + x * x)))
  let y := half (half x)
  4 * series (fun n t => -(t * y * y * (2 * n - 1) / (2 * n + 1))) 200 1 y y

/-- Half the way around a circle of radius one. -/
def pi : Rat := 4 * arcTangent 1

/-- The angle of a point. -/
def angle (y x : Rat) : Rat :=
  let a := if x < 0 then -x else x
  let b := if y < 0 then -y else y
  let first := if a = 0 ∧ b = 0 then 0
    else if b ≤ a then arcTangent (b / a)
    else pi / 2 - arcTangent (a / b)
  let upper := if x < 0 then pi - first else first
  if y < 0 then -upper else upper

/-- The sine of an angle. -/
def sine (x : Rat) : Rat :=
  let turns := (x / (2 * pi)).floor
  let r := cut (x - 2 * pi * turns)
  series (fun n t => -(t * r * r / ((2 * n) * (2 * n + 1)))) 200 1 r r

/-- A number raised to another one. -/
def power (a b : Real) : Real :=
  match rational? a, rational? b with
  | some x, some y =>
    if y.den = 1 ∧ y.num.natAbs ≤ 5000 then
      let n := y.num.natAbs
      let whole : Rat := (if x.num < 0 ∧ n % 2 = 1 then -1 else 1) * (Nat.pow x.num.natAbs n : Nat) / (Nat.pow x.den n : Nat)
      if y.num < 0 then divide (.finite false 1) (number whole) else number whole
    else if x ≤ 0 then (if x = 0 then .finite false 0 else .nan true)
    else
      let e := y * logarithm x
      if 710 < e then .infinite false else if e < -750 then .finite false 0 else number (exponential e)
  | _, _ => if isZero b then .finite false 1 else .infinite false

/-- The value of a function of one number. -/
def function (name : String) (x : Real) : Real :=
  match rational? x with
  | none => x
  | some r =>
    match name with
    | "int" => number (truncated r)
    | "sqrt" => if r < 0 then .nan true else number (squareRoot r)
    | "exp" => if 710 < r then .infinite false else if r < -750 then .finite false 0 else number (exponential r)
    | "log" => if r < 0 then .nan false else if r = 0 then .infinite true else number (logarithm r)
    | "sin" => number (sine r)
    | "cos" => if r = 0 then .finite false 1 else number (sine (r + pi / 2))
    | _ => x

/-- Whether one number is less than another. -/
def lessThan (a b : Real) : Bool :=
  match rational? a, rational? b with
  | some x, some y => x < y
  | some _, none => match b with
    | .infinite n => !n
    | _ => false
  | none, some _ => match a with
    | .infinite n => n
    | _ => false
  | none, none => match a, b with
    | .infinite m, .infinite n => m && !n
    | _, _ => false

/-- Whether two numbers are the same. -/
def sameNumber (a b : Real) : Bool :=
  match rational? a, rational? b with
  | some x, some y => x == y
  | none, none => match a, b with
    | .infinite m, .infinite n => m == n
    | _, _ => false
  | _, _ => false

end VariantForge.Shell.Awk
