/-!
Points in time and their dates, in universal time.

Dates follow the Gregorian calendar in both directions without end; a point in time reaches at
most a hundred million days away from the start of 1970.
-/

namespace VariantForge

/-- A point in time, in milliseconds from the start of 1970, or nothing for an invalid time. -/
abbrev Instant := Option Int

/-- A date and time of day. -/
structure Civil where
  year : Int
  month : Nat
  day : Nat
  hour : Nat
  minute : Nat
  second : Nat
  millisecond : Nat
  deriving DecidableEq

namespace Calendar

/-- Milliseconds of a day. -/
def dayLength : Int := 86400000

/-- The farthest that a point in time may lie from the start of 1970. -/
def reach : Int := 100000000 * dayLength

/-- The point in time so many milliseconds from the start of 1970, if it is within reach. -/
def instant (ms : Int) : Instant := if ms.natAbs ≤ reach.natAbs then some ms else none

/-- Days from the start of 1970 to a day of a month. The year is counted from March, so that a leap
day is its last day; days past the end of the month run on into the next. -/
def daysFromCivil (year : Int) (month day : Nat) : Int :=
  let y := if month ≤ 2 then year - 1 else year
  let era := y.fdiv 400
  let yearOfEra := y - era * 400
  let monthFromMarch := (month + 9) % 12
  let dayOfYear : Int := (153 * monthFromMarch + 2) / 5 + (day : Int) - 1
  let dayOfEra := yearOfEra * 365 + yearOfEra / 4 - yearOfEra / 100 + dayOfYear
  era * 146097 + dayOfEra - 719468

/-- The year, month and day so many days from the start of 1970. -/
def civilFromDays (days : Int) : Int × Nat × Nat :=
  let z := days + 719468
  let era := z.fdiv 146097
  let dayOfEra := z - era * 146097
  let yearOfEra := (dayOfEra - dayOfEra / 1460 + dayOfEra / 36524 - dayOfEra / 146096) / 365
  let dayOfYear := dayOfEra - (365 * yearOfEra + yearOfEra / 4 - yearOfEra / 100)
  let monthFromMarch := (5 * dayOfYear + 2) / 153
  let day := dayOfYear - (153 * monthFromMarch + 2) / 5 + 1
  let month := if monthFromMarch < 10 then monthFromMarch + 3 else monthFromMarch - 9
  let year := yearOfEra + era * 400 + (if month ≤ 2 then 1 else 0)
  (year, month.toNat, day.toNat)

/-- The date and time of day of a point in time. -/
def civil (ms : Int) : Civil :=
  let days := ms.fdiv dayLength
  let rest := (ms - days * dayLength).toNat
  let (year, month, day) := civilFromDays days
  { year, month, day
    hour := rest / 3600000
    minute := rest / 60000 % 60
    second := rest / 1000 % 60
    millisecond := rest % 1000 }

/-- Digits of a number with zeros in front, at least `width` of them. -/
def padded (width n : Nat) : String :=
  let ds := Nat.toDigits 10 n
  String.ofList (List.replicate (width - ds.length) '0' ++ ds)

/-- Years of four digits are written so, others with a sign and six digits. -/
def yearText (year : Int) : String :=
  if 0 ≤ year ∧ year ≤ 9999 then padded 4 year.toNat
  else (if year < 0 then "-" else "+") ++ padded 6 year.natAbs

/-- The full text of a point in time, such as 2025-03-04T05:06:07.089Z. -/
def isoText (ms : Int) : String :=
  let c := civil ms
  s!"{yearText c.year}-{padded 2 c.month}-{padded 2 c.day}T" ++
    s!"{padded 2 c.hour}:{padded 2 c.minute}:{padded 2 c.second}.{padded 3 c.millisecond}Z"

/-- The text of a point in time to the minute, as it stands in package descriptions. -/
def minuteText (at_ : Instant) : String :=
  match at_ with
  | none => "NaN-NaN-NaN NaN:NaN"
  | some ms =>
    let c := civil ms
    s!"{c.year}-{padded 2 c.month}-{padded 2 c.day} {padded 2 c.hour}:{padded 2 c.minute}"

end Calendar

end VariantForge
