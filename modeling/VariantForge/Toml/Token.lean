import VariantForge.Data.Basic

/-!
The words of a TOML text: strings, numbers, dates and times.

A word is read from the front of the text and ends where the text goes on in a way that it cannot;
what may stand behind it is for the reader of lines and lists to say. Besides the value the kind
of the word is kept, because all items of a list are of one kind.
-/

namespace VariantForge.Toml

/-- Why a text cannot be read: it is not TOML, or it holds a date that there is not. -/
inductive Fault where
  | malformed
  | noSuchDate
  deriving DecidableEq

/-- The kinds of values. Infinite numbers and those that are undefined are a kind of their own. -/
inductive Kind where
  | text
  | integer
  | float
  | limit
  | bool
  | date
  | list
  | table
  deriving DecidableEq

/-- A value with its kind. -/
structure Value where
  data : Data
  kind : Kind

/-- Reading from the front of a text. -/
abbrev Parse (α : Type) := StateT (List Char) (Except Fault) α

/-- Fails. -/
def malformed : Parse α := throw .malformed

/-- The next character, which stays. -/
def peek : Parse (Option Char) := return (← get).head?

/-- Drops the next character. -/
def skip : Parse Unit := modify List.tail

/-- Drops the characters at the front that pass a test and gives them. -/
def takeWhile (p : Char → Bool) : Parse (List Char) := do
  let cs ← get
  set (cs.dropWhile p)
  return cs.takeWhile p

/-- Drops blanks within a line. -/
def skipBlanks : Parse Unit := modify (·.dropWhile fun c => c = ' ' || c = '\t')

/-- Whether a character ends a line. -/
def endsLine (c : Char) : Bool := c = '\n' || c = '\r'

/-- Whether a word may end here for certain: at a blank, a comment, or the end of a line. -/
def endsWord : Option Char → Bool
  | none => true
  | some c => c = '#' || c = ' ' || c = '\t' || endsLine c

/-- Whether a character may not stand in a string; line ends may, if `lines` says so. -/
def isControl (lines : Bool) (c : Char) : Bool :=
  c.toNat = 127 || (c.toNat < 32 && c != '\t' && !(lines && endsLine c))

/-- The number of `n` digits of base sixteen. -/
def hexNumber (n : Nat) : Parse Nat := do
  let cs ← get
  if cs.length < n then malformed
  set (cs.drop n)
  match Number.readNat? 16 (cs.take n) with
  | some v => return v
  | none => malformed

/-- What a string holds for the code point that a number stands for. -/
def numberedChar (p : Nat) : Parse (List Char) :=
  if (0xD800 ≤ p ∧ p ≤ 0xDFFF) ∨ 0x10FFFF < p then malformed else return Text.charsOfPoint p

/-- What a string holds for the character after a backslash. -/
def escape : Parse (List Char) := do
  let c ← peek
  skip
  match c with
  | some 'b' => return [Char.ofNat 8]
  | some 't' => return ['\t']
  | some 'n' => return ['\n']
  | some 'f' => return [Char.ofNat 12]
  | some 'r' => return ['\r']
  | some '"' => return ['"']
  | some '\\' => return ['\\']
  | some 'u' => numberedChar (← hexNumber 4)
  | some 'U' => numberedChar (← hexNumber 8)
  | _ => malformed

/-- The rest of a string in double quotes on one line. -/
def basicText : Nat → List Char → Parse String
  | 0, _ => malformed
  | fuel + 1, done => do
    let c ← peek
    skip
    match c with
    | none => malformed
    | some '"' => return String.ofList done.reverse
    | some '\\' => basicText fuel ((← escape).reverse ++ done)
    | some c => if isControl false c then malformed else basicText fuel (c :: done)

/-- The rest of a string in single quotes on one line, where nothing is escaped. -/
def literalText : Parse String := do
  let cs ← takeWhile fun c => c != '\'' && !isControl false c
  if (← peek) != some '\'' then malformed
  skip
  return String.ofList cs

/-- Drops the line end at the front of a string of several lines. -/
def skipFirstLine : Parse Unit := do
  modify (·.dropWhile (· = '\r'))
  if (← peek) = some '\n' then skip

/-- Drops the blanks and line ends that a backslash at the end of a line takes with it; there may be
blanks before the line end. -/
def skipFolded : Parse Unit := do
  skipBlanks
  match ← peek with
  | some c => if !endsLine c then malformed
  | none => malformed
  modify (·.dropWhile fun c => c = ' ' || c = '\t' || endsLine c)

/-- The rest of a string of several lines between three quotes. -/
def longText (quote : Char) : Nat → List Char → Parse String
  | 0, _ => malformed
  | fuel + 1, done => do
    match ← get with
    | [] => malformed
    | c :: rest =>
      set rest
      if c = quote then
        if rest.take 2 = [quote, quote] then
          set (rest.drop 2)
          return String.ofList done.reverse
        longText quote fuel (c :: done)
      else if c = '\\' ∧ quote = '"' then
        match rest.head? with
        | some e =>
          if e = ' ' ∨ e = '\t' ∨ endsLine e then
            skipFolded
            longText quote fuel done
          else longText quote fuel ((← escape).reverse ++ done)
        | none => malformed
      else if isControl true c then malformed
      else longText quote fuel (c :: done)

/-- A string after its first quote. -/
def text (quote : Char) : Parse String := do
  let cs ← get
  if cs.take 2 = [quote, quote] then
    set (cs.drop 2)
    skipFirstLine
    longText quote (cs.length + 1) []
  else if quote = '"' then basicText (cs.length + 1) []
  else literalText

/-- A string after its first quote, on one line. -/
def shortText (quote : Char) : Parse String := do
  if quote = '"' then basicText ((← get).length + 1) [] else literalText

/-- Fails unless a digit may follow: not at a mark, nor where the word ends for certain. -/
def needDigit (marks : List Char) : Parse Unit := do
  let c ← peek
  if endsWord c || c.any marks.contains then malformed

/-- The marks within a decimal number. -/
def decimalMarks : List Char := ['_', '.', 'e', 'E']

/-- Adds digits to those in `done`, with low lines between them. -/
def digits (isDigit : Char → Bool) (marks : List Char) : Nat → List Char → Parse (List Char)
  | 0, done => return done
  | fuel + 1, done => do
    let more ← takeWhile isDigit
    if (← peek) = some '_' then
      skip
      needDigit marks
      digits isDigit marks fuel (done ++ more)
    else return done ++ more

/-- Adds decimal digits to those in `done`. -/
def decimalDigits (done : List Char) : Parse (List Char) := do
  digits Char.isDigit decimalMarks ((← get).length + 1) done

/-- How many values a word of 64 bits has. -/
def wordSpan : Int := 0x10000000000000000

/-- A whole number; one that is too long for a `Number` keeps its lowest 64 bits, signed. -/
def integerValue (n : Int) : Value :=
  if n.natAbs < 1 <<< 53 then ⟨.number (.ofInt n), .integer⟩
  else
    let low := n.emod wordSpan
    ⟨.integer (if 2 * low < wordSpan then low else low - wordSpan), .integer⟩

/-- The whole number that characters write, perhaps with a sign. -/
def integer (cs : List Char) : Parse Value := do
  let (negative, ds) := match cs with
    | '-' :: ds => (true, ds)
    | '+' :: ds => (false, ds)
    | ds => (false, ds)
  match Number.readNat? 10 ds with
  | some n => return integerValue (if negative then -(n : Int) else n)
  | none => malformed

/-- The number that characters write; undefined if there are no digits behind the exponent's
sign. -/
def float (cs : List Char) : Parse Value :=
  return ⟨.number ((Number.readChars? cs).getD .nan), .float⟩

/-- The rest of a number after the mark of its exponent. -/
def exponent (done : List Char) : Parse Value := do
  match ← peek with
  | some c =>
    if c.isDigit then float (← decimalDigits done)
    else if c = '-' ∨ c = '+' then
      skip
      needDigit decimalMarks
      float (← decimalDigits (done ++ [c]))
    else malformed
  | none => malformed

/-- The rest of a number after its point. -/
def fraction (done : List Char) : Parse Value := do
  needDigit decimalMarks
  let done ← decimalDigits done
  match ← peek with
  | some c =>
    if c = 'e' ∨ c = 'E' then
      skip
      exponent (done ++ [c])
    else float done
  | none => float done

/-- The rest of a number after some of its digits. -/
def numberTail (done : List Char) : Parse Value := do
  let done ← decimalDigits done
  match ← peek with
  | some c =>
    if c = 'e' ∨ c = 'E' then
      skip
      exponent (done ++ [c])
    else if c = '.' then
      skip
      fraction (done ++ [c])
    else integer done
  | none => integer done

/-- A word that must stand at the front. -/
def word (w : String) : Parse Unit := do
  let cs ← get
  if !w.toList.isPrefixOf cs then malformed
  set (cs.drop w.length)

/-- A number after its sign. -/
def signed (sign : Char) : Parse Value := do
  match ← peek with
  | some 'i' =>
    word "inf"
    return ⟨.number (.infinite (sign = '-')), .limit⟩
  | some 'n' =>
    word "nan"
    return ⟨.number .nan, .limit⟩
  | _ =>
    needDigit decimalMarks
    if (← peek) = some '0' then
      skip
      match ← peek with
      | some '.' =>
        skip
        fraction [sign, '0', '.']
      | some c =>
        if c = 'e' ∨ c = 'E' then
          skip
          exponent [sign, '0', c]
        else integer [sign, '0']
      | none => integer [sign, '0']
    else numberTail [sign]

/-- The rest of a whole number in another base. -/
def based (base : Nat) : Parse Value := do
  skip
  needDigit ['_', '.']
  let isDigit (c : Char) := (Number.digitValue? c).any (· < base)
  let ds ← digits isDigit ['_', '.'] ((← get).length + 1) []
  match Number.readNat? base ds with
  | some n => return integerValue n
  | none => malformed

/-- Two digits. -/
def twoDigits : Parse (List Char) := do
  let cs ← get
  let ds := cs.take 2
  if ds.length < 2 || !ds.all Char.isDigit then malformed
  set (cs.drop 2)
  return ds

/-- A character that must stand at the front. -/
def expect (c : Char) : Parse Unit := do
  if (← peek) != some c then malformed
  skip

/-- A day, a month and a year as they are written. -/
structure DayText where
  year : List Char
  month : List Char
  day : List Char

/-- A time of day as it is written, with what stands behind its point. -/
structure TimeText where
  hour : List Char
  minute : List Char
  second : List Char
  fraction : List Char := []

/-- How many digits of a numeral count, zeros in front aside. -/
def numeralLimit : Nat := 9

/-- The value of a numeral in a date or a time. -/
def numeral (ds : List Char) : Nat := Number.digitsValue ((ds.dropWhile (· == '0')).take numeralLimit)

/-- Whether there is a month of that number. -/
def isMonth (n : Nat) : Bool := 1 ≤ n && n ≤ 12

/-- Whether a month may have a day of that number. -/
def isDay (n : Nat) : Bool := 1 ≤ n && n ≤ 31

/-- The start of a day in milliseconds. A month has up to 31 days; those past its end belong to the
next. -/
def dayStart? (year month day : Nat) : Option Int :=
  if isMonth month && isDay day then Calendar.instant (Calendar.daysFromCivil year month day * Calendar.dayLength)
  else none

/-- The start of a day that is written with four digits and two and two. -/
def DayText.exactMs? (d : DayText) : Option Int :=
  if d.year.length = 4 ∧ d.month.length = 2 ∧ d.day.length = 2 then
    dayStart? (Number.digitsValue d.year) (Number.digitsValue d.month) (Number.digitsValue d.day)
  else none

/-- A year as it is written, whose century is left out if it lies near the year 2000. -/
def fullYear (n : Nat) : Nat := if n < 50 then 2000 + n else if n < 100 then 1900 + n else n

/-- The start of a day that is not written so: a year, a month and a day or, if the first number can
be a day, a month, a day and a year. The last number may be left out. -/
def DayText.looseMs? (d : DayText) : Option Int :=
  let first := numeral d.year
  let second := numeral d.month
  let third := if d.day.isEmpty then 1 else numeral d.day
  if isDay first then dayStart? (fullYear third) first second else dayStart? (fullYear first) second third

/-- The milliseconds that a fraction of a second stands for: what its numeral holds in the place of
thousandths, the place being counted from the digits that are looked at. -/
def TimeText.millisecond (t : TimeText) : Nat :=
  let value := numeral t.fraction
  let places := min t.fraction.length numeralLimit
  if places < 3 then value * Nat.pow 10 (3 - places) else value / Nat.pow 10 (places - 3)

/-- A time of day in milliseconds. The end of the day may be written as its 24th hour. -/
def TimeText.ms? (t : TimeText) : Option Int :=
  let hour := Number.digitsValue t.hour
  let minute := Number.digitsValue t.minute
  let second := Number.digitsValue t.second
  let whole := hour = 24 ∧ minute = 0 ∧ second = 0 ∧ numeral t.fraction = 0
  if t.hour.length = 2 ∧ (hour < 24 ∨ whole) ∧ minute < 60 ∧ second < 60 then
    some (((hour * 60 + minute) * 60 + second) * 1000 + (if t.fraction.isEmpty then 0 else t.millisecond) : Nat)
  else none

/-- A date of some form at a point in time. -/
def dateValue (form : DateForm) (ms : Option Int) : Parse Value :=
  match ms with
  | some ms => return ⟨.date ms form, .date⟩
  | none => throw .noSuchDate

/-- The day alone. -/
def onlyDay (d : DayText) : Parse Value := dateValue .day (d.exactMs?.or d.looseMs?)

/-- A day and a time of day, moved by an offset. -/
def dayAndTime (form : DateForm) (d : DayText) (t : TimeText) (offset : Option Int) : Parse Value :=
  dateValue form do
    let day ← d.exactMs?
    let time ← t.ms?
    let offset ← offset
    Calendar.instant (day + time - offset)

/-- The offset from universal time, after its sign. -/
def zoneOffset (sign : Char) : Parse (Option Int) := do
  let hours ← twoDigits
  expect ':'
  let minutes ← twoDigits
  let h := Number.digitsValue hours
  let m := Number.digitsValue minutes
  if 23 < h ∨ 59 < m then return none
  let ms : Int := (h * 60 + m) * 60000
  return some (if sign = '-' then -ms else ms)

/-- What follows the seconds of a time with a day: a zone, or nothing. -/
def zone (d : DayText) (t : TimeText) : Parse Value := do
  let c ← peek
  match c with
  | some 'Z' =>
    skip
    dayAndTime .instant d t (some 0)
  | some '+' | some '-' =>
    skip
    dayAndTime .instant d t (← zoneOffset (c.getD '+'))
  | c => if endsWord c then dayAndTime .zoneless d t (some 0) else malformed

/-- The time of day that follows a day. -/
def timeAfter (d : DayText) : Parse Value := do
  let hour ← takeWhile Char.isDigit
  if (← peek) != some ':' || hour.length < 2 then malformed
  skip
  let minute ← twoDigits
  expect ':'
  let second ← twoDigits
  let t : TimeText := { hour, minute, second }
  if (← peek) = some '.' then
    skip
    let fraction ← takeWhile Char.isDigit
    if fraction.isEmpty then malformed
    zone d { t with fraction }
  else zone d t

/-- The rest of a date after its year, at the hyphen. -/
def dateAfter (year : List Char) : Parse Value := do
  if year.length < 4 then malformed
  skip
  let month ← takeWhile Char.isDigit
  if (← peek) != some '-' || month.length < 2 then malformed
  skip
  let day ← takeWhile Char.isDigit
  let d : DayText := { year, month, day }
  let c ← peek
  if c = some 'T' ∨ c = some ' ' then
    if day.length < 2 then malformed
    skip
    if endsWord (← peek) then onlyDay d else timeAfter d
  else if endsWord c then onlyDay d
  else malformed

/-- The rest of a time of day after its hour, at the colon. A time without a fraction takes the
character behind it along. -/
def timeAlone (hour : List Char) : Parse Value := do
  if hour.length < 2 then malformed
  skip
  let minute ← twoDigits
  expect ':'
  let second ← twoDigits
  let t : TimeText := { hour, minute, second }
  let yearZero : DayText := { year := ['0', '0', '0', '0'], month := ['0', '1'], day := ['0', '1'] }
  if (← peek) = some '.' then
    skip
    let fraction ← takeWhile Char.isDigit
    if !endsWord (← peek) || fraction.isEmpty then malformed
    dayAndTime .timeOfDay yearZero { t with fraction } (some 0)
  else
    skip
    dayAndTime .timeOfDay yearZero t (some 0)

/-- A number, a date or a time whose first digits are in `done`. With five digits or more it is a
number. -/
def numberOrDate (done : List Char) : Parse Value := do
  match ← peek with
  | some c =>
    if done.length ≤ 4 ∧ c = '-' then dateAfter done
    else if done.length ≤ 4 ∧ c = ':' then timeAlone done
    else numberTail done
  | none => numberTail done

/-- A value that begins with the digit zero. -/
def afterZero : Parse Value := do
  match ← peek with
  | some 'b' => based 2
  | some 'o' => based 8
  | some 'x' => based 16
  | some '.' => numberTail ['0']
  | some c =>
    if c.isDigit then
      let cs ← get
      let more := (cs.take 3).takeWhile Char.isDigit
      set (cs.drop more.length)
      let done := '0' :: more
      let next ← peek
      if done.length = 4 then
        if next = some '-' then dateAfter done else malformed
      else if next = some ':' then timeAlone done else malformed
    else integer ['0']
  | none => integer ['0']

/-- A value that begins with a digit. -/
def fromDigit : Parse Value := do
  if (← peek) = some '0' then
    skip
    afterZero
  else numberOrDate (← takeWhile Char.isDigit)

end VariantForge.Toml
