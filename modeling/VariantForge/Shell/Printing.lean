import VariantForge.Shell.Escape
import VariantForge.Shell.Format

/-!
Printing by a format, as the shell does it itself. The format is used again until no argument is left;
where arguments are missing, a blank text or zero stands for them.
-/

namespace VariantForge.Shell.Printing

/-- What is wrong with an argument that should be a number. -/
inductive NumberFault where
  | noNumber
  | more
  | tooLarge
  deriving DecidableEq

/-- The words for a fault in an argument. -/
def NumberFault.message : NumberFault → String
  | .noNumber => "expected numeric value"
  | .more => "not completely converted"
  | .tooLarge => "Numerical result out of range"

/-- Printing at work: what was printed, in reverse order, the arguments that are left, what was wrong with
arguments, and what ended it early. -/
structure Work where
  output : List Char := []
  arguments : List String
  warnings : List String := []
  fault : Option String := none
  stopped : Bool := false

namespace Work

/-- Adds to the output. -/
def print (w : Work) (cs : List Char) : Work := { w with output := cs.reverse ++ w.output }

/-- Takes the next argument. -/
def next (w : Work) : Option String × Work := (w.arguments.head?, { w with arguments := w.arguments.drop 1 })

/-- Tells of a fault in an argument. -/
def warn (w : Work) (argument : String) (f : NumberFault) : Work :=
  { w with warnings := w.warnings ++ [argument ++ ": " ++ f.message] }

/-- Ends the printing for a reason. -/
def fail (w : Work) (words : String) : Work := { w with fault := some words, stopped := true }

/-- The character after a quote that begins an argument, as a number. -/
def character? (s : String) : Option Int :=
  match s.toList with
  | c :: rest => if c = '"' ∨ c = '\'' then some ((rest.head?.map fun d => (d.toNat : Int)).getD 0) else none
  | [] => none

/-- The next argument as a whole number. -/
def integer (signed : Bool) (w : Work) : Int × Work :=
  match w.next with
  | (none, w) => (0, w)
  | (some s, w) =>
    match character? s with
    | some n => (n, w)
    | none =>
      match Integer.leading? 0 s.toList with
      | none => (0, if s.isEmpty then w else w.warn s .noNumber)
      | some (n, rest) =>
        let least : Int := if signed then Integer.smallest else -18446744073709551615
        let most : Int := if signed then Integer.largest else 18446744073709551615
        let within := least ≤ n && n ≤ most
        let value := if within then n else if signed && n < 0 then least else most
        (value, if !rest.isEmpty then w.warn s .more else if within then w else w.warn s .tooLarge)

/-- The next argument as a number with a fraction. -/
def real (w : Work) : Real × Work :=
  match w.next with
  | (none, w) => (.finite false 0, w)
  | (some s, w) =>
    match character? s with
    | some n => (.finite false n, w)
    | none =>
      match Real.leading? Real.double s.toList with
      | none => (.finite false 0, if s.isEmpty then w else w.warn s .noNumber)
      | some (x, rest) =>
        let large := match x with
          | .infinite _ => !(s.toList.any fun c => c == 'i' || c == 'I')
          | _ => false
        (x, if !rest.isEmpty then w.warn s .more else if large then w.warn s .tooLarge else w)

/-- The next argument as a text. -/
def text (w : Work) : String × Work := let (s, w) := w.next; (s.getD "", w)

/-- Prints the next argument as a conversion asks for it; `written` is how the conversion is written. -/
def convert (w : Work) (c : Conversion) (written : String) : Work :=
  match c.letter with
  | 'b' =>
    let (s, w) := w.text
    let (cs, stopped) := Escape.expand [] s.toList
    { w.print (c.text cs) with stopped }
  | 'c' =>
    let (s, w) := w.text
    w.print (c.field [s.toList.head?.getD '\x00'])
  | 's' =>
    let (s, w) := w.text
    w.print (c.text s.toList)
  | 'd' | 'i' =>
    let (n, w) := w.integer true
    w.print (c.integer n)
  | 'o' | 'u' | 'x' | 'X' =>
    let (n, w) := w.integer false
    w.print (c.natural (n.emod 18446744073709551616).toNat)
  | 'a' | 'A' | 'e' | 'E' | 'f' | 'F' | 'g' | 'G' =>
    let (x, w) := w.real
    w.print (c.real Real.double.lead x)
  | _ => w.fail (written ++ ": invalid directive")

end Work

/-- A count in a format: digits, or a star for the next argument, of which the last 32 bits count. -/
def count (w : Work) (cs : List Char) : Int × List Char × Work :=
  match cs with
  | '*' :: rest => let (n, w) := w.integer true; (n.bmod 4294967296, rest, w)
  | cs => let (ds, rest) := Number.spanDigits cs; (Number.digitsValue ds, rest, w)

/-- The largest count in a format that can be printed by. -/
def largestCount : Int := 2147483646

/-- Reads a conversion after its percent sign and prints an argument; gives what comes after it. -/
def conversion (w : Work) (cs : List Char) : Work × List Char :=
  let flags := cs.takeWhile fun c => "#-+ 0".toList.contains c
  let (width, rest, w) := count w (cs.drop flags.length)
  let c := ({ flags, letter := 's' } : Conversion).withWidth width
  let (precision, rest, w) := match rest with
    | '.' :: rest => count w rest
    | rest => (-1, rest, w)
  match rest with
  | [] => (w.fail "missing format character", [])
  | letter :: after =>
    let written := String.ofList ('%' :: cs.take (cs.length - after.length))
    if largestCount < max width precision then (w.fail "xvsnprintf failed", after)
    else (w.convert { c.withPrecision precision with letter } written, after)

/-- Goes over a format once; `fuel` bounds the steps. -/
def pass : Nat → Work → List Char → Work
  | 0, w, _ => w
  | _ + 1, w, [] => w
  | fuel + 1, w, c :: rest =>
    if c = '\\' then
      let (b, after) := Escape.read rest
      pass fuel (w.print [b]) after
    else if c = '%' then
      match rest with
      | '%' :: after => pass fuel (w.print ['%']) after
      | rest =>
        let (w, after) := conversion w rest
        if w.stopped then w else pass fuel w after
    else pass fuel (w.print [c]) rest

/-- Goes over a format until all arguments are used. -/
def passes (format : List Char) : Nat → Work → Work
  | 0, w => w
  | fuel + 1, w =>
    let next := pass (format.length + 1) w format
    let used := next.arguments.length != w.arguments.length
    if next.stopped || next.arguments.isEmpty || !used then next else passes format fuel next

/-- What a format makes of some arguments. -/
def run (format : String) (arguments : List String) : Work :=
  passes format.toList (arguments.length + 1) { arguments }

end VariantForge.Shell.Printing
