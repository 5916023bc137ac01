import VariantForge.Shell.Condition
import VariantForge.Shell.Escape
import VariantForge.Shell.Format
import VariantForge.Shell.Session
import VariantForge.Shell.Tool.Files

/-!
Programs that print the words they are given, or tell of them in some form.
-/

namespace VariantForge.Shell.Tool

/-- How a text with escapes goes on: with a character, with nothing more, or not at all. -/
inductive Unescaped where
  | char (c : Char) (rest : List Char)
  | plain (cs : List Char) (rest : List Char)
  | stop
  | noDigits

/-- The bytes of hexadecimal digits at the front, at most `most`, with what comes after them. -/
def hexDigits (most : Nat) (cs : List Char) : List Char × List Char :=
  let ds := (cs.take most).takeWhile fun c => (Integer.digit? 16 c).isSome
  (ds, cs.drop ds.length)

/-- Reads an escape after its backslash. `zero` says that octal digits must have a zero before them if there
are more than two, as in texts that are arguments. -/
def unescaped (zero : Bool) (cs : List Char) : Unescaped :=
  match cs with
  | [] => .plain ['\\'] []
  | 'x' :: rest =>
    match hexDigits 2 rest with
    | ([], _) => .noDigits
    | (ds, rest) => .char (Escape.byte (Integer.digits 16 0 ds).1) rest
  | 'c' :: _ => .stop
  | '"' :: rest => .char '"' rest
  | c :: rest =>
    if Escape.isOctal c then
      let (b, rest) := Escape.octal 3 (if zero && c == '0' then rest else c :: rest)
      .char b rest
    else if c = 'u' ∨ c = 'U' then
      let size := if c = 'u' then 4 else 8
      match hexDigits size rest with
      | (ds, rest) =>
        let n := (Integer.digits 16 0 ds).1
        if ds.length < size then .noDigits
        else if n < 128 then .char (Char.ofNat n) rest
        else .plain ('\\' :: c :: ds.map Char.toUpper) rest
    else match Escape.letter? c with
      | some b => .char b rest
      | none => .plain ['\\', c] rest

/-- Printing at work: what was printed, in reverse order, the arguments that are left, complaints, and whether
it has ended. -/
structure Printed where
  output : List Char := []
  arguments : List String
  errors : List String := []
  code : Nat := 0
  ended : Bool := false

namespace Printed

/-- Adds to the output. -/
def put (w : Printed) (cs : List Char) : Printed := { w with output := cs.reverse ++ w.output }

/-- Adds a complaint. -/
def complain (w : Printed) (words : String) (code : Nat := 1) : Printed :=
  { w with errors := w.errors ++ [words], code := max w.code code }

/-- Takes the next argument. -/
def next (w : Printed) : String × Printed :=
  (w.arguments.head?.getD "", { w with arguments := w.arguments.drop 1 })

/-- Prints a text with escapes that is an argument. -/
def escapes : Nat → Printed → List Char → Printed
  | 0, w, _ => w
  | _, w, [] => w
  | fuel + 1, w, c :: rest =>
    if c != '\\' then escapes fuel (w.put [c]) rest
    else match unescaped true rest with
      | .char c rest => escapes fuel (w.put [c]) rest
      | .plain cs rest => escapes fuel (w.put cs) rest
      | .stop => { w with ended := true }
      | .noDigits => { w.complain "missing hexadecimal number in escape" with ended := true }

/-- The number after a quote that begins an argument. -/
def character? (w : Printed) (s : String) : Option (Int × Printed) :=
  match s.toList with
  | mark :: c :: rest =>
    if mark = '"' ∨ mark = '\'' then
      let w := if rest.isEmpty then w
        else w.complain s!"warning: {String.ofList rest}: character(s) following character constant have been ignored" 0
      some (c.toNat, w)
    else none
  | _ => none

/-- Checks that a whole argument was read as a number. -/
def checked (w : Printed) (s : String) (none_ : Bool) (rest : List Char) (large : Bool) : Printed :=
  if large then w.complain s!"{q s}: Numerical result out of range"
  else if rest.isEmpty then w
  else if none_ then w.complain s!"{q s}: expected a numeric value"
  else w.complain s!"{q s}: value not completely converted"

/-- The next argument as a whole number. -/
def integer (w : Printed) (signed : Bool) : Int × Printed :=
  let (s, w) := w.next
  match w.character? s with
  | some r => r
  | none =>
    match Integer.leading? 0 s.toList with
    | none => (0, w.checked s true s.toList false)
    | some (n, rest) =>
      let least : Int := if signed then Integer.smallest else -18446744073709551615
      let most : Int := if signed then Integer.largest else 18446744073709551615
      let within := least ≤ n && n ≤ most
      (if within then n else if signed && n < 0 then least else most, w.checked s false rest (!within))

/-- The next argument as a number with a fraction. -/
def real (w : Printed) : Real × Printed :=
  let (s, w) := w.next
  match w.character? s with
  | some (n, w) => (.finite false n.natAbs, w)
  | none =>
    match Real.leading? Real.extended s.toList with
    | none => (.finite false 0, w.checked s true s.toList false)
    | some (x, rest) => (x, w.checked s false rest false)

/-- Prints the next argument by a conversion. -/
def convert (w : Printed) (c : Conversion) : Printed :=
  match c.letter with
  | 'c' => let (s, w) := w.next; w.put (c.field [s.toList.head?.getD '\x00'])
  | 's' => let (s, w) := w.next; w.put (c.text s.toList)
  | 'd' | 'i' => let (n, w) := w.integer true; w.put (c.integer n)
  | 'o' | 'u' | 'x' | 'X' =>
    let (n, w) := w.integer false
    w.put (c.natural (n.emod 18446744073709551616).toNat)
  | _ => let (x, w) := w.real; w.put (c.real Real.extended.lead x)

/-- Which letters may end a conversion with some flags and maybe a precision. -/
def letters (flags : List Char) (precise : Bool) : List Char :=
  let without (cs : String) (all : List Char) : List Char := all.filter fun c => !cs.toList.contains c
  let all := "aAcdeEfFgGiosuxX".toList
  let all := if flags.contains '\'' then without "aAceEosxX" all else all
  let all := if flags.contains '#' then without "cdisu" all else all
  let all := if flags.contains '0' then without "cs" all else all
  if precise then without "c" all else all

/-- Reads a conversion after its percent sign and prints an argument. -/
def conversion (w : Printed) (cs : List Char) : Printed × List Char :=
  let number (w : Printed) (cs : List Char) : Int × Printed × List Char :=
    match cs with
    | '*' :: rest => let (n, w) := w.integer true; (n, w, rest)
    | cs => let (ds, rest) := Number.spanDigits cs; (Number.digitsValue ds, w, rest)
  match cs with
  | '%' :: rest => (w.put ['%'], rest)
  | 'b' :: rest => let (s, w) := w.next; (w.escapes (s.length + 1) s.toList, rest)
  | 'q' :: rest =>
    match w.arguments with
    | [] => (w, rest)
    | s :: more => ({ w with arguments := more }.put (Quoting.ifNeeded s).toList, rest)
  | cs =>
    let flags := cs.takeWhile "#-+ 0'".toList.contains
    let (width, w, rest) := number w (cs.drop flags.length)
    let c := ({ flags, letter := 's' } : Conversion).withWidth width
    let (c, w, rest, precise) := match rest with
      | '.' :: rest => let (n, w, rest) := number w rest; (c.withPrecision n, w, rest, true)
      | rest => (c, w, rest, false)
    let rest := rest.dropWhile "lLhjtz".toList.contains
    match rest with
    | [] =>
      ({ w.complain s!"%{String.ofList cs}: invalid conversion specification" with ended := true }, [])
    | letter :: after =>
      if (letters flags precise).contains letter then (w.convert { c with letter }, after)
      else
        let written := String.ofList (cs.take (cs.length - after.length))
        ({ w.complain s!"%{written}: invalid conversion specification" with ended := true }, [])

/-- Goes over a format once; `fuel` bounds the steps. -/
def pass : Nat → Printed → List Char → Printed
  | 0, w, _ => w
  | _, w, [] => w
  | fuel + 1, w, c :: rest =>
    if w.ended then w
    else if c = '\\' then
      match unescaped false rest with
      | .char c rest => pass fuel (w.put [c]) rest
      | .plain cs rest => pass fuel (w.put cs) rest
      | .stop => { w with ended := true }
      | .noDigits => { w.complain "missing hexadecimal number in escape" with ended := true }
    else if c = '%' then
      let (w, after) := w.conversion rest
      pass fuel w after
    else pass fuel (w.put [c]) rest

/-- Goes over a format until all arguments are used. -/
def passes (format : List Char) : Nat → Printed → Printed
  | 0, w => w
  | fuel + 1, w =>
    let next := w.pass (format.length + 1) format
    if next.ended || next.arguments.isEmpty then next
    else if next.arguments.length = w.arguments.length then
      let first := next.arguments.head?.getD ""
      next.complain s!"warning: ignoring excess arguments, starting with {q first}" 0
    else passes format fuel next

end Printed

/-- Prints by a format. -/
def printf (c : ToolCall) : ToolResult :=
  match (if c.arguments.head? == some "--" then c.arguments.drop 1 else c.arguments) with
  | [] => misused c 1 "missing operand"
  | format :: arguments =>
    let w := Printed.passes format.toList (arguments.length + 1) { arguments }
    { disk := c.disk, code := w.code, effects := [.output (String.ofList w.output.reverse), .error (String.join (w.errors.map fun e => c.name ++ ": " ++ e ++ "\n"))] }

/-- Prints words. -/
def echo (c : ToolCall) : ToolResult :=
  let isOption (a : String) : Bool := match a.toList with
    | '-' :: c :: cs => (c :: cs).all "neE".toList.contains
    | _ => false
  let flags := (c.arguments.takeWhile isOption).flatMap (·.toList)
  let text := " ".intercalate (c.arguments.dropWhile isOption)
  let reads := (flags.reverse.find? fun f => f == 'e' || f == 'E') == some 'e'
  let w : Printed := if reads then Printed.escapes (text.length + 1) { arguments := [] } text.toList
    else { output := text.toList.reverse, arguments := [] }
  printing c.disk (String.ofList w.output.reverse ++ (if w.ended || flags.contains 'n' then "" else "\n"))

/-- Whether a condition holds. -/
def condition (c : ToolCall) : ToolResult :=
  let words := c.arguments
  let answer := if c.tool = "[" then
      (if words.getLast? == some "]" then Condition.test c.disk words.dropLast else .error "missing ']'")
    else Condition.test c.disk words
  match answer with
  | .ok b => { disk := c.disk, code := if b then 0 else 1 }
  | .error words => failing c c.disk 2 (match words.splitOn "Illegal number: " with
    | [_, n] => s!"invalid integer {q n}"
    | _ => match words.splitOn ": " with
      | [w, "unexpected operator"] => s!"extra argument {q w}"
      | [w, "argument expected"] => s!"missing argument after {q w}"
      | _ => words)

/-- A decimal number as `seq` reads it: its value and how many digits stand after the point. -/
def decimal? (s : String) : Option (Rat × Nat) :=
  let (negative, cs) := match s.toList with
    | '-' :: cs => (true, cs)
    | '+' :: cs => (false, cs)
    | cs => (false, cs)
  match Real.decimal? cs with
  | some (x, []) =>
    let mantissa := cs.takeWhile fun c => c != 'e' && c != 'E'
    let exponent := (Number.readExponent? (cs.drop mantissa.length)).elim 0 (·.1)
    let places := ((mantissa.dropWhile (· != '.')).drop 1).length
    some (if negative then -x else x, (places - exponent).toNat)
  | _ => none

/-- Numbers from one to another, at most `fuel` of them. -/
def steps (step last : Rat) : Nat → Rat → List Rat
  | 0, _ => []
  | fuel + 1, x =>
    if (0 < step && last < x) || (step < 0 && x < last) then [] else x :: steps step last fuel (x + step)

/-- Prints numbers in sequence. -/
def seq (c : ToolCall) : ToolResult :=
  let isNumber (a : String) : Bool := (decimal? a).isSome
  let arguments := c.arguments.flatMap fun a => if isNumber a then [a] else [a]
  let front := arguments.takeWhile fun a => !isNumber a
  let count := arguments.foldl (fun n a => n + a.length + 1) 1
  let g : Grammar :=
    { letters := "f:s:w", long := [("format", "f"), ("separator", "s"), ("equal-width", "w")], mixed := false }
  -- a negative number is no option
  let front := if ["-s", "-f", "--separator", "--format"].contains (front.getLast?.getD "") then
      front ++ (arguments.drop front.length).take 1
    else front
  match g.read count (front ++ "--" :: arguments.drop front.length) with
  | .error words => misused c 1 words
  | .ok o =>
    let words := o.words.filter (· != "--")
    match words.find? (!isNumber ·) with
    | some w => misused c 1 s!"invalid floating point argument: {q w}"
    | none =>
      let values := words.filterMap decimal?
      let one : Rat × Nat := (1, 0)
      let run (first step last : Rat × Nat) : ToolResult :=
        if step.1 = 0 then misused c 1 ("invalid Zero increment value: " ++ q (words[1]?.getD ""))
        else
          let places := max first.2 step.2
          let written (width : Nat) (zeros : Bool) (x : Rat) : List Char :=
            let conversion : Conversion :=
              { flags := if zeros then ['0'] else [], width, precision := some places, letter := 'f' }
            conversion.real Real.extended.lead (.finite (x < 0) (if x < 0 then -x else x))
          let lastWidth := match last.2, places with
            | 0, 0 => (written 0 false last.1).length
            | 0, p => (written 0 false last.1).length + (if (written 0 false last.1).contains '.' then 0 else p + 1)
            | _, _ => (written 0 false last.1).length
          let width := max (written 0 false first.1).length lastWidth
          let texts := (steps step.1 last.1 100000 first.1).map fun x =>
            match o.text? "f" with
            | some format =>
              let w := Printed.passes format.toList 1
                { arguments := [String.ofList (written 0 false x)] }
              String.ofList w.output.reverse
            | none => String.ofList (if o.has "w" then written width true x else written 0 false x)
          if texts.isEmpty then done c.disk
          else printing c.disk (((o.text? "s").getD "\n").intercalate texts ++ "\n")
      match values with
      | [] => misused c 1 "missing operand"
      | [last] => run one one last
      | [first, last] => run first one last
      | [first, step, last] => run first step last
      | _ => misused c 1 ("extra operand " ++ q (words[3]?.getD ""))

/-- A span of time as it is written, in millionths of a second. -/
def span? (s : String) : Option Nat :=
  let cs := s.toList
  let (cs, unit) : List Char × Nat := match cs.reverse with
    | 's' :: rest => (rest.reverse, 1)
    | 'm' :: rest => (rest.reverse, 60)
    | 'h' :: rest => (rest.reverse, 3600)
    | 'd' :: rest => (rest.reverse, 86400)
    | _ => (cs, 1)
  match Real.decimal? cs with
  | some (x, []) => some (x * unit * 1000000).floor.toNat
  | _ => none

/-- Waits for some time. -/
def sleep (c : ToolCall) : ToolResult :=
  withOptions c { letters := "" } fun o =>
    match o.words, o.words.filter fun w => (span? w).isNone with
    | [], _ => misused c 1 "missing operand"
    | _, [] => { disk := c.disk, time := (o.words.filterMap span?).foldl (· + ·) 0 }
    | _, bad =>
      let told := String.join (bad.map fun w => s!"{c.name}: invalid time interval {q w}\n")
      complaining c.disk 1 (told ++ hint c ++ "\n")

/-- Prints the last names of paths. -/
def basename (c : ToolCall) : ToolResult :=
  withOptions c { letters := "as:z", long := [("multiple", "a"), ("suffix", "s"), ("zero", "z")], mixed := false }
    fun o =>
    let without (suffix path : String) : String :=
      let name := baseName path
      let cs := name.toList
      if !suffix.isEmpty && suffix.toList.isSuffixOf cs && suffix != name then
        String.ofList (cs.take (cs.length - suffix.length))
      else name
    let told (names : List String) : ToolResult :=
      printing c.disk (String.join (names.map (· ++ (if o.has "z" then "\x00" else "\n"))))
    if o.words.isEmpty then misused c 1 "missing operand"
    else if o.has "a" || o.has "s" then told (o.words.map (without ((o.text? "s").getD "")))
    else match o.words with
      | [path] => told [baseName path]
      | [path, suffix] => told [without suffix path]
      | words => misused c 1 ("extra operand " ++ q (words[2]?.getD ""))

/-- Prints the paths above paths. -/
def dirname (c : ToolCall) : ToolResult :=
  withOptions c { letters := "z", long := [("zero", "z")] } fun o =>
    if o.words.isEmpty then misused c 1 "missing operand"
    else printing c.disk (String.join (o.words.map fun w => dirName w ++ (if o.has "z" then "\x00" else "\n")))

/-- Prints the directory where the program works. -/
def pwd (c : ToolCall) : ToolResult := printing c.disk (pathOf c.disk.here ++ "\n")

/-- Prints values of the environment. -/
def printenv (c : ToolCall) : ToolResult :=
  if c.arguments.isEmpty then printing c.disk (String.join (c.environment.map fun e => e.1 ++ "=" ++ e.2 ++ "\n"))
  else forEach c.disk c.arguments fun d a =>
    match c.environment.find? (·.1 == a) with
    | some e => printing d (e.2 ++ "\n")
    | none => { disk := d, code := 1 }

/-- Prints words again and again, up to a bound. -/
def yes (c : ToolCall) : ToolResult :=
  withOptions c { letters := "" } fun o =>
    let line := (if o.words.isEmpty then "y" else " ".intercalate o.words) ++ "\n"
    printing c.disk (String.join (List.replicate (16384 / line.length + 1) line))

/-- Tells what machine this is. -/
def uname (c : ToolCall) : ToolResult :=
  withOptions c { letters := "asnrvmpio" } fun o =>
    let parts := [("s", "Linux"), ("m", "x86_64"), ("o", "GNU/Linux")].filter fun p => o.has p.1 || o.has "a"
    printing c.disk ((if parts.isEmpty then "Linux" else " ".intercalate (parts.map (·.2))) ++ "\n")

end VariantForge.Shell.Tool
