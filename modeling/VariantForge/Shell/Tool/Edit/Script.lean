import VariantForge.Shell.Escape
import VariantForge.Shell.Tool.Contents
import VariantForge.Shell.Tool.Files
import VariantForge.Shell.Tool.Regular

/-!
Scripts that edit a stream of lines.

A script is a row of commands, each for some lines. The lines are gone over one by one: each is put into the
pattern space, the commands are run on it, and what is in the space then is printed.
-/

namespace VariantForge.Shell.Edit

/-- Lines that a command is for: one of some number, the last one, those that fit an expression (the one
that was last used if none is given), or every so many. -/
inductive Address where
  | line (n : Nat)
  | last
  | fits (r : Option Regular)
  | every (first step : Nat)

/-- Where a range of lines ends: at an address, after so many lines, or at a multiple of a number. -/
inductive RangeEnd where
  | address (a : Address)
  | after (n : Nat)
  | multiple (n : Nat)

/-- The lines that a command is for. -/
structure Lines where
  first : Option Address := none
  last : Option RangeEnd := none
  negated : Bool := false

/-- A change of the case of what is put in: of all that comes, or of the next character. -/
inductive CaseChange where
  | upper
  | lower
  | none
  | upperNext
  | lowerNext

/-- A part of what is put in the place of a fit. -/
inductive Part where
  | text (cs : List Char)
  | group (n : Nat)
  | cased (c : CaseChange)

/-- What is put in the place of fits: which fit is the first one, whether those after it count too, how often
the result is printed, and the file that it is written to. -/
structure Substitution where
  pattern : Option Regular
  parts : List Part
  number : Nat := 1
  all : Bool := false
  prints : Nat := 0
  file : Option String := none

/-- What a command does. -/
inductive Action where
  | openBlock (close : Nat)
  | closeBlock
  | substitute (s : Substitution)
  | replaceCharacters (pairs : List (Char × Char))
  | delete
  | deleteFirst
  | print
  | printFirst
  | next
  | join
  | quit (code : Nat) (prints : Bool)
  | hold (extends_ : Bool)
  | recall (extends_ : Bool)
  | exchange
  | append (text : List Char)
  | insert (text : List Char)
  | change (text : List Char)
  | readFile_ (file : String)
  | writeFile_ (file : String) (firstLine : Bool)
  | jump (label : String)
  | jumpIfChanged (label : String)
  | jumpUnlessChanged (label : String)
  | label (name : String)
  | lineNumber
  | visible
  | fileName
  | clear

/-- A command. -/
structure Command where
  lines : Lines
  action : Action

/-- What is wrong with a script: something where so many characters are left, something that is missing at
its end, or something that is told of without its place. -/
inductive Mistake where
  | at_ (left : Nat) (words : String)
  | whole (words : String)
  | placeless (words : String)

/-- Reading a script. -/
abbrev Read := StateT (List Char) (Except Mistake)

/-- Ends the reading for a reason. -/
def fault (words : String) : Read α := do throw (.at_ (← get).length words)

/-- Leaves out blanks. -/
def skipBlanks : Read Unit := modify (·.dropWhile fun c => c == ' ' || c == '\t')

/-- Leaves out blanks and line ends. -/
def skipSpace : Read Unit := modify (·.dropWhile Integer.isBlank)

/-- The next character, if there is one. -/
def peek : Read (Option Char) := return (← get).head?

/-- Goes past the next character. -/
def drop : Read Unit := modify (·.drop 1)

/-- A number at the front. -/
def number? : Read (Option Nat) := do
  let (ds, rest) := Number.spanDigits (← get)
  set rest
  return if ds.isEmpty then none else some (Number.digitsValue ds)

/-- Where a set in an expression ends, after its opening bracket: what belongs to it, and what comes after. -/
def bracket : Nat → Bool → List Char → List Char → Option (List Char × List Char)
  | 0, _, _, _ => none
  | _, _, _, [] => none
  | fuel + 1, first, done, c :: rest =>
    match c, rest with
    | '^', rest => if first && done.isEmpty then bracket fuel true ['^'] rest else bracket fuel false ('^' :: done) rest
    | ']', rest => if first then bracket fuel false (']' :: done) rest else some ((']' :: done).reverse, rest)
    | '[', k :: rest =>
      if k = ':' ∨ k = '.' ∨ k = '=' then
        let name := rest.takeWhile (· != k)
        match rest.drop name.length with
        | _ :: ']' :: rest => bracket fuel false (']' :: k :: name.reverse ++ k :: '[' :: done) rest
        | _ => bracket fuel false (k :: '[' :: done) rest
      else bracket fuel false ('[' :: done) (k :: rest)
    | '\n', _ => none
    | c, rest => bracket fuel false (c :: done) rest

/-- The text up to a mark that has no backslash before it; none if there is no such mark. In an expression the
mark may also stand in a set. -/
def upTo (mark : Char) (expression : Bool) : Nat → List Char → List Char → Option (List Char × List Char)
  | 0, _, _ => none
  | _, _, [] => none
  | fuel + 1, done, c :: rest =>
    if c = mark then some (done.reverse, rest)
    else if c = '\\' then
      match rest with
      | [] => none
      | d :: rest =>
        if expression && d == 'n' then upTo mark expression fuel ('\n' :: done) rest
        else if d = '\n' then upTo mark expression fuel (d :: (if expression then done else '\\' :: done)) rest
        else if d = mark && !(!expression && d == '&') then upTo mark expression fuel (d :: done) rest
        else upTo mark expression fuel (d :: '\\' :: done) rest
    else if c = '\n' && expression then none
    else if c = '[' && expression then
      match bracket (rest.length + 1) true [] rest with
      | some (set, rest) => upTo mark expression fuel (set.reverse ++ '[' :: done) rest
      | none => none
    else upTo mark expression fuel (c :: done) rest

/-- Escapes of single characters: letters, and numbers in some base after a letter. -/
def plainEscape? (cs : List Char) : Option (Char × List Char) :=
  let digits (base most : Nat) (rest : List Char) : Option (Char × List Char) :=
    let ds := (rest.take most).takeWhile fun c => (Integer.digit? base c).isSome
    if ds.isEmpty then none else some (Escape.byte (Integer.digits base 0 ds).1, rest.drop ds.length)
  match cs with
  | 'a' :: rest => some ('\x07', rest)
  | 'f' :: rest => some ('\x0c', rest)
  | 't' :: rest => some ('\t', rest)
  | 'v' :: rest => some ('\x0b', rest)
  | 'r' :: rest => some ('\r', rest)
  | 'x' :: rest => digits 16 2 rest
  | 'd' :: rest => digits 10 3 rest
  | 'o' :: rest => digits 8 3 rest
  | 'c' :: c :: rest => some (Char.ofNat ((c.toUpper.toNat ^^^ 64) % 128), rest)
  | _ => none

/-- An expression with the escapes in it that stand for single characters put in. -/
def expanded : Nat → List Char → List Char
  | 0, cs => cs
  | _, [] => []
  | fuel + 1, '\\' :: rest =>
    match plainEscape? rest, rest with
    | some (c, rest), _ => c :: expanded fuel rest
    | none, c :: rest => '\\' :: c :: expanded fuel rest
    | none, [] => ['\\']
  | fuel + 1, c :: rest => c :: expanded fuel rest

/-- Reads an expression; a blank one stands for the one that was last used. -/
def regular (extended : Bool) (text : List Char) (anyCase perLine : Bool) : Read (Option Regular) := do
  if text.isEmpty then return none
  match Regular.ofText { extended, careful := true } (expanded (text.length + 1) text) anyCase perLine with
  | .ok r => return some r
  | .error .classAlone => throw (.placeless Regular.Fault.classAlone.message)
  | .error f => fault f.message

/-- Reads an address, if there is one. -/
def address? (extended : Bool) : Read (Option Address) := do
  let fitting (mark : Char) : Read (Option Address) := do
    match upTo mark true ((← get).length + 1) [] (← get) with
    | none =>
      set ([] : List Char)
      fault "unterminated address regex"
    | some (text, rest) =>
      set rest
      let flags := rest.takeWhile fun c => c == 'I' || c == 'M'
      set (rest.drop flags.length)
      return some (.fits (← regular extended text (flags.contains 'I') (flags.contains 'M')))
  match ← get with
  | '$' :: rest =>
    set rest
    return some .last
  | '/' :: rest =>
    set rest
    fitting '/'
  | '\\' :: mark :: rest =>
    set rest
    fitting mark
  | _ =>
    match ← number? with
    | none => return none
    | some n =>
      match ← get with
      | '~' :: rest =>
        set rest
        let step := (← number?).getD 0
        return some (.every n step)
      | _ => return some (.line n)

/-- Reads the lines that a command is for. -/
def lines (extended : Bool) : Read Lines := do
  match ← address? extended with
  | none => return {}
  | some first =>
    skipBlanks
    let last ← match ← get with
      | ',' :: rest => do
        set (rest.dropWhile fun c => c == ' ' || c == '\t')
        match ← get with
        | '+' :: rest => do
          set rest
          pure (some (RangeEnd.after ((← number?).getD 0)))
        | '~' :: rest => do
          set rest
          pure (some (RangeEnd.multiple ((← number?).getD 0)))
        | _ =>
          match ← address? extended with
          | some a => pure (some (RangeEnd.address a))
          | none => fault "unexpected `,'"
      | _ => pure none
    match first, last with
    | .line 0, some (.address (.fits _)) => return { first := some first, last }
    | .line 0, _ =>
      drop
      fault "invalid usage of line address 0"
    | _, _ => return { first := some first, last }

/-- Reads what is put in the place of a fit. -/
def parts : Nat → List Char → List Char → List Part
  | 0, _, _ => []
  | fuel + 1, done, cs =>
    let flush (more : List Part) : List Part := if done.isEmpty then more else .text done.reverse :: more
    match cs with
    | [] => flush []
    | '&' :: rest => flush (.group 0 :: parts fuel [] rest)
    | '\\' :: rest =>
      match plainEscape? rest, rest with
      | some (c, rest), _ => parts fuel (c :: done) rest
      | none, c :: rest =>
        if c.isDigit then flush (.group (c.toNat - 48) :: parts fuel [] rest)
        else match c with
          | 'n' => parts fuel ('\n' :: done) rest
          | 'U' => flush (.cased .upper :: parts fuel [] rest)
          | 'L' => flush (.cased .lower :: parts fuel [] rest)
          | 'E' => flush (.cased .none :: parts fuel [] rest)
          | 'u' => flush (.cased .upperNext :: parts fuel [] rest)
          | 'l' => flush (.cased .lowerNext :: parts fuel [] rest)
          | c => parts fuel (c :: done) rest
      | none, [] => parts fuel ('\\' :: done) []
    | c :: rest => parts fuel (c :: done) rest

/-- The rest of the line. -/
def restOfLine : Read (List Char) := do
  let cs ← get
  let l := cs.takeWhile (· != '\n')
  set (cs.drop l.length)
  return l

/-- Reads the end of a command. -/
def ending : Read Unit := do
  skipBlanks
  match ← get with
  | [] => return
  | '}' :: _ | '#' :: _ => return
  | c :: rest =>
    set rest
    if c != ';' && c != '\n' then fault "extra characters after command"

/-- Reads the name of a file. -/
def fileName : Read String := do
  skipBlanks
  let l ← restOfLine
  if l.isEmpty then fault "missing filename in r/R/w/W commands"
  return String.ofList l

/-- Reads the flags of a substitution. `expression` is its expression as it was written. -/
def flags (extended : Bool) (expression : List Char) : Nat → Substitution → Bool × Bool → Bool → Read Substitution
  | 0, s, _, _ => return s
  | fuel + 1, s, marks, numbered => do
    let finish : Read Substitution := do
      let pattern ← regular extended expression marks.1 marks.2
      let most := s.parts.foldl (fun n p => match p with
        | .group k => max n k
        | _ => n) 0
      match pattern with
      | some r =>
        if r.groups < most then fault s!"invalid reference \\{most} on `s' command's RHS"
      | none => return { s with pattern }
      return { s with pattern }
    match ← get with
    | [] => finish
    | '}' :: _ | '#' :: _ => finish
    | c :: rest =>
      if c.isDigit then
        if numbered then
          set rest
          fault "multiple number options to `s' command"
        let n := (← number?).getD 0
        if n = 0 then fault "number option to `s' command may not be zero"
        flags extended expression fuel { s with number := n } marks true
      else
        set rest
        match c with
        | 'g' =>
          if s.all then fault "multiple `g' options to `s' command"
          flags extended expression fuel { s with all := true } marks numbered
        | 'p' =>
          if 0 < s.prints then fault "multiple `p' options to `s' command"
          flags extended expression fuel { s with prints := 1 } marks numbered
        | 'i' | 'I' => flags extended expression fuel s (true, marks.2) numbered
        | 'm' | 'M' => flags extended expression fuel s (marks.1, true) numbered
        | 'e' => flags extended expression fuel s marks numbered
        | 'w' =>
          let file ← fileName
          let s ← finish
          return { s with file := some file }
        | ' ' | '\t' | '\r' => flags extended expression fuel s marks numbered
        | ';' | '\n' => finish
        | _ => fault "unknown option to `s'"

/-- Reads a substitution after its letter. -/
def substitution (extended : Bool) : Read Action := do
  let unended : Read Action := do
    set ([] : List Char)
    fault "unterminated `s' command"
  match ← get with
  | [] => unended
  | mark :: rest =>
    match upTo mark true (rest.length + 1) [] rest with
    | none => unended
    | some (expression, rest) =>
      match upTo mark false (rest.length + 1) [] rest with
      | none => unended
      | some (replacement, rest) =>
        set rest
        let ps := parts (replacement.length + 1) [] replacement
        return .substitute (← flags extended expression (rest.length + 1) ⟨none, ps, 1, false, 0, none⟩ (false, false) false)

/-- A list of characters with the backslashes taken out that stand before others. -/
def unescaped : List Char → List Char
  | '\\' :: 'n' :: rest => '\n' :: unescaped rest
  | '\\' :: '\\' :: rest => '\\' :: unescaped rest
  | '\\' :: 't' :: rest => '\t' :: unescaped rest
  | c :: rest => c :: unescaped rest
  | [] => []

/-- Reads two rows of characters, each of the first to be replaced by one of the second. -/
def characters : Read Action := do
  let unended : Read Action := do
    set ([] : List Char)
    fault "unterminated `y' command"
  match ← get with
  | [] => unended
  | mark :: rest =>
    match upTo mark false (rest.length + 1) [] rest with
    | none => unended
    | some (old, rest) =>
      match upTo mark false (rest.length + 1) [] rest with
      | none => unended
      | some (new, rest) =>
        set rest
        let old := unescaped old
        let new := unescaped new
        if old.length != new.length then fault "strings for `y' command are different lengths"
        ending
        return .replaceCharacters (old.zip new)

/-- The text of a command that adds lines: up to a line end that has no backslash before it. -/
def text : Nat → List Char → Read (List Char)
  | 0, done => return done.reverse
  | fuel + 1, done => do
    match ← get with
    | [] => return done.reverse
    | '\\' :: c :: rest =>
      set rest
      text fuel (c :: done)
    | '\\' :: [] =>
      set ([] : List Char)
      return done.reverse
    | '\n' :: rest =>
      set rest
      return done.reverse
    | c :: rest =>
      set rest
      text fuel (c :: done)

/-- Reads the text of a command that adds lines, after its letter. -/
def addedText : Read (List Char) := do
  skipBlanks
  match ← get with
  | [] => fault "expected \\ after `a', `c' or `i'"
  | '\\' :: rest =>
    let after := rest.dropWhile fun c => c == ' ' || c == '\t'
    match after with
    | '\n' :: rest => set rest
    | _ => set rest
    if (← get).isEmpty then return []
    let t ← text ((← get).length + 1) []
    return t ++ ['\n']
  | '\n' :: _ => fault "expected \\ after `a', `c' or `i'"
  | cs => return (← text (cs.length + 1) []) ++ ['\n']

/-- Reads a label. -/
def labelName : Read String := do
  skipBlanks
  let cs ← get
  let name := cs.takeWhile fun c => c != ';' && !Integer.isBlank c && c != '}'
  set (cs.drop name.length)
  return String.ofList name

/-- Reads the commands of a script, those before them being in reverse order. `blocks` has where the blocks
that are open began. -/
def commands (extended : Bool) : Nat → List Command → List Nat → Read (List Command)
  | 0, done, _ => return done.reverse
  | fuel + 1, done, blocks => do
    modify (·.dropWhile fun c => Integer.isBlank c || c == ';')
    if (← get).isEmpty then
      if !blocks.isEmpty then throw (.whole "unmatched `\x7b'")
      return done.reverse
    let ls ← lines extended
    skipBlanks
    let negated := (← peek) == some '!'
    modify (·.dropWhile fun c => c == '!' || c == ' ' || c == '\t')
    let ls := { ls with negated }
    let one : Read Unit := do if ls.last.isSome then fault "command only uses one address"
    let put (a : Action) : Read (List Command) := commands extended fuel (⟨ls, a⟩ :: done) blocks
    let plain (a : Action) : Read (List Command) := do
      ending
      put a
    match ← get with
    | [] => fault "missing command"
    | c :: rest =>
      set rest
      match c with
      | '#' =>
        if ls.first.isSome then fault "comments don't accept any addresses"
        let _ ← restOfLine
        commands extended fuel done blocks
      | '\x7b' => commands extended fuel (⟨ls, .openBlock 0⟩ :: done) (done.length :: blocks)
      | '}' =>
        match blocks with
        | [] => fault "unexpected `\x7d'"
        | start :: blocks =>
          if ls.first.isSome then fault "\x7d doesn't want any addresses"
          ending
          let n := done.length
          let done := done.reverse.zipIdx.map fun e => if e.2 = start then { e.1 with action := .openBlock n } else e.1
          commands extended fuel (⟨{}, .closeBlock⟩ :: done.reverse) blocks
      | 's' => do put (← substitution extended)
      | 'y' => do put (← characters)
      | 'd' => plain .delete
      | 'D' => plain .deleteFirst
      | 'p' => plain .print
      | 'P' => plain .printFirst
      | 'n' => plain .next
      | 'N' => plain .join
      | 'h' => plain (.hold false)
      | 'H' => plain (.hold true)
      | 'g' => plain (.recall false)
      | 'G' => plain (.recall true)
      | 'x' => plain .exchange
      | 'l' => do
        skipBlanks
        let _ ← number?
        plain .visible
      | '=' => plain .lineNumber
      | 'F' => plain .fileName
      | 'z' => plain .clear
      | 'q' | 'Q' => do
        one
        skipBlanks
        let code := (← number?).getD 0
        plain (.quit code (c == 'q'))
      | 'a' => do put (.append (← addedText))
      | 'i' => do put (.insert (← addedText))
      | 'c' => do put (.change (← addedText))
      | 'r' => do put (.readFile_ (← fileName))
      | 'w' => do put (.writeFile_ (← fileName) false)
      | 'W' => do put (.writeFile_ (← fileName) true)
      | ':' => do
        if ls.first.isSome then fault ": doesn't want any addresses"
        let name ← labelName
        if name.isEmpty then fault "\":\" lacks a label"
        put (.label name)
      | 'b' => do
        let name ← labelName
        plain (.jump name)
      | 't' => do
        let name ← labelName
        plain (.jumpIfChanged name)
      | 'T' => do
        let name ← labelName
        plain (.jumpUnlessChanged name)
      | 'v' => do
        let _ ← restOfLine
        commands extended fuel done blocks
      | c => fault s!"unknown command: `{c}'"

/-- Reads a script. -/
def script (extended : Bool) (cs : List Char) : Except Mistake (List Command) :=
  (commands extended (cs.length + 2) [] []).run' cs

end VariantForge.Shell.Edit
