import VariantForge.Shell.Condition
import VariantForge.Shell.Field
import VariantForge.Shell.Printing
import VariantForge.Shell.Program
import VariantForge.Shell.Session

/-!
Commands of the shell itself that start no other command.
-/

namespace VariantForge.Shell

/-- The commands of the shell itself. A special one ends the shell when it fails. -/
def builtinNames : List String :=
  specialNames ++ ["[", "alias", "bg", "cd", "chdir", "command", "echo", "false", "fg", "getopts", "hash", "jobs",
    "kill", "printf", "pwd", "read", "test", "true", "type", "ulimit", "umask", "unalias", "wait"]

/-- Whether a command of the shell itself ends the shell when it fails. -/
def isSpecial (name : String) : Bool := specialNames.contains name

/-- Whether the arguments of a command may assign values to variables. -/
def takesAssignments (name : String) : Bool := ["export", "readonly", "local"].contains name

namespace Builtin

open Run

/-- Reads options from the front of the arguments. In `known`, a colon after a letter says that a text goes
with it. -/
def options (known : List (Char × Bool)) : Nat → List String → Run (List (Char × String) × List String)
  | 0, arguments => return ([], arguments)
  | fuel + 1, arguments => do
    match arguments with
    | [] => return ([], [])
    | a :: rest =>
      match a.toList with
      | '-' :: c :: cs =>
        if a = "--" then return ([], rest)
        match known.find? (·.1 == c) with
        | none => failWith ("Illegal option -" ++ c.toString)
        | some (_, false) =>
          let rest := if cs.isEmpty then rest else String.ofList ('-' :: cs) :: rest
          let (found, others) ← options known fuel rest
          return ((c, "") :: found, others)
        | some (_, true) =>
          if !cs.isEmpty then
            let (found, others) ← options known fuel rest
            return ((c, String.ofList cs) :: found, others)
          match rest with
          | [] => failWith s!"No arg for -{c} option"
          | text :: rest =>
            let (found, others) ← options known fuel rest
            return ((c, text) :: found, others)
      | _ => return ([], a :: rest)

/-- Reads options that are single letters. -/
def flags (known : String) (arguments : List String) : Run (List Char × List String) := do
  let count := arguments.foldl (fun n a => n + a.length + 1) 1
  let (found, others) ← options (known.toList.map (·, false)) count arguments
  return (found.map (·.1), others)

/-- A text in single quotes, for the shell to read again. -/
def quoted (s : String) : String :=
  let parts := s.toList.splitOn '\''
  let rec join : List (List Char) → List Char
    | [] => []
    | [p] => '\'' :: p ++ ['\'']
    | p :: rest => '\'' :: p ++ ['\'', '"', '\'', '"'] ++ join rest
  String.ofList (join parts)

/-- Tells of variables, each after some words. -/
def showVariables (words : String) (wanted : Variable → Bool) : Run Unit := do
  let all := (← session).bindings.filter fun v => wanted v.2
  let sorted := all.mergeSort fun a b => Octets.le a.1 b.1
  let before := if words.isEmpty then "" else words ++ " "
  print (String.join (sorted.map fun (name, v) =>
    before ++ name ++ (match v.value with
      | some value => "=" ++ quoted value
      | none => "") ++ "\n"))

/-- The name and the value of an assignment. -/
def assignment (a : String) : String × Option String :=
  let name := a.toList.takeWhile (· != '=')
  match a.toList.drop name.length with
  | _ :: value => (String.ofList name, some (String.ofList value))
  | [] => (String.ofList name, none)

/-- Exports variables or makes them read only. -/
def declare (readOnly : Bool) (arguments : List String) : Run Nat := do
  let (fs, names) ← flags "p" arguments
  if !fs.isEmpty || names.isEmpty then
    if readOnly then showVariables "readonly" (·.readOnly) else showVariables "export" (·.exported)
  else
    for a in names do
      let (name, value) := assignment a
      match value, Members.get? (← session).bindings name with
      | none, some v =>
        let v := if readOnly then { v with readOnly := true } else { v with exported := true }
        change fun s => { s with bindings := Members.put s.bindings name v }
      | value, _ => assign name value (!readOnly) readOnly
  return 0

/-- Makes a variable belong to the function that runs, exported if that is asked for. -/
def makeLocal (a : String) (exported : Bool) : Run Unit := do
  let s ← session
  let keep (k : Kept) : Run Unit := change fun s =>
    { s with kept := match s.kept with
        | ks :: rest => (k :: ks) :: rest
        | [] => [] }
  if a = "-" then keep (.options s.options)
  else
    let (name, value) := assignment a
    let old := Members.get? s.bindings name
    match value, old with
    | some v, _ => assign name (some v) exported
    | none, none => assign name none exported
    | none, some _ => pure ()
    keep (.variable name old)

/-- Puts back what a function has to put back. -/
def putBack (ks : List Kept) : Run Unit := change fun s =>
  ks.foldl (fun s k => match k with
    | .options old => { s with options := old }
    | .variable name none => { s with bindings := s.bindings.filter (·.1 != name) }
    | .variable name (some old) => { s with bindings := Members.put s.bindings name old }) s

/-- Takes variables or functions away. -/
def remove (arguments : List String) : Run Nat := do
  let (fs, names) ← flags "vf" arguments
  for name in names do
    if fs.getLast? == some 'f' then
      change fun s => { s with functions := s.functions.filter (·.name != name) }
    else unset name
  return 0

/-- Options with the letters for them. -/
def optionNames : List (String × Option Char) :=
  [("errexit", some 'e'), ("noglob", some 'f'), ("ignoreeof", some 'I'), ("interactive", some 'i'),
    ("monitor", some 'm'), ("noexec", some 'n'), ("stdin", some 's'), ("xtrace", some 'x'),
    ("verbose", some 'v'), ("vi", some 'V'), ("emacs", some 'E'), ("noclobber", some 'C'),
    ("allexport", some 'a'), ("notify", some 'b'), ("nounset", some 'u'), ("privileged", some 'p'),
    ("nolog", none), ("debug", none)]

/-- Sets an option or takes it back. -/
def setOption (c : Char) (on : Bool) : Run Unit := do
  if !optionNames.any (·.2 == some c) then failWith ("Illegal option -" ++ c.toString)
  change fun s => { s with options := (if on then [c] else []) ++ s.options.filter (· != c) }

/-- Sets an option of a name, or tells of all options. -/
def setNamed (name : Option String) (on : Bool) : Run Unit := do
  let s ← session
  let isOn (o : Option Char) : Bool := o.any s.has
  match name with
  | none =>
    if on then
      print ("Current option settings\n" ++ String.join (optionNames.map fun (n, c) =>
        n ++ String.ofList (List.replicate (16 - n.length) ' ') ++ (if isOn c then "on" else "off") ++ "\n"))
    else
      print (String.join (optionNames.map fun (n, c) =>
        "set " ++ (if isOn c then "-o " else "+o ") ++ n ++ "\n"))
  | some name =>
    match optionNames.find? (·.1 == name) with
    | none => failWith ("Illegal option -o " ++ name)
    | some (_, some c) => setOption c on
    | some (_, none) => return

/-- Reads option letters; a letter `o` takes the next argument. -/
def setLetters (on : Bool) : List Char → List String → Run (List String)
  | [], rest => return rest
  | 'o' :: cs, rest => do
    setNamed rest.head? on
    setLetters on cs (rest.drop 1)
  | c :: cs, rest => do
    setOption c on
    setLetters on cs rest

/-- Sets options from the front of arguments; gives the other arguments, if there are any or if two hyphens
say that there are none. -/
def setOptions : Nat → List String → Run (Option (List String))
  | 0, _ => return none
  | fuel + 1, arguments => do
    match arguments with
    | [] => return none
    | a :: rest =>
      match a.toList with
      | ['-'] =>
        change fun s => { s with options := s.options.filter fun c => c != 'x' && c != 'v' }
        return if rest.isEmpty then none else some rest
      | ['-', '-'] => return some rest
      | '-' :: cs => setOptions fuel (← setLetters true cs rest)
      | '+' :: cs => setOptions fuel (← setLetters false cs rest)
      | _ => return some arguments

/-- Sets options and arguments, or tells of all variables. -/
def setAll (arguments : List String) : Run Nat := do
  if arguments.isEmpty then showVariables "" fun v => v.value.isSome
  else
    match ← setOptions (arguments.length + 1) arguments with
    | some others => change fun s => { s with arguments := others, optionIndex := 1, optionOffset := none }
    | none => pure ()
  return 0

/-- Leaves loops or goes on with the next round of one. -/
def leave (again : Bool) (arguments : List String) : Run Nat := do
  let n ← match arguments.head? with
    | none => pure 1
    | some a =>
      let n ← count a
      if n = 0 then fail (.illegalNumber a)
      pure n
  let n := min n (← session).loops
  if 0 < n then change fun s => { s with skip := if again then .again n else .leave n }
  return 0

/-- Goes back from a function, or passes over the rest of a script. -/
def back (arguments : List String) : Run Nat := do
  let n ← match arguments.head? with
    | none => pure ((← session).status)
    | some a => count a
  change fun s => { s with skip := .back }
  return n

/-- Ends the shell. -/
def exit (arguments : List String) : Run Nat := do
  let s ← session
  let n ← match arguments.head? with
    | none => pure (s.trapStatus.getD s.status)
    | some a => count a
  setStatus n
  throw .finished

/-- Moves the arguments. -/
def shift (arguments : List String) : Run Nat := do
  let n ← match arguments.head? with
    | none => pure 1
    | some a => count a
  if (← session).arguments.length < n then failWith "can't shift that many"
  change fun s => { s with arguments := s.arguments.drop n, optionIndex := 1, optionOffset := none }
  return 0

/-- The path of a place. -/
def pathOf (p : Place) : String := "/" ++ "/".intercalate (p.map Octets.ofString)

/-- A path from the root, without steps that lead nowhere. -/
def tidied (directory path : String) : String :=
  let absolute := if path.toList.head? == some '/' then path else directory ++ "/" ++ path
  let doubled := path.toList.take 2 == ['/', '/'] && (path.toList.drop 2).head? != some '/'
  let names := (absolute.toList.splitOn '/').foldl (fun before name =>
    if name = [] ∨ name = ['.'] then before
    else if name = ['.', '.'] then before.drop 1
    else name :: before) ([] : List (List Char))
  (if doubled then "//" else "/") ++ String.ofList (['/'].intercalate names.reverse)

/-- Goes to a directory; false if that is not possible. -/
def enter (path : String) (physical : Bool) : Run Bool := do
  let s ← get
  let target := if physical then path else tidied s.session.directory path
  let d := s.machine.disk
  match d.locate (Octets.toString target) with
  | .error _ => return false
  | .ok p =>
    if !(d.get? p).any Entry.isDirectory then return false
    else
      let directory := if physical then pathOf p else target
      assign "OLDPWD" (some s.session.directory) true
      change fun s => { s with directory, place := p }
      operate fun m => { m with disk := { m.disk with here := p } }
      assign "PWD" (some directory) true
      return true

/-- The directory of a name below one of the directories that are looked through, and whether its path is to
be told. -/
def among (d : Disk) (name : String) : List String → Option (String × Bool)
  | [] => none
  | dir :: rest =>
    let path := if dir.isEmpty then name else dir ++ "/" ++ name
    if d.isDirectory (Octets.toString path) then some (path, !dir.isEmpty) else among d name rest

/-- Goes to a directory that an argument names. -/
def changeDirectory (arguments : List String) : Run Nat := do
  let (fs, others) ← flags "LP" arguments
  let physical := fs.getLast? == some 'P'
  let s ← session
  let (wanted, told) := match others.head? with
    | none => ((s.value? "HOME").getD "", false)
    | some "-" => ((s.value? "OLDPWD").getD "", true)
    | some name => (name, false)
  let straight := match wanted.toList with
    | '/' :: _ => true
    | ['.'] | '.' :: '/' :: _ | ['.', '.'] | '.' :: '.' :: '/' :: _ => true
    | _ => false
  let name := if wanted.isEmpty then "." else wanted
  let d := (← machine).disk
  let found := if straight then none else among d name (((s.value? "CDPATH").getD "").splitOn ":")
  let (path, shown) := found.getD (name, false)
  if !(← enter path physical) then failWith ("can't cd to " ++ name)
  if told || shown then print ((← session).directory ++ "\n")
  return 0

/-- Tells of the directory. -/
def printDirectory (arguments : List String) : Run Nat := do
  let (fs, _) ← flags "LP" arguments
  let s ← session
  print ((if fs.getLast? == some 'P' then pathOf s.place else s.directory) ++ "\n")
  return 0

/-- Prints by a format. -/
def printFormat (arguments : List String) : Run Nat := do
  let (_, others) ← flags "" arguments
  match others with
  | [] => failWith "usage: printf format [arg ...]"
  | format :: rest =>
    let w := Printing.run format rest
    for words in w.warnings do warn words
    print (String.ofList w.output.reverse)
    match w.fault with
    | some words => failWith words
    | none => return if w.warnings.isEmpty then 0 else 1

/-- Says whether a condition holds. -/
def condition (r : Except String Bool) : Run Nat :=
  match r with
  | .ok true => return 0
  | .ok false => return 1
  | .error words => failWith words

/-- The mode in octal digits, with a zero before it. -/
def octal (n : Nat) : String :=
  let ds := Nat.toDigits 8 n
  String.ofList (List.replicate (4 - ds.length) '0' ++ ds)

/-- What may be done, by letters. -/
def symbolic (allowed : Nat) : String :=
  let letters (shift : Nat) : String :=
    let bits := (allowed >>> shift) &&& 7
    (if bits &&& 4 = 4 then "r" else "") ++ (if bits &&& 2 = 2 then "w" else "") ++
      (if bits &&& 1 = 1 then "x" else "")
  "u=" ++ letters 6 ++ ",g=" ++ letters 3 ++ ",o=" ++ letters 0

/-- What may be done after a change such as `g-w`, if it is one. -/
def changedMode? (allowed : Nat) (cs : List Char) : Option Nat :=
  let who := cs.takeWhile fun c => "ugoa".toList.contains c
  let places := if who.isEmpty || who.contains 'a' then ['u', 'g', 'o'] else who
  let spread (bits : Nat) : Nat := places.foldl (fun n c =>
    n ||| (bits <<< (match c with
      | 'u' => 6
      | 'g' => 3
      | _ => 0))) 0
  match cs.drop who.length with
  | op :: perms =>
    if perms.all fun c => "rwxXst".toList.contains c then
      let bits := perms.foldl (fun n c => n ||| (match c with
        | 'r' => 4
        | 'w' => 2
        | 'x' => 1
        | _ => 0)) 0
      match op with
      | '+' => some (allowed ||| spread bits)
      | '-' => some (allowed &&& (0o777 ^^^ spread bits))
      | '=' => some ((allowed &&& (0o777 ^^^ spread 7)) ||| spread bits)
      | _ => none
    else none
  | [] => none

/-- Tells or sets what new files may not be used for. -/
def setMask (arguments : List String) : Run Nat := do
  let (fs, others) ← flags "S" arguments
  let mask := (← session).mask
  match others.head? with
  | none => print ((if fs.isEmpty then octal mask else symbolic (0o777 ^^^ mask)) ++ "\n")
  | some a =>
    if a.toList.head?.any Char.isDigit then
      if !a.toList.all fun c => '0' ≤ c && c ≤ '7' then fail (.illegalNumber a)
      let n := (Integer.digits 8 0 a.toList).1
      change fun s => { s with mask := n % 512 }
    else
      let step (allowed? : Option Nat) (cs : List Char) : Option Nat := allowed?.bind fun n => changedMode? n cs
      match (a.toList.splitOn ',').foldl step (some (0o777 ^^^ mask)) with
      | some n => change fun s => { s with mask := 0o777 ^^^ (n &&& 0o777) }
      | none => failWith ("Illegal mode: " ++ a)
  return 0

/-- Gives names to commands, or tells of them. -/
def setAliases (arguments : List String) : Run Nat := do
  let shown (a : String × String) : String := a.1 ++ "=" ++ quoted a.2 ++ "\n"
  if arguments.isEmpty then
    print (String.join (((← session).aliases.mergeSort fun a b => Octets.le a.1 b.1).map shown))
    return 0
  let mut status := 0
  for a in arguments do
    match assignment a with
    | (name, some value) =>
      if name.isEmpty then
        printError s!"alias: {a} not found\n"
        status := 1
      else change fun s => { s with aliases := (name, value) :: s.aliases.filter (·.1 != name) }
    | (name, none) =>
      match (← session).aliases.find? (·.1 == name) with
      | some found => print (shown found)
      | none =>
        printError s!"alias: {name} not found\n"
        status := 1
  return status

/-- Takes names of commands away. -/
def removeAliases (arguments : List String) : Run Nat := do
  let (fs, names) ← flags "a" arguments
  if !fs.isEmpty then
    change fun s => { s with aliases := [] }
    return 0
  let mut status := 0
  for name in names do
    if (← session).aliases.any (·.1 == name) then
      change fun s => { s with aliases := s.aliases.filter (·.1 != name) }
    else
      printError s!"unalias: {name} not found\n"
      status := 1
  return status

/-- Says what is done when a signal comes, or tells of it. -/
def setTraps (arguments : List String) : Run Nat := do
  let (_, others) ← flags "" arguments
  match others with
  | [] =>
    let traps := (← session).traps.mergeSort fun a b => a.1 ≤ b.1
    print (String.join (traps.map fun (n, action) =>
      "trap -- " ++ quoted action ++ " " ++ Signal.name n ++ "\n"))
    return 0
  | first :: rest =>
    let (action, names) :=
      if rest.isEmpty || (Signal.ofText? 0 first).isSome then (none, others)
      else (if first = "-" then none else some first, rest)
    for name in names do
      match Signal.ofText? 0 name with
      | none =>
        printError s!"trap: {name}: bad trap\n"
        return 1
      | some n =>
        change fun s =>
          { s with traps := (action.map fun a => (n, a)).toList ++ s.traps.filter (·.1 != n) }
    return 0

/-- Tells what the letters of the options mean for the arguments. One step: the letter of the next option and
its text, and where to go on. -/
structure OptionStep where
  letter : Char
  text : Option String
  index : Nat
  offset : Option Nat
  complaint : Option String := none
  finished : Bool := false

/-- Takes the next option from some words. -/
def nextOption (known : List Char) (words : Array String) (index : Nat) (offset : Option Nat) : OptionStep :=
  let silent := known.head? == some ':'
  let current : List Char := match offset with
    | some k => if 1 < index then ((words[index - 2]?).getD "").toList.drop k else []
    | none => []
  let ended (index : Nat) : OptionStep := ⟨'?', none, index, none, none, true⟩
  let read (cs : List Char) (index : Nat) : OptionStep :=
    match cs with
    | [] => ended index
    | c :: rest =>
      let word := (words[index - 2]?).getD ""
      let onward : Option Nat := if rest.isEmpty then some word.length else some (word.length - rest.length)
      match (known.dropWhile fun k => k != c || k == ':') with
      | [] =>
        if silent then ⟨'?', some c.toString, index, onward, none, false⟩
        else ⟨'?', none, index, onward, some s!"Illegal option -{c}\n", false⟩
      | _ :: ':' :: _ =>
        if !rest.isEmpty then ⟨c, some (String.ofList rest), index, none, none, false⟩
        else match words[index - 1]? with
          | some text => ⟨c, some text, index + 1, none, none, false⟩
          | none =>
            if silent then ⟨':', some c.toString, index, none, none, false⟩
            else ⟨'?', none, index, none, some s!"No arg for -{c} option\n", false⟩
      | _ => ⟨c, some "", index, onward, none, false⟩
  if !current.isEmpty then read current index
  else
    match ((words[index - 1]?).getD "").toList with
    | '-' :: c :: cs => if c = '-' ∧ cs = [] then ended (index + 1) else read (c :: cs) (index + 1)
    | _ => ended index

/-- Reads an option of the arguments or of other words. -/
def readOption (arguments : List String) : Run Nat := do
  let (_, others) ← flags "" arguments
  match others with
  | known :: name :: rest =>
    let s ← session
    let words := (if rest.isEmpty then s.arguments else rest).toArray
    let fresh := words.size + 1 < s.optionIndex
    let index := if fresh then 1 else max s.optionIndex 1
    let step := nextOption known.toList words index (if fresh then none else s.optionOffset)
    if !step.finished then
      match step.complaint, step.text with
      | some words, _ =>
        printError words
        unset "OPTARG"
      | none, some text => assign "OPTARG" (some text)
      | none, none => pure ()
    assign "OPTIND" (some (toString step.index))
    change fun s => { s with optionIndex := step.index, optionOffset := step.offset }
    assign name (some step.letter.toString)
    return if step.finished then 1 else 0
  | _ => failWith "Usage: getopts optstring var [arg...]"

/-- A line that is read: its characters, which of them were after a backslash, and whether it ended. -/
def lineOf (raw : Bool) (escaped : Bool) (before : Row) (start : Nat) (count : Nat) :
    List Char → Row × Nat × Bool
  | [] => (before.allow start false, count, false)
  | c :: rest =>
    if c = '\x00' then lineOf raw escaped before start (count + 1) rest
    else if escaped then
      let closed := before.allow start false
      if c = '\n' then lineOf raw false closed closed.items.size (count + 1) rest
      else
        let next := closed.add (.char c true)
        lineOf raw false next next.items.size (count + 1) rest
    else if c = '\\' ∧ !raw then lineOf raw true before start (count + 1) rest
    else if c = '\n' then (before.allow start false, count + 1, true)
    else lineOf raw false (before.add (.char c false)) start (count + 1) rest

/-- The most bytes that a line may have. -/
def lineLimit : Nat := 1000000

/-- Reads a line from the standard input into variables. -/
def readLine (arguments : List String) : Run Nat := do
  let (found, names) ← options [('p', true), ('r', false)] (arguments.length + 1) arguments
  if names.isEmpty then failWith "arg count"
  let raw := found.any (·.1 == 'r')
  let s ← session
  let stream? := s.stream? 0
  let m ← machine
  let bytes := (stream?.bind fun k => m.ahead k lineLimit).getD .empty
  let (row, used, ended) := lineOf raw false {} 0 0 (Octets.ofBytes bytes).toList
  match stream? with
  | some k => operate fun m => m.pass k used
  | none => pure ()
  let fields := Splitting.fields s.separators (some names.length) row
  for (name, i) in names.zipIdx do
    assign name (some (String.ofList (Item.bare ((fields[i]?).getD []))))
  return if ended then 0 else 1

/-- What a name is as a command: a keyword, another name, a function, a command of the shell itself, or a
program at some path. -/
inductive Meaning where
  | keyword
  | alias (text : String)
  | function
  | builtin (special : Bool)
  | program (path : String)
  | nothing

/-- What a name is as a command. -/
def meaning (name : String) : Run Meaning := do
  let s ← session
  if (Keyword.ofText? name).isSome then return .keyword
  match s.aliases.find? (·.1 == name) with
  | some (_, text) => return .alias text
  | none =>
    if s.functions.any (·.name == name) then return .function
    if builtinNames.contains name then return .builtin (isSpecial name)
    match Program.pathOf? (← machine).disk s.searchPath name with
    | some path => return .program path
    | none => return .nothing

/-- Tells what names are as commands, shortly or at length. -/
def describe (short : Bool) (names : List String) : Run Nat := do
  let mut status := 0
  for name in names do
    match ← meaning name with
    | .keyword => print (if short then name ++ "\n" else name ++ " is a shell keyword\n")
    | .alias text =>
      print (if short then s!"alias {name}={quoted text}\n" else s!"{name} is an alias for {text}\n")
    | .function => print (if short then name ++ "\n" else name ++ " is a shell function\n")
    | .builtin special =>
      print (if short then name ++ "\n"
        else name ++ (if special then " is a special shell builtin\n" else " is a shell builtin\n"))
    | .program path =>
      print (if short then path ++ "\n" else name ++ " is " ++ path ++ "\n")
    | .nothing =>
      if !short then print (name ++ ": not found\n")
      status := 127
  return status

/-- Looks names up as commands. -/
def lookUp (arguments : List String) : Run Nat := do
  let (_, names) ← flags "rv" arguments
  let mut status := 0
  for name in names do
    match ← meaning name with
    | .nothing =>
      warn (name ++ ": not found")
      status := 1
    | _ => pure ()
  return status

/-- A duration as it is told of a shell that has not worked long. -/
def noTime : String := "0m0.000000s 0m0.000000s\n"

/-- The command of a name that starts no other command; none if there is no such command here. -/
def run? (name : String) (arguments : List String) : Option (Run Nat) :=
  match name with
  | ":" | "true" => some (return 0)
  | "false" => some (return 1)
  | "echo" => some do
      print (Escape.echo arguments)
      return 0
  | "printf" => some (printFormat arguments)
  | "test" => some do condition (Condition.test (← machine).disk arguments)
  | "[" => some do condition (Condition.bracket (← machine).disk arguments)
  | "cd" | "chdir" => some (changeDirectory arguments)
  | "pwd" => some (printDirectory arguments)
  | "exit" => some (exit arguments)
  | "return" => some (back arguments)
  | "break" => some (leave false arguments)
  | "continue" => some (leave true arguments)
  | "shift" => some (shift arguments)
  | "set" => some (setAll arguments)
  | "export" => some (declare false arguments)
  | "readonly" => some (declare true arguments)
  | "local" => some do
      if (← session).functionDepth = 0 then failWith "not in a function"
      for a in arguments do makeLocal a false
      return 0
  | "unset" => some (remove arguments)
  | "umask" => some (setMask arguments)
  | "alias" => some (setAliases arguments)
  | "unalias" => some (removeAliases arguments)
  | "trap" => some (setTraps arguments)
  | "getopts" => some (readOption arguments)
  | "read" => some (readLine arguments)
  | "type" => some (describe false arguments)
  | "hash" => some (lookUp arguments)
  | "times" => some do
      print (noTime ++ noTime)
      return 0
  | "jobs" => some (return 0)
  | "fg" | "bg" => some (failWith "No current job")
  | "ulimit" => some do
      let _ ← flags "HSatfdsmcnpvlwr" arguments
      print "unlimited\n"
      return 0
  | _ => none

end Builtin

end VariantForge.Shell
