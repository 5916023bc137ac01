import VariantForge.Data.Members
import VariantForge.Shell.Fault
import VariantForge.Shell.Integer
import VariantForge.Shell.Machine
import VariantForge.Shell.Signal

/-!
A shell at work on a machine: its variables, arguments, options and streams.

A shell of its own inside another one begins with all that the other has; the machine is the same for
both. A command may end the shell before its script ends, and then says how.
-/

namespace VariantForge.Shell

/-- A variable. It may be set or not; programs are given those that are exported. -/
structure Variable where
  value : Option String := none
  exported : Bool := false
  readOnly : Bool := false
  deriving Inhabited

/-- What a function puts back when it ends. -/
inductive Kept where
  | variable (name : String) (old : Option Variable)
  | options (old : List Char)

/-- What the commands up to the end of a loop or a function are passed over for: to leave loops, to go on
with the next round of one, or to go back from a function. -/
inductive Skip where
  | no
  | leave (loops : Nat)
  | again (loops : Nat)
  | back
  deriving DecidableEq, Inhabited

/-- A function. -/
structure Function where
  name : String
  body : Command

/-- A shell. `table` says which stream each number stands for; `kept` has a list for each function that
runs. The status of a trap is the one from before it. -/
structure Session where
  name : String := "sh"
  arguments : List String := []
  bindings : Members Variable := []
  functions : List Function := []
  aliases : List (String × String) := []
  documents : Array Document := #[]
  options : List Char := []
  status : Nat := 0
  outputStatus : Nat := 0
  trapStatus : Option Nat := none
  line : Nat := 0
  command : Option String := none
  loops : Nat := 0
  skip : Skip := .no
  traps : List (Nat × String) := []
  table : List (Nat × Nat) := []
  directory : String := "/"
  place : Place := []
  lastJob : Option Nat := none
  optionIndex : Nat := 1
  optionOffset : Option Nat := none
  kept : List (List Kept) := []
  functionDepth : Nat := 0
  process : Nat := 4242
  shell : Nat := 4242
  ancestors : List Nat := []
  mask : Nat := 0o022
  outputFailed : Bool := false

/-- What became of a job that runs beside a shell: it waits, with the shell and the command that it begins
with, or it is over, with its status, when it ended, and what is said of it. -/
inductive JobState where
  | waiting (session : Session) (command : Command) (start : Nat)
  | done (status finish : Nat) (words : String)

/-- A job, known by the number of its process. -/
structure Job where
  process : Nat
  owner : Nat
  state : JobState

/-- A shell and its machine, and the jobs that run on it. -/
structure State where
  machine : Machine
  session : Session := {}
  jobs : List Job := []

/-- How a shell ends before its script does: because of a fault, because it was told to, or by a signal. -/
inductive Stop where
  | failed
  | finished
  | killed (signal : Nat)
  deriving DecidableEq

/-- Operations of a shell. -/
abbrev Run := ExceptT Stop (StateM State)

namespace Session

/-- The value of a variable. -/
def value? (s : Session) (name : String) : Option String := (Members.get? s.bindings name).bind (·.value)

/-- Whether an option is set. -/
def has (s : Session) (option : Char) : Bool := s.options.contains option

/-- The variables that programs are given, in the order in which they are given them. -/
def environment (s : Session) : List (String × String) :=
  let given := s.bindings.filterMap fun (name, v) =>
    if v.exported then v.value.map fun value => (name, value) else none
  given.mergeSort fun a b => bucket a.1 ≤ bucket b.1
where
  /-- Variables of equal rank are given in the order in which they were made. -/
  bucket (name : String) : Nat :=
    let codes := name.toList.map Char.toNat
    (codes.foldl (· + ·) ((codes.head?.getD 0) * 16)) % 39

/-- The search path where none is set. -/
def usualPath : String := "/usr/local/sbin:/usr/local/bin:/usr/sbin:/usr/bin:/sbin:/bin"

/-- Where programs are looked for. -/
def searchPath (s : Session) : String := (s.value? "PATH").getD usualPath

/-- The characters that fields are split at. -/
def separators (s : Session) : List Char := ((s.value? "IFS").getD " \t\n").toList

/-- The letters of the options, in the order in which they are shown. -/
def optionLetters : List Char := "pubaCEVvxsnmiIfe".toList

/-- The options that are set. -/
def optionText (s : Session) : String := String.ofList (optionLetters.filter s.has)

/-- The stream that a number stands for. -/
def stream? (s : Session) (n : Nat) : Option Nat := (s.table.find? (·.1 == n)).map (·.2)

/-- Lets a number stand for another stream, or for none. -/
def setStream (s : Session) (n : Nat) (stream : Option Nat) : Session :=
  let others := s.table.filter (·.1 != n)
  { s with table := match stream with
      | some k => (n, k) :: others
      | none => others }

/-- The variables that every shell begins with. -/
def ownVariables : Members Variable :=
  [("IFS", " \t\n"), ("OPTIND", "1"), ("PATH", usualPath), ("PPID", "4241"), ("PS1", "$ "), ("PS2", "> "),
    ("PS4", "+ ")].map fun v => (v.1, { value := some v.2 })

/-- A shell that is started as a program of some name by another process. It takes the environment and the
streams of that process. -/
def fresh (old : Session) (name : String) : Session :=
  let given := (old.environment.filter fun v => isName v.1.toList && v.1 != "IFS" && v.1 != "OPTIND").foldl
    (fun vs v => Members.put vs v.1 { value := some v.2, exported := true }) ownVariables
  let there := "/" ++ "/".intercalate (old.place.map Octets.ofString)
  let bindings := Members.put given "PWD" { value := some there, exported := true }
  { name, bindings, traps := old.traps.filter fun t => t.2.isEmpty && t.1 != 0, table := old.table
    directory := there, place := old.place, process := old.process, shell := old.process
    ancestors := old.ancestors, mask := old.mask }

end Session

namespace Run

/-- Changes the shell. -/
def change (f : Session → Session) : Run Unit := modify fun s => { s with session := f s.session }

/-- Changes the machine. -/
def operate (f : Machine → Machine) : Run Unit := modify fun s => { s with machine := f s.machine }

/-- The shell. -/
def session : Run Session := return (← get).session

/-- The machine. -/
def machine : Run Machine := return (← get).machine

/-- Sets the status of the last command. -/
def setStatus (n : Nat) : Run Unit := change fun s => { s with status := n }

/-- Writes a text to a stream and says whether that went well. -/
def writeStream (stream? : Option Nat) (text : String) : Run Bool := do
  let s ← get
  match stream?.bind fun k => s.machine.write k (Octets.bytes text) with
  | some machine =>
    set { s with machine }
    return true
  | none => return false

/-- Writes a text to the stream of a number and says whether that went well. -/
def writeTo (n : Nat) (text : String) : Run Bool := do writeStream ((← session).stream? n) text

/-- Writes a text to the standard output. -/
def print (text : String) : Run Unit := do
  if !text.isEmpty then
    if !(← writeTo 1 text) then change fun s => { s with outputFailed := true }

/-- Writes a text to the standard error. -/
def printError (text : String) : Run Unit := do
  let _ ← writeTo 2 text

/-- Complains, saying where. -/
def warn (words : String) : Run Unit := do
  let s ← session
  let place := s!"{s.name}: {s.line}: "
  printError (match s.command with
    | some c => place ++ c ++ ": " ++ words ++ "\n"
    | none => place ++ words ++ "\n")

/-- Ends the shell because of a fault, or the command that looks out for one. -/
def fail (f : Fault) : Run α := do
  warn f.message
  setStatus 2
  throw .failed

/-- Ends the shell because of something that is said in words. -/
def failWith (words : String) : Run α := fail (.text words)

/-- Sets a variable or takes its value away. -/
def assign (name : String) (value : Option String) (exported readOnly : Bool := false) : Run Unit := do
  if !isName name.toList then fail (.badName name)
  let s ← session
  let old := (Members.get? s.bindings name).getD {}
  if old.readOnly then fail (.readOnly name)
  let v : Variable := ⟨value, old.exported || exported || s.has 'a', readOnly⟩
  let s := { s with bindings := Members.put s.bindings name v }
  change fun _ =>
    if name = "OPTIND" then
      let n := (value.bind Integer.count?).getD 1
      { s with optionIndex := if n = 0 then 1 else n, optionOffset := none }
    else s

/-- Takes a variable away. What comes after an equals sign does not count. -/
def unset (text : String) : Run Unit := do
  let name := String.ofList (text.toList.takeWhile (· != '='))
  if !isName name.toList then fail (.badName name)
  let s ← session
  match Members.get? s.bindings name with
  | none => return
  | some v =>
    if v.readOnly then fail (.readOnly name)
    change fun s => { s with bindings := s.bindings.filter (·.1 != name) }

/-- The count that a text is. -/
def count (text : String) : Run Nat :=
  match Integer.count? text with
  | some n => return n
  | none => fail (.illegalNumber text)

/-- Runs with other streams and puts the old ones back. -/
def keepingStreams (x : Run α) : Run α := do
  let table := (← session).table
  let r ← tryCatch (some <$> x) fun e => do
    change fun s => { s with table }
    throw e
  change fun s => { s with table }
  match r with
  | some a => return a
  | none => throw .failed

/-- Runs and does something at the end, however it ends. -/
def finally_ (x : Run α) (atEnd : Run Unit) : Run α := do
  let r ← tryCatch (Except.ok <$> x) fun e => return Except.error e
  atEnd
  match r with
  | .ok a => return a
  | .error e => throw e

/-- Runs and gives what came of it, or how it ended the shell. -/
def caught (x : Run α) : Run (Except Stop α) :=
  tryCatch (Except.ok <$> x) fun e => return Except.error e

end Run

end VariantForge.Shell
