import VariantForge.Shell.Builtin
import VariantForge.Shell.Expansion
import VariantForge.Shell.Reader
import VariantForge.Shell.Tool.Awk.Run
import VariantForge.Shell.Tool.Columns
import VariantForge.Shell.Tool.Contents
import VariantForge.Shell.Tool.Dump
import VariantForge.Shell.Tool.Edit.Editor
import VariantForge.Shell.Tool.Expression
import VariantForge.Shell.Tool.Files
import VariantForge.Shell.Tool.Find
import VariantForge.Shell.Tool.Listing
import VariantForge.Shell.Tool.Order
import VariantForge.Shell.Tool.Search
import VariantForge.Shell.Tool.Starting
import VariantForge.Shell.Tool.Words

/-!
Running scripts, and the programs that every machine has.

Commands run one after the other, those of a pipe too; a job that runs beside a shell waits until the shell
waits for it or ends. `fuel` bounds how deep and how long a script may go.
-/

/-! ## Programs -/

namespace VariantForge.Shell.Tool

/-- What each program does. -/
def all : List (String × (ToolCall → ToolResult)) :=
  [("[", condition), ("awk", awk), ("base64", base64), ("basename", basename), ("cat", cat), ("chmod", chmod),
    ("cmp", cmp), ("comm", comm), ("cp", cp), ("cut", cut), ("dirname", dirname), ("echo", echo), ("egrep", grep),
    ("expand", expand), ("expr", expr), ("false", fun c => { disk := c.disk, code := 1 }), ("fgrep", grep),
    ("find", find), ("fold", fold), ("grep", grep), ("head", head), ("ln", ln), ("ls", ls), ("mawk", awk),
    ("mkdir", mkdir), ("mktemp", mktemp), ("mv", mv), ("nl", nl), ("od", od), ("paste", paste), ("printenv", printenv),
    ("printf", printf), ("pwd", pwd), ("readlink", readlink), ("realpath", realpath), ("rev", rev), ("rm", rm),
    ("rmdir", rmdir), ("sed", sed), ("seq", seq), ("sleep", sleep), ("sort", sort), ("stat", stat),
    ("sync", fun c => done c.disk), ("tac", tac), ("tail", tail), ("tee", tee), ("test", condition), ("touch", touch),
    ("tr", tr), ("true", fun c => done c.disk), ("uname", uname), ("uniq", uniq), ("wc", wc), ("which", which),
    ("xargs", xargs), ("yes", yes)]

/-- The programs that tell of themselves under their own names, however they were called. -/
def plainNamed : List String := ["awk", "mawk", "rev", "setsid", "which"]

/-- Runs a program. -/
def run (c : ToolCall) : ToolResult :=
  match all.find? (·.1 == c.tool) with
  | some (_, f) => f c
  | none => done c.disk

end VariantForge.Shell.Tool

/-! ## Scripts -/

namespace VariantForge.Shell

/-- How a process ended. -/
inductive Ended where
  | status (n : Nat)
  | signal (n : Nat)
  deriving DecidableEq

namespace Ended

/-- The status that tells how a process ended. -/
def code : Ended → Nat
  | .status n => n % 256
  | .signal n => Signal.status n

/-- What is said of how a process ended. -/
def words : Ended → String
  | .status _ => ""
  | .signal n => if Signal.isQuiet n then "" else Signal.words n ++ "\n"

end Ended

open Run

/-- Whether an option is set. -/
def hasOption (c : Char) : Run Bool := return (← session).has c

/-- Gives up, since the bound is reached. -/
def exhausted : Run α := throw (.killed Signal.kill)

/-- Runs with streams that are put back under their numbers. -/
def restoring (numbers : List Nat) (x : Run α) : Run α := do
  let before ← session
  finally_ x (change fun s => numbers.foldl (fun s n => s.setStream n (before.stream? n)) s)

/-- Makes a number for a process. -/
def newProcess : Run Nat := do
  let m ← machine
  operate fun m => { m with processes := m.processes + 1 }
  return m.processes + 1

/-- The signals that were sent to this process, which are then taken away. -/
def received : Run (List Nat) := do
  let s ← get
  if s.machine.signals.isEmpty then return []
  let (mine, others) := s.machine.signals.partition (·.1 == s.session.process)
  operate fun m => { m with signals := others }
  return mine.map (·.2)

/-- Puts a shell back after one inside it has ended. Of that one only what it did to the machine is left. -/
def leaveFor (before : Session) : Run Unit := do
  change fun _ => before
  operate fun m => { m with disk := { m.disk with here := before.place } }

/-- A shell of its own inside another one. -/
def inside (process : Nat) (s : Session) : Session :=
  { s with process, traps := s.traps.filter (·.2.isEmpty), command := none, trapStatus := none }

/-- The jobs of a shell that wait, or all jobs that do. -/
def waiting : Run (List Job) := do
  return (← get).jobs.filter fun j => match j.state with
    | .waiting .. => true
    | .done .. => false

/-- Sends a signal to a job that has not begun; it then never does. -/
def killJob (process n : Nat) : Run Bool := do
  let s ← get
  match s.jobs.find? (·.process == process) with
  | none => return false
  | some j =>
    match j.state with
    | .waiting .. =>
      if !Signal.isHarmless n then
        let ended : Job := { j with state := .done (Signal.status n) s.machine.time (Ended.signal n).words }
        set { s with jobs := s.jobs.map fun (k : Job) => if k.process = process then ended else k }
      return true
    | .done _ finish _ => return s.machine.time < finish || true

/-- Sends a signal to a process. -/
def sendSignal (process n : Nat) : Run Bool := do
  let s ← session
  if process = s.process then
    match s.traps.find? (·.1 == n) with
    | some (_, action) =>
      if n = Signal.kill then throw (.killed n)
      if !action.isEmpty then operate fun m => { m with signals := m.signals ++ [(process, n)] }
    | none => if !Signal.isHarmless n then throw (.killed n)
    return true
  else if s.ancestors.contains process then
    operate fun m => { m with signals := m.signals ++ [(process, n)] }
    return true
  else killJob process n

/-- How signals are sent. -/
def killUsage : String :=
  "Usage: kill [-s sigspec | -signum | -sigspec] [pid | job]... or\nkill -l [exitstatus]"

/-- Sends signals, or tells of them. -/
def kill (arguments : List String) : Run Nat := do
  let direct := match arguments.head?.map String.toList with
    | some ('-' :: name) => Signal.ofText? 1 (String.ofList name)
    | _ => none
  let (found, targets) ← match direct with
    | some _ => pure ([], arguments.drop 1)
    | none => Builtin.options [('l', false), ('s', true)] (arguments.length + 2) arguments
  let listing := found.any (·.1 == 'l')
  let signal ← match direct, found.find? (·.1 == 's') with
    | some n, _ => pure n
    | none, none => pure Signal.terminate
    | none, some (_, name) =>
      match Signal.ofText? 1 name with
      | some n => pure n
      | none => failWith ("invalid signal number or name: " ++ name)
  if listing then
    match targets.head? with
    | none =>
      print ("0\n" ++ String.join ((List.range (Signal.limit - 1)).map fun n => Signal.name (n + 1) ++ "\n"))
    | some a =>
      let n ← count a
      let n := if 128 < n then n - 128 else n
      if 0 < n && n < Signal.limit then print (Signal.name n ++ "\n")
      else failWith ("invalid signal number or exit status: " ++ a)
    return 0
  if targets.isEmpty then failWith killUsage
  let mut status := 0
  for a in targets do
    if a.toList.head? == some '%' then failWith ("No such job: " ++ a)
    let n ← count (if a.toList.head? == some '-' then String.ofList (a.toList.drop 1) else a)
    if !(← sendSignal n signal) then
      warn "No such process\n"
      status := 1
  return status

/-- Tells a stream of a command that is about to run, where that is asked for. -/
def trace (stream? : Option Nat) (assignments words : List String) : Run Unit := do
  if ← hasOption 'x' then
    let before := ((← session).value? "PS4").getD ""
    let _ ← writeStream stream? (before ++ " ".intercalate (assignments ++ words) ++ "\n")

/-- Opens the words of a redirection that name a stream. -/
def streamNamed (text : String) : Run Opening :=
  match openingOf? text with
  | some o => return o
  | none => fail .badStreamNumber

/-- Reads the options of a shell from the front of its arguments. Says whether a text is to be run, and gives
the other arguments. -/
def shellOptions : Nat → List String → Run (Bool × List String)
  | 0, arguments => return (false, arguments)
  | fuel + 1, arguments => do
    match arguments with
    | [] => return (false, [])
    | a :: rest =>
      let letters (on : Bool) (cs : List Char) : Run (Bool × List String) := do
        let rest ← Builtin.setLetters on (cs.filter fun c => c != 'c' && c != 'l') rest
        let (text, others) ← shellOptions fuel rest
        return (text || (on && cs.contains 'c'), others)
      match a.toList with
      | ['-'] | ['-', '-'] => return (false, rest)
      | '-' :: cs => letters true cs
      | '+' :: cs => letters false cs
      | _ => return (false, arguments)

mutual

/-- Expands the pieces of a word. `inQuotes` says whether quotes are open, `first` where characters began
that may be split, and `atTilde` whether a tilde here stands for a home. -/
def expand : Nat → Mode → Bool → Nat → Bool → List Piece → Row → Run Row
  | 0, _, _, _, _, _, _ => exhausted
  | fuel + 1, m, inQuotes, first, atTilde, pieces, row => do
    let settled : Row :=
      if m.inner && !m.quoted && !inQuotes && first < row.items.size then row.allow first false else row
    let add (i : Item) (row : Row) : Row := if m.discarded then row else row.add i
    let onward (row : Row) (rest : List Piece) : Run Row := expand fuel m inQuotes row.items.size false rest row
    match pieces with
    | [] => return settled
    | .char c :: rest =>
      let s ← session
      match (if c = '~' && atTilde then tilde? s m row rest else none) with
      | some (row, rest) => onward row rest
      | none =>
        let begins := m.assignment && (c == ':' || (c == '=' && !m.valued))
        let m := if m.assignment && c == '=' then { m with valued := true } else m
        expand fuel m inQuotes first begins rest (add (.char c false) row)
    | .quoted c :: rest => onward (add (.char c true) settled) rest
    | .mark :: rest =>
      match inQuotes, rest with
      | false, .parameter "@" .value false [] :: .mark :: rest => do
        onward (← parameter fuel { m with quoted := true } "@" .value false [] settled) rest
      | _, _ =>
        let row := if m.keepsQuotes then add .mark settled else settled
        expand fuel m (!inQuotes) row.items.size false rest row
    | .parameter name use orBlank word :: rest => do
      onward (← parameter fuel { m with quoted := m.quoted || inQuotes } name use orBlank word settled) rest
    | .arithmetic expression :: rest => do
      if m.discarded then onward settled rest
      else
        let quoted := m.quoted || inQuotes
        let text := textOfRow (← expand fuel {} false 0 false expression {})
        let n ← evaluate text
        let at_ := settled.items.size
        let row := settled.addText (quoted && m.keepsQuotes) (toString n).toList
        onward (if quoted then row else row.allow at_ false) rest
    | .output script :: rest => do
      if m.discarded then onward settled rest
      else
        let quoted := m.quoted || inQuotes
        let text ← outputOf fuel script
        let at_ := settled.items.size
        let row := settled.addText (quoted && m.keepsQuotes) text
        onward (if quoted then row else row.allow at_ false) rest
  termination_by structural fuel => fuel

/-- Expands a parameter. -/
def parameter : Nat → Mode → String → Use → Bool → List Piece → Row → Run Row
  | 0, _, _, _, _, _, _ => exhausted
  | fuel + 1, m, name, use, orBlank, word, row => do
    if use = .bad then
      if m.discarded then return row else fail .badSubstitution
    let s ← session
    let value := parameterValue? s m name
    let isSet := value.any fun v => !(orBlank && v.isEmpty)
    let first := row.items.size
    let put (row : Row) : Row := row.addText (m.quoted && m.keepsQuotes) (value.getD [])
    let unset : Run Unit := do
      if !isSet && !m.discarded && s.has 'u' then fail (.unset name false)
    match use with
    | .bad => return row
    | .value =>
      unset
      if m.discarded || !isSet then return row
      return recorded s m name first (put row)
    | .size =>
      unset
      if m.discarded then return row
      return recorded s m name first (row.addText false (toString (value.getD []).length).toList)
    | .default =>
      let row := if m.discarded then row else put row
      let inner := { m with tilde := true, inner := true, discarded := m.discarded || isSet }
      let row ← expand fuel inner false row.items.size true word row
      return if m.discarded || !isSet then row else recorded s m name first row
    | .alternative =>
      let inner := { m with tilde := true, inner := true, discarded := m.discarded || !isSet }
      let row ← expand fuel inner false row.items.size true word row
      return if m.discarded || isSet then row else recorded s m name first row
    | .assign =>
      if m.discarded then return row
      if isSet then return recorded s m name first (put row)
      let text := textOfRow (← expand fuel Mode.text false 0 true word {})
      assign name (some text)
      parameter fuel m name .value false [] row
    | .require =>
      if m.discarded then return row
      if isSet then return recorded s m name first (put row)
      let text := textOfRow (← expand fuel Mode.text false 0 true word {})
      if word.isEmpty then fail (.unset name orBlank) else fail (.required name text)
    | .withoutFront _ | .withoutEnd _ =>
      unset
      if m.discarded || !isSet then return row
      let pattern ← expand fuel Mode.matching false 0 true word {}
      return recorded s m name first
        (trimmed (put row) first use (Item.pattern true pattern.items.toList))
  termination_by structural fuel => fuel

/-- What commands write to the standard output. -/
def outputOf : Nat → Option Command → Run (List Char)
  | 0, _ => exhausted
  | fuel + 1, script => do
    match script with
    | none =>
      change fun s => { s with outputStatus := 0 }
      return []
    | some c =>
      let m ← machine
      let pipe := m.pipes + 1
      let (k, m) := { m with pipes := pipe }.open_ (.sink pipe false)
      operate fun _ => m
      let ended ← isolated fuel do
        change fun s => s.setStream 1 (some k)
        runCommand fuel false c
      settleJobs fuel
      let m ← machine
      let bytes := m.through pipe
      operate fun m => { m with written := m.written.filter (·.pipe != pipe) }
      printError ended.words
      change fun s => { s with outputStatus := ended.code }
      return outputText bytes
  termination_by structural fuel => fuel

/-- The texts that words stand for. -/
def textsOfWords : Nat → List Word → Run (List String)
  | 0, _ => exhausted
  | _, [] => return []
  | fuel + 1, w :: rest => do
    let row ← expand fuel Mode.words false 0 true w {}
    let found := textsOf (← session) (← machine).disk row
    return found ++ (← textsOfWords fuel rest)
  termination_by structural fuel => fuel

/-- The texts that the first words stand for that stand for any, with the words after them. -/
def firstTexts : Nat → List Word → Run (List String × List Word)
  | 0, _ => exhausted
  | _, [] => return ([], [])
  | fuel + 1, w :: rest => do
    match ← textsOfWords fuel [w] with
    | [] => firstTexts fuel rest
    | found => return (found, rest)
  termination_by structural fuel => fuel

/-- The texts that words stand for where some may be assignments, which are not split. -/
def textsOfAssigning : Nat → List Word → Run (List String)
  | 0, _ => exhausted
  | _, [] => return []
  | fuel + 1, w :: rest => do
    let found ←
      if Word.isAssignment w then pure [← textOf fuel Mode.assigning w] else textsOfWords fuel [w]
    return found ++ (← textsOfAssigning fuel rest)
  termination_by structural fuel => fuel

/-- The single text that a word stands for. -/
def textOf : Nat → Mode → Word → Run String
  | 0, _, _ => exhausted
  | fuel + 1, m, w => do
    return textOfRow (← expand fuel m false 0 m.tilde w {})
  termination_by structural fuel => fuel

/-- What redirections open. -/
def openings : Nat → List Redirect → Run (List (Nat × Opening))
  | 0, _ => exhausted
  | _, [] => return []
  | fuel + 1, .mk n kind target document :: rest => do
    let o ← match kind with
      | .document => pure (.text document)
      | .duplicate _ => do streamNamed (← textOf fuel Mode.text target)
      | kind => pure (.path kind (← textOf fuel Mode.text target))
    return (n, o) :: (← openings fuel rest)
  termination_by structural fuel => fuel

/-- Opens redirections in order. -/
def redirect : Nat → List (Nat × Opening) → Run Unit
  | 0, _ => exhausted
  | _, [] => return
  | fuel + 1, (n, o) :: rest => do
    match o with
    | .text document =>
      let d := ((← session).documents[document]?).getD default
      let text ←
        if d.expanded then textOf fuel Mode.document d.body else pure (String.ofList (Word.bare d.body))
      let (k, m) := (← machine).open_ (.source (Octets.bytes text) 0)
      operate fun _ => m
      change fun s => s.setStream n (some k)
    | o => open_ n o
    redirect fuel rest
  termination_by structural fuel => fuel

/-- Opens redirections; false if a fault was told of. -/
def redirectSafely : Nat → List (Nat × Opening) → Run Bool
  | 0, _ => exhausted
  | fuel + 1, os => do
    match ← caught (redirect fuel os) with
    | .ok _ => return true
    | .error .failed => return false
    | .error e => throw e
  termination_by structural fuel => fuel

/-- Runs in a shell of its own. -/
def isolated : Nat → Run Nat → Run Ended
  | 0, _ => exhausted
  | fuel + 1, x => do
    let before ← session
    let process ← newProcess
    change fun s => { inside process s with ancestors := s.process :: s.ancestors }
    let ended ← finish fuel (← caught x)
    leaveFor before
    takeSignals fuel
    return ended
  termination_by structural fuel => fuel

/-- Ends a shell: runs what it does at its end. -/
def finish : Nat → Except Stop Nat → Run Ended
  | 0, _ => return .signal Signal.kill
  | fuel + 1, r => do
    match r with
    | .error (.killed n) => return .signal n
    | r =>
      if let .ok n := r then setStatus n
      let s ← session
      match s.traps.find? (·.1 == 0) with
      | none => return .status s.status
      | some (_, action) =>
        change fun s =>
          { s with traps := s.traps.filter (·.1 != 0), skip := .no, trapStatus := some s.status }
        match ← caught (runText fuel false action) with
        | .ok _ => return .status s.status
        | .error (.killed n) => return .signal n
        | .error _ => return .status (← session).status
  termination_by structural fuel => fuel

/-- Does what is to be done for the signals that came. -/
def takeSignals : Nat → Run Unit
  | 0 => exhausted
  | fuel + 1 => do
    for n in ← received do
      let s ← session
      match s.traps.find? (·.1 == n) with
      | some (_, action) =>
        if n = Signal.kill then throw (.killed n)
        if !action.isEmpty then
          let _ ← runText fuel false action
          setStatus s.status
      | none => if !Signal.isHarmless n then throw (.killed n)
  termination_by structural fuel => fuel

/-- Lets the jobs run that wait. -/
def settleJobs : Nat → Run Unit
  | 0 => exhausted
  | fuel + 1 => do
    for j in ← waiting do runJob fuel j
  termination_by structural fuel => fuel

/-- Lets a job run. -/
def runJob : Nat → Job → Run Unit
  | 0, _ => exhausted
  | fuel + 1, j => do
    match j.state with
    | .done .. => return
    | .waiting s c start =>
      let before ← session
      let now := (← machine).time
      leaveFor s
      operate fun m => { m with time := start }
      modify fun st => { st with jobs := st.jobs.filter (·.process != j.process) }
      let ended ← finish fuel (← caught (runCommand fuel false c))
      let finished := (← machine).time
      operate fun m => { m with time := now }
      leaveFor before
      modify fun st =>
        { st with jobs := st.jobs ++ [{ j with state := .done ended.code finished ended.words }] }
  termination_by structural fuel => fuel

/-- Waits for jobs. -/
def wait : Nat → List String → Run Nat
  | 0, _ => exhausted
  | fuel + 1, arguments => do
    let (_, names) ← Builtin.flags "" arguments
    settleJobs fuel
    let own := (← session).process
    let catchUp (j : Job) : Run Unit := match j.state with
      | .done _ finish _ => operate fun m => { m with time := max m.time finish }
      | .waiting .. => return
    if names.isEmpty then
      for j in (← get).jobs do if j.owner = own then catchUp j
      return 0
    let mut status := 127
    for name in names do
      if name.toList.head? == some '%' then failWith ("No such job: " ++ name)
      let n ← count name
      match (← get).jobs.find? fun j => j.process = n && j.owner = own with
      | none => status := 127
      | some j =>
        catchUp j
        if let .done code _ words := j.state then
          printError words
          modify fun st => { st with jobs := st.jobs.map fun k =>
            if k.process = n then { k with state := .done code 0 "" } else k }
          status := code
    return status
  termination_by structural fuel => fuel

/-- Lets a command run beside the shell. -/
def startJob : Nat → Command → List (Nat × Opening) → Run Nat
  | 0, _, _ => exhausted
  | fuel + 1, c, os => do
    let s ← get
    let process ← newProcess
    let before ← session
    change fun s => { inside process s with ancestors := s.process :: s.ancestors }
    let (k, m) := (← machine).open_ .nothing
    operate fun _ => m
    change fun s => s.setStream 0 (some k)
    let ok ← redirectSafely fuel os
    let inner ← session
    leaveFor before
    let state : JobState := if ok then .waiting inner c s.machine.time else .done 2 s.machine.time ""
    modify fun st => { st with jobs := st.jobs ++ [⟨process, before.process, state⟩] }
    change fun s => { s with lastJob := some process }
    return 0
  termination_by structural fuel => fuel

/-- Runs the commands of a text. -/
def runText : Nat → Bool → String → Run Nat
  | 0, _, _ => exhausted
  | fuel + 1, tested, text => runFrom fuel tested { rest := text.toList } 0
  termination_by structural fuel => fuel

/-- Runs the rest of a text; `last` is the status so far. -/
def runFrom : Nat → Bool → Position → Nat → Run Nat
  | 0, _, _, _ => exhausted
  | fuel + 1, tested, p, last => do
    let s ← session
    match { p with aliases := s.aliases, documents := s.documents }.next with
    | .error (line, f) =>
      change fun s => { s with line }
      fail (.form f)
    | .ok (.finish, _) => return last
    | .ok (.command c?, q) =>
      change fun s => { s with documents := q.documents }
      match c? with
      | none => runFrom fuel tested q last
      | some c =>
        let n ← runCommand fuel tested c
        if (← session).skip = .no then runFrom fuel tested q n else return n
  termination_by structural fuel => fuel

/-- Runs a command. `tested` says that something looks at its status, so that a failure does not end the
shell. -/
def runCommand : Nat → Bool → Command → Run Nat
  | 0, _, _ => exhausted
  | fuel + 1, tested, c => do
    if ← hasOption 'n' then return 0
    takeSignals fuel
    let checked (n : Nat) : Run Nat := do
      setStatus n
      if n != 0 && !tested && (← hasOption 'e') then throw .finished
      return n
    let plain (n : Nat) : Run Nat := do
      setStatus n
      return n
    let n ← match c with
      | .negated body => do plain (if (← runCommand fuel true body) = 0 then 1 else 0)
      | .redirected line body redirects => do
        change fun s => { s with line }
        let os ← openings fuel redirects
        plain (← restoring (os.map (·.1)) do
          if ← redirectSafely fuel os then runCommand fuel tested body else return 2)
      | .simple line assignments words redirects => do
        change fun s => { s with line }
        checked (← runSimple fuel tested assignments words redirects)
      | .isolated line body redirects => do
        change fun s => { s with line }
        let os ← openings fuel redirects
        let ended ← isolated fuel do
          redirect fuel os
          runCommand fuel tested body
        printError ended.words
        checked ended.code
      | .background line body redirects => do
        change fun s => { s with line }
        checked (← startJob fuel body (← openings fuel redirects))
      | .pipe true stages => do checked (← startJob fuel (.pipe false stages) [])
      | .pipe false stages => do
        let last ← runStages fuel tested stages none
        checked last.code
      | .each line name words body => do
        change fun s => { s with line }
        let values ← textsOfWords fuel words
        change fun s => { s with loops := s.loops + 1 }
        plain (← finally_ (runEach fuel tested name body values 0)
          (change fun s => { s with loops := s.loops - 1 }))
      | .loop untilTrue condition body => do
        change fun s => { s with loops := s.loops + 1 }
        plain (← finally_ (runLoop fuel tested untilTrue condition body 0)
          (change fun s => { s with loops := s.loops - 1 }))
      | .select line w arms => do
        change fun s => { s with line }
        let text ← textOf fuel Mode.text w
        plain (← runArms fuel tested text.toList arms)
      | .choice condition body otherwise => do
        let n ← runCommand fuel true condition
        if (← session).skip != .no then return n
        else if n = 0 then plain (← runCommand fuel tested body)
        else match otherwise with
          | some other => do plain (← runCommand fuel tested other)
          | none => plain 0
      | .define _ name body => do
        change fun s => { s with functions := ⟨name, body⟩ :: s.functions.filter (·.name != name) }
        plain 0
      | .sequence first second => do
        let n ← runCommand fuel tested first
        if (← session).skip != .no then return n else plain (← runCommand fuel tested second)
      | .both first second => do
        let n ← runCommand fuel true first
        if n != 0 || (← session).skip != .no then return n else plain (← runCommand fuel tested second)
      | .either first second => do
        let n ← runCommand fuel true first
        if n = 0 || (← session).skip != .no then return n else plain (← runCommand fuel tested second)
    takeSignals fuel
    return n
  termination_by structural fuel => fuel

/-- Runs a loop over values; `last` is the status so far. -/
def runEach : Nat → Bool → String → Command → List String → Nat → Run Nat
  | 0, _, _, _, _, _ => exhausted
  | _, _, _, _, [], last => return last
  | fuel + 1, tested, name, body, v :: rest, _ => do
    assign name (some v)
    let n ← runCommand fuel tested body
    match ← endRound with
    | .onward | .again => runEach fuel tested name body rest n
    | .leave | .back => return n
  termination_by structural fuel => fuel

/-- Runs a loop with a condition; `last` is the status so far. -/
def runLoop : Nat → Bool → Bool → Command → Command → Nat → Run Nat
  | 0, _, _, _, _, _ => exhausted
  | fuel + 1, tested, untilTrue, condition, body, last => do
    let n ← runCommand fuel true condition
    match ← endRound with
    | .back => return n
    | .leave => return last
    | .again => runLoop fuel tested untilTrue condition body last
    | .onward =>
      if (n == 0) == untilTrue then return last
      let n ← runCommand fuel tested body
      match ← endRound with
      | .onward | .again => runLoop fuel tested untilTrue condition body n
      | .leave | .back => return n
  termination_by structural fuel => fuel

/-- Runs the first arm of a choice that has a pattern which fits a text. -/
def runArms : Nat → Bool → List Char → List (List Word × Option Command) → Run Nat
  | 0, _, _, _ => exhausted
  | _, _, _, [] => return 0
  | fuel + 1, tested, text, (patterns, body) :: rest => do
    if (← session).skip != .no then return 0
    if ← fitsAny fuel text patterns then
      match body with
      | some c => runCommand fuel tested c
      | none => return 0
    else runArms fuel tested text rest
  termination_by structural fuel => fuel

/-- Whether one of some patterns fits a text. -/
def fitsAny : Nat → List Char → List Word → Run Bool
  | 0, _, _ => exhausted
  | _, _, [] => return false
  | fuel + 1, text, w :: rest => do
    let row ← expand fuel Mode.matching false 0 true w {}
    if Glob.fits (Glob.squeezed (Item.pattern true row.items.toList)) text then return true
    else fitsAny fuel text rest
  termination_by structural fuel => fuel

/-- Runs the stages of a pipe, each with the output of the one before as its input. -/
def runStages : Nat → Bool → List Command → Option ByteArray → Run Ended
  | 0, _, _, _ => exhausted
  | _, _, [], _ => return .status 0
  | fuel + 1, tested, stage :: rest, input => do
    let m ← machine
    let (source, m) := match input with
      | some bytes => let (k, m) := m.open_ (.source bytes 0); (some k, m)
      | none => (none, m)
    let pipe := m.pipes + 1
    let (sink, m) := if rest.isEmpty then (none, m)
      else let (k, m) := { m with pipes := pipe }.open_ (.sink pipe false); (some k, m)
    operate fun _ => m
    let ended ← isolated fuel do
      if source.isSome then change fun s => s.setStream 0 source
      if sink.isSome then change fun s => s.setStream 1 sink
      runCommand fuel tested stage
    if rest.isEmpty then
      printError ended.words
      return ended
    else
      settleJobs fuel
      let bytes := (← machine).through pipe
      operate fun m => { m with written := m.written.filter (·.pipe != pipe) }
      let last ← runStages fuel tested rest (some bytes)
      printError ended.words
      return last
  termination_by structural fuel => fuel

/-- Runs a simple command. -/
def runSimple : Nat → Bool → List Word → List Word → List Redirect → Run Nat
  | 0, _, _, _, _ => exhausted
  | fuel + 1, tested, assignments, words, redirects => do
    change fun s => { s with outputStatus := 0 }
    let (texts, rest) ← firstTexts fuel words
    let (texts, rest, direct, standard) ← prefixed fuel texts rest false
    let s ← session
    let name := texts.head?
    let function? := if direct then none else s.functions.find? fun f => name == some f.name
    let builtin := function?.isNone && name.any builtinNames.contains
    let special := builtin && !direct && name.any isSpecial
    let more ←
      if builtin && name.any takesAssignments then textsOfAssigning fuel rest else textsOfWords fuel rest
    let texts := texts ++ more
    let os ← openings fuel redirects
    let kept := name.isSome && !special
    let execs := builtin && name == some "exec"
    let numbers := if execs then [] else os.map (·.1)
    restoring numbers do
      if !(← redirectSafely fuel os) then
        setStatus 2
        if special then throw .failed
        return 2
      if kept then change fun s => { s with kept := [] :: s.kept }
      finally_
        (do
          let shown ← assignAll fuel kept (execs && 1 < texts.length) assignments
          trace (s.stream? 2) shown ((if direct then ["command"] else []) ++ texts)
          match name, function? with
          | none, _ => return (← session).outputStatus
          | some _, some f => callFunction fuel tested f (texts.drop 1)
          | some name, none =>
            if builtin then runBuiltin fuel tested special name (texts.drop 1)
            else
              match ← runProgram fuel standard name (texts.drop 1) with
              | some ended =>
                printError ended.words
                return ended.code
              | none => return 127)
        (do
          if kept then
            match (← session).kept with
            | ks :: outer =>
              change fun s => { s with kept := outer }
              Builtin.putBack ks
            | [] => return)
  termination_by structural fuel => fuel

/-- Takes a first word away that says that the next one is no function. Says whether there was one, and
whether programs are to be looked for in the usual directories. -/
def prefixed : Nat → List String → List Word → Bool → Run (List String × List Word × Bool × Bool)
  | 0, _, _, _ => exhausted
  | fuel + 1, texts, rest, standard => do
    let s ← session
    let named := texts.head? == some "command" && !s.functions.any (·.name == "command")
    if !named then return (texts, rest, false, standard)
    else
      let (after, rest) ← moreTexts fuel (texts.drop 1) rest
      match after with
      | [] => return (texts, rest, false, standard)
      | a :: others =>
        match a.toList with
        | ['-', '-'] =>
          let (after, rest) ← moreTexts fuel others rest
          if after.isEmpty then return ("command" :: after, rest, false, standard)
          else direct fuel after rest standard
        | '-' :: c :: cs =>
          if (c :: cs).all (· == 'p') then
            let (after, rest) ← moreTexts fuel others rest
            if after.isEmpty then return (["command"], rest, false, true)
            else if (after.head?.any fun w => w.toList.head? == some '-') then
              let (texts, rest, d, _) ← prefixed fuel ("command" :: after) rest true
              return (texts, rest, d, true)
            else direct fuel after rest true
          else return ("command" :: after, rest, false, standard)
        | _ => direct fuel after rest standard
  termination_by structural fuel => fuel

/-- The texts after a word that says that the next one is no function. -/
def direct : Nat → List String → List Word → Bool → Run (List String × List Word × Bool × Bool)
  | 0, _, _, _ => exhausted
  | fuel + 1, texts, rest, standard => do
    if texts.head? == some "command" then
      let (texts, rest, _, standard) ← prefixed fuel texts rest standard
      return (texts, rest, true, standard)
    else return (texts, rest, true, standard)
  termination_by structural fuel => fuel

/-- Texts, or those of the next words if there are none. -/
def moreTexts : Nat → List String → List Word → Run (List String × List Word)
  | 0, _, _ => exhausted
  | fuel + 1, texts, rest => if texts.isEmpty then firstTexts fuel rest else return (texts, rest)
  termination_by structural fuel => fuel

/-- Assigns words to variables, which belong to the command if `kept` says so; gives their texts. -/
def assignAll : Nat → Bool → Bool → List Word → Run (List String)
  | 0, _, _, _ => exhausted
  | _, _, _, [] => return []
  | fuel + 1, kept, exported, w :: rest => do
    let text ← textOf fuel Mode.assigning w
    if kept then Builtin.makeLocal text true
    else
      let (name, value) := Builtin.assignment text
      assign name value exported
    return text :: (← assignAll fuel kept exported rest)
  termination_by structural fuel => fuel

/-- Runs a function. -/
def callFunction : Nat → Bool → Function → List String → Run Nat
  | 0, _, _, _ => exhausted
  | fuel + 1, tested, f, arguments => do
    let before ← session
    change fun s => { s with
      arguments, loops := 0, functionDepth := s.functionDepth + 1, optionIndex := 1, optionOffset := none }
    let _ ← finally_ (runCommand fuel tested f.body) (change fun s => { s with
      arguments := before.arguments, loops := before.loops, functionDepth := before.functionDepth
      optionIndex := before.optionIndex, optionOffset := before.optionOffset
      skip := if s.skip = .back then .no else s.skip })
    return (← session).status
  termination_by structural fuel => fuel

/-- Runs a command of the shell itself. A fault ends the shell only where the command is a special one. -/
def runBuiltin : Nat → Bool → Bool → String → List String → Run Nat
  | 0, _, _, _, _ => exhausted
  | fuel + 1, tested, special, name, arguments => do
    let before ← session
    change fun s => { s with command := some name, outputFailed := false }
    let r ← caught do
      let n ← match Builtin.run? name arguments with
        | some x => x
        | none => runSpecial fuel tested name arguments
      if (← session).outputFailed then
        warn (name ++ ": I/O error")
        return n ||| 1
      else return n
    change fun s => { s with command := before.command, outputFailed := before.outputFailed }
    match r with
    | .ok n => return n
    | .error .failed => if special then throw .failed else return (← session).status
    | .error e => throw e
  termination_by structural fuel => fuel

/-- Runs a command of the shell itself that starts other commands. -/
def runSpecial : Nat → Bool → String → List String → Run Nat
  | 0, _, _, _ => exhausted
  | fuel + 1, tested, name, arguments => do
    match name with
    | "eval" => if arguments.isEmpty then return 0 else runText fuel tested (" ".intercalate arguments)
    | "wait" => wait fuel arguments
    | "kill" => kill arguments
    | "." =>
      match arguments.head? with
      | none => return 0
      | some file =>
        let s ← session
        let d := (← machine).disk
        let path? :=
          if Program.isPath file then some file
          else ((s.searchPath.splitOn ":").map fun dir => Program.below dir file).find? fun p =>
            d.isFile (Octets.toString p)
        match path? with
        | none => failWith (file ++ ": not found")
        | some path =>
          let m ← machine
          match m.openPath s.table s.mask path .read false with
          | .error r => fail (openFault .read path r)
          | .ok (stream, m) =>
            let (k, m) := m.open_ stream
            let bytes := (m.ahead k Builtin.lineLimit).getD .empty
            operate fun _ => m
            change fun s => { s with command := some path }
            let n ← runText fuel false (String.ofList (Octets.ofBytes bytes).toList)
            change fun s => { s with skip := if s.skip = .back then .no else s.skip }
            return n
    | "exec" =>
      let (_, arguments) ← Builtin.flags "" arguments
      match arguments with
      | [] => return 0
      | program :: rest =>
        match ← runProgram fuel false program rest with
        | some (.status n) =>
          setStatus n
          change fun s => { s with traps := [] }
          throw .finished
        | some (.signal n) => throw (.killed n)
        | none =>
          setStatus 127
          throw .finished
    | "command" =>
      let (fs, names) ← Builtin.flags "pvV" arguments
      if fs.contains 'v' then Builtin.describe true names
      else if fs.contains 'V' then Builtin.describe false names
      else return 0
    | _ => return 0
  termination_by structural fuel => fuel

/-- Runs a program that is found by its name; none if there is none. -/
def runProgram : Nat → Bool → String → List String → Run (Option Ended)
  | 0, _, _, _ => exhausted
  | fuel + 1, standard, name, arguments => do
    let s ← session
    let d := (← machine).disk
    let path := if standard then ({} : Session).searchPath else s.searchPath
    let reason (r : DiskReason) : String :=
      if r = .missing || r = .notDirectory then "not found" else reasonText r
    if Program.isPath name then
      match Program.atPath d name with
      | .ok p => return some (← launch fuel name p arguments)
      | .error r =>
        warn (name ++ ": " ++ reason r)
        let absent := [DiskReason.missing, .notDirectory, .tooManyLinks, .nameTooLong].contains r
        return some (.status (if absent then 127 else 126))
    else
      match Program.locate d path name with
      | .error r =>
        warn (name ++ ": " ++ reason r)
        return none
      | .ok path =>
        match Program.atPath d path with
        | .ok p => return some (← launch fuel name p arguments)
        | .error r =>
          warn (name ++ ": " ++ reason r)
          return some (.status (if r = .missing then 127 else 126))
  termination_by structural fuel => fuel

/-- Runs a program that was found, as a process of its own. -/
def launch : Nat → String → Program → List String → Run Ended
  | 0, _, _, _ => exhausted
  | fuel + 1, name, p, arguments => do
    let before ← session
    let process ← newProcess
    change fun s => { inside process s with ancestors := s.process :: s.ancestors }
    let r ← caught (execute fuel name p arguments)
    leaveFor before
    match r with
    | .ok ended =>
      takeSignals fuel
      return ended
    | .error (.killed n) => return .signal n
    | .error _ => return .status (← session).status
  termination_by structural fuel => fuel

/-- What a program does in its process. -/
def execute : Nat → String → Program → List String → Run Ended
  | 0, _, _, _ => exhausted
  | fuel + 1, name, p, arguments => do
    let arguments := p.front ++ arguments
    match p.tool with
    | "sh" | "dash" | "bash" => startShell fuel (if p.front.isEmpty then name else "/bin/sh") arguments
    | tool =>
      let s ← get
      let stream? := s.session.stream? 0
      let input := (stream?.bind fun k => s.machine.ahead k 16777216).getD .empty
      let inputIsFile := match stream?.bind (s.machine.streams[·]?) with
        | some (.file ..) => true
        | _ => false
      let call : ToolCall :=
        { tool, name := if Tool.plainNamed.contains tool then tool else name, arguments, environment := s.session.environment, disk := s.machine.disk, input
          inputIsFile, mask := s.session.mask }
      let made ← match Tool.starters.find? (·.1 == tool) with
        | none => pure (Except.error (Tool.run call))
        | some (_, starter) => pure (starter call)
      match made with
      | .ok start => startOther fuel call start
      | .error r => conclude fuel call stream? r
  termination_by structural fuel => fuel

/-- Does what a program made, which reads the given stream. -/
def conclude : Nat → ToolCall → Option Nat → ToolResult → Run Ended
  | 0, _, _, _ => exhausted
  | fuel + 1, c, stream?, r => do
    operate fun m => { m with disk := { r.disk with here := m.disk.here } }
    match stream? with
    | some k => operate fun m => m.pass k r.used
    | none => pure ()
    let code ← perform fuel c r.effects r.code
    if 0 < r.time then
      operate fun m => { m with time := m.time + r.time }
      settleJobs fuel
    return .status code
  termination_by structural fuel => fuel

/-- Does what a program does for others to see; `code` is its code so far. -/
def perform : Nat → ToolCall → List Effect → Nat → Run Nat
  | 0, _, _, _ => exhausted
  | _, _, [], code => return code
  | fuel + 1, c, effect :: rest, code => do
    match effect with
    | .output text =>
      let _ ← writeTo 1 text
      perform fuel c rest code
    | .error text =>
      let _ ← writeTo 2 text
      perform fuel c rest code
    | .start [] _ => perform fuel c rest code
    | .start (name :: arguments) input =>
      let before ← session
      if let some text := input then
        let (k, m) := (← machine).open_ (.source (Octets.bytes text) 0)
        operate fun _ => m
        change fun s => s.setStream 0 (some k)
      let ended ← match Program.find (← machine).disk before.searchPath name with
        | .ok p => do pure (Except.ok (← launch fuel name p arguments))
        | .error r => pure (Except.error r)
      change fun s => s.setStream 0 (before.stream? 0)
      match ended, c.tool with
      | .error r, _ =>
        printError (Tool.unstarted c name r)
        if c.tool = "xargs" then return (if r = .missing then 127 else 126) else perform fuel c rest (max code 1)
      | .ok (.status 255), "xargs" =>
        printError s!"{c.name}: {name}: exited with status 255; aborting\n"
        return 124
      | .ok (.status n), "xargs" => perform fuel c rest (if n = 0 then code else 123)
      | .ok (.signal n), "xargs" =>
        printError s!"{c.name}: {name}: terminated by signal {n}\n"
        return 125
      | _, _ => perform fuel c rest code
  termination_by structural fuel => fuel

/-- Starts a program in the place of one that names it. -/
def startOther : Nat → ToolCall → Start → Run Ended
  | 0, _, _ => exhausted
  | fuel + 1, c, start => do
    change fun s =>
      let others := s.bindings.map fun v => (v.1, { v.2 with exported := false })
      { s with bindings := start.environment.foldl (fun vs v =>
          Members.put vs v.1 { value := some v.2, exported := true }) others }
    if let some p := start.directory then
      change fun s => { s with place := p }
      operate fun m => { m with disk := { m.disk with here := p } }
    match start.words with
    | [] => return .status 0
    | name :: rest =>
      match Program.find (← machine).disk (← session).searchPath name with
      | .error r =>
        printError (Tool.unstarted c name r)
        return .status (if r = .missing then 127 else 126)
      | .ok p =>
        let began := (← machine).time
        let ended ← launch fuel name p rest
        match start.most with
        | none => return ended
        | some most =>
          let limit := began + most
          if (← machine).time ≤ limit then return ended
          operate fun m => { m with time := limit, written := m.written.filter (·.time ≤ limit) }
          if start.signal = Signal.kill then return .signal start.signal
          else return .status (if start.keeps then Signal.status start.signal else 124)
  termination_by structural fuel => fuel

/-- Starts another shell: for a text, for a file, or for its input. -/
def startShell : Nat → String → List String → Run Ended
  | 0, _, _ => exhausted
  | fuel + 1, name, arguments => do
    let old ← session
    change fun _ => Session.fresh old name
    let r ← caught (runShell fuel arguments)
    finish fuel r
  termination_by structural fuel => fuel

/-- Reads the options of a shell and runs its script. -/
def runShell : Nat → List String → Run Nat
  | 0, _ => exhausted
  | fuel + 1, arguments => do
    let (text?, rest) ← shellOptions (arguments.length + 1) arguments
    match text?, rest with
    | true, [] => failWith "-c requires an argument"
    | true, text :: rest =>
      change fun s => { s with name := rest.head?.getD s.name, arguments := rest.drop 1 }
      runText fuel false text
    | false, file :: rest =>
      if ← hasOption 's' then
        change fun s => { s with arguments := file :: rest }
        runInput fuel
      else
        let s ← session
        match (← machine).openPath s.table s.mask file .read false with
        | .error r => fail (openFault .read file r)
        | .ok (stream, m) =>
          let (k, m) := m.open_ stream
          operate fun _ => m
          change fun s => { s with name := file, arguments := rest }
          runText fuel false (Octets.ofBytes ((m.ahead k Builtin.lineLimit).getD .empty))
    | false, [] =>
      change fun s => { s with options := 's' :: s.options }
      runInput fuel
  termination_by structural fuel => fuel

/-- Runs the commands that the input holds. -/
def runInput : Nat → Run Nat
  | 0 => exhausted
  | fuel + 1 => do
    let s ← get
    match s.session.stream? 0 with
    | none => return 0
    | some k =>
      let bytes := (s.machine.ahead k Builtin.lineLimit).getD .empty
      operate fun m => m.pass k bytes.size
      runText fuel false (Octets.ofBytes bytes)
  termination_by structural fuel => fuel

end

end VariantForge.Shell
