import VariantForge.Shell.Tool.Edit.Script

/-!
Running a script on a stream of lines.
-/

namespace VariantForge.Shell.Edit

/-- A line of the input, the file that it is from, and whether it has an end. -/
structure Input where
  file : String
  text : List Char
  ended : Bool

/-- Where a range that has begun ends: at a line of some number, or where its own end says. -/
inductive Until where
  | line (n : Nat)
  | address

/-- What is added after a line: a text, or what a file holds. -/
inductive Added where
  | text (cs : List Char)
  | file (name : String)

/-- An editor at work: the pattern space and the hold space, the lines that are left, what it did for
others to see in reverse order, and the ranges that have begun, each by the number of its command. -/
structure Editor where
  disk : Disk
  mask : Nat
  space : List Char := []
  held : List Char := []
  number : Nat := 0
  file : String := "-"
  ended : Bool := true
  rest : List Input := []
  effects : List Effect := []
  unended : Bool := false
  queue : List Added := []
  ranges : List (Nat × Until) := []
  changed : Bool := false
  pattern : Option Regular := none
  quiet : Bool := false
  code : Nat := 0

/-- How the commands end for a line: at their end, with the line taken away, so that they begin again, or
with the whole script. -/
inductive Outcome where
  | finished
  | deleted
  | again
  | quit (prints : Bool)

/-- Operations of an editor. -/
abbrev Work := StateM Editor

/-- Writes a text to the output. -/
def emit (cs : List Char) (ended : Bool := true) : Work Unit :=
  modify fun s =>
    let text := (if s.unended then ['\n'] else []) ++ cs ++ (if ended then ['\n'] else [])
    { s with effects := .output (String.ofList text) :: s.effects, unended := !ended }

/-- Writes a text to a file. -/
def emitTo (file : String) (cs : List Char) : Work Unit := do
  let s ← get
  if file = "/dev/stdout" then emit cs s.ended
  else if file = "/dev/stderr" then set { s with effects := .error (String.ofList (cs ++ ['\n'])) :: s.effects }
  else
    let c : ToolCall := { tool := "sed", arguments := [], disk := s.disk, mask := s.mask }
    match Tool.save c s.disk file true (Octets.bytes (String.ofList (cs ++ ['\n']))) with
    | .ok disk => set { s with disk }
    | .error _ => return

/-- Writes what is to be added after a line. -/
def flush : Work Unit := do
  let s ← get
  set { s with queue := [] }
  for a in s.queue do
    match a with
    | .text cs =>
      if !cs.isEmpty then emit (if cs.getLast? == some '\n' then cs.dropLast else cs)
    | .file name =>
      match s.disk.read (Octets.toString name) with
      | .ok bytes =>
        let cs := (Octets.ofBytes bytes).toList
        if !cs.isEmpty then
          if cs.getLast? == some '\n' then emit cs.dropLast else emit cs false
      | .error _ => return

/-- Puts the next line into the pattern space; false if there is none. `extends_` says that it comes after what
is there. -/
def advance (extends_ : Bool) : Work Bool := do
  let s ← get
  match s.rest with
  | [] => return false
  | l :: rest =>
    flush
    modify fun s => { s with
      space := if extends_ then s.space ++ '\n' :: l.text else l.text
      number := s.number + 1, ended := l.ended, rest, file := l.file }
    return true

/-- The expression to use: the one given, or the one that was last used. -/
def patternOf (r : Option Regular) : Work (Option Regular) := do
  match r with
  | some r =>
    modify fun s => { s with pattern := some r }
    return some r
  | none => return (← get).pattern

/-- Whether an address is that of the line. -/
def isAt (a : Address) : Work Bool := do
  let s ← get
  match a with
  | .line n => return s.number = n
  | .last => return s.rest.isEmpty
  | .every first step =>
    return if step = 0 then s.number = first else first ≤ s.number && (s.number - first) % step = 0
  | .fits r =>
    match ← patternOf r with
    | some r => return r.fitsIn s.space
    | none => return false

/-- Whether the range of a command number `i` has begun, and where it ends then. -/
def range? (i : Nat) : Work (Option Until) := return ((← get).ranges.find? (·.1 == i)).map (·.2)

/-- Begins or ends a range. -/
def setRange (i : Nat) (u : Option Until) : Work Unit :=
  modify fun s =>
    let others := s.ranges.filter (·.1 != i)
    { s with ranges := match u with
      | some u => (i, u) :: others
      | none => others }

/-- Whether a command number `i` is for the line. -/
def selects (i : Nat) (ls : Lines) : Work Bool := do
  let s ← get
  let within : Bool ← match ls.first, ls.last with
    | none, _ => pure true
    | some a, none => isAt a
    | some a, some e =>
      match ← range? i with
      | some (.line n) =>
        if n ≤ s.number then setRange i none
        pure (decide (s.number ≤ n))
      | some .address =>
        match e with
        | .address b => if ← isAt b then setRange i none
        | _ => setRange i none
        pure true
      | none =>
        if !(← isAt a) then pure false
        else
          let toLine (n : Nat) : Work Unit := if s.number < n then setRange i (some (.line n)) else setRange i none
          match e with
          | .address (.line n) => toLine n
          | .address .last => if !s.rest.isEmpty then setRange i (some .address)
          | .address _ => setRange i (some .address)
          | .after n => toLine (s.number + n)
          | .multiple n => if n != 0 then toLine ((s.number + n - 1) / n * n)
          pure true
  return within != ls.negated

/-- Characters with their case changed. -/
def recased (all : CaseChange) (next : CaseChange) (cs : List Char) : List Char :=
  let cs := match all with
    | .upper => cs.map Char.toUpper
    | .lower => cs.map Char.toLower
    | _ => cs
  match next, cs with
  | .upperNext, c :: rest => c.toUpper :: rest
  | .lowerNext, c :: rest => c.toLower :: rest
  | _, cs => cs

/-- What is put in the place of a fit. -/
def filled (text : Array Char) (f : Regular.Fit) : CaseChange → CaseChange → List Part → List Char
  | _, _, [] => []
  | all, next, p :: rest =>
    let put (cs : List Char) : List Char :=
      recased all next cs ++ filled text f all (if cs.isEmpty then next else .none) rest
    match p with
    | .text cs => put cs
    | .group n => put (f.group text n)
    | .cased .upperNext => filled text f all .upperNext rest
    | .cased .lowerNext => filled text f all .lowerNext rest
    | .cased c => filled text f c .none rest

/-- Puts something in the place of fits from a place on; `count` is how many came before, and `barred` a place
where a blank fit does not count. Gives the text, and whether anything was replaced. -/
def replaced (s : Substitution) (r : Regular) (text : Array Char) :
    Nat → Nat → Nat → Option Nat → List Char × Bool
  | 0, at_, _, _ => (Regular.between text at_ text.size, false)
  | fuel + 1, at_, count, barred =>
    match r.fit? text at_ with
    | none => (Regular.between text at_ text.size, false)
    | some f =>
      let before := Regular.between text at_ f.start
      let step : List Char × Nat :=
        if f.stop = f.start then (Regular.between text f.start (f.start + 1), f.start + 1) else ([], f.stop)
      if f.stop = f.start && barred == some f.start then
        let (rest, done) := if text.size < step.2 then ([], false) else replaced s r text fuel step.2 count none
        (before ++ step.1 ++ rest, done)
      else
        let hit := count + 1 = s.number || (s.all && s.number ≤ count + 1)
        let put := if hit then filled text f .none .none s.parts else Regular.between text f.start f.stop
        if hit && !s.all then (before ++ put ++ Regular.between text f.stop text.size, true)
        else
          let (rest, done) := if text.size < step.2 then ([], false)
            else replaced s r text fuel step.2 (count + 1) (if f.stop = f.start then none else some f.stop)
          (before ++ put ++ step.1 ++ rest, done || hit)

/-- A text with all that cannot be seen written with escapes, in rows that are not too long. -/
def visible (cs : List Char) : List Char :=
  let one (c : Char) : List Char :=
    match c with
    | '\\' => ['\\', '\\']
    | '\n' => ['\\', 'n']
    | '\t' => ['\\', 't']
    | '\r' => ['\\', 'r']
    | '\x07' => ['\\', 'a']
    | '\x08' => ['\\', 'b']
    | '\x0b' => ['\\', 'v']
    | '\x0c' => ['\\', 'f']
    | c => if Quoting.isPrintable c then [c] else Quoting.escape c
  (cs.foldl (fun (done, width) c =>
    let e := one c
    if 69 < width + e.length then (e.reverse ++ '\n' :: '\\' :: done, e.length)
    else (e.reverse ++ done, width + e.length)) (([] : List Char), 0)).1.reverse ++ ['$']

/-- The character that is put in the place of one, or that one itself. -/
def partner (pairs : List (Char × Char)) (c : Char) : Char := ((pairs.find? (·.1 == c)).map (·.2)).getD c

/-- The part of a text before its first line end. -/
def firstLine (cs : List Char) : List Char := cs.takeWhile (· != '\n')

/-- Runs commands from number `i` on. -/
def execute (cs : Array Command) : Nat → Nat → Work Outcome
  | 0, _ => return .quit false
  | fuel + 1, i => do
    match cs[i]? with
    | none => return .finished
    | some c =>
      let onward : Work Outcome := execute cs fuel (i + 1)
      let jump (name : String) : Work Outcome :=
        if name.isEmpty then return .finished
        else match cs.findIdx? fun c => match c.action with
          | .label l => l == name
          | _ => false with
        | some k => execute cs fuel k
        | none => return .finished
      if !(← selects i c.lines) then
        match c.action with
        | .openBlock close => execute cs fuel (close + 1)
        | _ => onward
      else
        let s ← get
        match c.action with
        | .openBlock _ | .closeBlock | .label _ => onward
        | .substitute sub =>
          match ← patternOf sub.pattern with
          | none => onward
          | some r =>
            let text := s.space.toArray
            let (result, done) := replaced sub r text (text.size + 2) 0 0 none
            if done then
              modify fun (s : Editor) => { s with space := result, changed := true }
              if 0 < sub.prints then emit result s.ended
              if let some file := sub.file then emitTo file result
            onward
        | .replaceCharacters pairs =>
          set { s with space := s.space.map (partner pairs) }
          onward
        | .delete => return .deleted
        | .deleteFirst =>
          if s.space.contains '\n' then
            set { s with space := s.space.drop ((firstLine s.space).length + 1) }
            return .again
          else return .deleted
        | .print =>
          emit s.space s.ended
          onward
        | .printFirst =>
          emit (firstLine s.space)
          onward
        | .next =>
          if s.rest.isEmpty then return .quit true
          if !s.quiet then emit s.space s.ended
          let _ ← advance false
          onward
        | .join =>
          if s.rest.isEmpty then return .quit true
          let _ ← advance true
          onward
        | .quit code prints =>
          set { s with code }
          return .quit prints
        | .hold extends_ =>
          set { s with held := if extends_ then s.held ++ '\n' :: s.space else s.space }
          onward
        | .recall extends_ =>
          set { s with space := if extends_ then s.space ++ '\n' :: s.held else s.held }
          onward
        | .exchange =>
          set { s with space := s.held, held := s.space }
          onward
        | .append text =>
          set { s with queue := s.queue ++ [Added.text text] }
          onward
        | .insert text =>
          if !text.isEmpty then emit text.dropLast
          onward
        | .change text =>
          if c.lines.negated || (← range? i).isNone then
            if !text.isEmpty then emit text.dropLast
          return .deleted
        | .readFile_ file =>
          set { s with queue := s.queue ++ [Added.file file] }
          onward
        | .writeFile_ file first =>
          emitTo file (if first then firstLine s.space else s.space)
          onward
        | .jump name => jump name
        | .jumpIfChanged name =>
          if s.changed then
            set { s with changed := false }
            jump name
          else onward
        | .jumpUnlessChanged name =>
          if s.changed then
            set { s with changed := false }
            onward
          else jump name
        | .lineNumber =>
          emit (toString s.number).toList
          onward
        | .visible =>
          emit (visible s.space)
          onward
        | .fileName =>
          emit s.file.toList
          onward
        | .clear =>
          set { s with space := [] }
          onward

/-- How many commands may be run for one line, and how often they may begin. -/
def bound : Nat := 100000

/-- Goes over the lines; `again` says that the commands begin again without a new line. -/
def run (cs : Array Command) : Nat → Bool → Work Unit
  | 0, _ => return
  | fuel + 1, again => do
    let go ← if again then pure true else advance false
    if go then
      modify fun s => if again then s else { s with changed := false }
      let outcome ← execute cs bound 0
      let s ← get
      match outcome with
      | .finished =>
        if !s.quiet then emit s.space s.ended
        flush
        run cs fuel false
      | .deleted =>
        flush
        run cs fuel false
      | .again =>
        flush
        run cs fuel true
      | .quit prints =>
        if prints && !s.quiet then emit s.space s.ended
        if prints then flush
        set { (← get) with rest := [] }

/-- The files that a script writes to. -/
def filesOf (cs : List Command) : List String :=
  cs.filterMap fun c => match c.action with
    | .writeFile_ file _ => some file
    | .substitute s => s.file
    | _ => none

/-- Labels that a script goes to without having them. -/
def missingLabel? (cs : List Command) : Option String :=
  let labels := cs.filterMap fun c => match c.action with
    | .label l => some l
    | _ => none
  (cs.filterMap fun c => match c.action with
    | .jump l | .jumpIfChanged l | .jumpUnlessChanged l => if l.isEmpty then none else some l
    | _ => none).find? (!labels.contains ·)

end Edit

namespace Tool

open Edit in
/-- The lines of some files, and what stood in the way of any. -/
def inputsOf (c : ToolCall) (files : List String) : List Input × ToolResult :=
  files.foldl (fun (ls, r) file =>
    match textOf c c.disk file with
    | .ok (text, used) =>
      let (found, ended) := lines text
      let inputs := found.zipIdx.map fun e => ⟨file, e.1, ended || e.2 + 1 != found.length⟩
      (ls ++ inputs, { r with used := max r.used used })
    | .error .isDirectory => (ls, followedBy r (complaining c.disk 2 s!"{c.name}: couldn't edit {file}: not a regular file\n"))
    | .error e => (ls, followedBy r (complaining c.disk 2 s!"{c.name}: can't read {file}: {reasonText e}\n")))
    ([], done c.disk)

open Edit in
/-- Edits a stream of lines. -/
def sed (c : ToolCall) : ToolResult :=
  let g : Grammar :=
    { letters := "ne:f:Eri::szul:b", long := [("quiet", "n"), ("silent", "n"), ("expression", "e"), ("file", "f"),
        ("regexp-extended", "E"), ("in-place", "i"), ("separate", "s"), ("null-data", "z"), ("unbuffered", "u")] }
  let count := c.arguments.foldl (fun n a => n + a.length + 1) 1
  match g.read count c.arguments with
  | .error words => complaining c.disk 1 s!"{c.name}: {words}\n"
  | .ok o =>
    let given := o.found.filterMap fun f =>
      if f.1 = "e" then some (Except.ok f.2)
      else if f.1 = "f" then some ((textOf c c.disk f.2).map (fun t =>
        let cs := t.1
        String.ofList (if cs.getLast? == some '\n' then cs.dropLast else cs)) |>.mapError fun r => (f.2, r))
      else none
    match given.mapM id, given, o.words with
    | .error (file, r), _, _ => complaining c.disk 4 s!"{c.name}: couldn't open file {file}: {reasonText r}\n"
    | .ok _, [], [] => complaining c.disk 1 "Usage: sed [OPTION]... \x7bscript-only-if-no-other-script\x7d [input-file]...\n"
    | .ok texts, gs, words =>
      let texts := if gs.isEmpty then words.take 1 else texts
      let files := if gs.isEmpty then words.drop 1 else words
      let files := if files.isEmpty then ["-"] else files
      let whole := ("\n".intercalate texts).toList
      match script (o.has "E" || o.has "r") whole with
      | .error (.placeless words) => complaining c.disk 4 s!"{c.name}: {words}\n"
      | .error (.whole words) => complaining c.disk 1 s!"{c.name}: -e expression #1, char 0: {words}\n"
      | .error (.at_ left words) =>
        let at_ := whole.length - left
        let (index, offset) := (texts.foldl (fun (k, left, found) t =>
          if found then (k, left, found)
          else if left ≤ t.length then (k, left, true)
          else (k + 1, left - t.length - 1, false)) (1, at_, false) : Nat × Nat × Bool) |> fun r => (r.1, r.2.1)
        complaining c.disk 1 s!"{c.name}: -e expression #{index}, char {offset}: {words}\n"
      | .ok commands =>
        match missingLabel? commands with
        | some l => complaining c.disk 4 s!"{c.name}: can't find label for jump to `{l}'\n"
        | none =>
          let quiet := o.has "n" || whole.take 3 == ['#', 'n', '\n'] || whole == ['#', 'n']
          let disk := (filesOf commands).foldl (fun d file =>
            if file.startsWith "/dev/" then d else (save c d file false .empty).toOption.getD d) c.disk
          let begun := (commands.zipIdx.filter fun e => match e.1.lines.first, e.1.lines.last with
            | some (.line 0), some _ => true
            | _, _ => false).map fun e => (e.2, Until.address)
          let start (d : Disk) (rest : List Input) : Editor :=
            { disk := d, mask := c.mask, rest, quiet, ranges := begun }
          let runOn (s : Editor) : Editor := ((Edit.run commands.toArray (bound + s.rest.length) false).run s).2
          if o.has "i" || o.has "s" then
            files.foldl (fun r file =>
              let (inputs, told) := inputsOf { c with disk := r.disk } [file]
              if told.code != 0 then followedBy r { told with disk := r.disk }
              else
                let s := runOn (start r.disk inputs)
                let shown : ToolResult := { disk := s.disk, effects := s.effects.reverse, code := s.code, used := told.used }
                if o.has "i" && !isInput file then
                  let text := String.join (shown.effects.filterMap Effect.output?)
                  match s.disk.write (path file) (Octets.bytes text) with
                  | .ok d => followedBy r { shown with disk := d, effects := shown.effects.filter (·.output?.isNone) }
                  | .error f => followedBy r (complaining r.disk 4 s!"{c.name}: couldn't open file {file}: {faultText f}\n")
                else followedBy r shown) (done disk)
          else
            let (inputs, told) := inputsOf { c with disk } files
            let s := runOn (start disk inputs)
            followedBy { told with disk } { disk := s.disk, effects := s.effects.reverse, code := s.code }

end Tool

end VariantForge.Shell
