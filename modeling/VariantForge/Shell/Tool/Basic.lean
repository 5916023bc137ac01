import VariantForge.Number.Decimal
import VariantForge.Shell.Machine
import VariantForge.Shell.Tool.Quoting

/-!
Programs that every machine has: what they are given, and what they make.
-/

namespace VariantForge.Shell

/-- What a program is given. It tells of itself under `name`, which is how it was called. -/
structure ToolCall where
  tool : String
  name : String := tool
  arguments : List String
  environment : List (String × String) := []
  disk : Disk
  input : ByteArray := .empty
  inputIsFile : Bool := false
  mask : Nat := 0o022

/-- What a program does for others to see: it writes to the standard output or the standard error, or it starts
another program, which is given its words and, if it does not read the same input, what it is to read. -/
inductive Effect where
  | output (text : String)
  | error (text : String)
  | start (words : List String) (input : Option String)

/-- The text that is written to the standard output. -/
def Effect.output? : Effect → Option String
  | .output text => some text
  | _ => none

/-- What a program made: the disk, what it did for others to see, its exit code, how many bytes of the input
it took, and how long it worked, in millionths of a second. -/
structure ToolResult where
  disk : Disk
  effects : List Effect := []
  code : Nat := 0
  used : Nat := 0
  time : Nat := 0

namespace Tool

/-- Goes on with another result, keeping what was written and the worse code. -/
def followedBy (first next : ToolResult) : ToolResult :=
  { next with
    effects := first.effects ++ next.effects, code := max first.code next.code
    used := max first.used next.used, time := first.time + next.time }

/-- A program that does nothing more. -/
def done (d : Disk) : ToolResult := { disk := d }

/-- A program that only prints. -/
def printing (d : Disk) (text : String) : ToolResult := { disk := d, effects := [.output text] }

/-- A program that only complains. -/
def complaining (d : Disk) (code : Nat) (text : String) : ToolResult := { disk := d, effects := [.error text], code }

/-- A program that complains under its name. -/
def failing (c : ToolCall) (d : Disk) (code : Nat) (words : String) : ToolResult :=
  complaining d code s!"{c.name}: {words}\n"

/-- Where to look for how a program is called. -/
def hint (c : ToolCall) : String := s!"Try '{c.name} --help' for more information."

/-- A program that was called in a way that it does not know. -/
def misused (c : ToolCall) (code : Nat) (words : String) : ToolResult :=
  failing c c.disk code (words ++ "\n" ++ hint c)

/-- A path for the disk. -/
def path (octets : String) : String := Octets.toString octets

/-- Does something for each argument in turn. -/
def forEach (d : Disk) (arguments : List String) (f : Disk → String → ToolResult) : ToolResult :=
  arguments.foldl (fun r a => followedBy r (f r.disk a)) (done d)

/-- The reason of a fault on the disk. -/
def reasonOf : DiskFault → DiskReason
  | .call r .. => r
  | .directoryKept _ => .isDirectory
  | .argument _ => .missing

/-- Whether a word stands for the standard input. -/
def isInput (file : String) : Bool := file == "-" || file == "/dev/stdin" || file == "/dev/fd/0"

/-- The bytes of a file, or of the standard input. -/
def bytesOf (c : ToolCall) (d : Disk) (file : String) : Except DiskReason ByteArray :=
  if isInput file then .ok c.input
  else if file = "/dev/null" then .ok .empty
  else (d.read (path file)).mapError reasonOf

/-- The text of a file, or of the standard input, and how many bytes of that it takes. -/
def textOf (c : ToolCall) (d : Disk) (file : String) : Except DiskReason (List Char × Nat) :=
  (bytesOf c d file).map fun b => ((Octets.ofBytes b).toList, if isInput file then b.size else 0)

/-- Gives the text of each file, or of the standard input if there is none, to `f`. A file that cannot be read
is told of with `complaint`. -/
def reading (c : ToolCall) (files : List String) (complaint : String → DiskReason → String)
    (f : Disk → String → List Char → ToolResult) : ToolResult :=
  forEach c.disk (if files.isEmpty then ["-"] else files) fun d file =>
    match textOf c d file with
    | .ok (text, used) => let r := f d file text; { r with used := max r.used used }
    | .error r => complaining d 1 (complaint file r)

/-- The complaint that a file cannot be read. -/
def unread (c : ToolCall) (file : String) (r : DiskReason) : String :=
  s!"{c.name}: {Quoting.told file}: {reasonText r}\n"

/-- The texts of files, or of the standard input if there is none, one after the other, with what stood in
the way of any. -/
def wholeText (c : ToolCall) (files : List String) (complaint : String → DiskReason → String) :
    List Char × ToolResult :=
  (if files.isEmpty then ["-"] else files).foldl
    (fun (text, r) file =>
      match textOf c c.disk file with
      | .ok (more, used) => (text ++ more, { r with used := max r.used used })
      | .error e => (text, followedBy r (complaining c.disk 1 (complaint file e))))
    ([], done c.disk)

/-- Writes a file, or adds to one. -/
def save (c : ToolCall) (d : Disk) (file : String) (extends_ : Bool) (bytes : ByteArray) :
    Except StreamReason Disk := do
  let kind := if extends_ then .extend else .write false
  let (stream, m) ← ({ disk := d } : Machine).openPath [] c.mask file kind false
  let (k, m) := m.open_ stream
  return ((m.write k bytes).getD m).disk

/-- Lines of a text, without the ends of them, and whether the last one ended. -/
def lines (cs : List Char) : List (List Char) × Bool :=
  let all := cs.splitOn '\n'
  match all.reverse with
  | [] :: before => (before.reverse, true)
  | _ => (all, false)

/-- Lines put together again, all of them ended. -/
def joinLines (ls : List (List Char)) : String := String.ofList (ls.flatMap (· ++ ['\n']))

/-- Lines put together again, the last one ended if `ended` says so. -/
def unlines (ls : List (List Char)) (ended : Bool) : String :=
  if ended then joinLines ls else String.ofList (List.intercalate ['\n'] ls)

/-- The decimal number that a text is. -/
def natural? (s : String) : Option Nat :=
  if !s.isEmpty && s.toList.all Char.isDigit then some (Number.digitsValue s.toList) else none

/-- Options that were read, each with its letter and the text that goes with it, and the other words. -/
structure Options where
  found : List (String × String)
  words : List String

namespace Options

/-- Whether an option was given. -/
def has (o : Options) (letter : String) : Bool := o.found.any (·.1 == letter)

/-- The text of the last option of a letter. -/
def text? (o : Options) (letter : String) : Option String := (o.found.reverse.find? (·.1 == letter)).map (·.2)

/-- The texts of all options of a letter. -/
def texts (o : Options) (letter : String) : List String := (o.found.filter (·.1 == letter)).map (·.2)

/-- Adds an option before the others. -/
def add (o : Options) (letter text : String) : Options := { o with found := (letter, text) :: o.found }

end Options

/-- The options that a program knows: letters, those with a colon after them taking a text and those with two
colons taking one only if it follows at once; long names with their letters; and whether options may stand
after other words. -/
structure Grammar where
  letters : String
  long : List (String × String) := []
  mixed : Bool := true

namespace Grammar

/-- How many colons come after a letter; none if it is not known. -/
def colons? (g : Grammar) (letter : Char) : Option Nat :=
  match g.letters.toList.dropWhile fun k => k != letter || k == ':' with
  | [] => none
  | _ :: rest => some (rest.takeWhile (· == ':')).length

/-- Reads options from the arguments. A complaint ends the reading. -/
def read (g : Grammar) : Nat → List String → Except String Options
  | 0, arguments => .ok ⟨[], arguments⟩
  | _ + 1, [] => .ok ⟨[], []⟩
  | fuel + 1, a :: rest =>
    match a.toList with
    | ['-', '-'] => .ok ⟨[], rest⟩
    | '-' :: '-' :: name => do
      let word := String.ofList (name.takeWhile (· != '='))
      let text := String.ofList ((name.drop word.length).drop 1)
      let exact := g.long.filter (·.1 == word)
      match (if exact.isEmpty then g.long.filter fun l => word.toList.isPrefixOf l.1.toList else exact) with
      | [] => throw s!"unrecognized option '--{word}'"
      | (_, letter) :: _ =>
        let count := ((letter.toList.head?).bind g.colons?).getD 0
        if count = 1 && !name.contains '=' then
          match rest with
          | [] => throw s!"option '--{word}' requires an argument"
          | t :: rest => return (← read g fuel rest).add letter t
        else if count = 0 && name.contains '=' then throw s!"option '--{word}' doesn't allow an argument"
        else return (← read g fuel rest).add letter text
    | '-' :: letter :: cs =>
      match g.colons? letter with
      | none => throw s!"invalid option -- '{letter}'"
      | some 0 =>
        let rest := if cs.isEmpty then rest else String.ofList ('-' :: cs) :: rest
        return (← read g fuel rest).add letter.toString ""
      | some 1 =>
        if !cs.isEmpty then return (← read g fuel rest).add letter.toString (String.ofList cs)
        else match rest with
          | [] => throw s!"option requires an argument -- '{letter}'"
          | t :: rest => return (← read g fuel rest).add letter.toString t
      | some _ => return (← read g fuel rest).add letter.toString (String.ofList cs)
    | _ =>
      if g.mixed then do
        let o ← read g fuel rest
        return { o with words := a :: o.words }
      else .ok ⟨[], a :: rest⟩

end Grammar

/-- Runs a program with the options and the other words that it was given, or says that they are wrong. -/
def withOptions (c : ToolCall) (g : Grammar) (f : Options → ToolResult) (code : Nat := 1) : ToolResult :=
  let count := c.arguments.foldl (fun n a => n + a.length + 1) 1
  match g.read count c.arguments with
  | .error words => misused c code words
  | .ok o => f o

end Tool

end VariantForge.Shell
