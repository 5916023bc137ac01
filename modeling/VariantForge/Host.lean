import VariantForge.Shell.Run
import VariantForge.World

/-!
A machine of our own that commands run on: a disk, a shell and a few small programs. A command that
cannot be started ends with the code 127 and words that say why; one that a signal killed has no code.
-/

namespace VariantForge

/-- A machine, with the environment that commands are started from. -/
structure Host where
  environment : Members String

namespace Host

/-- How long and how deep a script may go. -/
def bound : Nat := 1000000

/-- The search path where the environment has none. -/
def defaultPath : String := "/bin:/usr/bin"

/-- The code of a command that did not start. -/
def notStarted : Int := 127

/-- The end of a command that did not start. -/
def unstarted (words : String) : CommandResult := ⟨some notStarted, "", words ++ "\n"⟩

/-- Where a command starts. -/
def directory (d : Disk) (c : Command) : Except DiskReason Place :=
  match c.directory with
  | none => .ok d.here
  | some dir =>
    match d.locate dir with
    | .error r => .error r
    | .ok p =>
      match d.get? p with
      | some .directory => .ok p
      | some _ => .error .notDirectory
      | none => .error .missing

/-- The program of a command and the directory that it starts in. -/
def resolve (d : Disk) (environment : Members String) (c : Command) :
    Except DiskReason (Shell.Program × Place) := do
  let here ← directory d c
  let path := (Members.get? environment "PATH").getD defaultPath
  let disk := Shell.Program.furnished { d with here }
  return (← Shell.Program.find disk (Shell.Octets.ofString path) (Shell.Octets.ofString c.program), here)

/-- What a command made: the disk, how it ended, and what it wrote, in order and by stream. -/
structure Made where
  disk : Disk
  code : Option Int
  written : List (Nat × ByteArray)

/-- A machine for a command: nothing to read, and a stream each for output and complaints. -/
def machine (d : Disk) : Shell.Machine :=
  { disk := Shell.Program.furnished d
    streams := #[.nothing, .sink 1 true, .sink 2 true]
    pipes := 2 }

/-- Runs a program of some name. -/
def execute (d : Disk) (environment : Members String) (name : String) (p : Shell.Program) (here : Place)
    (arguments : List String) : Made :=
  let octets := Shell.Octets.ofString
  let session : Shell.Session :=
    { bindings := environment.map fun m => (octets m.1, { value := some (octets m.2), exported := true })
      table := [(0, 0), (1, 1), (2, 2)], place := here }
  let whole : Shell.Run Shell.Ended := do
    let ended ← Shell.launch bound (octets name) p (arguments.map octets)
    Shell.settleJobs bound
    return ended
  let (ended, s) := (whole.run).run { machine := machine { d with here }, session }
  let code := match ended with
    | .ok (.status n) => some (((n % 256 : Nat)) : Int)
    | _ => none
  let written := s.machine.written.reverse.mergeSort fun a b => a.time ≤ b.time
  ⟨{ Shell.Program.bare d s.machine.disk with here := d.here }, code, written.map fun w => (w.pipe, w.bytes)⟩

/-- All that was written to some streams. -/
def textOf (made : Made) (streams : List Nat) : ByteArray :=
  made.written.foldl (fun all w => if streams.contains w.1 then all ++ w.2 else all) .empty

/-- Opens the log file of a command. -/
def openLog (d : Disk) (c : Command) : Disk × Option DiskFault :=
  match c.logFile with
  | none => (d, none)
  | some log =>
    match d.makeDirectories (Path.dirname log) with
    | (d, some fault) => (d, some fault)
    | (d, none) =>
      match d.write log .empty with
      | .ok d => (d, none)
      | .error fault => (d, some fault)

/-- Adds to the log file of a command. -/
def appendLog (d : Disk) (c : Command) (bytes : ByteArray) : Disk :=
  match c.logFile with
  | none => d
  | some log =>
    match d.read log with
    | .ok old => (d.write log (old ++ bytes)).toOption.getD d
    | .error _ => d

/-- The first null in some texts, by the name of the argument that a text is. -/
def nullIn (named : List (String × String)) : Option ArgumentFault :=
  (named.find? fun n => Text.hasNull n.2).map fun n => ⟨n.1, n.2, .nullInText⟩

/-- What a command is given that no command accepts. -/
def argumentFault? (environment : Members String) (c : Command) : Option ArgumentFault :=
  let blank := if c.program.isEmpty then some ⟨"file", "", .blank⟩ else none
  let arguments := c.arguments.zipIdx.map fun (a, i) => (s!"args[{i}]", a)
  let directory := (c.directory.filter Text.hasNull).map fun dir => ⟨"options.cwd", dir, .nullInPath⟩
  let named := environment.flatMap fun (name, value) =>
    let path := s!"options.env['{name}']"
    [(path, name), (path, value)]
  nullIn [("file", c.program)] <|> blank <|> nullIn arguments <|> directory <|> nullIn named

/-- Runs a command, or says why it did not start. -/
def start (h : Host) (d : Disk) (cancelled : Bool) (c : Command) : Disk × Except Failure CommandResult :=
  let environment := Members.putAll h.environment (c.environment.getD [])
  let refuse (words : String) : Disk × Except Failure CommandResult :=
    let r := unstarted words
    (appendLog d c (Utf8.encode r.errors), .ok r)
  match argumentFault? environment c with
  | some fault => (d, .error (.argument fault))
  | none =>
  match resolve d environment c with
  | .error .missing => refuse s!"spawn {c.program} {DiskReason.missing.code}"
  | .error .denied => refuse s!"spawn {c.program} {DiskReason.denied.code}"
  | .error reason => (d, .error (.start reason))
  | .ok (p, here) =>
    if cancelled && c.cancellable then refuse Failure.cancelledWait.message
    else
      let made := execute d environment c.program p here c.arguments
      if c.logFile.isSome then (appendLog made.disk c (textOf made [1, 2]), .ok ⟨made.code, "", ""⟩)
      else (made.disk, .ok ⟨made.code, Utf8.decode (textOf made [1]), Utf8.decode (textOf made [2])⟩)

/-- Runs a command for a world. A blank directory or log file counts as none. -/
def run (h : Host) (w : World) (c : Command) : Reply :=
  let c := { c with
    directory := c.directory.filter (!·.isEmpty), logFile := c.logFile.filter (!·.isEmpty) }
  match openLog w.disk c with
  | (d, some fault) => ⟨d, false, .error (.disk fault)⟩
  | (d, none) =>
    let (disk, result) := start h d w.cancelled c
    ⟨disk, false, result⟩

end Host

end VariantForge
