import VariantForge.Disk.Operations
import VariantForge.Failure
import VariantForge.Text.Utf8

/-!
What the forge works on, and what it asks of the outside.

The world is the disk, whether the run was cancelled, how often the clock was read, and a journal
of all that could be seen from outside: lines of the log, warnings, commands, requests and waits.
The outside answers commands and requests in any way it likes; its answer may depend on all that has
happened so far, change the disk and cancel the run. `Forge` is the type of operations on a world; one that
fails leaves the world as it was when it failed. A warning says what went wrong without stopping the run.
-/

namespace VariantForge

/-! ## Warnings -/

/-- What a warning is about. -/
inductive WarningEvent where
  | candidateFailed
  | revisionFallback
  | unknownVariant
  | spellNotFound
  | spellPartial
  | ruleUnmatched
  | reportFailed
  deriving DecidableEq

/-- The name of what a warning is about. -/
def WarningEvent.name : WarningEvent → String
  | .candidateFailed => "source.candidate_failed"
  | .revisionFallback => "source.revision_fallback"
  | .unknownVariant => "variant.unknown"
  | .spellNotFound => "transform.not_found"
  | .spellPartial => "transform.partial"
  | .ruleUnmatched => "transform.rule_unmatched"
  | .reportFailed => "report.write_failed"

/-- A warning, with the variant and the spell that it is about. -/
structure Warning where
  event : WarningEvent
  message : String
  variant : Option String := none
  spell : Option String := none
  deriving DecidableEq

/-! ## Worlds -/

/-- How much a line of the log matters. -/
inductive Level where
  | debug
  | info
  | warn
  | error
  deriving DecidableEq

/-- Something that can be seen from outside. -/
inductive Event where
  | logged (level : Level) (message : String) (extra : Option (Members Data))
  | ran (command : Command)
  | waited (ms : Number)
  | fetched (url : String) (cancelled : Bool)
  | warned (warning : Warning)

/-- The state of a run. -/
structure World where
  disk : Disk
  cancelled : Bool := false
  readings : Nat := 0
  journal : List Event := []

/-- The outside's answer to a command: the disk as it is now, whether the run is cancelled, and how
the command ended, if it could be run at all. -/
structure Reply where
  disk : Disk
  cancels : Bool
  result : Except Failure CommandResult

/-- A part of a response's body, or the failure that ends it. -/
inductive Chunk where
  | bytes (data : ByteArray)
  | broken (text : String)

/-- A response to a request. -/
structure Response where
  status : Nat
  headers : List (String × String)
  body : Option (List Chunk)

/-- What comes of a request: it cannot be sent, no answer comes, or a response. -/
inductive Answer where
  | failed (text : String)
  | silent
  | response (r : Response)

/-- All that is not the forge. The clock tells its reading by the count of readings before it;
`cancelsWait` says whether the run is cancelled as a wait begins. -/
structure Outside where
  run : World → Command → Reply
  fetch : World → String → Bool × Answer
  cancelsWait : World → Bool
  clock : Nat → Instant
  searchPath : Option String
  processors : Nat

/-- Operations on a world. -/
abbrev Forge (α : Type) := ExceptT Failure (StateM World) α

namespace Forge

/-- Runs an operation. -/
def runOn (w : World) (x : Forge α) : Except Failure α × World := StateT.run (ExceptT.run x) w

/-- Adds an event to the journal. -/
def note (e : Event) : Forge Unit := modify fun w => { w with journal := w.journal ++ [e] }

/-- Writes a line to the log. -/
def log (level : Level) (message : String) (extra : Option (Members Data) := none) : Forge Unit :=
  note (.logged level message extra)

/-- Gives a warning to whoever asked for the run. -/
def warn (w : Warning) : Forge Unit := note (.warned w)

/-- Whether the run was cancelled. -/
def isCancelled : Forge Bool := return (← get).cancelled

/-- Fails if the run was cancelled. -/
def checkCancelled : Forge Unit := do
  if ← isCancelled then throw .cancelled

/-- Changes the disk, or fails as the change does. -/
def change (f : Disk → Except DiskFault Disk) : Forge Unit := do
  let w ← get
  match f w.disk with
  | .ok disk => set { w with disk }
  | .error fault => throw (.disk fault)

/-- Makes a directory and those above it. -/
def makeDirectories (path : String) : Forge Unit := do
  let w ← get
  let (disk, fault) := w.disk.makeDirectories path
  set { w with disk }
  match fault with
  | some f => throw (.disk f)
  | none => return ()

/-- Looks at the disk. -/
def look (f : Disk → α) : Forge α := return f (← get).disk

/-- The directory that relative paths start from. -/
def here : Forge String := look fun d => "/" ++ "/".intercalate d.here

/-- The bytes of a file. -/
def readFile (path : String) : Forge ByteArray := do
  match (← get).disk.read path with
  | .ok bytes => return bytes
  | .error fault => throw (.disk fault)

/-- Writes a text to a file. -/
def writeText (path text : String) : Forge Unit := change (·.write path (Utf8.encode text))

/-- Has the outside run a command. -/
def run (o : Outside) (c : Command) : Forge CommandResult := do
  let w ← get
  let reply := o.run w c
  set { w with
    disk := reply.disk, cancelled := w.cancelled || reply.cancels, journal := w.journal ++ [Event.ran c] }
  match reply.result with
  | .ok r => return r
  | .error f => throw f

/-- Waits, unless the run was cancelled before or is cancelled as the wait begins. -/
def wait (o : Outside) (ms : Number) : Forge Unit := do
  let w ← get
  let cancelled := w.cancelled || o.cancelsWait w
  set { w with cancelled, journal := w.journal ++ [Event.waited ms] }
  if cancelled then throw .cancelledWait

/-- The time. -/
def now (o : Outside) : Forge Instant := do
  let w ← get
  set { w with readings := w.readings + 1 }
  return o.clock w.readings

/-- The words for a failure, if it can be put in words. -/
def words (f : Failure) : Forge String := do
  if f.hasWords then return f.message else throw .noText

/-- Runs an operation and gives its failure as a value. -/
def attempt (x : Forge α) : Forge (Except Failure α) := tryCatch (Except.ok <$> x) fun f => return .error f

/-- Runs `last` after an operation, whether that fails or not. -/
def finally_ (x : Forge α) (last : Forge Unit) : Forge α := do
  match ← attempt x with
  | .ok a => last; return a
  | .error f => last; throw f

end Forge

end VariantForge
