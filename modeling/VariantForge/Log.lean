import VariantForge.Settings.Layers
import VariantForge.World

/-!
Lines of the log as they leave the program.

A line is a record on one line, or it is made for the eye: the level in its color, the name of the
program and the message, and below them what else the line holds. A threshold keeps lines of lesser
levels back.
-/

namespace VariantForge.Log

/-- The name that the program writes under. -/
def programName : String := "driver-forge"

/-- The rank of a level: the higher, the more a line matters. -/
def rank : Level → Nat
  | .debug => 20
  | .info => 30
  | .warn => 40
  | .error => 50

/-- The word for a level. -/
def word : Level → String
  | .debug => "debug"
  | .info => "info"
  | .warn => "warn"
  | .error => "error"

/-- The color of a level. -/
def color : Level → Nat
  | .debug => 34
  | .info => 32
  | .warn => 33
  | .error => 31

/-- Whether a value given besides a message tells anything: nothing, falsehood, zero, what is not a
number and the blank text do not. -/
def isTelling : Data → Bool
  | .null => false
  | .bool b => b
  | .number x => x != 0 && x != .nan
  | .text s => !s.isEmpty
  | _ => true

/-- What is handed on for a line: the value besides the message, if it tells anything, and the
message. -/
def handedOn (message extra : Data) : List Data := if isTelling extra then [extra, message] else [message]

/-- The least rank that is written, if anything is; `none` for a name that stands for no threshold. -/
def threshold? (name : String) : Option (Option Nat) :=
  if SettingsFile.emptyProfiles.contains name then some none
  else
    match name with
    | "silent" => some none
    | "trace" => some (some 10)
    | "debug" => some (some 20)
    | "info" => some (some 30)
    | "warn" => some (some 40)
    | "error" => some (some 50)
    | "fatal" => some (some 60)
    | _ => none

/-- The threshold that the environment asks for. -/
def requested? (env : Members String) : Option (Option Nat) :=
  threshold? ((Environment.given? env "LOG_LEVEL").getD "info")

/-- Whether the environment asks for lines made for the eye. -/
def isPretty (env : Members String) : Bool := Members.get? env "LOG_PRETTY" == some "1"

/-- Whether a level reaches a threshold. -/
def reaches (level : Level) (threshold : Option Nat) : Bool := threshold.any (· ≤ rank level)

/-- A text as a line holds it. Half a surrogate pair that stands alone is kept by its number only in
a text that is long or has a control character, where every character is looked at. -/
def held (s : String) : String :=
  if 100 < (Text.ofString s).length || s.any (fun (c : Char) => decide (c.toNat < 0x20)) then s else Text.shown s

/-- A line as a record. -/
def record (level : Level) (message : String) (extra : Members Data) : Data :=
  let members : Members Data := (extra ++ [("msg", Data.text message)]).map fun m => match m with
    | (name, Data.text s) => (name, Data.text (held s))
    | other => other
  .record (Members.putAll [("level", .ofNat (rank level)), ("name", .text programName)] members) []

/-- A text in a color. -/
def colored (color : Nat) (s : String) : String :=
  if s.isEmpty then "" else "\x1b[" ++ toString color ++ "m" ++ s ++ "\x1b[39m"

/-- The color of messages. -/
def messageColor : Nat := 36

/-- The color of names. -/
def nameColor : Nat := 35

/-- The name under which the cause of a line stands. -/
def causeName : String := "err"

/-- Lines for the members besides the message; the cause comes last and has no color. -/
def memberLines (extra : Members Data) : List String :=
  let line (name : String) (value : Data) : String := "    " ++ name ++ ": " ++ value.pretty
  let (causes, others) := extra.partition (·.1 == causeName)
  others.map (fun m => line (colored nameColor m.1) m.2) ++ causes.map fun m => line m.1 m.2

/-- A line made for the eye, with the lines below it. -/
def pretty (level : Level) (message : String) (extra : Members Data) : List String :=
  let head := colored (color level) (word level).toUpper ++ " (" ++ programName ++ "): " ++
    colored messageColor message
  head.splitOn "\n" ++ memberLines extra

/-- A line of the log as it is written. -/
inductive Line where
  | record (d : Data)
  | text (s : String)

/-- The text of a line. -/
def Line.shown : Line → String
  | .record d => d.compact
  | .text s => s

/-- The lines that an event writes. -/
def linesOf (forEye : Bool) (threshold : Option Nat) : Event → List Line
  | .logged level message extra =>
    if !reaches level threshold then []
    else if forEye then (pretty level message (extra.getD [])).map (.text ∘ Text.shown)
    else [.record (record level message (extra.getD []))]
  | _ => []

end VariantForge.Log
