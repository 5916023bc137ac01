import VariantForge.Shell.Arithmetic
import VariantForge.Shell.Field
import VariantForge.Shell.Session

/-!
What parameters stand for when a word is expanded, and what of it runs no command.
-/

namespace VariantForge.Shell

/-- How a word is expanded: whether it is split into fields and taken for a pattern of paths, whether a
tilde may begin it, whether it is an assignment, whose tildes may also come after a colon, whether it is a
pattern, whether it stands in double quotes or is the text for a parameter, and whether nothing of it
counts. -/
structure Mode where
  full : Bool := false
  tilde : Bool := false
  assignment : Bool := false
  valued : Bool := false
  pattern : Bool := false
  quoted : Bool := false
  inner : Bool := false
  discarded : Bool := false

namespace Mode

/-- The words of a command. -/
def words : Mode := { full := true, tilde := true }

/-- A single text. -/
def text : Mode := { tilde := true }

/-- An assignment. -/
def assigning : Mode := { assignment := true }

/-- A pattern. -/
def matching : Mode := { tilde := true, pattern := true }

/-- A document. -/
def document : Mode := { quoted := true }

/-- Whether quoted characters are kept apart from others. -/
def keepsQuotes (m : Mode) : Bool := m.full || m.pattern

end Mode

/-- Arguments with a separator between two. -/
def separated (separator : Option Char) (arguments : List String) : List Char :=
  (separator.toList).intercalate (arguments.map String.toList)

/-- What a parameter stands for, if it is set. The arguments taken together are separated by nulls where
they are split again, and else by the first separator of fields. -/
def parameterValue? (s : Session) (m : Mode) (name : String) : Option (List Char) :=
  let between : Option Char := match s.value? "IFS" with
    | none => some ' '
    | some separators => separators.toList.head?
  let divided : Option Char := if (s.value? "IFS").isSome then some '\x00' else some ' '
  match name with
  | "#" => some (toString s.arguments.length).toList
  | "?" => some (toString s.status).toList
  | "$" => some (toString s.shell).toList
  | "!" => s.lastJob.map fun n => (toString n).toList
  | "-" => some s.optionText.toList
  | "@" =>
    some (separated (if m.full then (if m.quoted then some '\x00' else divided) else between) s.arguments)
  | "*" => some (separated (if m.full && !m.quoted then divided else between) s.arguments)
  | name =>
    if name.toList.all Char.isDigit && !name.isEmpty then
      let n := (Integer.digits 10 0 name.toList).1
      if n = 0 then some s.name.toList else (s.arguments[n - 1]?).map String.toList
    else (s.value? name).map String.toList

/-- The home of a user. -/
def home? (s : Session) (user : String) : Option String :=
  match user with
  | "" => s.value? "HOME"
  | "root" => some "/root"
  | "nobody" => some "/nonexistent"
  | "daemon" => some "/usr/sbin"
  | "bin" => some "/bin"
  | _ => none

/-- The name of the user after a tilde, with what comes after it. -/
def userName? (assignment : Bool) : List Piece → Option (List Char × List Piece)
  | [] => some ([], [])
  | .char c :: rest =>
    if c = '/' || (c = ':' && assignment) then some ([], .char c :: rest)
    else (userName? assignment rest).map fun r => (c :: r.1, r.2)
  | _ :: _ => none

/-- Adds the home of a user that a tilde stands for; none if the tilde stands for itself. -/
def tilde? (s : Session) (m : Mode) (row : Row) (after : List Piece) : Option (Row × List Piece) := do
  let (user, rest) ← userName? m.assignment after
  if m.discarded then return (row, rest)
  let text ← home? s (String.ofList user)
  return (row.addText m.keepsQuotes text.toList, rest)

/-- Takes away the front or the end of what was added since a place, if it fits a pattern. -/
def trimmed (row : Row) (first : Nat) (use : Use) (pattern : List Char) : Row :=
  let items := row.since first
  let value := Item.bare items
  let kept := match use with
    | .withoutFront longest => (Glob.frontSize? longest pattern value).map items.drop
    | .withoutEnd longest => (Glob.endStart? longest pattern value).map items.take
    | _ => none
  match kept with
  | none => row
  | some kept => { row.cut first with items := (row.cut first).items ++ kept.toArray }

/-- Allows what was added for a parameter since a place to be split. Within double quotes only all
arguments taken one by one are. -/
def recorded (s : Session) (m : Mode) (name : String) (first : Nat) (row : Row) : Row :=
  if !m.quoted then row.allow first false
  else if name.toList.head? == some '@' && !s.arguments.isEmpty then row.allow first true
  else row

/-- The texts that the fields of a row stand for: the paths that fit a field, or the field itself. -/
def textsOf (s : Session) (d : Disk) (row : Row) : List String :=
  (Splitting.fields s.separators none row).flatMap fun field =>
    let plain := String.ofList (Item.bare field)
    if s.has 'f' then [plain]
    else match Glob.paths d (Item.pattern true field) with
      | [] => [plain]
      | found => found

/-- A row as one text. -/
def textOfRow (row : Row) : String := String.ofList (Item.bare row.items.toList)

/-- The value of an arithmetic expression; it may assign values to variables. -/
def evaluate (expression : String) : Run Int := do
  let s ← Run.session
  let scope : Arithmetic.Scope :=
    { text := expression, value := s.value?
      readOnly := fun name => (Members.get? s.bindings name).any (·.readOnly) }
  match Arithmetic.evaluate scope with
  | .ok (n, assigned) =>
    for (name, value) in assigned do Run.assign name (some (toString value))
    return n
  | .error (.arithmetic .overflow _) => throw (.killed Signal.arithmetic)
  | .error f => Run.fail f

/-- Output of commands as it is put into a word: without the line ends at its end, and without nulls. -/
def outputText (bytes : ByteArray) : List Char :=
  (((Octets.ofBytes bytes).toList.filter (· != '\x00')).reverse.dropWhile (· == '\n')).reverse

/-- A stream that a redirection opens, or that it takes from another number or closes. -/
inductive Opening where
  | path (kind : RedirectKind) (name : String)
  | stream (n : Nat)
  | closed
  | text (document : Nat)

/-- What the word of a redirection to another stream says. -/
def openingOf? (text : String) : Option Opening :=
  match text.toList with
  | ['-'] => some .closed
  | [c] => if c.isDigit then some (.stream (c.toNat - 48)) else none
  | _ => none

/-- The words of a fault of a redirection. -/
def openFault (kind : RedirectKind) (name : String) (r : StreamReason) : Fault :=
  let absent := r = .disk .missing || r = .disk .notDirectory
  if kind = .read then .cannotOpen name (if absent then "No such file" else r.text)
  else .cannotCreate name (if absent then "Directory nonexistent" else r.text)

/-- Lets a number stand for what a redirection opens. -/
def open_ (n : Nat) (o : Opening) : Run Unit := do
  let s ← get
  let use (stream : Stream) (m : Machine) : Run Unit := do
    let (k, m) := m.open_ stream
    set { s with machine := m, session := s.session.setStream n (some k) }
  match o with
  | .closed => Run.change fun s => s.setStream n none
  | .stream k =>
    if k != n then
      match s.session.stream? k with
      | some stream => Run.change fun s => s.setStream n (some stream)
      | none => Run.fail (.badStream k)
  | .path kind name =>
    match s.machine.openPath s.session.table s.session.mask name kind (s.session.has 'C') with
    | .ok (stream, m) => use stream m
    | .error r => Run.fail (openFault kind name r)
  | .text _ => return

/-- How a round of a loop ended: the next one comes, it comes at once, or the loop is left. -/
inductive RoundEnd where
  | onward
  | again
  | leave
  | back
  deriving DecidableEq

/-- Ends a round of a loop. What leads further out goes on there. -/
def endRound : Run RoundEnd := do
  let s ← Run.session
  match s.skip with
  | .no => return .onward
  | .back => return .back
  | .leave n =>
    Run.change fun s => { s with skip := if n ≤ 1 then .no else .leave (n - 1) }
    return .leave
  | .again n =>
    Run.change fun s => { s with skip := if n ≤ 1 then .no else .again (n - 1) }
    return if n ≤ 1 then .again else .leave

end VariantForge.Shell
