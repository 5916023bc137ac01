import VariantForge.Shell.Integer
import VariantForge.Shell.Machine

/-!
Conditions, as `test` and brackets give them: texts and numbers that are compared, and what there is on
the disk, joined by signs for not, and, or.
-/

namespace VariantForge.Shell.Condition

/-- What a word means in a condition: a test of the word after it, of the words around it, a sign that
joins conditions, a bracket, or nothing of its own. -/
inductive Role where
  | unary
  | binary
  | negation
  | both
  | either
  | openBracket
  | closeBracket
  | operand
  | ending
  deriving DecidableEq

/-- What a word means where it may mean anything. -/
def role (w : String) : Role :=
  if ["-r", "-w", "-x", "-e", "-f", "-d", "-c", "-b", "-p", "-u", "-g", "-k", "-s", "-t", "-z", "-n", "-h", "-O",
      "-G", "-L", "-S"].contains w then .unary
  else if ["=", "!=", "<", ">", "-eq", "-ne", "-gt", "-ge", "-lt", "-le", "-nt", "-ot", "-ef"].contains w then .binary
  else if w = "!" then .negation
  else if w = "-a" then .both
  else if w = "-o" then .either
  else if w = "(" then .openBracket
  else if w = ")" then .closeBracket
  else .operand

/-- What the word at a place means. A test of one word is a plain word where no word comes after it, or
where the word after it compares it with another. -/
def roleAt (ws : Array String) (i : Nat) : Role :=
  match ws[i]? with
  | none => .ending
  | some w =>
    match role w, ws[i + 1]?, ws[i + 2]? with
    | .unary, none, _ => .operand
    | .unary, some _, none => .unary
    | .unary, some v, some _ => if role v = .binary then .operand else .unary
    | .openBracket, none, _ => .operand
    | r, _, _ => r

/-- Evaluating, which may fail for a reason in words. -/
abbrev Eval := Except String

/-- The number that a word is. -/
def number (w : String) : Eval Int :=
  match Integer.read? 10 w with
  | some n => .ok n
  | none => .error ("Illegal number: " ++ w)

/-- The size of what is at a path; a directory has some. -/
def size (d : Disk) (path : String) : Nat :=
  match d.look? path with
  | some (.file bytes _) => bytes.size
  | some _ => 4096
  | none => 0

/-- The mode of what is at a path. -/
def mode (d : Disk) (path : String) : Nat :=
  match d.look? path with
  | some (.file _ mode) => mode
  | some _ => 0o755
  | none => 0

/-- Whether a path names a link. -/
def isLink (d : Disk) (path : String) : Bool :=
  match d.locateSelf path with
  | .ok p => match d.get? p with
    | some (.link _) => true
    | _ => false
  | .error _ => false

/-- A path to the device that swallows all. -/
def isDevice (path : String) : Bool := ["/dev/null", "/dev/zero", "/dev/tty", "/dev/full"].contains path

/-- A test of one word. -/
def unary (d : Disk) (op w : String) : Eval Bool :=
  let path := Octets.toString w
  match op with
  | "-z" => .ok w.isEmpty
  | "-n" => .ok (!w.isEmpty)
  | "-t" => do
    let _ ← number w
    return false
  | "-e" => .ok (d.exists_ path || isDevice path)
  | "-f" => .ok (d.isFile path && !isDevice path)
  | "-d" => .ok (d.isDirectory path)
  | "-c" => .ok (isDevice path)
  | "-s" => .ok (0 < size d path)
  | "-r" => .ok (mayRead (mode d path))
  | "-w" => .ok (mayWrite (mode d path))
  | "-x" => .ok (mayExecute (mode d path))
  | "-h" | "-L" => .ok (isLink d path)
  | "-O" | "-G" => .ok (d.exists_ path)
  | _ => .ok false

/-- A test of two words. -/
def binary (d : Disk) (op a b : String) : Eval Bool := do
  let compare (f : Int → Int → Bool) : Eval Bool := do
    let m ← number a
    let n ← number b
    return f m n
  match op with
  | "=" => return a == b
  | "!=" => return a != b
  | "<" => return decide (a < b)
  | ">" => return decide (b < a)
  | "-eq" => compare (· == ·)
  | "-ne" => compare (· != ·)
  | "-lt" => compare fun m n => m < n
  | "-le" => compare fun m n => m ≤ n
  | "-gt" => compare fun m n => n < m
  | "-ge" => compare fun m n => n ≤ m
  | "-ef" =>
    let place (w : String) : Option Place :=
      if d.exists_ (Octets.toString w) then (d.locate (Octets.toString w)).toOption else none
    return (place a).isSome && place a == place b
  | _ => return false

/-- A fault that a word is named for. -/
def fault (w words : String) : Eval α := .error (if w.isEmpty then words else w ++ ": " ++ words)

mutual

/-- Conditions of which one must hold, from a place on; gives the last place that was looked at. -/
def either (d : Disk) (ws : Array String) : Nat → Role → Nat → Eval (Bool × Nat)
  | 0, _, i => .ok (false, i)
  | fuel + 1, r, i => do
    let (a, i) ← both d ws fuel r i
    if roleAt ws (i + 1) != .either then return (a, i)
    let (b, j) ← either d ws fuel (roleAt ws (i + 2)) (i + 2)
    return (a || b, j)

/-- Conditions that must all hold. -/
def both (d : Disk) (ws : Array String) : Nat → Role → Nat → Eval (Bool × Nat)
  | 0, _, i => .ok (false, i)
  | fuel + 1, r, i => do
    let (a, i) ← negated d ws fuel r i
    if roleAt ws (i + 1) != .both then return (a, i)
    let (b, j) ← both d ws fuel (roleAt ws (i + 2)) (i + 2)
    return (a && b, j)

/-- A condition that may be negated. -/
def negated (d : Disk) (ws : Array String) : Nat → Role → Nat → Eval (Bool × Nat)
  | 0, _, i => .ok (false, i)
  | fuel + 1, r, i => do
    if r != .negation then primary d ws fuel r i
    else
      let r := roleAt ws (i + 1)
      let (a, j) ← negated d ws fuel r (if r = .ending then i else i + 1)
      return (!a, j)

/-- A single condition. -/
def primary (d : Disk) (ws : Array String) : Nat → Role → Nat → Eval (Bool × Nat)
  | 0, _, i => .ok (false, i)
  | fuel + 1, r, i => do
    let w := (ws[i]?).getD ""
    match r with
    | .ending => return (false, i)
    | .openBracket =>
      let r := roleAt ws (i + 1)
      if r = .closeBracket then return (false, i + 1)
      let (a, j) ← either d ws fuel r (i + 1)
      if roleAt ws (j + 1) != .closeBracket then throw "closing paren expected"
      return (a, j + 1)
    | .unary =>
      match ws[i + 1]? with
      | none => fault w "argument expected"
      | some v => return (← unary d w v, i + 1)
    | _ =>
      if roleAt ws (i + 1) = .binary then
        match ws[i + 2]? with
        | none => fault ((ws[i + 1]?).getD "") "argument expected"
        | some v => return (← binary d ((ws[i + 1]?).getD "") w v, i + 2)
      else return (!w.isEmpty, i)

end

/-- Whether some words are a condition that holds, the first of which means `r`; `turned` says that it must
not. -/
def whole (d : Disk) (ws : Array String) (r : Role) (turned : Bool) : Eval Bool := do
  let (a, i) ← either d ws (8 * ws.size + 16) r 0
  match ws[i]?, ws[i + 1]? with
  | some w, some _ => fault w "unexpected operator"
  | _, _ => return a != turned

/-- Whether words are a condition that holds. A comparison of two words comes before all else; then a sign
for not in front of two or three words, where one counts as much as two, and brackets around one or two. -/
def holds (d : Disk) : Nat → Bool → List String → Eval Bool
  | 0, turned, _ => .ok turned
  | fuel + 1, turned, ws =>
    let plain (ws : List String) : Eval Bool := whole d ws.toArray (roleAt ws.toArray 0) turned
    let framed : Bool := ws.head? == some "(" && ws.getLast? == some ")"
    let special : Eval Bool :=
      if framed then plain (ws.drop 1).dropLast
      else if ws.head? = some "!" then holds d fuel true (ws.drop 1)
      else plain ws
    match ws with
    | [] => .ok turned
    | [_, op, _] => if role op = .binary then whole d ws.toArray .operand turned else special
    | [_, _, _, _] => special
    | ws => plain ws

/-- Whether the words after `test` are a condition that holds. -/
def test (d : Disk) (words : List String) : Eval Bool := holds d (words.length + 1) false words

/-- Whether the words after an opening bracket are a condition that holds. -/
def bracket (d : Disk) (words : List String) : Eval Bool :=
  match words.reverse with
  | last :: before => if last.toList.head? == some ']' then test d before.reverse else .error "missing ]"
  | [] => .error "missing ]"

end VariantForge.Shell.Condition
