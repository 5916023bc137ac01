import VariantForge.Shell.Fault
import VariantForge.Shell.Integer
import VariantForge.Shell.Script

/-!
Arithmetic in scripts: whole numbers of 64 bits that wrap around, variables, assignments and the usual
operators in their usual order. An operand that does not count is read but changes nothing.
-/

namespace VariantForge.Shell.Arithmetic

/-- An operator between two operands. -/
inductive Operator where
  | mul
  | div
  | rem
  | add
  | sub
  | shiftLeft
  | shiftRight
  | lt
  | le
  | gt
  | ge
  | eq
  | ne
  | bitAnd
  | bitXor
  | bitOr
  deriving DecidableEq

/-- A token of an expression. `bad` is one that fits nowhere. -/
inductive Token where
  | number (n : Int)
  | name (s : String)
  | operator (op : Operator)
  | assign (op : Option Operator)
  | and
  | or
  | negation
  | complement
  | openBracket
  | closeBracket
  | question
  | colon
  | bad
  deriving DecidableEq

/-- How tight an operator binds: the lower, the tighter. -/
def Operator.order : Operator → Nat
  | .mul | .div | .rem => 0
  | .add | .sub => 1
  | .shiftLeft | .shiftRight => 2
  | .lt | .le | .gt | .ge => 3
  | .eq | .ne => 4
  | .bitAnd => 5
  | .bitXor => 6
  | .bitOr => 7

/-- Signs of operators and the like, longer ones first. -/
def signs : List (List Char × Token) :=
  [("<<=".toList, .assign (some .shiftLeft)), (">>=".toList, .assign (some .shiftRight)),
    ("<<".toList, .operator .shiftLeft), (">>".toList, .operator .shiftRight),
    ("<=".toList, .operator .le), (">=".toList, .operator .ge), ("==".toList, .operator .eq),
    ("!=".toList, .operator .ne), ("&&".toList, .and), ("||".toList, .or),
    ("*=".toList, .assign (some .mul)), ("/=".toList, .assign (some .div)),
    ("%=".toList, .assign (some .rem)), ("+=".toList, .assign (some .add)),
    ("-=".toList, .assign (some .sub)), ("&=".toList, .assign (some .bitAnd)),
    ("^=".toList, .assign (some .bitXor)), ("|=".toList, .assign (some .bitOr)),
    ("=".toList, .assign none), ("<".toList, .operator .lt), (">".toList, .operator .gt),
    ("*".toList, .operator .mul), ("/".toList, .operator .div), ("%".toList, .operator .rem),
    ("+".toList, .operator .add), ("-".toList, .operator .sub), ("&".toList, .operator .bitAnd),
    ("^".toList, .operator .bitXor), ("|".toList, .operator .bitOr), ("!".toList, .negation),
    ("~".toList, .complement), ("(".toList, .openBracket), (")".toList, .closeBracket),
    ("?".toList, .question), (":".toList, .colon)]

/-- The tokens of an expression. Nothing is read after one that fits nowhere. -/
def tokens : Nat → List Char → List Token
  | 0, _ => []
  | _ + 1, [] => []
  | fuel + 1, c :: rest =>
    if c = ' ' ∨ c = '\t' ∨ c = '\n' then tokens fuel rest
    else if isNameStart c then
      let name := (c :: rest).takeWhile isNameChar
      .name (String.ofList name) :: tokens fuel ((c :: rest).drop name.length)
    else
      match Integer.unsigned? 0 (c :: rest) with
      | some (n, after) => .number (Integer.clamp n) :: tokens fuel after
      | none =>
        match signs.find? fun s => s.1.isPrefixOf (c :: rest) with
        | some (text, t) => t :: tokens fuel ((c :: rest).drop text.length)
        | none => [.bad]

/-- One for truth, zero for falsehood. -/
def truth (b : Bool) : Int := if b then 1 else 0

/-- A function of the bits of two numbers. -/
def bits (f : UInt64 → UInt64 → UInt64) (a b : Int) : Int :=
  (f (Int64.ofInt a).toUInt64 (Int64.ofInt b).toUInt64).toInt64.toInt

/-- The bits of a number that say how far another one is shifted. -/
def distance (b : Int) : Nat := (b % 64).toNat

/-- The value of an operator. -/
def apply (op : Operator) (a b : Int) : Except ArithmeticFault Int :=
  match op with
  | .mul => .ok (Integer.wrap (a * b))
  | .div =>
    if b = 0 then .error .division else if Integer.inRange (a.tdiv b) then .ok (a.tdiv b) else .error .overflow
  | .rem =>
    if b = 0 then .error .division else if Integer.inRange (a.tdiv b) then .ok (a.tmod b) else .error .overflow
  | .add => .ok (Integer.wrap (a + b))
  | .sub => .ok (Integer.wrap (a - b))
  | .shiftLeft => .ok (Integer.wrap (a <<< distance b))
  | .shiftRight => .ok (a >>> distance b)
  | .lt => .ok (truth (a < b))
  | .le => .ok (truth (a ≤ b))
  | .gt => .ok (truth (b < a))
  | .ge => .ok (truth (b ≤ a))
  | .eq => .ok (truth (a == b))
  | .ne => .ok (truth (a != b))
  | .bitAnd => .ok (bits (· &&& ·) a b)
  | .bitXor => .ok (bits (· ^^^ ·) a b)
  | .bitOr => .ok (bits (· ||| ·) a b)

/-- Where an expression stands: its text, and the variables around it. -/
structure Scope where
  text : String
  value : String → Option String
  readOnly : String → Bool

/-- An evaluation: the tokens that are left, and the variables that were assigned, the last one first. -/
structure Work where
  rest : List Token
  assigned : List (String × Int) := []

/-- Evaluating, which may fail. -/
abbrev Eval := StateT Work (Except Fault)

namespace Scope

/-- Fails. -/
def fail (sc : Scope) (f : ArithmeticFault) : Eval α := fun _ => .error (.arithmetic f sc.text)

/-- The value of a variable. -/
def look (sc : Scope) (name : String) : Eval Int := fun w =>
  match w.assigned.find? (·.1 == name) with
  | some (_, n) => .ok (n, w)
  | none =>
    let text := (sc.value name).getD ""
    match Integer.read? 0 text with
    | some n => .ok (n, w)
    | none => .error (.illegalNumber text)

/-- Sets a variable. -/
def assign (sc : Scope) (name : String) (n : Int) : Eval Int := fun w =>
  if sc.readOnly name then .error (.readOnly name)
  else .ok (n, { w with assigned := (name, n) :: w.assigned })

/-- The value of an operator, or the second operand where nothing counts. -/
def combine (sc : Scope) (counts : Bool) (op : Operator) (a b : Int) : Eval Int :=
  if !counts then return b
  else match apply op a b with
    | .ok n => return n
    | .error f => sc.fail f

end Scope

/-- The next token. -/
def peek : Eval (Option Token) := return (← get).rest.head?

/-- Goes past a token. -/
def skip : Eval Unit := modify fun w => { w with rest := w.rest.drop 1 }

mutual

/-- A number, a variable, an expression in brackets, or an operand with a sign before it. -/
def operand (sc : Scope) : Nat → Bool → Eval Int
  | 0, _ => sc.fail .primary
  | fuel + 1, counts => do
    let t ← peek
    skip
    match t with
    | some .openBracket =>
      let n ← whole sc fuel counts
      if (← peek) != some .closeBracket then sc.fail .bracket
      skip
      return n
    | some (.number n) => return n
    | some (.name x) => if counts then sc.look x else return 0
    | some (.operator .add) => operand sc fuel counts
    | some (.operator .sub) => return Integer.wrap (-(← operand sc fuel counts))
    | some .negation => return truth ((← operand sc fuel counts) == 0)
    | some .complement => return -(← operand sc fuel counts) - 1
    | _ => sc.fail .primary

/-- The operand `a` with the operators after it that bind tighter than `limit`. -/
def joined (sc : Scope) : Nat → Bool → Nat → Int → Eval Int
  | 0, _, _, _ => sc.fail .primary
  | fuel + 1, counts, limit, a => do
    match ← peek with
    | some (.operator op) =>
      if limit ≤ op.order then return a
      else
        skip
        let b ← operand sc fuel counts
        let b ← joined sc fuel counts op.order b
        joined sc fuel counts limit (← sc.combine counts op a b)
    | _ => return a

/-- Operands that must all be true. -/
def conjunction (sc : Scope) : Nat → Bool → Eval Int
  | 0, _ => sc.fail .primary
  | fuel + 1, counts => do
    let a ← joined sc fuel counts 8 (← operand sc fuel counts)
    if (← peek) != some .and then return a
    skip
    let b ← conjunction sc fuel (counts && a != 0)
    return truth (a != 0 && b != 0)

/-- Operands of which one must be true. -/
def disjunction (sc : Scope) : Nat → Bool → Eval Int
  | 0, _ => sc.fail .primary
  | fuel + 1, counts => do
    let a ← conjunction sc fuel counts
    if (← peek) != some .or then return a
    skip
    let b ← disjunction sc fuel (counts && a == 0)
    return truth (a != 0 || b != 0)

/-- A condition with the two values that it chooses from. -/
def conditional (sc : Scope) : Nat → Bool → Eval Int
  | 0, _ => sc.fail .primary
  | fuel + 1, counts => do
    let a ← disjunction sc fuel counts
    if (← peek) != some .question then return a
    skip
    let b ← whole sc fuel (counts && a != 0)
    if (← peek) != some .colon then sc.fail .colon
    skip
    let c ← conditional sc fuel (counts && a == 0)
    return if a != 0 then b else c

/-- A whole expression, which may assign its value to a variable. -/
def whole (sc : Scope) : Nat → Bool → Eval Int
  | 0, _ => sc.fail .primary
  | fuel + 1, counts => do
    match (← get).rest with
    | .name x :: .assign op :: rest =>
      modify fun w => { w with rest }
      let b ← whole sc fuel counts
      if !counts then return b
      match op with
      | none => sc.assign x b
      | some op => sc.assign x (← sc.combine true op (← sc.look x) b)
    | _ => conditional sc fuel counts

end

/-- The value of an expression, and the variables that it assigns, the first one first. -/
def evaluate (sc : Scope) : Except Fault (Int × List (String × Int)) := do
  let ts := tokens (sc.text.length + 1) sc.text.toList
  let (n, w) ← (whole sc (8 * ts.length + 16) true).run { rest := ts }
  if w.rest.isEmpty then return (n, w.assigned.reverse)
  else throw (.arithmetic .ending sc.text)

end VariantForge.Shell.Arithmetic
