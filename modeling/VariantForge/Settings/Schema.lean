import VariantForge.Settings.Issue
import VariantForge.Text.Basic

/-!
Reading values of a known shape.

A reader takes the way to a value and the value, if there is one, and gives what the value stands
for or all the issues that it has. A record is read member by member in a fixed order, and its
issues come in that order.
-/

namespace VariantForge

/-- What was read, with the issues found on the way; a value that counts has none. `stopped` says
that a part was met of which no number can be made. -/
structure Checked (α : Type) where
  issues : List Issue
  value? : Option α
  stopped : Bool := false

namespace Checked

/-- A value without issues. -/
def ok (a : α) : Checked α := ⟨[], some a, false⟩

/-- No value, but an issue. -/
def fail (kind : IssueKind) (path : List Step) : Checked α := ⟨[⟨kind, path⟩], none, false⟩

instance : Functor Checked where
  map f c := ⟨c.issues, c.value?.map f, c.stopped⟩

instance : Applicative Checked where
  pure a := ok a
  seq f a :=
    let b := a ()
    ⟨f.issues ++ b.issues, f.value?.bind fun g => b.value?.map g, f.stopped || b.stopped⟩

/-- The value, or why it is turned down. -/
def result (c : Checked α) : Except Rejection α :=
  if c.stopped then .error .noText
  else
    match c.issues, c.value? with
    | [], some a => .ok a
    | issues, _ => .error (.issues issues)

end Checked

/-- Reads a value at the end of a way. -/
abbrev Reader (α : Type) := List Step → Option Data → Checked α

namespace Schema

/-- The name of a value's type. -/
def typeName : Option Data → String
  | none => "undefined"
  | some .null => "null"
  | some (.bool _) => "boolean"
  | some (.number .nan) => "nan"
  | some (.number _) => "number"
  | some (.integer _) => "bigint"
  | some (.date ..) => "date"
  | some (.text _) => "string"
  | some (.list _) => "array"
  | some (.record ..) => "object"
  | some .function => "function"

/-- The issue of a value of another type than expected. -/
def wrongType (expected : String) : Reader α := fun path d =>
  .fail (.wrongType expected (typeName d)) path

/-- Any string. -/
def anyText : Reader String := fun path d =>
  match d with
  | some (.text s) => .ok s
  | d => wrongType "string" path d

/-- A string that is not empty. -/
def text : Reader String := fun path d =>
  match d with
  | some (.text s) => if s.isEmpty then .fail (.tooSmall .characters) path else .ok s
  | d => wrongType "string" path d

/-- A truth value. -/
def bool : Reader Bool := fun path d =>
  match d with
  | some (.bool b) => .ok b
  | d => wrongType "boolean" path d

/-- The number that a value stands for: texts are read, a list counts as its text. -/
def toNumber : Data → Number
  | .null => 0
  | .bool b => if b then 1 else 0
  | .number x => x
  | .integer n => .ofInt n
  | .date ms _ => .ofInt ms
  | .text s => (Number.readChars? (Text.trimChars s.toList)).getD .nan
  | .list items => (Number.readChars? (Text.trimChars (Data.list items).plainText.toList)).getD .nan
  | .record .. => .nan
  | .function => .nan

/-- What a number must be besides. -/
inductive NumberRule where
  | whole
  | positive
  | notNegative

/-- The issue of a number that breaks a rule. -/
def NumberRule.check (path : List Step) (x : Number) : NumberRule → List Issue
  | .whole => if x.isWhole then [] else [⟨.wrongType "integer" "float", path⟩]
  | .positive => if (0 : Number) < x then [] else [⟨.tooSmall .positive, path⟩]
  | .notNegative => if (0 : Number) ≤ x then [] else [⟨.tooSmall .notNegative, path⟩]

/-- A number that keeps some rules; one issue for each that it breaks. -/
def checkNumber (rules : List NumberRule) (path : List Step) (x : Number) : Checked Number :=
  if x = .nan then .fail (.wrongType "number" "nan") path
  else ⟨rules.flatMap (NumberRule.check path x), some x, false⟩

/-- A number as it stands. -/
def number (rules : List NumberRule) : Reader Number := fun path d =>
  match d with
  | some (.number x) => checkNumber rules path x
  | d => wrongType "number" path d

/-- Whatever stands for a number. -/
def coercedNumber (rules : List NumberRule) : Reader Number := fun path d =>
  match d with
  | some d => if d.hasText then checkNumber rules path (toNumber d) else ⟨[], none, true⟩
  | none => checkNumber rules path .nan

/-- A value that may be missing. -/
def optional (r : Reader α) : Reader (Option α) := fun path d =>
  match d with
  | none => .ok none
  | some d => some <$> r path (some d)

/-- A value that counts as another if it is missing. -/
def withDefault (default : Data) (r : Reader α) : Reader α := fun path d => r path (some (d.getD default))

/-- The items of a list, each read by itself. -/
def items (r : Reader α) (path : List Step) : Nat → List Data → Checked (List α)
  | _, [] => .ok []
  | i, d :: rest => List.cons <$> r (path ++ [.index i]) (some d) <*> items r path (i + 1) rest

/-- A list. -/
def list (r : Reader α) : Reader (List α) := fun path d =>
  match d with
  | some (.list ds) => items r path 0 ds
  | d => wrongType "array" path d

/-- A list that is not empty. -/
def nonEmptyList (r : Reader α) : Reader (List α) := fun path d =>
  match d with
  | some (.list []) => .fail (.tooSmall .elements) path
  | d => list r path d

/-- A record, read by a function of its members. -/
def record (r : List Step → (String → Option Data) → Checked α) : Reader α := fun path d =>
  match d with
  | some (.record own lent) => r path (Data.record own lent).get?
  | d => wrongType "object" path d

/-- A member of a record. -/
def field (name : String) (r : Reader α) (path : List Step) (get : String → Option Data) : Checked α :=
  r (path ++ [.name name]) (get name)

/-- A member that was taken out of its record. -/
def member (name : String) (r : Reader α) (value : Option Data) : Checked α := r [.name name] value

/-- Members of any names, each read by itself. -/
def entries (name : List Step → String → List Issue) (r : Reader α) (path : List Step) :
    List (String × Data) → Checked (List (String × α))
  | [] => .ok []
  | (n, d) :: rest =>
    let here := path ++ [.name n]
    let first : Checked α := r here (some d)
    let checked : Checked (String × α) := ⟨name here n ++ first.issues, first.value?.map (n, ·), first.stopped⟩
    List.cons <$> checked <*> entries name r path rest

/-- A record of any names, all its members being read the same way. The member of the reserved name
is read but does not count. -/
def table (name : List Step → String → List Issue) (r : Reader α) : Reader (Members α) := fun path d =>
  match d with
  | some (.record own lent) =>
    (fun found => Members.ofList (found.filter fun m => m.1 != Data.lendingName)) <$>
      entries name r path (Data.record own lent).visible
  | d => wrongType "object" path d

/-- Any name will do. -/
def anyName : List Step → String → List Issue := fun _ _ => []

/-- Names that are not empty. -/
def nonEmptyName : List Step → String → List Issue := fun path n =>
  if n.isEmpty then [⟨.tooSmall .characters, path⟩] else []

/-- One of several kinds of records, told apart by the member `kind`. -/
def oneOfKinds (kinds : List (String × Reader α)) : Reader α := fun path d =>
  match d with
  | some (.record own lent) =>
    let found : Option (String × Reader α) := match (Data.record own lent).get? "kind" with
      | some (.text k) => kinds.find? fun r => r.1 == k
      | _ => none
    match found with
    | some r => r.2 path d
    | none => .fail (.unknownKind (kinds.map fun r => r.1)) (path ++ [Step.name "kind"])
  | d => wrongType "object" path d

end Schema

end VariantForge
