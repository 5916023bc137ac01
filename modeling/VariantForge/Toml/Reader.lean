import VariantForge.Toml.Document
import VariantForge.Toml.Token

/-!
Reading TOML.

A text is a sequence of lines, each blank, a comment, the header of a table or of a list of tables,
or a name with a value. Lists hold values of one kind and may stretch over lines; tables in braces
may not.
-/

namespace VariantForge.Toml

/-- Drops the rest of a line. -/
def skipLine : Parse Unit := modify fun cs => (cs.dropWhile (· != '\n')).tail

/-- Drops the end of a line, where nothing but a comment may stand. -/
def endLine : Parse Unit := do
  modify (·.dropWhile fun c => c = ' ' || c = '\t' || c = '\r')
  match ← peek with
  | none => return ()
  | some '\n' => skip
  | some '#' => skipLine
  | some _ => malformed

/-- Characters of names without quotes. -/
def isNameChar (c : Char) : Bool := c.isAlphanum || c = '-' || c = '_'

/-- One part of a name. -/
def namePart : Parse String := do
  match ← peek with
  | some '"' =>
    skip
    shortText '"'
  | some '\'' =>
    skip
    shortText '\''
  | _ =>
    let cs ← takeWhile isNameChar
    if cs.isEmpty || (← peek).isNone then malformed
    return String.ofList cs

/-- A name of one part or of several with points between them, and the blanks after it. -/
def name : Nat → Parse (List String)
  | 0 => malformed
  | fuel + 1 => do
    skipBlanks
    let part ← namePart
    skipBlanks
    if (← peek) = some '.' then
      skip
      return part :: (← name fuel)
    return [part]

/-- Drops blanks, line ends and comments between the items of a list. -/
def skipGaps : Nat → Parse Unit
  | 0 => return ()
  | fuel + 1 => do
    modify (·.dropWhile fun c => c = ' ' || c = '\t' || endsLine c)
    if (← peek) = some '#' then
      skipLine
      skipGaps fuel

/-- Adds an item to a list whose items are all of one kind. -/
def addItem (items : List Value) (v : Value) : Parse (List Value) :=
  match items with
  | [] => return [v]
  | first :: _ => if first.kind = v.kind then return items ++ [v] else malformed

mutual

/-- A value. -/
def value : Nat → Parse Value
  | 0 => malformed
  | fuel + 1 => do
    match ← peek with
    | some '"' =>
      skip
      return ⟨.text (← text '"'), .text⟩
    | some '\'' =>
      skip
      return ⟨.text (← text '\''), .text⟩
    | some '+' =>
      skip
      signed '+'
    | some '-' =>
      skip
      signed '-'
    | some 'i' =>
      word "inf"
      return ⟨.number (.infinite false), .limit⟩
    | some 'n' =>
      word "nan"
      return ⟨.number .nan, .limit⟩
    | some 't' =>
      word "true"
      return ⟨.bool true, .bool⟩
    | some 'f' =>
      word "false"
      return ⟨.bool false, .bool⟩
    | some '[' =>
      skip
      listRest fuel []
    | some '\x7b' =>
      skip
      tableRest fuel []
    | some c => if c.isDigit then fromDigit else malformed
    | none => malformed

/-- The rest of a list after the items in `items`. -/
def listRest : Nat → List Value → Parse Value
  | 0, _ => malformed
  | fuel + 1, items => do
    let gaps := (← get).length
    skipGaps gaps
    if (← peek) = some ']' then
      skip
      return ⟨.list (items.map (·.data)), .list⟩
    let items ← addItem items (← value fuel)
    skipGaps gaps
    match ← peek with
    | some ',' =>
      skip
      listRest fuel items
    | some ']' => listRest fuel items
    | _ => malformed

/-- The rest of a table in braces after the members in `members`. -/
def tableRest : Nat → Table → Parse Value
  | 0, _ => malformed
  | fuel + 1, members => do
    skipBlanks
    if (← peek) = some '\x7d' then
      skip
      return ⟨.record (Table.toMembers members) [], .table⟩
    let key ← name ((← get).length + 1)
    expect '='
    skipBlanks
    let v ← value fuel
    match Table.assign members v.data key with
    | none => malformed
    | some members =>
      skipBlanks
      match ← peek with
      | some ',' =>
        skip
        tableRest fuel members
      | some '\x7d' => tableRest fuel members
      | _ => malformed

end

/-- A document while it is read, and the name of the table that was opened last. -/
structure Draft where
  root : Table
  current : List String

/-- The header of a table or of a list of tables, after its first bracket. -/
def header (d : Draft) : Parse Draft := do
  let bound := (← get).length + 1
  if (← peek) = some '[' then
    skip
    let key ← name bound
    expect ']'
    match d.root.openList key with
    | none => malformed
    | some root =>
      expect ']'
      endLine
      return ⟨root, key⟩
  else
    let key ← name bound
    expect ']'
    match d.root.openTable key with
    | none => malformed
    | some root =>
      endLine
      return ⟨root, key⟩

/-- A name with its value. -/
def assignment (d : Draft) : Parse Draft := do
  let bound := (← get).length + 1
  let key ← name bound
  expect '='
  skipBlanks
  let v ← value bound
  match d.root.within (Table.assign · v.data key) d.current with
  | none => malformed
  | some root =>
    endLine
    return { d with root }

/-- All lines of a text. -/
def lines : Nat → Draft → Parse Draft
  | 0, _ => malformed
  | fuel + 1, d => do
    modify (·.dropWhile fun c => c = ' ' || c = '\t' || endsLine c)
    match ← peek with
    | none => return d
    | some '#' =>
      skipLine
      lines fuel d
    | some '[' =>
      skip
      lines fuel (← header d)
    | some c =>
      if isNameChar c || c = '"' || c = '\'' then lines fuel (← assignment d) else malformed

/-- The record that a TOML text stands for. -/
def read (s : String) : Except Fault Data :=
  let cs := s.toList
  match (lines (cs.length + 1) ⟨[], []⟩).run cs with
  | .ok (d, _) => .ok (.record (Table.toMembers d.root) [])
  | .error fault => .error fault

end VariantForge.Toml
