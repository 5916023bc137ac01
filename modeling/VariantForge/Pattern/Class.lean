import VariantForge.Pattern.Escape

/-!
Reading classes of characters in a pattern's text.

A class lists characters, ranges and classes with letters of their own. Under the flag for sets it
may also hold strings and other classes, and two classes may be met or one taken from another.
-/

namespace VariantForge.Pattern

/-! ### Entries and ranges -/

/-- One entry of a class: a character, or a class with a letter of its own. -/
inductive Entry where
  | char (p : Nat)
  | class_ (item : CharItem)

/-- Reads one entry of a class. -/
def readEntry (ctx : Context) : Read Entry := do
  match ← next with
  | none => throw .unterminatedClass
  | some c =>
    if c ≠ sign '\\' then do
      skip 1
      return .char c
    else do
      match ← second with
      | none => throw .escapeAtEnd
      | some e =>
        skip 1
        match namedClass? e with
        | some item =>
          skip 1
          return .class_ item
        | none =>
          if e = sign 'b' then do
            skip 1
            return .char 8
          else if ctx.unicode ∧ (e = sign 'p' ∨ e = sign 'P') then do
            skip 1
            return .class_ (← readProperty (e == sign 'P') .invalidClassPropertyName)
          else return .char (← readCharEscape ctx true)

/-- The items of an entry. -/
def Entry.items : Entry → List CharItem
  | .char p => [.range p p]
  | .class_ item => [item]

/-- Reads the entries of a class up to its closing bracket; `before` holds the items read so far. A
hyphen between two characters spans a range, elsewhere it stands for itself. -/
def readEntries (ctx : Context) : Nat → List CharItem → Read (List CharItem)
  | 0, _ => throw .tooLarge
  | fuel + 1, before => do
    match ← next with
    | none => throw .unterminatedClass
    | some c =>
      if c = sign ']' then do
        skip 1
        return before
      let low ← readEntry ctx
      if !(← nextIs '-') then readEntries ctx fuel (before ++ low.items)
      else
        skip 1
        match ← next with
        | none => throw .unterminatedClass
        | some c =>
          if c = sign ']' then readEntries ctx fuel (before ++ low.items ++ [.range 45 45])
          else
            let high ← readEntry ctx
            match low, high with
            | .char a, .char b =>
              if b < a then throw .classRangeOrder
              readEntries ctx fuel (before ++ [.range a b])
            | _, _ =>
              if ctx.unicode then throw .invalidCharacterClass
              readEntries ctx fuel (before ++ low.items ++ [.range 45 45] ++ high.items)

/-! ### Sets -/

/-- What a class holds under the flag for sets: single characters, strings, and whether it is of a
kind that may hold strings. -/
structure Contents where
  chars : CharItem := .nothing
  strings : List (List Nat) := []
  mayHoldStrings : Bool := false

namespace Contents

/-- What either of two classes holds. -/
def union (a b : Contents) : Contents :=
  ⟨.either a.chars b.chars, a.strings ++ b.strings, a.mayHoldStrings || b.mayHoldStrings⟩

/-- What both of two classes hold. -/
def inter (a b : Contents) : Contents :=
  ⟨.both a.chars b.chars, a.strings.filter b.strings.contains, a.mayHoldStrings && b.mayHoldStrings⟩

/-- What a class holds and another does not. -/
def diff (a b : Contents) : Contents :=
  ⟨.without a.chars b.chars, a.strings.filter (!b.strings.contains ·), a.mayHoldStrings⟩

/-- The characters that a class does not hold. -/
def complement (a : Contents) : Contents := { chars := .complement a.chars }

/-- A range of characters. -/
def range (low high : Nat) : Contents := { chars := .range low high }

/-- One string; it counts as a character if it is one. -/
def string (s : List Nat) : Contents :=
  match s with
  | [p] => range p p
  | s => { strings := [s], mayHoldStrings := true }

/-- The pattern that fits what a class holds: longer strings before shorter ones, the characters
after those, and the empty string last. -/
def node (a : Contents) : Node :=
  let chars := Node.oneOf [a.chars] false
  let short := if a.strings.contains [] then .either chars .empty else chars
  let long := (a.strings.filter (!·.isEmpty)).mergeSort fun s t => t.length ≤ s.length
  long.foldr (fun s rest => .either (.chars s) rest) short

end Contents

/-- An operand in a class: a single character, or what a class or an escape holds. -/
inductive Operand where
  | char (p : Nat)
  | contents (c : Contents)

/-- What an operand holds. -/
def Operand.held : Operand → Contents
  | .char p => .range p p
  | .contents c => c

/-- Characters that must be escaped in a class. -/
def setSigns : String := "()[]\x7b\x7d/-|"

/-- Characters that must not stand twice in a row in a class. -/
def doubled : String := "&!#$%*+,.:;<=>?@^" ++ (Char.ofNat 96).toString ++ "~"

/-- Characters besides those with a meaning of their own that may be escaped in a class. -/
def setEscapable : String := "&-!#%,:;<=>@" ++ (Char.ofNat 96).toString ++ "~"

/-- Whether a character and the same once more come next. -/
def nextAreTwo (c : Char) : Read Bool := do return (← nextIs c) && (← second) == some (sign c)

/-- Reads one character of a class. -/
def readSetChar (ctx : Context) : Read Nat := do
  match ← next with
  | none => throw .unterminatedClass
  | some c =>
    if c = sign '\\' then do
      match ← second with
      | none => throw .escapeAtEnd
      | some e =>
        skip 1
        if e = sign 'b' then do
          skip 1
          return 8
        else if isAmong e setEscapable then do
          skip 1
          return e
        else readCharEscape ctx true
    else if isAmong c setSigns then throw .invalidClassChar
    else if isAmong c doubled ∧ (← second) = some c then throw .invalidSetOperation
    else do
      skip 1
      return c

/-- Reads strings between bars up to the brace that closes them; `before` is the string begun. -/
def readStrings (ctx : Context) : Nat → List Nat → Contents → Read Contents
  | 0, _, _ => throw .tooLarge
  | fuel + 1, before, found => do
    match ← next with
    | none => throw .unterminatedClass
    | some c =>
      if c = sign '\x7d' then do
        skip 1
        return found.union (.string before)
      else if c = sign '|' then do
        skip 1
        readStrings ctx fuel [] (found.union (.string before))
      else
        let p ← readSetChar ctx
        readStrings ctx fuel (before ++ [ctx.flags.canonical p]) found

/-- Reads what a class with operators may hold besides single characters: strings, a class with a
letter of its own, or the characters of a property. Gives nothing for anything else. -/
def readSetEscape (ctx : Context) : Read (Option Contents) := do
  if !(← nextIs '\\') then return none
  match ← second with
  | none => return none
  | some e =>
    if e = sign 'q' then do
      skip 2
      if !(← nextIs '\x7b') then throw .invalidEscape
      skip 1
      return some (← readStrings ctx ((← get).rest.length + 1) [] {})
    else if e = sign 'p' ∨ e = sign 'P' then do
      skip 2
      let item ← readProperty (e == sign 'P') .invalidClassPropertyName
      return some { chars := item }
    else
      match namedClass? e with
      | some item =>
        skip 2
        return some { chars := item }
      | none => return none

mutual

/-- Reads an operand. -/
def readOperand (ctx : Context) : Nat → Read Operand
  | 0 => throw .tooLarge
  | fuel + 1 => do
    match ← readSetEscape ctx with
    | some c => return .contents c
    | none =>
      if ← nextIs '[' then do
        skip 1
        return .contents (← readSet ctx fuel)
      else return .char (← readSetChar ctx)

/-- Reads a class after its opening bracket. -/
def readSet (ctx : Context) : Nat → Read Contents
  | 0 => throw .tooLarge
  | fuel + 1 => do
    let negated ← nextIs '^'
    if negated then skip 1
    let close (c : Contents) : Read Contents := do
      skip 1
      if negated ∧ c.mayHoldStrings then throw .negatedStrings
      return if negated then c.complement else c
    if ← nextIs ']' then close {}
    else
      let first ← readOperand ctx fuel
      if ← nextAreTwo '-' then
        if negated ∧ first.held.mayHoldStrings then throw .negatedStrings
        close (← readDifference ctx fuel first.held)
      else if ← nextAreTwo '&' then close (← readIntersection ctx fuel first.held)
      else close (← readUnion ctx fuel {} first)

/-- Reads operands with two hyphens before each. -/
def readDifference (ctx : Context) : Nat → Contents → Read Contents
  | 0, _ => throw .tooLarge
  | fuel + 1, before => do
    match ← next with
    | none => throw .unterminatedClass
    | some c =>
      if c = sign ']' then return before
      if !(← nextAreTwo '-') then throw .invalidSetOperation
      skip 2
      let right ← readOperand ctx fuel
      readDifference ctx fuel (before.diff right.held)

/-- Reads operands with two ampersands before each. -/
def readIntersection (ctx : Context) : Nat → Contents → Read Contents
  | 0, _ => throw .tooLarge
  | fuel + 1, before => do
    match ← next with
    | none => throw .unterminatedClass
    | some c =>
      if c = sign ']' then return before
      if !(← nextAreTwo '&') then throw .invalidSetOperation
      skip 2
      if ← nextIs '&' then throw .invalidClassChar
      let right ← readOperand ctx fuel
      readIntersection ctx fuel (before.inter right.held)

/-- Reads operands one after the other, and ranges. A range may begin with the operand before, `last`,
if that is a single character. -/
def readUnion (ctx : Context) : Nat → Contents → Operand → Read Contents
  | 0, _, _ => throw .tooLarge
  | fuel + 1, before, last => do
    match ← next with
    | none => throw .unterminatedClass
    | some c =>
      if c = sign ']' then return before.union last.held
      else if c = sign '-' then
        if ← nextAreTwo '-' then throw .invalidSetOperation
        match last with
        | .char low =>
          skip 1
          match ← readOperand ctx fuel with
          | .char high =>
            if high < low then throw .classRangeOrder
            readUnion ctx fuel before (.contents (.range low high))
          | _ => throw .invalidCharacterClass
        | .contents _ => throw .invalidCharacterClass
      else
        let more ← readOperand ctx fuel
        readUnion ctx fuel (before.union last.held) more

end

/-- Reads a class after its opening bracket. -/
def readClass (ctx : Context) : Read Node := do
  if ctx.flags.sets then return (← readSet ctx (2 * (← get).rest.length + 4)).node
  let negated ← nextIs '^'
  if negated then skip 1
  let items ← readEntries ctx ((← get).rest.length + 1) []
  return .oneOf items negated

end VariantForge.Pattern
