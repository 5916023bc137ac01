import VariantForge.Pattern.Error
import VariantForge.Pattern.Node
import VariantForge.Unicode.Categories
import VariantForge.Unicode.Properties
import VariantForge.Unicode.Scripts

/-!
Reading escapes in a pattern's text.

A reader works on what is left of the text. An escape stands for one character, or for the class
that its letter or the name of a property stands for. In Unicode mode an escape that means nothing
is a fault, else it is the character after the backslash.
-/

namespace VariantForge.Pattern

/-! ## Properties

Sets of characters by the name of a property. A name alone is a property or a general category; a
name with a value asks for a category, a script, or a script among those a character is used with. -/

/-- The code points of a general category or group of categories. -/
def category? (name : String) : Option Unicode.Ranges :=
  (Unicode.categoryNames.find? (·.1.contains name)).map fun row =>
    Unicode.Ranges.ofRuns row.2.contains Unicode.categoryRuns

/-- The short name of a script. -/
def scriptCode? (name : String) : Option String :=
  (Unicode.scriptNames.find? (·.contains name)).bind List.head?

/-- The code points of a script. -/
def script? (name : String) : Option Unicode.Ranges :=
  (scriptCode? name).map fun code => Unicode.Ranges.ofRuns (· == code) Unicode.scriptRuns

/-- The code points used with a script. -/
def scriptExtensions? (name : String) : Option Unicode.Ranges :=
  (scriptCode? name).map fun code =>
    Unicode.Ranges.ofRuns (fun codes => (codes.toList.splitOn '+').contains code.toList)
      Unicode.scriptExtensionRuns

/-- The set that a property's name, and a value if one is given, stand for. -/
def property? (name : String) (value : Option String) : Option Unicode.Ranges :=
  match value with
  | none =>
    match category? name with
    | some set => some set
    | none => (Unicode.properties.find? (·.1.contains name)).map (·.2)
  | some v =>
    if name = "General_Category" ∨ name = "gc" then category? v
    else if name = "Script" ∨ name = "sc" then script? v
    else if name = "Script_Extensions" ∨ name = "scx" then scriptExtensions? v
    else none

/-! ## Escapes -/

/-- What the reader knows of the whole text: its flags, how many groups it has, and whether any of
them has a name. -/
structure Context where
  flags : Flags
  groups : Nat
  anyNames : Bool

/-- Whether the text is read by code points and strictly. -/
def Context.unicode (ctx : Context) : Bool := ctx.flags.byPoint

/-- What is left to read, the groups opened so far and the names given so far. -/
structure Progress where
  rest : List Nat
  opened : Nat := 0
  names : List (List Nat × Nat) := []

/-- A reader goes on from a point in the text, or stops at a fault. -/
abbrev Read (α : Type) := StateT Progress (Except Fault) α

/-- The group that the reader is inside of: its number and its name. -/
abbrev Enclosing := List (Nat × Option (List Nat))

/-- A character of the pattern's own signs. -/
def sign (c : Char) : Nat := c.toNat

/-- The next character, which stays. -/
def next : Read (Option Nat) := do return (← get).rest.head?

/-- The character after the next. -/
def second : Read (Option Nat) := do return (← get).rest.tail.head?

/-- Leaves out `n` characters. -/
def skip (n : Nat) : Read Unit := modify fun s => { s with rest := s.rest.drop n }

/-- Whether the next character is a given sign. -/
def nextIs (c : Char) : Read Bool := do return (← next) == some (sign c)

/-- Whether a character is a decimal digit. -/
def isDigitPoint (p : Nat) : Bool := 48 ≤ p && p ≤ 57

/-- The value of a digit of base sixteen. -/
def hexValue? (p : Nat) : Option Nat :=
  if 48 ≤ p ∧ p ≤ 57 then some (p - 48)
  else if 97 ≤ p ∧ p ≤ 102 then some (p - 87)
  else if 65 ≤ p ∧ p ≤ 70 then some (p - 55)
  else none

/-- Whether a character is one of those in a string. -/
def isAmong (p : Nat) (signs : String) : Bool := signs.toList.any (sign · == p)

/-- Reads `n` digits of base sixteen; gives nothing and reads nothing if there are not so many. -/
def readHex (n : Nat) : Read (Option Nat) := do
  let ds := (← get).rest.take n
  match ds.mapM hexValue? with
  | some values =>
    if values.length = n then
      skip n
      return some (values.foldl (fun v d => v * 16 + d) 0)
    else return none
  | none => return none

/-- Reads a code point of any number of digits between braces, after the opening one. -/
def readBraced : Read (Option Nat) := do
  let cs := (← get).rest
  let ds := cs.takeWhile fun p => (hexValue? p).isSome
  let value := ds.foldl (fun v p => v * 16 + (hexValue? p).getD 0) 0
  if ds.isEmpty || 0x10FFFF < value || (cs.drop ds.length).head? != some (sign '\x7d') then
    return none
  else
    skip (ds.length + 1)
    return some value

/-- Reads what follows `\u`. In Unicode mode digits may stand in braces and two halves of a
surrogate pair give one character. -/
def readUnicodeEscape (unicode : Bool) : Read (Option Nat) := do
  let start ← get
  if unicode && (← nextIs '\x7b') then
    skip 1
    match ← readBraced with
    | some p => return some p
    | none =>
      set start
      return none
  else
    match ← readHex 4 with
    | none => return none
    | some p =>
      if unicode && 0xD800 ≤ p && p ≤ 0xDBFF then
        let afterFirst ← get
        if (← nextIs '\\') && (← second) == some (sign 'u') then
          skip 2
          match ← readHex 4 with
          | some q =>
            if 0xDC00 ≤ q ∧ q ≤ 0xDFFF then
              return some (0x10000 + (p - 0xD800) * 0x400 + (q - 0xDC00))
            else
              set afterFirst
              return some p
          | none =>
            set afterFirst
            return some p
        else return some p
      else return some p

/-- Reads up to three octal digits of a value below 256. -/
def readOctal : Read Nat := do
  let isOctal (p : Nat) : Bool := 48 ≤ p && p ≤ 55
  let ds := ((← get).rest.take 3).takeWhile isOctal
  let long := ds.head?.any (· ≤ 51)
  let ds := if long then ds else ds.take 2
  skip ds.length
  return ds.foldl (fun v p => v * 8 + (p - 48)) 0

/-- Characters that an escape may make stand for themselves in Unicode mode. -/
def escapable : String := "^$\\.*+?()[]\x7b\x7d|/"

/-- Reads an escape that stands for one character, after the backslash. -/
def readCharEscape (ctx : Context) (inClass : Bool) : Read Nat := do
  match ← next with
  | none => throw .escapeAtEnd
  | some c =>
    if c = sign 'f' then do skip 1; return 12
    else if c = sign 'n' then do skip 1; return 10
    else if c = sign 'r' then do skip 1; return 13
    else if c = sign 't' then do skip 1; return 9
    else if c = sign 'v' then do skip 1; return 11
    else if c = sign 'c' then do
      let letter := (← second).getD 0
      if (65 ≤ letter ∧ letter ≤ 90) ∨ (97 ≤ letter ∧ letter ≤ 122) then do
        skip 2
        return letter % 32
      else if ctx.unicode then throw .invalidUnicodeEscape
      else if inClass ∧ (isDigitPoint letter ∨ letter = sign '_') then do
        skip 2
        return letter % 32
      else return sign '\\'
    else if c = sign '0' ∧ !((← second).any isDigitPoint) then do skip 1; return 0
    else if 48 ≤ c ∧ c ≤ 55 then do
      if ctx.unicode then throw (if inClass then .invalidClassEscape else .invalidDecimalEscape)
      readOctal
    else if c = sign 'x' then do
      skip 1
      match ← readHex 2 with
      | some p => return p
      | none => if ctx.unicode then throw .invalidEscape else return c
    else if c = sign 'u' then do
      skip 1
      match ← readUnicodeEscape ctx.unicode with
      | some p => return p
      | none => if ctx.unicode then throw .invalidUnicodeEscape else return c
    else if ctx.unicode then
      if isAmong c escapable ∨ (inClass ∧ c = sign '-') then do skip 1; return c
      else throw .invalidEscape
    else if ctx.anyNames ∧ c = sign 'k' then throw .invalidEscape
    else do skip 1; return c

/-- The class that a letter after a backslash stands for. -/
def namedClass? (c : Nat) : Option CharItem :=
  if c = sign 'd' then some (.named .digit false)
  else if c = sign 'D' then some (.named .digit true)
  else if c = sign 's' then some (.named .space false)
  else if c = sign 'S' then some (.named .space true)
  else if c = sign 'w' then some (.named .word false)
  else if c = sign 'W' then some (.named .word true)
  else none

/-- Whether a character may stand in the name of a property. -/
def isPropertyChar (p : Nat) : Bool :=
  isDigitPoint p || (65 ≤ p && p ≤ 90) || (97 ≤ p && p ≤ 122) || p == sign '_'

/-- The string of a list of code points. -/
def pointsString (ps : List Nat) : String := String.ofList (ps.map Char.ofNat)

/-- Reads the name of a property in braces, with a value if one is given. -/
def readProperty (negated : Bool) (fault : Fault) : Read CharItem := do
  if !(← nextIs '\x7b') then throw fault
  skip 1
  let name := (← get).rest.takeWhile isPropertyChar
  skip name.length
  let value ← if ← nextIs '=' then do
      skip 1
      let v := (← get).rest.takeWhile isPropertyChar
      skip v.length
      pure (some (pointsString v))
    else pure none
  if !(← nextIs '\x7d') then throw fault
  skip 1
  match property? (pointsString name) value with
  | some set => return .property set negated
  | none => throw fault

end VariantForge.Pattern
