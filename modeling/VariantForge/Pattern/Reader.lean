import VariantForge.Pattern.Class
import VariantForge.Unicode.Letters

/-!
Reading a pattern's text.

The text is a list of code points when the pattern is in Unicode mode and of UTF-16 units when it
is not. Outside Unicode mode almost everything that is not a construct stands for itself: a brace
that counts nothing, a closing bracket, a number that no group bears, an escape of any letter. In
Unicode mode these are faults. The first fault from the left is the one that is told.
-/

namespace VariantForge.Pattern

/-! ### Looking over the whole text -/

/-- The text after the class that has just been opened. -/
def afterClass : List Nat → List Nat
  | [] => []
  | c :: rest =>
    if c = sign '\\' then
      match rest with
      | [] => []
      | _ :: r => afterClass r
    else if c = sign ']' then rest
    else afterClass rest

theorem length_afterClass_le (cs : List Nat) : (afterClass cs).length ≤ cs.length := by
  fun_induction afterClass cs <;> simp_all <;> omega

/-- Whether the parenthesis before these characters opens a group with a name. -/
def opensNamed (rest : List Nat) : Bool :=
  rest.take 2 == [sign '?', sign '<'] && !((rest.drop 2).head? == some (sign '=')) &&
    !((rest.drop 2).head? == some (sign '!'))

/-- Counts the groups of a text on top of `n`, and tells whether one of them has a name. -/
def countGroups (n : Nat) (named : Bool) : List Nat → Nat × Bool
  | [] => (n, named)
  | c :: rest =>
    if c = sign '\\' then
      match rest with
      | [] => (n, named)
      | _ :: r => countGroups n named r
    else if c = sign '[' then countGroups n named (afterClass rest)
    else if c = sign '(' then
      if opensNamed rest then countGroups (n + 1) true rest
      else if rest.head? = some (sign '?') then countGroups n named rest
      else countGroups (n + 1) named rest
    else countGroups n named rest
  termination_by cs => cs.length
  decreasing_by
    · simp only [List.length_cons]; omega
    · exact Nat.lt_succ_of_le (length_afterClass_le rest)
    all_goals exact Nat.lt_succ_self _

/-! ### Names and numbers -/

/-- Whether a code point may begin a name. -/
def startsName (p : Nat) : Bool := Unicode.idStart.has p || p == sign '$' || p == sign '_'

/-- Whether a code point may stand in a name. -/
def continuesName (p : Nat) : Bool :=
  Unicode.idContinue.has p || p == sign '$' || p == 0x200C || p == 0x200D

/-- Reads one code point of a name: two halves of a surrogate pair are one, and an escape stands
for what it names. -/
def readNamePoint : Read (Option Nat) := do
  match (← get).rest with
  | [] => return none
  | c :: rest =>
    if c = sign '\\' ∧ rest.head? = some (sign 'u') then do
      skip 2
      match ← readUnicodeEscape true with
      | some p => return some p
      | none => throw .invalidUnicodeEscape
    else if c = sign '\\' then throw .invalidGroupName
    else
      match rest with
      | d :: _ =>
        if 0xD800 ≤ c ∧ c ≤ 0xDBFF ∧ 0xDC00 ≤ d ∧ d ≤ 0xDFFF then do
          skip 2
          return some (0x10000 + (c - 0xD800) * 0x400 + (d - 0xDC00))
        else do
          skip 1
          return some c
      | [] => do
        skip 1
        return some c

/-- Reads the rest of a name up to the bracket that closes it. -/
def readNameRest : Nat → List Nat → Read (List Nat)
  | 0, _ => throw .tooLarge
  | fuel + 1, before => do
    match ← readNamePoint with
    | none => throw .invalidGroupName
    | some p =>
      if p = sign '>' then return before
      else if continuesName p then readNameRest fuel (before ++ [p])
      else throw .invalidGroupName

/-- Reads a name after its opening bracket. -/
def readName : Read (List Nat) := do
  match ← readNamePoint with
  | none => throw .invalidGroupName
  | some p => if startsName p then readNameRest ((← get).rest.length + 1) [p] else throw .invalidGroupName

/-- The largest bound of a quantifier; larger numerals count as this. -/
def countLimit : Nat := 2147483647

/-- Reads decimal digits. -/
def readCount : Read (Option Nat) := do
  let ds := (← get).rest.takeWhile isDigitPoint
  skip ds.length
  if ds.isEmpty then return none
  else return some (min countLimit (ds.foldl (fun v p => v * 10 + (p - 48)) 0))

/-- Reads bounds in braces; gives nothing and reads nothing if the braces do not hold bounds. -/
def readBounds : Read (Option (Nat × Option Nat)) := do
  let start ← get
  let giveUp : Read (Option (Nat × Option Nat)) := do
    set start
    return none
  skip 1
  match ← readCount with
  | none => giveUp
  | some least =>
    if ← nextIs '\x7d' then do
      skip 1
      return some (least, some least)
    else if ← nextIs ',' then do
      skip 1
      if ← nextIs '\x7d' then do
        skip 1
        return some (least, none)
      else
        let most := (← readCount).getD 0
        if ← nextIs '\x7d' then do
          skip 1
          return some (least, some most)
        else giveUp
    else giveUp

/-- The number of a group that a reference after a backslash names, if there is such a group. -/
def readReference? (ctx : Context) : Read (Option Nat) := do
  let ds := (← get).rest.takeWhile isDigitPoint
  let n := ds.foldl (fun v p => v * 10 + (p - 48)) 0
  if n ≤ ctx.groups then do
    skip ds.length
    return some n
  else return none

/-! ### Terms -/

/-- A term as it was read: something a quantifier may follow, or a condition on the position that
takes none. -/
inductive Term where
  | atom (node : Node)
  | condition (node : Node)
  | unquantifiable (node : Node)

/-- The tree of a term. -/
def Term.node : Term → Node
  | .atom n => n
  | .condition n => n
  | .unquantifiable n => n

/-- Reads an escape outside a class, after the backslash. -/
def readEscape (ctx : Context) (inside : Enclosing) : Read Term := do
  match ← next with
  | none => throw .escapeAtEnd
  | some c =>
    if 49 ≤ c ∧ c ≤ 57 then
      match ← readReference? ctx with
      | some n =>
        if inside.any (·.1 == n) then return .atom .empty else return .atom (.reference n)
      | none =>
        if ctx.unicode then throw .invalidEscape
        else if 56 ≤ c then do
          skip 1
          return .atom (.char c)
        else return .atom (.char (← readOctal))
    else if c = sign '0' then do
      if ctx.unicode ∧ (← second).any isDigitPoint then throw .invalidDecimalEscape
      return .atom (.char (← readOctal))
    else if c = sign 'b' then do
      skip 1
      return .condition (.wordEdge false)
    else if c = sign 'B' then do
      skip 1
      return .condition (.wordEdge true)
    else if ctx.unicode ∧ (c = sign 'p' ∨ c = sign 'P') then do
      skip 1
      return .atom (.oneOf [← readProperty (c == sign 'P') .invalidPropertyName] false)
    else if c = sign 'k' ∧ (ctx.unicode ∨ ctx.anyNames) then do
      skip 1
      if !(← nextIs '<') then throw .invalidNamedReference
      skip 1
      let name ← readName
      if inside.any (·.2 == some name) then return .atom .empty
      else return .atom (.namedReference name)
    else
      match namedClass? c with
      | some item =>
        skip 1
        return .atom (.oneOf [item] false)
      | none => return .atom (.char (← readCharEscape ctx false))

/-- What an opening parenthesis begins. -/
inductive Opening where
  | capture (named : Bool)
  | plain
  | look (behind negated : Bool)

/-- Reads what follows an opening parenthesis and tells what it begins. -/
def readOpening : Read Opening := do
  if !(← nextIs '?') then return .capture false
  else
    match ← second with
    | none => throw .invalidGroup
    | some c =>
      if c = sign ':' then do
        skip 2
        return .plain
      else if c = sign '=' then do
        skip 2
        return .look false false
      else if c = sign '!' then do
        skip 2
        return .look false true
      else if c = sign '<' then do
        skip 2
        if ← nextIs '=' then do
          skip 1
          return .look true false
        else if ← nextIs '!' then do
          skip 1
          return .look true true
        else return .capture true
      else throw .invalidGroup

/-- Reads the quantifier after a term, if there is one, and applies it. `first` is the number of
groups before the term. -/
def readQuantifier (ctx : Context) (first : Nat) (term : Term) : Read Node := do
  let bounds : Option (Nat × Option Nat) ← do
    match ← next with
    | none => pure none
    | some c =>
      if c = sign '*' then do
        skip 1
        pure (some (0, none))
      else if c = sign '+' then do
        skip 1
        pure (some (1, none))
      else if c = sign '?' then do
        skip 1
        pure (some (0, some 1))
      else if c = sign '\x7b' then do
        match ← readBounds with
        | some (least, most) =>
          if most.any (· < least) then throw .quantifierOrder
          pure (some (least, most))
        | none => if ctx.unicode then throw .incompleteQuantifier else pure none
      else pure none
  match bounds with
  | none => return term.node
  | some (least, most) =>
    let lazy ← nextIs '?'
    if lazy then skip 1
    match term with
    | .unquantifiable _ => throw .invalidQuantifier
    | _ =>
      let last := (← get).opened
      return .repeated term.node least most (!lazy) first last

mutual

/-- Reads alternatives up to a closing parenthesis or the end. -/
def readEither (ctx : Context) : Nat → Enclosing → Read Node
  | 0, _ => throw .tooLarge
  | fuel + 1, inside => do
    let node ← readSequence ctx fuel inside .empty
    if ← nextIs '|' then do
      skip 1
      return .either node (← readEither ctx fuel inside)
    else return node

/-- Reads terms one after the other, following those in `before`. -/
def readSequence (ctx : Context) : Nat → Enclosing → Node → Read Node
  | 0, _, _ => throw .tooLarge
  | fuel + 1, inside, before => do
    match ← next with
    | none => return before
    | some c =>
      if c = sign '|' ∨ c = sign ')' then return before
      let first := (← get).opened
      let term ← readTerm ctx fuel inside c
      let node ← match term with
        | .condition node => pure node
        | term => readQuantifier ctx first term
      readSequence ctx fuel inside (.sequence before node)

/-- Reads one term that begins with the character `c`. -/
def readTerm (ctx : Context) : Nat → Enclosing → Nat → Read Term
  | 0, _, _ => throw .tooLarge
  | fuel + 1, inside, c => do
    if c = sign '*' ∨ c = sign '+' ∨ c = sign '?' then throw .nothingToRepeat
    else if c = sign '^' then do
      skip 1
      return .condition .lineStart
    else if c = sign '$' then do
      skip 1
      return .condition .lineEnd
    else if c = sign '.' then do
      skip 1
      return .atom .anyChar
    else if c = sign '[' then do
      skip 1
      return .atom (← readClass ctx)
    else if c = sign '\\' then do
      skip 1
      readEscape ctx inside
    else if c = sign '(' then do
      skip 1
      readGroup ctx fuel inside
    else
      if c = sign '\x7b' then
        if (← readBounds).isSome then throw .nothingToRepeat
      if ctx.unicode ∧ (c = sign '\x7b' ∨ c = sign '\x7d' ∨ c = sign ']') then
        throw .loneQuantifierBracket
      skip 1
      return .atom (.char c)

/-- Reads a group after its opening parenthesis. -/
def readGroup (ctx : Context) : Nat → Enclosing → Read Term
  | 0, _ => throw .tooLarge
  | fuel + 1, inside => do
    match ← readOpening with
    | .capture named =>
      let index := (← get).opened + 1
      modify fun s => { s with opened := index }
      let name ← if named then some <$> readName else pure none
      let body ← readEither ctx fuel ((index, name) :: inside)
      if !(← nextIs ')') then throw .unterminatedGroup
      skip 1
      match name with
      | none => pure ()
      | some n =>
        if (← get).names.any (·.1 == n) then throw .duplicateGroupName
        modify fun s => { s with names := s.names ++ [(n, index)] }
      return .atom (.group index body)
    | .plain =>
      let body ← readEither ctx fuel inside
      if !(← nextIs ')') then throw .unterminatedGroup
      skip 1
      return .atom body
    | .look behind negated =>
      let body ← readEither ctx fuel inside
      if !(← nextIs ')') then throw .unterminatedGroup
      skip 1
      let node := Node.look behind negated body
      return if behind || ctx.unicode then .unquantifiable node else .atom node

end

/-- The names that a pattern refers to. -/
def Node.referredNames : Node → List (List Nat)
  | .sequence a b => a.referredNames ++ b.referredNames
  | .either a b => a.referredNames ++ b.referredNames
  | .group _ body => body.referredNames
  | .repeated body .. => body.referredNames
  | .look _ _ body => body.referredNames
  | .namedReference name => [name]
  | _ => []

/-- Reads the whole of a pattern's text. -/
def readAll (flags : Flags) (text : List Nat) : Except Fault Compiled := do
  let (groups, anyNames) := countGroups 0 false text
  let ctx : Context := ⟨flags, groups, anyNames⟩
  let (node, left) ← (readEither ctx (4 * text.length + 8) []).run { rest := text }
  if left.rest.isEmpty then
    if node.referredNames.all fun n => left.names.any (·.1 == n) then
      return ⟨flags, node, left.opened, left.names⟩
    else throw .unknownNamedReference
  else throw .unmatchedParenthesis

/-- Reads units as code points: two halves of a surrogate pair are one. -/
def pointsOfUnits : List UInt16 → List Nat
  | [] => []
  | [u] => [u.toNat]
  | u :: v :: rest =>
    if Text.isLead u && Text.isTrail v then Text.pairPoint u v :: pointsOfUnits rest
    else u.toNat :: pointsOfUnits (v :: rest)

/-- Makes a pattern ready for use. -/
def compile (source : Text) (flags : String) : Except Error Compiled :=
  match Flags.read? flags with
  | none => .error (.badFlags flags)
  | some f =>
    let text := if f.unicode || f.sets then pointsOfUnits source.units else source.units.map (·.toNat)
    match readAll f text with
    | .ok c => .ok c
    | .error fault => .error (.badSource source.toString f.letters fault)

end VariantForge.Pattern
