import VariantForge.Shell.Glob
import VariantForge.Shell.Integer

/-!
Regular expressions as the programs of a machine read them. Of all fits in a text the first one counts, and
of those that begin there the longest one; where a group could take more or less, it takes more.
-/

namespace VariantForge.Shell.Regular

/-- A member of a set: a range of characters, or a class of some name. -/
inductive Member where
  | range (low high : Char)
  | named (name : String)
  deriving Inhabited

/-- A regular expression. -/
inductive Node where
  | empty
  | char (c : Char)
  | any
  | set (negated : Bool) (members : List Member)
  | lineStart
  | lineEnd
  | textStart
  | textEnd
  | wordStart
  | wordEnd
  | boundary (negated : Bool)
  | group (index : Nat) (body : Node)
  | back (index : Nat)
  | both (first second : Node)
  | either (first second : Node)
  | repeated (least : Nat) (most : Option Nat) (body : Node)
  deriving Inhabited

/-- What is wrong with the text of a regular expression. -/
inductive Fault where
  | openBracket
  | openGroup
  | closeGroup
  | nothingToRepeat
  | rangeEnd
  | trailingBackslash
  | openCount
  | badCount
  | crossedCount
  | largeCount
  | badReference
  | badClass
  | classAlone
  deriving DecidableEq

/-- The fault in words. -/
def Fault.message : Fault → String
  | .openBracket => "Unmatched [, [^, [:, [., or [="
  | .openGroup => "Unmatched ( or \\("
  | .closeGroup => "Unmatched ) or \\)"
  | .nothingToRepeat => "Invalid preceding regular expression"
  | .rangeEnd => "Invalid range end"
  | .trailingBackslash => "Trailing backslash"
  | .openCount => "Unmatched \\\x7b"
  | .badCount | .crossedCount => "Invalid content of \\\x7b\\\x7d"
  | .largeCount => "Regular expression too big"
  | .badReference => "Invalid back reference"
  | .badClass => "Invalid character class name"
  | .classAlone => "character class syntax is [[:space:]], not [:space:]"

/-- The form of a regular expression. In the basic form most signs need a backslash. `lenient` says that a
sign to repeat nothing stands for nothing and a count that cannot be read for itself, `stray` that a bracket
that closes nothing stands for itself, and `careful` that the name of a class without brackets around it is
taken for a mistake. -/
structure Form where
  extended : Bool := false
  lenient : Bool := false
  stray : Bool := false
  careful : Bool := false

/-- A piece of the text of a regular expression. -/
inductive Token where
  | node (n : Node)
  | openGroup
  | closeGroup
  | bar
  | times (least : Nat) (most : Option Nat)
  | idle (sign : String)
  | caret
  | dollar
  deriving Inhabited

/-- Whether a character is part of a word. -/
def isWord (c : Char) : Bool := c.isAlphanum || c == '_'

/-- The members of the class of words. -/
def wordMembers : List Member := [.named "alnum", .range '_' '_']

/-- Reads a set after its opening bracket; `first` says that a closing bracket would be a member. -/
def members : Nat → Bool → List Member → List Char → Except Fault (List Member × List Char)
  | 0, _, _, _ => .error .openBracket
  | fuel + 1, first, found, cs =>
    let from_ (low : Char) (rest : List Char) : Except Fault (List Member × List Char) :=
      match rest with
      | '-' :: ']' :: _ => members fuel false (.range low low :: found) rest
      | '-' :: '[' :: '.' :: high :: '.' :: ']' :: rest =>
        if high < low then .error .rangeEnd else members fuel false (.range low high :: found) rest
      | '-' :: high :: rest =>
        if high < low then .error .rangeEnd else members fuel false (.range low high :: found) rest
      | rest => members fuel false (.range low low :: found) rest
    match cs with
    | [] => .error .openBracket
    | '[' :: ':' :: rest =>
      let name := String.ofList (rest.takeWhile Char.isLower)
      match rest.drop name.length with
      | ':' :: ']' :: rest =>
        if (Glob.inClass? name 'a').isNone then .error .badClass else members fuel false (.named name :: found) rest
      | _ => .error .openBracket
    | '[' :: '=' :: c :: '=' :: ']' :: rest => members fuel false (.range c c :: found) rest
    | '[' :: '.' :: c :: '.' :: ']' :: rest => from_ c rest
    | ']' :: rest => if first then from_ ']' rest else .ok (found, rest)
    | c :: rest => from_ c rest

/-- Reads a set after its opening bracket. -/
def set (careful : Bool) (cs : List Char) : Except Fault (Node × List Char) := do
  let (negated, cs) := match cs with
    | '^' :: rest => (true, rest)
    | cs => (false, cs)
  let (ms, rest) ← members (cs.length + 1) true [] cs
  let inside := cs.take (cs.length - rest.length - 1)
  let alone := 2 < inside.length && inside.head? == some ':' && inside.getLast? == some ':'
  if careful && alone then throw .classAlone
  return (.set negated ms, rest)

/-- Reads how often something is repeated, up to its closing brace. -/
def count (extended : Bool) (cs : List Char) : Except Fault (Token × List Char) :=
  let digits (cs : List Char) : Option Nat × List Char :=
    let ds := cs.takeWhile Char.isDigit
    (if ds.isEmpty then none else some (Integer.digits 10 0 ds).1, cs.drop ds.length)
  let (low, rest) := digits cs
  let (comma, high, rest) := match rest with
    | ',' :: rest => let (high, rest) := digits rest; (true, high, rest)
    | rest => (false, low, rest)
  let rest? := match extended, rest with
    | true, '\x7d' :: rest => some rest
    | false, '\\' :: '\x7d' :: rest => some rest
    | _, _ => none
  match rest? with
  | none => .error (if rest.all fun c => c != ',' && c != '\x7d' then .openCount else .badCount)
  | some rest =>
    if low.isNone && !comma then .error .badCount
    else if high.any (· < low.getD 0) then .error .crossedCount
    else if 32767 < low.getD 0 || 32767 < high.getD 0 then .error .largeCount
    else .ok (.times (low.getD 0) high, rest)

/-- What an escaped character stands for in all regular expressions. -/
def escaped (c : Char) : Token :=
  if c = 'w' then .node (.set false wordMembers)
  else if c = 'W' then .node (.set true wordMembers)
  else if c = 's' then .node (.set false [.named "space"])
  else if c = 'S' then .node (.set true [.named "space"])
  else if c = 'b' then .node (.boundary false)
  else if c = 'B' then .node (.boundary true)
  else if c = '<' then .node .wordStart
  else if c = '>' then .node .wordEnd
  else if c = Char.ofNat 96 then .node .textStart
  else if c = '\'' then .node .textEnd
  else if '1' ≤ c ∧ c ≤ '9' then .node (.back (c.toNat - 48))
  else if c = 'n' then .node (.char '\n')
  else .node (.char c)

/-- The pieces of a text; `opened` says that nothing to repeat comes before. -/
def tokens (form : Form) : Nat → Bool → List Char → Except Fault (List Token)
  | 0, _, _ => .ok []
  | _, _, [] => .ok []
  | fuel + 1, opened, c :: rest => do
    let go (t : Token) (opened : Bool) (rest : List Char) : Except Fault (List Token) :=
      (tokens form fuel opened rest).map (t :: ·)
    let times (t : Token) (sign : String) (rest : List Char) : Except Fault (List Token) :=
      if !opened then go t false rest
      else if form.lenient then go (.idle sign) true rest
      else throw .nothingToRepeat
    let plain : Except Fault (List Token) := go (.node (.char c)) false rest
    match c with
    | '[' => do
      let (n, rest) ← set form.careful rest
      go (.node n) false rest
    | '.' => go (.node .any) false rest
    | '*' => if !form.extended && opened then plain else times (.times 0 none) "*" rest
    | '\\' =>
      match rest with
      | [] => throw .trailingBackslash
      | d :: rest =>
        if form.extended then go (escaped d) false rest
        else match d with
          | '(' => go .openGroup true rest
          | ')' => go .closeGroup false rest
          | '|' => go .bar true rest
          | '+' => if opened then go (.node (.char '+')) false rest else go (.times 1 none) false rest
          | '?' => if opened then go (.node (.char '?')) false rest else go (.times 0 (some 1)) false rest
          | '\x7b' =>
            if opened then throw .nothingToRepeat
            else do
              let (t, rest) ← count false rest
              go t false rest
          | d => go (escaped d) false rest
    | '^' =>
      if form.extended || opened then go .caret true rest else plain
    | '$' =>
      let closes := match rest with
        | [] | '\\' :: ')' :: _ | '\\' :: '|' :: _ => true
        | _ => false
      if form.extended || closes then go .dollar false rest else plain
    | '(' => if form.extended then go .openGroup true rest else plain
    | ')' => if form.extended then go .closeGroup false rest else plain
    | '|' => if form.extended then go .bar true rest else plain
    | '+' => if form.extended then times (.times 1 none) "+" rest else plain
    | '?' => if form.extended then times (.times 0 (some 1)) "?" rest else plain
    | '\x7b' =>
      if !form.extended then plain
      else match count true rest with
        | .ok (t, rest) => times t "\x7b...\x7d" rest
        | .error e => if form.lenient && (e = .badCount || e = .openCount) then plain else throw e
    | _ => plain

/-- A node after another, where nothing need not stand. -/
def joined : Node → Node → Node
  | .empty, n => n
  | m, .empty => m
  | m, n => .both m n

mutual

/-- Reads branches; gives the node, the number of groups so far, and the pieces after them. -/
def branches (stray : Bool) : Nat → Nat → Nat → List Token → Except Fault (Node × Nat × List Token)
  | 0, _, groups, ts => .ok (.empty, groups, ts)
  | fuel + 1, depth, groups, ts => do
    let (n, groups, ts) ← branch stray fuel depth groups .empty ts
    match ts with
    | .bar :: ts =>
      let (m, groups, ts) ← branches stray fuel depth groups ts
      return (.either n m, groups, ts)
    | ts => return (n, groups, ts)

/-- Reads pieces one after the other, up to a bar or the end of a group. -/
def branch (stray : Bool) : Nat → Nat → Nat → Node → List Token → Except Fault (Node × Nat × List Token)
  | 0, _, groups, before, ts => .ok (before, groups, ts)
  | fuel + 1, depth, groups, before, ts => do
    match ts with
    | [] | .bar :: _ => return (before, groups, ts)
    | .closeGroup :: rest =>
      if 0 < depth then return (before, groups, ts)
      else if stray then branch stray fuel depth groups (joined before (.char ')')) rest
      else throw .closeGroup
    | .times .. :: ts | .idle _ :: ts => branch stray fuel depth groups before ts
    | t :: ts =>
      let (n, groups, ts) ← match t with
        | .openGroup => do
          let index := groups + 1
          let (n, groups, ts) ← branches stray fuel (depth + 1) index ts
          match ts with
          | .closeGroup :: ts => pure (Node.group index n, groups, ts)
          | _ => throw .openGroup
        | .node (.back k) =>
          if groups < k then throw .badReference else pure (Node.back k, groups, ts)
        | .node n => pure (n, groups, ts)
        | .caret => pure (Node.lineStart, groups, ts)
        | _ => pure (Node.lineEnd, groups, ts)
      let counts := ts.takeWhile fun t => t matches .times ..
      let n := counts.foldl (fun n t => match t with
        | .times least most => .repeated least most n
        | _ => n) n
      branch stray fuel depth groups (joined before n) (ts.drop counts.length)

end

end Regular

/-- A regular expression that was read, with how many groups it has and which signs in it repeat nothing. -/
structure Regular where
  node : Regular.Node
  groups : Nat
  idle : List String := []
  anyCase : Bool := false
  perLine : Bool := false
  deriving Inhabited

namespace Regular

/-- Reads a regular expression. -/
def ofText (form : Form) (text : List Char) (anyCase perLine : Bool := false) : Except Fault Regular := do
  let ts ← tokens form (text.length + 1) true text
  let (node, groups, _) ← branches form.stray (2 * ts.length + 4) 0 0 ts
  let idle := ts.filterMap fun t => match t with
    | .idle sign => some sign
    | _ => none
  return { node, groups, idle, anyCase, perLine }

/-- A regular expression that a text fits only as it is. -/
def literal (text : List Char) (anyCase : Bool) : Regular :=
  { node := text.foldl (fun n c => joined n (.char c)) .empty, groups := 0, anyCase }

/-- A place in a text on the way through a regular expression, with where groups were. -/
structure Spot where
  at_ : Nat
  groups : List (Nat × Nat × Nat) := []
  deriving DecidableEq

/-- Whether a character is in a set. -/
def holds (c : Char) : Member → Bool
  | .range low high => low ≤ c && c ≤ high
  | .named name => (Glob.inClass? name c).getD false

/-- Whether two characters are the same. -/
def same (anyCase : Bool) (a b : Char) : Bool := a == b || (anyCase && a.toLower == b.toLower)

/-- Whether a node that stands for one character stands for this one; none for other nodes. -/
def fitsOne? (anyCase : Bool) (c : Char) : Node → Option Bool
  | .char d => some (same anyCase c d)
  | .any => some true
  | .set negated ms =>
    let within := ms.any (holds c) || (anyCase && (ms.any (holds c.toLower) || ms.any (holds c.toUpper)))
    some (within != negated)
  | _ => none

/-- Spots without those that come again; `exact` says that the same place counts as another one where groups
differ. -/
def distinct (exact : Bool) (ss : List Spot) : List Spot :=
  ss.foldl (fun kept s =>
    if kept.any fun k => k.at_ == s.at_ && (!exact || k.groups == s.groups) then kept else kept ++ [s]) []

/-- Spots where those that are farther on come first. -/
def ranked (ss : List Spot) : List Spot := ss.mergeSort fun a b => b.at_ ≤ a.at_

/-- Goes through something again and again, round by round. -/
def rounds (exact : Bool) (step : Spot → List Spot) (least : Nat) (most : Option Nat) :
    Nat → Nat → List Spot → List Spot → List Spot
  | 0, _, _, found => found
  | fuel + 1, round, front, found =>
    let found := if least ≤ round then distinct exact (found ++ front) else found
    if front.isEmpty || most == some round then found
    else
      let next := distinct exact (front.flatMap fun s =>
        (step s).filter fun t => t.at_ != s.at_ || round < least)
      let next := next.filter fun s => !(least ≤ round && found.any fun k =>
        k.at_ == s.at_ && (!exact || k.groups == s.groups))
      rounds exact step least most fuel (round + 1) next found

/-- How many characters in a row fit. -/
def runLength (text : Array Char) (fits : Char → Bool) : Nat → Nat → Nat
  | 0, _ => 0
  | fuel + 1, at_ =>
    match text[at_]? with
    | some c => if fits c then runLength text fits fuel (at_ + 1) + 1 else 0
    | none => 0

/-- Where a node may end that begins at a spot, the farthest first. -/
def ends (text : Array Char) (r : Regular) (exact : Bool) : Node → Spot → List Spot
  | .empty, s => [s]
  | .lineStart, s =>
    if s.at_ = 0 || (r.perLine && text[s.at_ - 1]? == some '\n') then [s] else []
  | .lineEnd, s =>
    if s.at_ = text.size || (r.perLine && text[s.at_]? == some '\n') then [s] else []
  | .textStart, s => if s.at_ = 0 then [s] else []
  | .textEnd, s => if s.at_ = text.size then [s] else []
  | .wordStart, s =>
    let (before, after) := around text s.at_
    if !before && after then [s] else []
  | .wordEnd, s =>
    let (before, after) := around text s.at_
    if before && !after then [s] else []
  | .boundary negated, s =>
    let (before, after) := around text s.at_
    if (before != after) != negated then [s] else []
  | .group index body, s =>
    (ends text r exact body s).map fun t =>
      { t with groups := (index, s.at_, t.at_) :: t.groups.filter (·.1 != index) }
  | .back index, s =>
    match s.groups.find? (·.1 == index) with
    | none => []
    | some (_, from_, to_) =>
      let n := to_ - from_
      let fits := (List.range n).all fun i =>
        match text[from_ + i]?, text[s.at_ + i]? with
        | some a, some b => same r.anyCase a b
        | _, _ => false
      if fits then [{ s with at_ := s.at_ + n }] else []
  | .both a b, s => ranked (distinct exact ((ends text r exact a s).flatMap (ends text r exact b)))
  | .either a b, s => ranked (distinct exact (ends text r exact a s ++ ends text r exact b s))
  | .repeated least most body, s =>
    match fitsOne? r.anyCase 'a' body with
    | some _ =>
      let fits (c : Char) : Bool := (fitsOne? r.anyCase c body).getD false
      let n := runLength text fits (match most with
        | some m => min m text.size
        | none => text.size) s.at_
      if n < least then []
      else (List.range (n + 1 - least)).map fun k => { s with at_ := s.at_ + n - k }
    | none =>
      ranked (rounds exact (ends text r exact body) least most (text.size + least + 2) 0 [s] [])
  | n, s =>
    match text[s.at_]? with
    | some c => if (fitsOne? r.anyCase c n).getD false then [{ s with at_ := s.at_ + 1 }] else []
    | none => []
where
  /-- Whether parts of words are before and after a place. -/
  around (text : Array Char) (at_ : Nat) : Bool × Bool :=
    (0 < at_ && (text[at_ - 1]?).any isWord, (text[at_]?).any isWord)

/-- Whether a node refers back to a group. -/
def hasBack : Node → Bool
  | .back _ => true
  | .group _ n | .repeated _ _ n => hasBack n
  | .both a b | .either a b => hasBack a || hasBack b
  | _ => false

/-- A part of a text that fits: where it begins and ends, and where each group does. -/
structure Fit where
  start : Nat
  stop : Nat
  groups : List (Nat × Nat × Nat)

/-- The longest part that fits and begins at a place. -/
def fitAt? (r : Regular) (text : Array Char) (at_ : Nat) : Option Fit :=
  match ends text r (hasBack r.node) r.node ⟨at_, []⟩ with
  | [] => none
  | s :: rest =>
    let best := rest.foldl (fun b t => if b.at_ < t.at_ then t else b) s
    some ⟨at_, best.at_, best.groups⟩

/-- The first part that fits and begins at a place or after it. -/
def fit? (r : Regular) (text : Array Char) (at_ : Nat) : Option Fit :=
  let rec go : Nat → Nat → Option Fit
    | 0, _ => none
    | fuel + 1, at_ =>
      match r.fitAt? text at_ with
      | some f => some f
      | none => go fuel (at_ + 1)
  go (text.size + 1 - at_) at_

/-- Whether any part of a text fits. -/
def fitsIn (r : Regular) (text : List Char) : Bool := (r.fit? text.toArray 0).isSome

/-- The text between two places. -/
def between (text : Array Char) (start stop : Nat) : List Char := (text.extract start stop).toList

/-- The text of a group, or of the whole for the number zero. -/
def Fit.group (f : Fit) (text : Array Char) (index : Nat) : List Char :=
  if index = 0 then between text f.start f.stop
  else match f.groups.find? (·.1 == index) with
    | some (_, start, stop) => between text start stop
    | none => []

end VariantForge.Shell.Regular
