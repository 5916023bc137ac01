import VariantForge.Pattern.Node
import VariantForge.Text.Basic

/-!
Where a pattern fits into a text.

A tree is run from a position with a continuation that says what must fit after it; the first way
that leads the continuation to success is taken. Inside a condition on what stands before, trees
run backwards. A repetition tries one more round before or after the continuation, as it is greedy
or not; once it has made the rounds it must make, a round that covers nothing fails, so that the
number of rounds is bounded by the length of the text.
-/

namespace VariantForge.Pattern

/-- The text that is searched, with the flags it is searched under. -/
structure Subject where
  flags : Flags
  input : Array UInt16

/-- How far a match has got: its position, and what each group has covered. -/
structure Found where
  position : Nat
  captures : List (Option (Nat × Nat))

/-- What must fit after a tree. -/
abbrev Continuation := Found → Option Found

/-- Characters that end a line. -/
def isLineEnd (p : Nat) : Bool := p == 10 || p == 13 || p == 0x2028 || p == 0x2029

/-- Whether a character belongs to a class with a letter of its own. -/
def Named.has (f : Flags) : Named → Nat → Bool
  | .digit, p => 48 ≤ p && p ≤ 57
  | .space, p => Text.isBlankPoint p
  | .word, p => f.isWordChar p

/-- The characters that count as `p` within a single entry: those that differ from it in case only
where sets are made of entries and case is ignored, else `p` alone. -/
def Flags.alike (f : Flags) (p : Nat) : List Nat := if f.sets then f.variants p else [p]

/-- Whether an entry of a class holds a character, case being looked at as far as entries do. -/
def CharItem.has (f : Flags) : CharItem → Nat → Bool
  | .range low high, p => (f.alike p).any fun v => low ≤ v && v ≤ high
  | .named class_ negated, p => class_.has f p != negated
  | .property set negated, p => (f.alike p).any set.has != negated
  | .nothing, _ => false
  | .either a b, p => a.has f p || b.has f p
  | .both a b, p => a.has f p && b.has f p
  | .without a b, p => a.has f p && !b.has f p
  | .complement a, p => !a.has f p

/-- Whether a class fits a character: one of its entries holds the character or, where case is
ignored for the class as a whole, one that differs from it in case only. -/
def fitsClass (f : Flags) (items : List CharItem) (negated : Bool) (p : Nat) : Bool :=
  (if f.ignoreCase && !f.sets then (f.variants p).any fun v => items.any (·.has f v)
    else items.any (·.has f p)) != negated

namespace Subject

/-- The unit at a position. -/
def unit? (s : Subject) (i : Nat) : Option Nat := s.input[i]?.map (·.toNat)

/-- Whether a surrogate pair begins at a position. -/
def pairAt (s : Subject) (i : Nat) : Bool :=
  match s.input[i]?, s.input[i + 1]? with
  | some u, some v => Text.isLead u && Text.isTrail v
  | _, _ => false

/-- Whether a position lies inside a surrogate pair. -/
def insidePair (s : Subject) (i : Nat) : Bool := i != 0 && s.pairAt (i - 1)

/-- The character that begins at a position, and the position after it. Where code points are read,
none begins inside a surrogate pair. -/
def ahead? (s : Subject) (i : Nat) : Option (Nat × Nat) :=
  match s.input[i]? with
  | none => none
  | some u =>
    if !s.flags.byPoint then some (u.toNat, i + 1)
    else if s.insidePair i then none
    else
      match s.input[i + 1]? with
      | some v => if Text.isLead u && Text.isTrail v then some (Text.pairPoint u v, i + 2) else some (u.toNat, i + 1)
      | none => some (u.toNat, i + 1)

/-- The character that ends at a position, and the position before it. Where code points are read,
none ends inside a surrogate pair. -/
def behind? (s : Subject) (i : Nat) : Option (Nat × Nat) :=
  if i = 0 then none
  else
    match s.input[i - 1]? with
    | none => none
    | some v =>
      if !s.flags.byPoint then some (v.toNat, i - 1)
      else if s.insidePair i then none
      else if i = 1 then some (v.toNat, i - 1)
      else
        match s.input[i - 2]? with
        | some u => if Text.isLead u && Text.isTrail v then some (Text.pairPoint u v, i - 2) else some (v.toNat, i - 1)
        | none => some (v.toNat, i - 1)

/-- The next character in the direction of reading. -/
def read? (s : Subject) (backwards : Bool) (i : Nat) : Option (Nat × Nat) :=
  if backwards then s.behind? i else s.ahead? i

/-- Whether the character before a position belongs to words. -/
def wordBefore (s : Subject) (i : Nat) : Bool := i != 0 && (s.unit? (i - 1)).any s.flags.isWordChar

/-- Whether the character at a position belongs to words. -/
def wordAt (s : Subject) (i : Nat) : Bool := (s.unit? i).any s.flags.isWordChar

/-- Whether a line begins at a position. -/
def lineStartAt (s : Subject) (i : Nat) : Bool :=
  i == 0 || (s.flags.multiline && (s.unit? (i - 1)).any isLineEnd)

/-- Whether a line ends at a position. -/
def lineEndAt (s : Subject) (i : Nat) : Bool :=
  i == s.input.size || (s.flags.multiline && (s.unit? i).any isLineEnd)

/-- Moves over one character that passes a test. -/
def step (s : Subject) (backwards : Bool) (fits : Nat → Bool) (k : Continuation) (x : Found) :
    Option Found :=
  match s.read? backwards x.position with
  | some (p, i) => if fits p then k { x with position := i } else none
  | none => none

/-- The characters between two positions, each by its representative. -/
def canonicalSlice (s : Subject) (i j : Nat) : List Nat :=
  let units := (s.input.extract i j).toList
  let rec points : List UInt16 → List Nat
    | u :: v :: rest =>
      if s.flags.byPoint && Text.isLead u && Text.isTrail v then Text.pairPoint u v :: points rest
      else u.toNat :: points (v :: rest)
    | [u] => [u.toNat]
    | [] => []
  (points units).map s.flags.canonical

/-- Moves over what a group has covered; over nothing if it has covered nothing. Where code points
are read, the move must not end inside a surrogate pair. -/
def refer (s : Subject) (backwards : Bool) (index : Nat) (next : Continuation) (x : Found) :
    Option Found :=
  let k : Continuation := fun y => if s.flags.byPoint && s.insidePair y.position then none else next y
  match (x.captures[index]?).join with
  | none => k x
  | some (i, j) =>
    let n := j - i
    if backwards then
      if n ≤ x.position ∧ s.canonicalSlice (x.position - n) x.position = s.canonicalSlice i j then
        k { x with position := x.position - n }
      else none
    else if x.position + n ≤ s.input.size ∧
        s.canonicalSlice x.position (x.position + n) = s.canonicalSlice i j then
      k { x with position := x.position + n }
    else none

end Subject

/-- Forgets what the groups after `first` up to `last` have covered. -/
def Found.forget (x : Found) (first last : Nat) : Found :=
  if first = last then x
  else { x with captures := x.captures.mapIdx fun i c => if first < i ∧ i ≤ last then none else c }

/-- Rounds of a repetition. The first number bounds the rounds, `least` must still be made and
`most` may be; `round` runs the body. -/
def rounds (round : Continuation → Continuation) (forget : Found → Found) (greedy : Bool)
    (k : Continuation) : Nat → Nat → Option Nat → Found → Option Found
  | 0, _, _, _ => none
  | bound + 1, least, most, x =>
    if most = some 0 then k x
    else
      let again (y : Found) : Option Found :=
        if least = 0 ∧ y.position = x.position then none
        else rounds round forget greedy k bound (least - 1) (most.map (· - 1)) y
      if 0 < least then round again (forget x)
      else if greedy then
        match round again (forget x) with
        | some y => some y
        | none => k x
      else
        match k x with
        | some y => some y
        | none => round again (forget x)

/-- Runs a tree from a position. -/
def Node.run (s : Subject) (names : List (List Nat × Nat)) :
    Node → Bool → Continuation → Continuation
  | .empty, _, k => k
  | .anyChar, back, k => s.step back (fun p => s.flags.dotAll || !isLineEnd p) k
  | .oneOf items negated, back, k => s.step back (fitsClass s.flags items negated) k
  | .sequence a b, back, k =>
    if back then b.run s names back (a.run s names back k) else a.run s names back (b.run s names back k)
  | .either a b, back, k => fun x =>
    match a.run s names back k x with
    | some y => some y
    | none => b.run s names back k x
  | .group index body, back, k => fun x =>
    body.run s names back (fun y =>
      let covered := if back then (y.position, x.position) else (x.position, y.position)
      k { y with captures := y.captures.set index (some covered) }) x
  | .repeated body least most greedy first last, back, k =>
    rounds (body.run s names back) (·.forget first last) greedy k (least + s.input.size + 1) least most
  | .look behind negated body, _, k => fun x =>
    match body.run s names behind some x with
    | some y => if negated then none else k { y with position := x.position }
    | none => if negated then k x else none
  | .lineStart, _, k => fun x => if s.lineStartAt x.position then k x else none
  | .lineEnd, _, k => fun x => if s.lineEndAt x.position then k x else none
  | .wordEdge negated, _, k => fun x =>
    if (s.wordBefore x.position != s.wordAt x.position) != negated then k x else none
  | .reference index, back, k => s.refer back index k
  | .namedReference name, back, k =>
    match names.find? (·.1 == name) with
    | some (_, index) => s.refer back index k
    | none => k

/-- One place where a pattern fits: where it begins and ends, and what its groups covered. -/
structure Match where
  start : Nat
  stop : Nat
  captures : List (Option (Nat × Nat))

namespace Compiled

/-- The match that begins at a position, if there is one. -/
def matchAt? (c : Compiled) (s : Subject) (start : Nat) : Option Match :=
  let x : Found := ⟨start, List.replicate (c.groups + 1) none⟩
  (c.node.run s c.names false some x).map fun y => ⟨start, y.position, y.captures⟩

/-- The position after one that an empty match was found at: never inside the pair that begins there
if code points are read. -/
def advance (s : Subject) (i : Nat) : Nat := if s.flags.byPoint && s.pairAt i then i + 2 else i + 1

/-- The first match that begins at a position or, unless the pattern is sticky, after it. A match
that covers nothing may also begin inside a surrogate pair. `bound` limits the positions that are
tried. -/
def searchFrom (c : Compiled) (s : Subject) : Nat → Nat → Option Match
  | 0, _ => none
  | bound + 1, start =>
    if s.input.size < start then none
    else
      match c.matchAt? s start with
      | some m => some m
      | none => if s.flags.sticky then none else searchFrom c s bound (start + 1)

/-- The text as the pattern sees it. -/
def subject (c : Compiled) (t : Text) : Subject := ⟨c.flags, t.units.toArray⟩

/-- The first match in a text. -/
def search? (c : Compiled) (t : Text) : Option Match :=
  let s := c.subject t
  c.searchFrom s (s.input.size + 1) 0

/-- All matches from a position on; a match that covers nothing is followed by a look one
character further on. `bound` limits the number of matches. -/
def matchesFrom (c : Compiled) (s : Subject) : Nat → Nat → List Match
  | 0, _ => []
  | bound + 1, start =>
    match c.searchFrom s (s.input.size + 1) start with
    | none => []
    | some m => m :: matchesFrom c s bound (if m.stop = m.start then advance s m.stop else m.stop)

/-- All matches in a text, from left to right. -/
def allMatches (c : Compiled) (t : Text) : List Match :=
  let s := c.subject t
  c.matchesFrom s (s.input.size + 2) 0

end Compiled

end VariantForge.Pattern
