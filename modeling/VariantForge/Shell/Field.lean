import VariantForge.Shell.Glob

/-!
Expanded words, and the fields that they are split into.

An expanded word is a row of items: characters, quoted or not, and marks where quotes begin and end, so
that a word with nothing but quotes is still there. What may be split is kept as spans of the row: at the
separators, or only at the ends of arguments, for which a null stands.
-/

namespace VariantForge.Shell

/-- An item of an expanded word. -/
inductive Item where
  | mark
  | char (c : Char) (quoted : Bool)
  deriving DecidableEq, Inhabited

namespace Item

/-- The characters of a row. -/
def bare : List Item → List Char
  | [] => []
  | .mark :: rest => bare rest
  | .char c _ :: rest => c :: bare rest

/-- The pattern that a row stands for, where a backslash comes before each quoted character. A backslash
that is not quoted already does so for the next one; `open_` says that there was none. -/
def pattern (open_ : Bool) : List Item → List Char
  | [] => []
  | .mark :: rest => pattern true rest
  | .char '\\' false :: rest => '\\' :: pattern false rest
  | .char c quoted :: rest =>
    if open_ && (quoted || c == '^') then '\\' :: c :: pattern true rest else c :: pattern true rest

end Item

/-- A span of a row that may be split; `onlyNull` says that nothing but a null separates in it. -/
structure Span where
  first : Nat
  last : Nat
  onlyNull : Bool

/-- A word that is being expanded. The spans stand in reverse order. -/
structure Row where
  items : Array Item := #[]
  spans : List Span := []

namespace Row

/-- Adds an item. -/
def add (r : Row) (i : Item) : Row := { r with items := r.items.push i }

/-- Says that the items from a place on may be split. -/
def allow (r : Row) (first : Nat) (onlyNull : Bool) : Row :=
  { r with spans := ⟨first, r.items.size, onlyNull⟩ :: r.spans }

/-- Takes away the items from a place on. -/
def cut (r : Row) (size : Nat) : Row :=
  let kept := r.spans.filter fun s => s.first < size
  { items := r.items.shrink size, spans := kept.map fun s => { s with last := min s.last size } }

/-- The items from a place on. -/
def since (r : Row) (first : Nat) : List Item := (r.items.toList).drop first

/-- Whether characters are quoted by a value that is put in: those that a pattern could take for
something else, within double quotes. -/
def isSpecial (c : Char) : Bool := "!*?[=~:/-^]\\".toList.contains c

/-- Adds the characters of a value. -/
def addText (r : Row) (quoted : Bool) (cs : List Char) : Row :=
  { r with items := cs.foldl (fun items c => items.push (.char c (quoted && isSpecial c))) r.items }

end Row

/-- The blank separators. A null counts as one. -/
def isBlankSeparator (c : Char) : Bool := c == ' ' || c == '\t' || c == '\n' || c == '\x00'

/-- Splitting at work: the fields that are complete, in reverse order, where the next one starts, whether
the last separator was blank, how many more fields there may be, and from where on a last field that takes
all the rest is cut. -/
structure Splitting where
  done : List (Nat × Nat) := []
  start : Nat := 0
  blank : Bool := false
  more : Option Nat := none
  cut : Option Nat := none

namespace Splitting

/-- Goes past the character at a place. `nullBefore` and `onlyNull` say whether nothing but nulls separate
in the span before and in this one. -/
def step (separators : List Char) (nullBefore onlyNull : Bool) (s : Splitting) (at_ : Nat) (c : Char) :
    Splitting :=
  let isSeparator := c == '\x00' || (!onlyNull && separators.contains c)
  let isBlank := isSeparator && isBlankSeparator c
  if s.more = some 0 then
    if isBlank then { s with cut := some (s.cut.getD at_) }
    else { s with cut := if isSeparator && s.blank then s.cut else none, blank := false }
  else if s.blank then { s with start := if isSeparator then at_ + 1 else at_, blank := isBlank }
  else if isSeparator then
    let blank := isBlank && !nullBefore && !onlyNull
    if at_ = s.start && blank then { s with start := at_ + 1 }
    else
      match s.more with
      | some 1 => { s with more := some 0, cut := some at_, blank }
      | more => { s with
        done := (s.start, at_) :: s.done, start := at_ + 1, blank, more := more.map (· - 1) }
  else s

/-- Goes over a span of a row. -/
def overSpan (separators : List Char) (r : Row) (nullBefore : Bool) (s : Splitting) (span : Span) : Splitting :=
  let places := (List.range (span.last - span.first)).map (· + span.first)
  places.foldl (fun s k =>
    match r.items[k]? with
    | some (Item.char c _) => step separators nullBefore span.onlyNull s k c
    | _ => s) { s with blank := false }

/-- Goes over spans, and says whether nothing but nulls separate in the last one. -/
def overSpans (separators : List Char) (r : Row) (nullBefore : Bool) (s : Splitting) : List Span → Splitting × Bool
  | [] => (s, nullBefore)
  | span :: rest => overSpans separators r span.onlyNull (overSpan separators r nullBefore s span) rest

/-- The fields of a row, at most as many as `most` says. -/
def fields (separators : List Char) (most : Option Nat) (r : Row) : List (List Item) :=
  let (s, onlyNull) := overSpans separators r false { more := most } r.spans.reverse
  let last := s.cut.getD r.items.size
  let all := if onlyNull || s.start < last then (s.start, last) :: s.done else s.done
  all.reverse.map fun f => (r.items.extract f.1 f.2).toList

end Splitting

end VariantForge.Shell
