import VariantForge.Pattern.Matching

/-!
Putting text in the place of matches.

A template is copied but for its signs: a doubled dollar is one, a dollar with an ampersand, a
grave accent or an apostrophe stands for the match, what precedes it or what follows it, a dollar
with one or two digits for what a group covered, and a dollar with a name in angle brackets for
what the group of that name covered.
-/

namespace VariantForge.Pattern

/-- What a template may refer to. -/
structure Setting where
  input : List UInt16
  match_ : Match
  names : List (List Nat × Nat)

namespace Setting

/-- The units between two positions. -/
def slice (c : Setting) (i j : Nat) : List UInt16 := (c.input.drop i).take (j - i)

/-- What a group covered; nothing if it covered nothing. -/
def group (c : Setting) (index : Nat) : List UInt16 :=
  match (c.match_.captures[index]?).join with
  | some (i, j) => c.slice i j
  | none => []

/-- The number of groups. -/
def groups (c : Setting) : Nat := c.match_.captures.length - 1

end Setting

/-- The unit of a character of ASCII. -/
def unit (c : Char) : UInt16 := c.toNat.toUInt16

/-- The value of a decimal digit. -/
def digit? (u : UInt16) : Option Nat := if 48 ≤ u ∧ u ≤ 57 then some (u.toNat - 48) else none

/-- The group that one or two digits at the front name, with the number of digits. Two digits count
if there is such a group, else the first of them alone. -/
def groupSign? (groups : Nat) (units : List UInt16) : Option (Nat × Nat) :=
  match units with
  | [] => none
  | a :: rest =>
    match digit? a with
    | none => none
    | some n =>
      let two := rest.head?.bind digit? |>.map (n * 10 + ·)
      match two with
      | some m =>
        if 1 ≤ m ∧ m ≤ groups then some (m, 2)
        else if 1 ≤ n ∧ n ≤ groups then some (n, 1) else none
      | none => if 1 ≤ n ∧ n ≤ groups then some (n, 1) else none

/-- The units before the first `>` if there is one. -/
def nameSign? (units : List UInt16) : Option (List UInt16) :=
  let name := units.takeWhile (· != unit '>')
  if name.length < units.length then some name else none

/-- Reads the units of a name as code points. -/
def namePoints : List UInt16 → List Nat
  | u :: v :: rest =>
    if Text.isLead u && Text.isTrail v then Text.pairPoint u v :: namePoints rest
    else u.toNat :: namePoints (v :: rest)
  | [u] => [u.toNat]
  | [] => []

/-- What the sign after a dollar stands for, and how many units the sign has; nothing if the dollar
stands for itself. -/
def sign? (c : Setting) (rest : List UInt16) : Option (List UInt16 × Nat) :=
  match rest with
  | [] => none
  | u :: more =>
    if u = unit '$' then some ([u], 1)
    else if u = unit '&' then some (c.slice c.match_.start c.match_.stop, 1)
    else if u = 0x60 then some (c.input.take c.match_.start, 1)
    else if u = 0x27 then some (c.input.drop c.match_.stop, 1)
    else if u = unit '<' then
      if c.names.isEmpty then none
      else
        (nameSign? more).map fun name =>
          let covered := match c.names.find? (·.1 == namePoints name) with
            | some (_, index) => c.group index
            | none => []
          (covered, name.length + 2)
    else (groupSign? c.groups rest).map fun g => (c.group g.1, g.2)

/-- Fills in a template after what is in `done`, in reverse order. The second argument counts units
of a sign that are still to be left out. -/
def expandAfter (c : Setting) (done : List UInt16) : Nat → List UInt16 → List UInt16
  | _, [] => done.reverse
  | n + 1, _ :: rest => expandAfter c done n rest
  | 0, u :: rest =>
    if u = unit '$' then
      match sign? c rest with
      | some (part, n) => expandAfter c (part.reverse ++ done) n rest
      | none => expandAfter c (u :: done) 0 rest
    else expandAfter c (u :: done) 0 rest

/-- A template filled in for one match. -/
def expand (c : Setting) (template : List UInt16) : List UInt16 := expandAfter c [] 0 template

/-- Copies the text from a position on and puts `fill m` in place of each match `m`. -/
def replaceFrom (fill : Match → List UInt16) (position : Nat) (rest : List UInt16) :
    List Match → List UInt16
  | [] => rest
  | m :: ms =>
    rest.take (m.start - position) ++
      (fill m ++ replaceFrom fill m.stop (rest.drop (m.stop - position)) ms)

/-- The text with `fill m` in place of each match `m`. -/
def replaceMatches (t : Text) (ms : List Match) (fill : Match → List UInt16) : Text :=
  ⟨replaceFrom fill 0 t.units ms⟩

/-- The text with a template filled in for each match. -/
def Compiled.replaceWith (c : Compiled) (t : Text) (ms : List Match) (template : Text) : Text :=
  replaceMatches t ms fun m => expand ⟨t.units, m, c.names⟩ template.units

/-- Units that mean something else than themselves in a pattern. -/
def isSign (u : UInt16) : Bool :=
  (".*+?^$\x7b\x7d()|[]\\".toList.map unit).contains u

/-- The pattern that fits a text itself and nothing else: each sign has a backslash before it. -/
def literal (t : Text) : Text :=
  ⟨t.units.flatMap fun u => if isSign u then [unit '\\', u] else [u]⟩

end VariantForge.Pattern
