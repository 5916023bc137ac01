import VariantForge.Text.Units
import VariantForge.Unicode.CaseRuns
import VariantForge.Unicode.Ranges

/-!
Patterns as trees.

A pattern describes pieces of a text. Its tree is built from single characters, sequences and
choices, repetition, groups that remember what they covered, conditions on what stands around a
position, and references to what a group covered.

The flags of a pattern say what is read, units or code points, and what is told apart by case.
-/

namespace VariantForge.Pattern

/-! ## Flags -/

/-- How a pattern is to be read and applied. -/
structure Flags where
  indices : Bool := false
  every : Bool := false
  ignoreCase : Bool := false
  multiline : Bool := false
  dotAll : Bool := false
  unicode : Bool := false
  sets : Bool := false
  sticky : Bool := false
  deriving DecidableEq

namespace Flags

/-- Whether the pattern reads code points rather than units. -/
def byPoint (f : Flags) : Bool := f.unicode || f.sets

/-- The representative of all characters that differ from `p` in case only. -/
def canonical (f : Flags) (p : Nat) : Nat :=
  if !f.ignoreCase then p
  else if f.byPoint then Unicode.mapped Unicode.foldRuns p
  else Unicode.mapped Unicode.upperRuns p

/-- The characters that have the same representative as `p`. -/
def variants (f : Flags) (p : Nat) : List Nat :=
  if !f.ignoreCase then [p]
  else
    let c := f.canonical p
    let others := Unicode.sources (if f.byPoint then Unicode.foldRuns else Unicode.upperRuns) c
    if f.canonical c = c then c :: others else others

/-- Whether a character belongs to words: letters and digits of ASCII and the low line; where case
is ignored in Unicode mode, also the two characters that go with the letters s and k. -/
def isWordChar (f : Flags) (p : Nat) : Bool :=
  (48 ≤ p && p ≤ 57) || (65 ≤ p && p ≤ 90) || (97 ≤ p && p ≤ 122) || p == 95 ||
  (f.byPoint && f.ignoreCase && (p == 0x17F || p == 0x212A))

/-- Adds one letter to a set of flags; nothing for an unknown letter or one that is there. -/
def add? (f : Flags) (c : Char) : Option Flags :=
  match c with
  | 'd' => if f.indices then none else some { f with indices := true }
  | 'g' => if f.every then none else some { f with every := true }
  | 'i' => if f.ignoreCase then none else some { f with ignoreCase := true }
  | 'm' => if f.multiline then none else some { f with multiline := true }
  | 's' => if f.dotAll then none else some { f with dotAll := true }
  | 'u' => if f.unicode || f.sets then none else some { f with unicode := true }
  | 'v' => if f.unicode || f.sets then none else some { f with sets := true }
  | 'y' => if f.sticky then none else some { f with sticky := true }
  | _ => none

/-- The flags that the letters of a string set. -/
def read? (s : String) : Option Flags := s.toList.foldlM add? {}

/-- The letters of flags in alphabetical order. -/
def letters (f : Flags) : String :=
  String.ofList ((if f.indices then ['d'] else []) ++ (if f.every then ['g'] else []) ++
    (if f.ignoreCase then ['i'] else []) ++ (if f.multiline then ['m'] else []) ++
    (if f.dotAll then ['s'] else []) ++ (if f.unicode then ['u'] else []) ++
    (if f.sets then ['v'] else []) ++ (if f.sticky then ['y'] else []))

end Flags

/-! ## Trees -/

/-- Classes of characters that have a letter of their own. -/
inductive Named where
  | digit
  | space
  | word
  deriving DecidableEq

/-- One entry of a class of characters, or a set made of such entries. -/
inductive CharItem where
  | range (low high : Nat)
  | named (class_ : Named) (negated : Bool)
  | property (set : Unicode.Ranges) (negated : Bool)
  | nothing
  | either (a b : CharItem)
  | both (a b : CharItem)
  | without (a b : CharItem)
  | complement (a : CharItem)

/-- A pattern. `repeated` tells which groups lie inside it, from the one after `first` up to
`last`: each round forgets what they covered before. -/
inductive Node where
  | empty
  | anyChar
  | oneOf (items : List CharItem) (negated : Bool)
  | sequence (first second : Node)
  | either (first second : Node)
  | group (index : Nat) (body : Node)
  | repeated (body : Node) (least : Nat) (most : Option Nat) (greedy : Bool) (first last : Nat)
  | look (behind negated : Bool) (body : Node)
  | lineStart
  | lineEnd
  | wordEdge (negated : Bool)
  | reference (index : Nat)
  | namedReference (name : List Nat)

/-- A pattern that is one character. -/
def Node.char (p : Nat) : Node := .oneOf [.range p p] false

/-- A pattern that is these characters one after the other. -/
def Node.chars : List Nat → Node
  | [] => .empty
  | [p] => .char p
  | p :: rest => .sequence (.char p) (chars rest)

/-- A pattern ready for use: its tree, the number of its groups and the names of some of them. -/
structure Compiled where
  flags : Flags
  node : Node
  groups : Nat
  names : List (List Nat × Nat)

end VariantForge.Pattern
