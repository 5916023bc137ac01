/-!
Sets of code points as sorted bounds.

A table is written as the gaps between bounds, numerals of base 36 with blanks or line ends
between them. The
set holds the code points from its first bound up to the second, from the third up to the fourth,
and so on.
-/

namespace VariantForge.Unicode

/-- A set of code points: those that an odd number of bounds do not exceed. -/
structure Ranges where
  bounds : Array Nat

/-- The value of a numeral of base 36, in digits and small letters. -/
def base36 (s : String) : Nat :=
  s.foldl (fun n c => n * 36 + (if c.isDigit then c.toNat - 48 else c.toNat - 87)) 0

/-- The words of a table. -/
def words (s : String) : List String :=
  (s.split (fun c => c == ' ' || c == '\n')).toStringList.filter (!·.isEmpty)

/-- The set whose bounds lie that far apart. -/
def Ranges.ofGaps (gaps : String) : Ranges :=
  ⟨((words gaps).foldl (fun (bs, p) w => (bs.push (p + base36 w), p + base36 w)) (#[], 0)).1⟩

/-- How many bounds from `low` on do not exceed `p`, given that all before `low` do not and none
from `high` on. -/
def Ranges.countFrom (r : Ranges) (p low high : Nat) : Nat :=
  if h : low < high then
    let mid := (low + high) / 2
    if r.bounds.getD mid 0 ≤ p then r.countFrom p (mid + 1) high else r.countFrom p low mid
  else low
  termination_by high - low

/-- Whether the set holds a code point. -/
def Ranges.has (r : Ranges) (p : Nat) : Bool := r.countFrom p 0 r.bounds.size % 2 == 1

/-- The set of the code points in the runs whose name is wanted. A run table is a list of pairs of
words: how far the run begins after the one before, and its name. -/
def Ranges.ofRuns (wanted : String → Bool) (table : String) : Ranges :=
  let rec collect (bounds : Array Nat) (inside : Bool) (p : Nat) : List String → Array Nat
    | gap :: name :: rest =>
      let q := p + base36 gap
      if wanted name == inside then collect bounds inside q rest
      else collect (bounds.push q) (!inside) q rest
    | _ => bounds
  ⟨collect #[] false 0 (words table)⟩

end VariantForge.Unicode
