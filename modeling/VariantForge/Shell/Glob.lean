import VariantForge.Disk.Operations
import VariantForge.Text.Utf8

/-!
Patterns for names and words.

In a pattern a star stands for any characters, a question mark for one, brackets for one of a set, and a
backslash takes from the next character what it would mean. A pattern that is a path stands for the paths
that fit it part by part.
-/

namespace VariantForge.Shell.Glob

/-- What the rest of a set says of a character: the set never ends, it is no set, or the character is
or is not in it, with what comes after the set. -/
inductive Membership where
  | unended
  | invalid
  | found (isMember : Bool) (rest : List Char)

/-- Whether a character is in the class of a name; none if there is no such class. -/
def inClass? (name : String) (c : Char) : Option Bool :=
  let printable := ' ' < c && c < '\x7f'
  match name with
  | "alpha" => some c.isAlpha
  | "digit" => some c.isDigit
  | "alnum" => some c.isAlphanum
  | "upper" => some c.isUpper
  | "lower" => some c.isLower
  | "space" => some (c == ' ' || ('\t' ≤ c && c ≤ '\r'))
  | "blank" => some (c == ' ' || c == '\t')
  | "punct" => some (printable && !c.isAlphanum)
  | "print" => some (printable || c == ' ')
  | "graph" => some printable
  | "cntrl" => some (c < ' ' || c == '\x7f')
  | "xdigit" => some (c.isDigit || ('a' ≤ c && c ≤ 'f') || ('A' ≤ c && c ≤ 'F'))
  | _ => none

/-- The name of a class with what comes after it, if it stands here. -/
def className? (cs : List Char) : Option (String × List Char) :=
  let name := cs.takeWhile fun c => 'a' ≤ c && c < 'z'
  match cs.drop name.length with
  | ':' :: ']' :: rest => some (String.ofList name, rest)
  | _ => none

/-- The end of a range: the character, with what comes after it. -/
def rangeEnd? : List Char → Option (Char × List Char)
  | '\\' :: c :: rest => some (c, rest)
  | '[' :: '.' :: c :: '.' :: ']' :: rest => some (c, rest)
  | '\\' :: [] => none
  | c :: rest => some (c, rest)
  | [] => none

/-- Looks for a character in the rest of a set. `first` says that a closing bracket would be a member,
`hit` that the character was found. -/
def member (c : Char) : Nat → Bool → Bool → List Char → Membership
  | 0, _, _, _ => .unended
  | fuel + 1, first, hit, cs =>
    let single (e : Char) (rest : List Char) : Membership :=
      match rest with
      | '-' :: more =>
        if more.isEmpty || more.head? == some ']' then member c fuel false (hit || e == c) rest
        else match rangeEnd? more with
          | some (f, rest) => member c fuel false (hit || (e ≤ c && c ≤ f)) rest
          | none => .invalid
      | rest => member c fuel false (hit || e == c) rest
    match cs with
    | [] => .unended
    | '\\' :: rest =>
      match rest with
      | [] => .invalid
      | e :: rest => single e rest
    | '[' :: ':' :: rest =>
      match className? rest with
      | none => single '[' (':' :: rest)
      | some (name, rest) =>
        match inClass? name c with
        | none => .invalid
        | some b => member c fuel false (hit || b) rest
    | '[' :: '=' :: e :: '=' :: ']' :: rest => member c fuel false (hit || e == c) rest
    | '[' :: '.' :: e :: '.' :: ']' :: rest => single e rest
    | e :: rest => if e = ']' ∧ !first then .found hit rest else single e rest

/-- Looks for a character in a set, after its opening bracket. -/
def memberOf (c : Char) (cs : List Char) : Membership :=
  match cs with
  | '!' :: rest =>
    match member c (rest.length + 1) true false rest with
    | .found b rest => .found (!b) rest
    | m => m
  | cs => member c (cs.length + 1) true false cs

/-- Whether a pattern fits the whole of a list of characters; `fuel` bounds the steps. -/
def fitsWithin : Nat → List Char → List Char → Bool
  | 0, _, _ => false
  | _ + 1, [], cs => cs.isEmpty
  | fuel + 1, '*' :: ps, cs =>
    fitsWithin fuel ps cs ||
      (match cs with
        | _ :: rest => fitsWithin fuel ('*' :: ps) rest
        | [] => false)
  | _ + 1, _, [] => false
  | fuel + 1, p :: ps, c :: cs =>
    if p = '?' then fitsWithin fuel ps cs
    else if p = '\\' then
      match ps with
      | e :: ps => e == c && fitsWithin fuel ps cs
      | [] => false
    else if p = '[' then
      match memberOf c ps with
      | .found b after => b && fitsWithin fuel after cs
      | .invalid => false
      | .unended => c == '[' && fitsWithin fuel ps cs
    else p == c && fitsWithin fuel ps cs

/-- A pattern with no star next to another. -/
def squeezed : List Char → List Char
  | '*' :: '*' :: rest => squeezed ('*' :: rest)
  | '\\' :: c :: rest => '\\' :: c :: squeezed rest
  | c :: rest => c :: squeezed rest
  | [] => []

/-- Whether a pattern fits the whole of a text. -/
def fits (pattern s : List Char) : Bool :=
  fitsWithin (pattern.length + s.length + 2) pattern s

/-- How many characters of the front of a text fit a pattern, the fewest or the most. -/
def frontSize? (longest : Bool) (pattern s : List Char) : Option Nat :=
  let sizes := List.range (s.length + 1)
  (if longest then sizes.reverse else sizes).find? fun k => fits pattern (s.take k)

/-- How many characters come before the end of a text that fits a pattern, the shortest or the longest
one. -/
def endStart? (longest : Bool) (pattern s : List Char) : Option Nat :=
  let sizes := List.range (s.length + 1)
  (if longest then sizes else sizes.reverse).find? fun k => fits pattern (s.drop k)

/-- A pattern without the backslashes in it. -/
def unescaped : List Char → List Char
  | '\\' :: c :: rest => c :: unescaped rest
  | c :: rest => c :: unescaped rest
  | [] => []

/-- Whether a set that begins here ends before the next slash. -/
def hasSet : Nat → List Char → Bool
  | 0, _ => false
  | fuel + 1, cs =>
    let cs := if cs.head? == some '\\' then cs.drop 1 else cs
    match cs with
    | [] | '/' :: _ => false
    | _ :: rest => if rest.head? == some ']' then true else hasSet fuel rest

/-- The first part of a path that is a pattern, from the slash before it to the slash after it: what is
before the part, the part, and what is after it if there is a slash. -/
def split (before part : List Char) (isPattern : Bool) : List Char →
    Option (List Char × List Char × Option (List Char))
  | [] => if isPattern then some (before.reverse, part.reverse, none) else none
  | '\\' :: '/' :: rest =>
    if isPattern then some (before.reverse, part.reverse, some rest)
    else split ('/' :: (part ++ before)) [] false rest
  | '/' :: rest =>
    if isPattern then some (before.reverse, part.reverse, some rest)
    else split ('/' :: (part ++ before)) [] false rest
  | '\\' :: c :: rest => split before (c :: '\\' :: part) isPattern rest
  | c :: rest =>
    let set := c == '[' && hasSet (rest.length + 1) (if rest.head? == some '!' then rest.drop 1 else rest)
    split before (c :: part) (isPattern || c == '*' || c == '?' || set) rest

/-- Whether a path names anything, a link at its end not followed. -/
def isThere (d : Disk) (path : String) : Bool :=
  match d.locateSelf (Octets.toString path) with
  | .ok p => (d.get? p).isSome
  | .error _ => false

/-- The names in a directory, with those that stand for itself and for the one above it. -/
def names (d : Disk) (path : String) : List String :=
  match d.list (if path.isEmpty then "." else Octets.toString path) with
  | .ok ns => "." :: ".." :: ns.map Octets.ofString
  | .error _ => []

/-- The paths after `above` that fit a pattern. -/
def expand (d : Disk) : Nat → String → List Char → List String
  | 0, _, _ => []
  | fuel + 1, above, pattern =>
    match split [] [] false pattern with
    | none =>
      let path := above ++ String.ofList (unescaped pattern)
      if !above.isEmpty && isThere d path then [path] else []
    | some (before, part, rest) =>
      let dir := above ++ String.ofList (unescaped before)
      let hidden := (unescaped part).head? == some '.'
      let fitting := (names d dir).filter fun n =>
        (hidden || n.toList.head? != some '.') && fits (squeezed part) n.toList
      match rest with
      | none => fitting.map (dir ++ ·)
      | some rest => fitting.flatMap fun n => expand d fuel (dir ++ n ++ "/") rest

/-- The paths that fit a pattern, in order. -/
def paths (d : Disk) (pattern : List Char) : List String :=
  if pattern.any fun c => c == '*' || c == '?' || c == '[' then
    (expand d (pattern.length + 1) "" pattern).mergeSort Octets.le
  else []

end VariantForge.Shell.Glob
