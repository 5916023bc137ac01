/-!
Paths as text, with `/` between their parts.

Normalising drops blank parts and single points and lets a double point climb over the part before
it; an absolute path does not climb over its root. `resolve` gives the absolute path that a path
stands for from some directory, `join` only strings paths together.
-/

namespace VariantForge.Path

/-- One part of a path. -/
abbrev Part := List Char

/-- The part that climbs to the directory above. -/
def up : Part := ['.', '.']

/-- The parts between the slashes, blank ones too. -/
def parts (cs : List Char) : List Part := cs.splitOn '/'

/-- The parts with a slash between two. -/
def joinParts (ps : List Part) : List Char := List.intercalate ['/'] ps

/-- Whether a path starts at the root. -/
def isAbsoluteChars (cs : List Char) : Bool := cs.head? == some '/'

/-- Adds a part to normalised parts, which stand in reverse order. `climbs` says whether the path
may climb over its first part. -/
def addPart (climbs : Bool) (before : List Part) (p : Part) : List Part :=
  if p = [] ∨ p = ['.'] then before
  else if p = up then
    match before with
    | [] => if climbs then [up] else []
    | top :: rest => if top = up then up :: top :: rest else rest
  else p :: before

/-- The parts that are left of a path. -/
def normalParts (climbs : Bool) (cs : List Char) : List Part :=
  ((parts cs).foldl (addPart climbs) []).reverse

/-- A path without needless parts; a slash at its end stays. -/
def normalizeChars (cs : List Char) : List Char :=
  let absolute := isAbsoluteChars cs
  let trailing := cs.getLast? == some '/'
  let body := joinParts (normalParts (!absolute) cs)
  if body = [] then
    if absolute then ['/'] else if trailing then ['.', '/'] else ['.']
  else (if absolute then '/' :: body else body) ++ (if trailing then ['/'] else [])

/-- A path without needless parts. -/
def normalize (p : String) : String := String.ofList (normalizeChars p.toList)

/-- Whether a path starts at the root. -/
def isAbsolute (p : String) : Bool := isAbsoluteChars p.toList

/-- Paths strung together and normalised; blank ones count for nothing. -/
def join (ps : List String) : String :=
  let given := (ps.map String.toList).filter (!·.isEmpty)
  if given.isEmpty then "." else String.ofList (normalizeChars (joinParts given))

/-- The characters of the path that `p` stands for from the directory `base`. -/
def stepInto (base p : List Char) : List Char :=
  if p = [] then base else if isAbsoluteChars p then p else base ++ '/' :: p

/-- The absolute path that the last of the paths stands for, each seen from the one before it and
the first from the directory `cwd`. -/
def resolve (cwd : String) (ps : List String) : String :=
  let whole := ps.foldl (fun base p => stepInto base p.toList) cwd.toList
  String.ofList ('/' :: joinParts (normalParts false whole))

/-- A path without the slashes at its end, in reverse order. -/
def reversedBare (cs : List Char) : List Char := cs.reverse.dropWhile (· == '/')

/-- The directory that a path names an entry of. -/
def dirname (p : String) : String :=
  let cs := p.toList
  match (reversedBare cs).dropWhile (· != '/') with
  | [] => if isAbsoluteChars cs then "/" else "."
  | [_] => "/"
  | [_, c] => if c = '/' then "//" else String.ofList [c]
  | _ :: rest => String.ofList rest.reverse

/-- The last part of a path. -/
def basename (p : String) : String :=
  String.ofList ((reversedBare p.toList).takeWhile (· != '/')).reverse

/-- The last point of the last part and what follows it, unless the part begins with that point. -/
def extension (p : String) : String :=
  let base := (reversedBare p.toList).takeWhile (· != '/')
  let tail := base.takeWhile (· != '.')
  match base.drop tail.length with
  | [] => ""
  | [_] => ""
  | _ :: _ => if base = up then "" else String.ofList ('.' :: tail.reverse)

/-- Whether an absolute path is the directory `dir` or lies below it, going by the text alone. -/
def isInside (dir path : String) : Bool :=
  path == dir || (dir.toList ++ ['/']).isPrefixOf path.toList

/-- The places that an absolute path goes through, from the root on. -/
def components (p : String) : List String := (normalParts false p.toList).map String.ofList

end VariantForge.Path
