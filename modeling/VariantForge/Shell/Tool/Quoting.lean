import VariantForge.Text.Utf8

/-!
Names as the programs of a machine show them: in quotes that a shell would read, with escapes for what
cannot be printed.
-/

namespace VariantForge.Shell.Quoting

/-- Whether a character can be shown as it is. -/
def isPrintable (c : Char) : Bool := ' ' ≤ c && c < '\x7f'

/-- Whether a character at the front of a name, or inside one, means something to a shell. -/
def isSpecial (first alone : Bool) (c : Char) : Bool :=
  !isPrintable c || " !\"$&()*;<=>[^'?\\|".toList.contains c || c == Char.ofNat 96 ||
    (first && (c == '#' || c == '~')) || (alone && (c == '\x7b' || c == '\x7d'))

/-- Whether a name with quotes in it may stand in double quotes. -/
def isPlain (c : Char) : Bool := isPrintable c && !"!\"$&()*;<=>[^?\\|".toList.contains c && c != Char.ofNat 96

/-- The escape of a character that cannot be shown. -/
def escape (c : Char) : List Char :=
  match c with
  | '\n' => ['\\', 'n']
  | '\t' => ['\\', 't']
  | '\r' => ['\\', 'r']
  | '\x07' => ['\\', 'a']
  | '\x08' => ['\\', 'b']
  | '\x0b' => ['\\', 'v']
  | '\x0c' => ['\\', 'f']
  | c =>
    let ds := Nat.toDigits 8 c.toNat
    '\\' :: List.replicate (3 - ds.length) '0' ++ ds

/-- The inside of a quoted name; `escaping` says that escapes came last. -/
def inside : Bool → List Char → List Char
  | _, [] => []
  | escaping, c :: rest =>
    if !isPrintable c then
      (if escaping then [] else ['\'', '$', '\'']) ++ escape c ++ inside true rest
    else
      (if escaping then ['\'', '\''] else []) ++ (if c = '\'' then ['\'', '\\', '\'', '\''] else [c]) ++
        inside false rest

/-- A name in quotes. -/
def always (name : String) : String :=
  let cs := name.toList
  if cs.contains '\'' && cs.all isPlain then "\"" ++ name ++ "\""
  else String.ofList ('\'' :: inside false cs ++ ['\''])

/-- Whether a name must have quotes. -/
def needed (name : String) : Bool :=
  match name.toList with
  | [] => true
  | [c] => isSpecial true true c
  | c :: rest => isSpecial true false c || rest.any (isSpecial false false)

/-- A name, in quotes where it must have them. -/
def ifNeeded (name : String) : String := if needed name then always name else name

/-- A name before a colon, in quotes where it must have them or has a colon in it. -/
def told (name : String) : String := if needed name || name.toList.contains ':' then always name else name

end VariantForge.Shell.Quoting
