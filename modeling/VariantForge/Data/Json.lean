import VariantForge.Data.Basic
import VariantForge.Text.Units

/-!
Reading JSON. Of members with the same name the last one counts; blanks are the space, the tab and
the two line ends. The reader looks at the whole text and gives nothing if any of it does not fit.
-/

namespace VariantForge.Json

/-- The characters after the blanks at the front. -/
def skipBlanks (cs : List Char) : List Char :=
  cs.dropWhile (fun c => c = ' ' || c = '\t' || c = '\n' || c = '\r')

/-- Four digits of base sixteen. -/
def readHex4 : List Char → Option (Nat × List Char)
  | a :: b :: c :: d :: rest => (Number.readNat? 16 [a, b, c, d]).map (·, rest)
  | _ => none

/-- What a letter after a backslash stands for. -/
def escaped? (c : Char) : Option Char :=
  if c = '"' ∨ c = '\\' ∨ c = '/' then some c
  else if c = 'b' then some (Char.ofNat 8)
  else if c = 'f' then some (Char.ofNat 12)
  else if c = 'n' then some '\n'
  else if c = 'r' then some '\r'
  else if c = 't' then some '\t'
  else none

/-- The character that a numbered escape stands for, with the rest after it. -/
def readPoint (cs : List Char) : Option (Char × List Char) :=
  (readHex4 cs).map fun (n, rest) => (Text.loneChar n.toUInt16, rest)

/-- The rest of a string after its opening quote; `before` holds what was read, in reverse order,
and `fuel` bounds the characters that are looked at. -/
def readString : Nat → List Char → List Char → Option (String × List Char)
  | 0, _, _ => none
  | _ + 1, _, [] => none
  | fuel + 1, before, c :: rest =>
    if c = '"' then some (Text.joined (String.ofList before.reverse), rest)
    else if c = '\\' then
      match rest with
      | 'u' :: more =>
        match readPoint more with
        | some (p, after) => readString fuel (p :: before) after
        | none => none
      | e :: more =>
        match escaped? e with
        | some p => readString fuel (p :: before) more
        | none => none
      | [] => none
    else if c.toNat < 0x20 then none
    else readString fuel (c :: before) rest

/-- A number: no sign but a minus, no zero in front of other digits, digits on both sides of a
point. -/
def readNumber (cs : List Char) : Option (Number × List Char) := do
  let (negative, cs) := match cs with
    | '-' :: rest => (true, rest)
    | cs => (false, cs)
  let (whole, rest) := Number.spanDigits cs
  if whole.isEmpty ∨ (whole.head? = some '0' ∧ 1 < whole.length) then none
  let (fraction, rest) ← match rest with
    | '.' :: r =>
      let (ds, r) := Number.spanDigits r
      if ds.isEmpty then none else some (ds, r)
    | r => some ([], r)
  let (e, rest) ← Number.readExponent? rest
  some (.ofScientific negative (whole ++ fraction) (e - fraction.length), rest)

/-- The rest after a word that must stand at the front. -/
def after? (word : String) (cs : List Char) : Option (List Char) :=
  let w := word.toList
  if w.isPrefixOf cs then some (cs.drop w.length) else none

mutual

/-- A value at the front of the text, without blanks before it. -/
def readValue : Nat → List Char → Option (Data × List Char)
  | 0, _ => none
  | fuel + 1, cs =>
    match cs with
    | '"' :: rest => (readString (rest.length + 1) [] rest).map fun r => (.text r.1, r.2)
    | '[' :: rest =>
      match skipBlanks rest with
      | ']' :: after => some (.list [], after)
      | inner => readItems fuel [] inner
    | '\x7b' :: rest =>
      match skipBlanks rest with
      | '\x7d' :: after => some (.record [] [], after)
      | inner => readMembers fuel [] inner
    | 't' :: _ => (after? "true" cs).map (.bool true, ·)
    | 'f' :: _ => (after? "false" cs).map (.bool false, ·)
    | 'n' :: _ => (after? "null" cs).map (.null, ·)
    | _ => (readNumber cs).map fun r => (.number r.1, r.2)

/-- The items of a list up to its closing bracket; `before` holds those read, in reverse order. -/
def readItems : Nat → List Data → List Char → Option (Data × List Char)
  | 0, _, _ => none
  | fuel + 1, before, cs =>
    match readValue fuel cs with
    | none => none
    | some (item, rest) =>
      match skipBlanks rest with
      | ',' :: more => readItems fuel (item :: before) (skipBlanks more)
      | ']' :: after => some (.list (item :: before).reverse, after)
      | _ => none

/-- The members of a record up to its closing brace. -/
def readMembers : Nat → Members Data → List Char → Option (Data × List Char)
  | 0, _, _ => none
  | fuel + 1, before, cs =>
    match cs with
    | '"' :: rest =>
      match readString (rest.length + 1) [] rest with
      | none => none
      | some (name, rest) =>
        match skipBlanks rest with
        | ':' :: more =>
          match readValue fuel (skipBlanks more) with
          | none => none
          | some (value, rest) =>
            let members := Members.put before name value
            match skipBlanks rest with
            | ',' :: more => readMembers fuel members (skipBlanks more)
            | '\x7d' :: after => some (.record members [], after)
            | _ => none
        | _ => none
    | _ => none

end

/-- The value that a JSON text holds. -/
def read? (s : String) : Option Data :=
  let cs := s.toList
  match readValue (2 * cs.length + 2) (skipBlanks cs) with
  | some (d, rest) => if (skipBlanks rest).isEmpty then some d else none
  | none => none

end VariantForge.Json
