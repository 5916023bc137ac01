import VariantForge.Calendar
import VariantForge.Data.Members
import VariantForge.Number.Decimal
import VariantForge.Text.Quoted

/-!
Values as a settings file or a request holds them.

Besides what JSON can write there are dates, whole numbers too long for a `Number`, and the
functions that every record offers under certain names. A record may lend: `lent` are members that
can be read by name where the record has none of its own, as the member with the reserved name does
after a merge. One that lends a null under the reserved name is bare: it does not even offer those
functions.
-/

namespace VariantForge

/-- What a date in a settings file says: a point in time, a time without zone, a day, or a time of
day. -/
inductive DateForm where
  | instant
  | zoneless
  | day
  | timeOfDay
  deriving DecidableEq

/-- A value of a settings file or a request. -/
inductive Data where
  | null
  | bool (value : Bool)
  | number (value : Number)
  | integer (value : Int)
  | date (ms : Int) (form : DateForm)
  | text (value : String)
  | list (items : List Data)
  | record (own : List (String × Data)) (lent : List (String × Data))
  | function
  deriving Inhabited

namespace Data

/-- The reserved name: a member under it lends what it holds. -/
def lendingName : String := "__proto__"

/-- Names under which every record that is not bare offers a function. -/
def offeredNames : List String :=
  ["constructor", "toString", "valueOf", "hasOwnProperty", "isPrototypeOf", "propertyIsEnumerable",
    "toLocaleString", "__defineGetter__", "__defineSetter__", "__lookupGetter__", "__lookupSetter__"]

/-- What a bare record lends. -/
def bareLending : Members Data := [(lendingName, .null)]

/-- Whether such members are lent by a bare record. -/
def isBareLending (lent : Members Data) : Bool :=
  match Members.get? lent lendingName with
  | some .null => true
  | _ => false

/-- A record that lends nothing. -/
def ofMembers (members : List (String × Data)) : Data := .record (Members.ofList members) []

/-- A whole number as a value. -/
def ofNat (n : Nat) : Data := .number (.ofNat n)

/-- The member that a date shows besides its time. -/
def dateMark : DateForm → Members Data
  | .instant => []
  | .zoneless => [("isFloating", .bool true)]
  | .day => [("isDate", .bool true)]
  | .timeOfDay => [("isTime", .bool true)]

/-- Whether a value has named members: records do, and dates. -/
def isRecord : Data → Bool
  | .record .. => true
  | .date .. => true
  | _ => false

/-- The members that belong to a value itself. -/
def members : Data → Members Data
  | .record own _ => own
  | .date _ form => dateMark form
  | _ => []

/-- The value under a name, of its own or lent. -/
def get? (d : Data) (name : String) : Option Data :=
  match d with
  | .record own lent =>
    match Members.get? own name with
    | some v => some v
    | none => Members.get? lent name
  | .date _ form => Members.get? (dateMark form) name
  | _ => none

/-- All members that can be read: the record's own, then those lent under other names. -/
def visible (d : Data) : Members Data :=
  match d with
  | .record own lent =>
    own ++ lent.filter (fun m => !Members.has own m.1 && !(m.1 == lendingName && isBareLending lent))
  | .date _ form => dateMark form
  | _ => []

mutual

/-- Whether a value can be turned into text or a number: a record can unless it is bare or holds
something else than a function under the name that asks for its text; a list can if its items can. -/
def hasText : Data → Bool
  | .record own lent =>
    match (Data.record own lent).get? "toString" with
    | some .function => true
    | some _ => false
    | none => !isBareLending lent
  | .list items => haveTexts items
  | _ => true

/-- Whether all items of a list can be turned into text. -/
def haveTexts : List Data → Bool
  | [] => true
  | item :: rest => hasText item && haveTexts rest

end

mutual

/-- A value as plain text: items of a list are joined by commas, nothing stands for a null among
them, and records have no text of their own. -/
def plainText : Data → String
  | .null => "null"
  | .bool b => if b then "true" else "false"
  | .number x => x.text
  | .integer n => toString n
  | .date ms _ => Calendar.isoText ms
  | .text s => s
  | .list items => ",".intercalate (itemTexts items)
  | .record .. => "[object Object]"
  | .function => "function"

/-- The texts of the items of a list. -/
def itemTexts : List Data → List String
  | [] => []
  | .null :: rest => "" :: itemTexts rest
  | item :: rest => plainText item :: itemTexts rest

end

mutual

/-- The value in JSON, on lines of its own where it has parts; `margin` stands before each line. -/
def prettyAt (margin : String) : Data → String
  | .null => "null"
  | .bool b => if b then "true" else "false"
  | .number x => if x.isFinite then x.text else "null"
  | .integer n => toString n
  | .date ms _ => Text.quoted (Calendar.isoText ms)
  | .text s => Text.quoted s
  | .list [] => "[]"
  | .list items =>
    let inner := margin ++ "  "
    "[\n" ++ ",\n".intercalate (prettyItems inner items) ++ "\n" ++ margin ++ "]"
  | .record [] _ => "\x7b\x7d"
  | .record own _ =>
    let inner := margin ++ "  "
    "\x7b\n" ++ ",\n".intercalate (prettyMembers inner own) ++ "\n" ++ margin ++ "\x7d"
  | .function => "null"

/-- The items of a list, one text each. -/
def prettyItems (margin : String) : List Data → List String
  | [] => []
  | item :: rest => (margin ++ prettyAt margin item) :: prettyItems margin rest

/-- The members of a record, one text each. -/
def prettyMembers (margin : String) : List (String × Data) → List String
  | [] => []
  | (name, value) :: rest =>
    (margin ++ Text.quoted name ++ ": " ++ prettyAt margin value) :: prettyMembers margin rest

end

/-- The value in JSON over several lines, two blanks to a level. -/
def pretty (d : Data) : String := prettyAt "" d

mutual

/-- The value in JSON on one line. -/
def compact : Data → String
  | .list items => "[" ++ ",".intercalate (compactItems items) ++ "]"
  | .record own _ => "\x7b" ++ ",".intercalate (compactMembers own) ++ "\x7d"
  | d => prettyAt "" d

/-- The items of a list on one line, one text each. -/
def compactItems : List Data → List String
  | [] => []
  | item :: rest => compact item :: compactItems rest

/-- The members of a record on one line, one text each. -/
def compactMembers : List (String × Data) → List String
  | [] => []
  | (name, value) :: rest => (Text.quoted name ++ ":" ++ compact value) :: compactMembers rest

end

end Data

end VariantForge

/-!
Laying one record over another.

The members of the upper record take the place of those below, and records that meet under one name
are merged in turn. A member of the upper record under the reserved name is not put in: unless the
lower record has one of its own, what it holds is lent to the record.
-/

namespace VariantForge.Data

/-- What a value lends: a record its members, a list its items by number. Null and bare records make
a record bare. -/
def lending : Data → Members Data
  | .null => bareLending
  | .list items => items.zipIdx.map fun (item, i) => (toString i, item)
  | .record own lent => (Data.record own lent).visible ++ (if isBareLending lent then bareLending else [])
  | d => d.visible

/-- Puts a value under a name. -/
def assign (own lent : Members Data) (name : String) (value : Data) : Data :=
  if name = lendingName ∧ !Members.has own name then .record own (lending value)
  else .record (Members.put own name value) lent

mutual

/-- The record `base` with the members of another laid over it. -/
def merge (base : Data) : Data → Data
  | .record own _ => mergeMembers (.record base.members []) own
  | .date _ form => (dateMark form).foldl (fun d m => assign d.members [] m.1 m.2) (.record base.members [])
  | _ => .record base.members []

/-- Lays members over a record one by one. -/
def mergeMembers (out : Data) : List (String × Data) → Data
  | [] => out
  | (name, value) :: rest =>
    let below :=
      if name = lendingName ∧ !Members.has out.members name then some (.record [] []) else out.get? name
    let above := match below with
      | some b => if b.isRecord && value.isRecord then merge b value else value
      | none => value
    let lent := match out with
      | .record _ lent => lent
      | _ => []
    mergeMembers (assign out.members lent name above) rest

end

end VariantForge.Data
