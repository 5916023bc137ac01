import VariantForge.Data.Basic

/-!
A TOML document while it is read.

A table may be opened under a name once, after parts of it came about through the names of others;
a list of tables grows by a table each time it is opened, and names that go through it mean its last
table. What was written as a value stays as it is. A table that would come about under the name of
a function that every record offers is that function instead; it takes members too, but it cannot
be named again.
-/

namespace VariantForge.Toml

/-- What stands under a name. `opened` says whether the table was opened under this very name. -/
inductive Item where
  | value (d : Data)
  | table (opened : Bool) (members : List (String × Item))
  | tables (items : List (List (String × Item)))
  | function (members : List (String × Item))

/-- The members of a table. -/
abbrev Table := List (String × Item)

namespace Table

/-- Changes the last table of a list. -/
def changeLast (f : Table → Option Table) : List Table → Option (List Table)
  | [] => none
  | [t] => (f t).map ([·])
  | t :: rest => (changeLast f rest).map (t :: ·)

/-- The members that a function has from the start. -/
def functionMembers : Table := [("length", .value (.ofNat 0)), ("name", .value (.text ""))]

/-- The table that comes about under a name, or the function that is found there. -/
def newItem (opened : Bool) (name : String) : Item :=
  if Data.offeredNames.contains name then .function functionMembers else .table opened []

/-- Opens the table of some name. -/
def openTable (t : Table) : List String → Option Table
  | [] => none
  | [name] =>
    match Members.get? t name with
    | none => some (Members.put t name (newItem true name))
    | some (.table false ms) => some (Members.put t name (.table true ms))
    | some _ => none
  | name :: rest =>
    match Members.get? t name with
    | none => (openTable [] rest).map fun ms => Members.put t name (.table false ms)
    | some (.table opened ms) => (openTable ms rest).map fun ms => Members.put t name (.table opened ms)
    | some (.tables items) =>
      (changeLast (openTable · rest) items).map fun items => Members.put t name (.tables items)
    | some _ => none

/-- Adds a table to the list of some name. -/
def openList (t : Table) : List String → Option Table
  | [] => none
  | [name] =>
    match Members.get? t name with
    | none => some (Members.put t name (.tables [[]]))
    | some (.tables items) => some (Members.put t name (.tables (items ++ [[]])))
    | some _ => none
  | name :: rest =>
    match Members.get? t name with
    | none => (openList [] rest).map fun ms => Members.put t name (.table false ms)
    | some (.table opened ms) => (openList ms rest).map fun ms => Members.put t name (.table opened ms)
    | some (.tables items) =>
      (changeLast (openList · rest) items).map fun items => Members.put t name (.tables items)
    | some _ => none

/-- Puts a value under a name of several parts. A part may be new or a table that was not opened,
the last part must be new. -/
def assign (t : Table) (d : Data) : List String → Option Table
  | [] => none
  | [name] => if Members.has t name then none else some (Members.put t name (.value d))
  | name :: rest =>
    match Members.get? t name with
    | none =>
      match newItem false name with
      | .function ms => (assign ms d rest).map fun ms => Members.put t name (.function ms)
      | _ => (assign [] d rest).map fun ms => Members.put t name (.table false ms)
    | some (.table false ms) => (assign ms d rest).map fun ms => Members.put t name (.table false ms)
    | some _ => none

/-- Changes the table that was opened last, under the given name. -/
def within (t : Table) (f : Table → Option Table) : List String → Option Table
  | [] => f t
  | name :: rest =>
    match Members.get? t name with
    | some (.table opened ms) => (within ms f rest).map fun ms => Members.put t name (.table opened ms)
    | some (.function ms) => (within ms f rest).map fun ms => Members.put t name (.function ms)
    | some (.tables items) =>
      (changeLast (within · f rest) items).map fun items => Members.put t name (.tables items)
    | _ => none

end Table

mutual

/-- An item as a value. -/
def Item.toData : Item → Data
  | .value d => d
  | .table _ members => .record (Table.toMembers members) []
  | .tables items => .list (Table.allToData items)
  | .function _ => .function

/-- The members of a table as values. -/
def Table.toMembers : List (String × Item) → List (String × Data)
  | [] => []
  | (name, item) :: rest => (name, item.toData) :: Table.toMembers rest

/-- Tables as records. -/
def Table.allToData : List (List (String × Item)) → List Data
  | [] => []
  | t :: rest => .record (Table.toMembers t) [] :: Table.allToData rest

end

end VariantForge.Toml
