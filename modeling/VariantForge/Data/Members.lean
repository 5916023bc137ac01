/-!
Named members in order.

Names that are array indices come first, in ascending order; the others follow in the order in
which they were first put. Putting a value under a name that is there keeps the place.
-/

namespace VariantForge

/-- Values under names, in the order in which they are listed. -/
abbrev Members (α : Type) := List (String × α)

namespace Members

variable {α β : Type}

/-- The number that a name writes, if the name is an array index: decimal digits without a zero in
front, below 4294967295. -/
def index? (name : String) : Option Nat :=
  let cs := name.toList
  if cs.isEmpty || !cs.all Char.isDigit || (cs.head? == some '0' && cs != ['0']) || 10 < cs.length then none
  else
    let n := cs.foldl (fun n c => n * 10 + (c.toNat - 48)) 0
    if n < 4294967295 then some n else none

/-- The value under a name. -/
def get? (members : Members α) (name : String) : Option α :=
  match members with
  | [] => none
  | (n, v) :: rest => if n = name then some v else get? rest name

/-- Whether there is a value under a name. -/
def has (members : Members α) (name : String) : Bool := (get? members name).isSome

/-- Puts another value under a name that is there. -/
def replace (name : String) (value : α) : Members α → Members α
  | [] => []
  | (n, v) :: rest => if n = name then (n, value) :: rest else (n, v) :: replace name value rest

/-- Adds a member whose name is the array index `i`, after those with smaller indices. -/
def insertIndex (i : Nat) (name : String) (value : α) : Members α → Members α
  | [] => [(name, value)]
  | (n, v) :: rest =>
    match index? n with
    | some k => if k < i then (n, v) :: insertIndex i name value rest else (name, value) :: (n, v) :: rest
    | none => (name, value) :: (n, v) :: rest

/-- Puts a value under a name. -/
def put (members : Members α) (name : String) (value : α) : Members α :=
  if has members name then replace name value members
  else
    match index? name with
    | some i => insertIndex i name value members
    | none => members ++ [(name, value)]

/-- Puts every member of `more` in turn. -/
def putAll (members more : Members α) : Members α := more.foldl (fun ms m => put ms m.1 m.2) members

/-- The members in the order that their names ask for, from a plain list. -/
def ofList (members : List (String × α)) : Members α := putAll [] members

end Members

end VariantForge
