import VariantForge.Data.Basic

/-!
What may be wrong with a value where another is expected: its type, its size, or the word that says
which kind of thing it is. An issue names the place of the value.
-/

namespace VariantForge

/-- A step on the way to a value: a member's name or an item's index. -/
inductive Step where
  | name (text : String)
  | index (i : Nat)
  deriving DecidableEq

/-- Bounds that a value may miss. -/
inductive Bound where
  | characters
  | elements
  | positive
  | notNegative
  deriving DecidableEq

/-- What is wrong. A missing value has the type `undefined`. -/
inductive IssueKind where
  | wrongType (expected received : String)
  | tooSmall (bound : Bound)
  | unknownKind (options : List String)
  deriving DecidableEq

/-- Something wrong, and where. -/
structure Issue where
  kind : IssueKind
  path : List Step
  deriving DecidableEq

namespace Issue

/-- The words for a missed bound. -/
def boundMessage : Bound → String
  | .characters => "String must contain at least 1 character(s)"
  | .elements => "Array must contain at least 1 element(s)"
  | .positive => "Number must be greater than 0"
  | .notNegative => "Number must be greater than or equal to 0"

/-- The type of value that a bound is for. -/
def boundType : Bound → String
  | .characters => "string"
  | .elements => "array"
  | _ => "number"

/-- The bound itself, and whether it may be reached. -/
def boundLimit : Bound → Nat × Bool
  | .characters => (1, true)
  | .elements => (1, true)
  | .positive => (0, false)
  | .notNegative => (0, true)

/-- The issue in words. -/
def message (i : Issue) : String :=
  match i.kind with
  | .wrongType expected received =>
    if received = "undefined" then "Required" else s!"Expected {expected}, received {received}"
  | .tooSmall bound => boundMessage bound
  | .unknownKind options =>
    "Invalid discriminator value. Expected " ++ " | ".intercalate (options.map fun o => "'" ++ o ++ "'")

/-- A step as a value. -/
def stepData : Step → Data
  | .name text => .text text
  | .index i => .ofNat i

/-- The issue as a record. An issue about what a value is lists its place before its words, one
about a further rule after them. -/
def toData (i : Issue) : Data :=
  let path : String × Data := ("path", .list (i.path.map stepData))
  let message : String × Data := ("message", .text i.message)
  match i.kind with
  | .wrongType expected received =>
    .record ([("code", .text "invalid_type"), ("expected", .text expected), ("received", .text received)] ++
      (if expected = "integer" then [message, path] else [path, message])) []
  | .tooSmall bound =>
    .record [("code", .text "too_small"), ("minimum", .ofNat (boundLimit bound).1),
      ("type", .text (boundType bound)), ("inclusive", .bool (boundLimit bound).2), ("exact", .bool false),
      message, path] []
  | .unknownKind options =>
    .record [("code", .text "invalid_union_discriminator"), ("options", .list (options.map .text)),
      path, message] []

/-- A list of issues as one text. -/
def allText (issues : List Issue) : String := (Data.list (issues.map toData)).pretty

end Issue

/-- Why a value is turned down: all its issues, or a part of it that should be a number and cannot
even be turned into one, at which the reading stops. -/
inductive Rejection where
  | issues (found : List Issue)
  | noText

end VariantForge
