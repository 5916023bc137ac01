import VariantForge.Pattern.Reader
import VariantForge.Pattern.Replacement

/-!
Editing rules.

A rule puts text in the place of what it finds, or next to the first place that it finds; what it
looks for is either the text of the rule itself or a pattern. A choice uses the first of its rules
that finds anything. Rules in a list work one after the other, each on what the ones before it made.
-/

namespace VariantForge

/-- The side of an anchor on which text is put in. -/
inductive Side where
  | after
  | before
  deriving DecidableEq

/-- An editing rule. What it looks for is a pattern if `pattern` says so. -/
inductive Rule where
  | replace (find replacement : Text) (pattern : Option Bool) (flags : Option String)
  | insert (side : Side) (anchor text : Text) (pattern : Option Bool)
  | firstOf (rules : List Rule)
  deriving Inhabited

/-- What a rule made of a text, and whether it found anything there. -/
structure Edit where
  content : Text
  matched : Bool
  deriving DecidableEq

/-- What a list of rules made of a text: how many of them found something, and the descriptions of
those that did not. -/
structure Edited where
  content : Text
  matched : Nat
  unmatched : List String
  deriving DecidableEq

namespace Rule

/-- The side in words. -/
def sideWord : Side → String
  | .after => "after"
  | .before => "before"

mutual

/-- A rule in words. -/
def describe : Rule → String
  | .replace find .. => "replace " ++ find.toString
  | .insert side anchor .. => "insert " ++ sideWord side ++ " " ++ anchor.toString
  | .firstOf rules => "first of [" ++ "; ".intercalate (describeAll rules) ++ "]"

/-- The rules of a choice in words. -/
def describeAll : List Rule → List String
  | [] => []
  | rule :: rest => describe rule :: describeAll rest

end

/-- The flags with one more flag, unless they have it. -/
def withFlag (flags : String) (flag : Char) : String :=
  if flags.toList.contains flag then flags else flags.push flag

/-- The flags that a replacement is searched under: those given, lines being looked at one by one
if none are, and always all places. -/
def replaceFlags (flags : Option String) : String := withFlag (flags.getD "m") 'g'

/-- What a rule looks for, ready for use. A text that is no pattern is made one that fits just that
text. -/
def compileTarget (target : Text) (pattern : Option Bool) (flags : String) :
    Except Pattern.Error Pattern.Compiled :=
  Pattern.compile (if pattern = some true then target else Pattern.literal target) flags

/-- Puts the replacement in all places where the rule finds something. In a pattern's replacement a
dollar may refer to what was found; other replacements are copied. -/
def applyReplace (content find replacement : Text) (pattern : Option Bool) (flags : Option String) :
    Except Pattern.Error Edit := do
  let c ← compileTarget find pattern (replaceFlags flags)
  let found := c.allMatches content
  if found.isEmpty then return ⟨content, false⟩
  if pattern = some true then return ⟨c.replaceWith content found replacement, true⟩
  return ⟨Pattern.replaceMatches content found fun _ => replacement.units, true⟩

/-- Where text goes in next to a match. -/
def insertPoint (side : Side) (m : Pattern.Match) : Nat :=
  match side with
  | .after => m.stop
  | .before => m.start

/-- Puts text next to the first place where the rule finds its anchor. -/
def applyInsert (content : Text) (side : Side) (anchor text : Text) (pattern : Option Bool) :
    Except Pattern.Error Edit := do
  let c ← compileTarget anchor pattern "m"
  match c.search? content with
  | none => return ⟨content, false⟩
  | some m =>
    let i := insertPoint side m
    return ⟨content.take i ++ text ++ content.drop i, true⟩

mutual

/-- Applies a rule to a text. -/
def apply (content : Text) : Rule → Except Pattern.Error Edit
  | .replace find replacement pattern flags => applyReplace content find replacement pattern flags
  | .insert side anchor text pattern => applyInsert content side anchor text pattern
  | .firstOf rules => applyFirst content rules

/-- Applies the first of the rules that finds something. -/
def applyFirst (content : Text) : List Rule → Except Pattern.Error Edit
  | [] => .ok ⟨content, false⟩
  | rule :: rest =>
    match apply content rule with
    | .error e => .error e
    | .ok edit => if edit.matched then .ok edit else applyFirst content rest

end

/-- Adds one rule to what the rules before it made. -/
def applyNext (done : Edited) (rule : Rule) : Except Pattern.Error Edited := do
  let edit ← rule.apply done.content
  if edit.matched then return { done with content := edit.content, matched := done.matched + 1 }
  return { done with content := edit.content, unmatched := done.unmatched ++ [rule.describe] }

/-- Applies rules in order, each to what the ones before it made. -/
def applyAll (content : Text) (rules : List Rule) : Except Pattern.Error Edited :=
  rules.foldlM applyNext ⟨content, 0, []⟩

end Rule

/-- The unit of the line feed. -/
def Text.lineFeed : UInt16 := 10

/-- The text with the marker on a line of its own at the end, unless the text has it somewhere. -/
def Text.withMarker (content marker : Text) : Text :=
  if content.contains marker then content
  else
    let gap := if content.units.isEmpty || content.endsWithUnit Text.lineFeed then [] else [Text.lineFeed]
    ⟨content.units ++ gap ++ marker.units ++ [Text.lineFeed]⟩

end VariantForge
