/-!
What may be wrong with a pattern.
-/

namespace VariantForge.Pattern

/-- The faults of a pattern's text. -/
inductive Fault where
  | unterminatedGroup
  | unmatchedParenthesis
  | unterminatedClass
  | nothingToRepeat
  | invalidGroup
  | invalidGroupName
  | duplicateGroupName
  | invalidNamedReference
  | unknownNamedReference
  | classRangeOrder
  | quantifierOrder
  | escapeAtEnd
  | loneQuantifierBracket
  | incompleteQuantifier
  | invalidEscape
  | invalidUnicodeEscape
  | invalidDecimalEscape
  | invalidClassEscape
  | invalidPropertyName
  | invalidClassPropertyName
  | invalidCharacterClass
  | invalidClassChar
  | invalidSetOperation
  | negatedStrings
  | invalidQuantifier
  | tooLarge
  deriving DecidableEq

/-- The fault in words. -/
def Fault.message : Fault → String
  | .unterminatedGroup => "Unterminated group"
  | .unmatchedParenthesis => "Unmatched ')'"
  | .unterminatedClass => "Unterminated character class"
  | .nothingToRepeat => "Nothing to repeat"
  | .invalidGroup => "Invalid group"
  | .invalidGroupName => "Invalid capture group name"
  | .duplicateGroupName => "Duplicate capture group name"
  | .invalidNamedReference => "Invalid named reference"
  | .unknownNamedReference => "Invalid named capture referenced"
  | .classRangeOrder => "Range out of order in character class"
  | .quantifierOrder => "numbers out of order in \x7b\x7d quantifier"
  | .escapeAtEnd => "\\ at end of pattern"
  | .loneQuantifierBracket => "Lone quantifier brackets"
  | .incompleteQuantifier => "Incomplete quantifier"
  | .invalidEscape => "Invalid escape"
  | .invalidUnicodeEscape => "Invalid Unicode escape"
  | .invalidDecimalEscape => "Invalid decimal escape"
  | .invalidClassEscape => "Invalid class escape"
  | .invalidPropertyName => "Invalid property name"
  | .invalidClassPropertyName => "Invalid property name in character class"
  | .invalidCharacterClass => "Invalid character class"
  | .invalidClassChar => "Invalid character in character class"
  | .invalidSetOperation => "Invalid set operation in character class"
  | .negatedStrings => "Negated character class may contain strings"
  | .invalidQuantifier => "Invalid quantifier"
  | .tooLarge => "Regular expression too large"

/-- Why a pattern cannot be used: its flags, or a fault in its text. -/
inductive Error where
  | badFlags (given : String)
  | badSource (text : String) (flags : String) (fault : Fault)
  deriving DecidableEq

/-- The error in words. -/
def Error.message : Error → String
  | .badFlags given => s!"Invalid flags supplied to RegExp constructor '{given}'"
  | .badSource text flags fault => s!"Invalid regular expression: /{text}/{flags}: {fault.message}"

end VariantForge.Pattern
