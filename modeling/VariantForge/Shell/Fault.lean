import VariantForge.Shell.Token

/-!
What can be wrong with a script or with what it asks for, and the words for it.
-/

namespace VariantForge.Shell

/-- What is wrong with the way a script is written. -/
inductive SyntaxFault where
  | unexpected (token : Token) (wanted : Option Token)
  | openQuote
  | openBrace
  | openArithmetic
  | openBackquote
  | badLoopName
  | badFunctionName
  | tooDeep
  deriving DecidableEq

namespace SyntaxFault

/-- The most characters that tell of a token. -/
def limit : Nat := 63

/-- The words for a fault. -/
def message : SyntaxFault → String
  | .unexpected token none => cut (token.shown ++ " unexpected")
  | .unexpected token (some wanted) => cut (token.shown ++ " unexpected (expecting " ++ wanted.shown ++ ")")
  | .openQuote => "Unterminated quoted string"
  | .openBrace => "Missing '\x7d'"
  | .openArithmetic => "Missing '))'"
  | .openBackquote => "EOF in backquote substitution"
  | .badLoopName => "Bad for loop variable"
  | .badFunctionName => "Bad function name"
  | .tooDeep => "Too deep"
where
  /-- A text that is cut where it is too long. -/
  cut (s : String) : String := String.ofList (s.toList.take limit)

end SyntaxFault

/-- What is wrong with an arithmetic expression. A quotient that is too large has no words: it kills the
shell. -/
inductive ArithmeticFault where
  | primary
  | ending
  | bracket
  | colon
  | division
  | overflow
  deriving DecidableEq

/-- The words for a fault in an expression. -/
def ArithmeticFault.message : ArithmeticFault → String
  | .primary => "expecting primary"
  | .ending => "expecting EOF"
  | .bracket => "expecting ')'"
  | .colon => "expecting ':'"
  | .division => "division by zero"
  | .overflow => "overflow"

/-- What goes wrong in a shell. Words that the script gives itself stand as they are. -/
inductive Fault where
  | form (fault : SyntaxFault)
  | arithmetic (fault : ArithmeticFault) (expression : String)
  | illegalNumber (text : String)
  | badSubstitution
  | unset (name : String) (orNull : Bool)
  | required (name words : String)
  | badName (name : String)
  | readOnly (name : String)
  | cannotOpen (name reason : String)
  | cannotCreate (name reason : String)
  | badStream (stream : Nat)
  | badStreamNumber
  | text (words : String)
  deriving DecidableEq

/-- The words for a fault. -/
def Fault.message : Fault → String
  | .form fault => "Syntax error: " ++ fault.message
  | .arithmetic fault expression => "arithmetic expression: " ++ fault.message ++ ": \"" ++ expression ++ "\""
  | .illegalNumber s => "Illegal number: " ++ s
  | .badSubstitution => "Bad substitution"
  | .unset name orNull => name ++ ": parameter not set" ++ (if orNull then " or null" else "")
  | .required name words => name ++ ": " ++ words
  | .badName name => name ++ ": bad variable name"
  | .readOnly name => name ++ ": is read only"
  | .cannotOpen name reason => "cannot open " ++ name ++ ": " ++ reason
  | .cannotCreate name reason => "cannot create " ++ name ++ ": " ++ reason
  | .badStream stream => toString stream ++ ": Bad file descriptor"
  | .badStreamNumber => "Syntax error: Bad fd number"
  | .text words => words

end VariantForge.Shell
