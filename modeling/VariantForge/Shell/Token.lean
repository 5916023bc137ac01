/-!
Tokens of the shell, with the names that complaints call them by.
-/

namespace VariantForge.Shell

/-- A word that means something of its own at the front of a command. -/
inductive Keyword where
  | negation
  | openCase
  | openBody
  | closeBody
  | elseIf
  | otherwise
  | closeCase
  | closeIf
  | openFor
  | openIf
  | members
  | consequence
  | openUntil
  | openWhile
  | openGroup
  | closeGroup
  deriving DecidableEq, Inhabited

namespace Keyword

/-- All keywords. -/
def all : List Keyword :=
  [.negation, .openCase, .openBody, .closeBody, .elseIf, .otherwise, .closeCase, .closeIf, .openFor, .openIf,
    .members, .consequence, .openUntil, .openWhile, .openGroup, .closeGroup]

/-- How a keyword is written. -/
def text : Keyword → String
  | .negation => "!"
  | .openCase => "case"
  | .openBody => "do"
  | .closeBody => "done"
  | .elseIf => "elif"
  | .otherwise => "else"
  | .closeCase => "esac"
  | .closeIf => "fi"
  | .openFor => "for"
  | .openIf => "if"
  | .members => "in"
  | .consequence => "then"
  | .openUntil => "until"
  | .openWhile => "while"
  | .openGroup => "\x7b"
  | .closeGroup => "\x7d"

/-- The keyword that a text is. -/
def ofText? (s : String) : Option Keyword := all.find? (·.text == s)

end Keyword

/-- A token. -/
inductive Token where
  | finish
  | newline
  | semicolon
  | background
  | both
  | either
  | pipe
  | openBracket
  | closeBracket
  | endArm
  | redirection
  | word
  | keyword (k : Keyword)
  deriving DecidableEq, Inhabited

namespace Token

/-- What complaints call a token. -/
def shown : Token → String
  | .finish => "end of file"
  | .newline => "newline"
  | .semicolon => "\";\""
  | .background => "\"&\""
  | .both => "\"&&\""
  | .either => "\"||\""
  | .pipe => "\"|\""
  | .openBracket => "\"(\""
  | .closeBracket => "\")\""
  | .endArm => "\";;\""
  | .redirection => "redirection"
  | .word => "word"
  | .keyword k => "\"" ++ k.text ++ "\""

/-- Whether a list of commands may end before a token. -/
def closes : Token → Bool
  | .finish | .closeBracket | .endArm => true
  | .keyword k =>
    [Keyword.openBody, .closeBody, .elseIf, .otherwise, .closeCase, .closeIf, .consequence, .closeGroup].contains k
  | _ => false

end Token

/-- The names that no function may have, since the shell itself has commands of these names that a
script cannot do without. -/
def specialNames : List String :=
  [".", ":", "break", "continue", "eval", "exec", "exit", "export", "local", "readonly", "return", "set",
    "shift", "times", "trap", "unset"]

end VariantForge.Shell
