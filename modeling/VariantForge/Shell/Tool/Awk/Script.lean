import VariantForge.Shell.Tool.Regular

/-!
Scripts of patterns and actions for lines of fields.
-/

namespace VariantForge.Shell.Awk

/-- The form of the regular expressions in scripts. -/
def awkForm : Regular.Form := { extended := true, stray := true }

/-- Signs between numbers. -/
inductive Arithmetic where
  | add
  | subtract
  | multiply
  | divide
  | remainder
  | power
  deriving DecidableEq, Inhabited

/-- Comparisons. -/
inductive Comparison where
  | less
  | lessEqual
  | equal
  | notEqual
  | greater
  | greaterEqual
  deriving DecidableEq, Inhabited

/-- An expression. -/
inductive Expr where
  | number (text : List Char)
  | text (cs : List Char)
  | pattern (r : Regular)
  | variable (name : String)
  | field (index : Expr)
  | element (array : String) (subscripts : List Expr)
  | assign (op : Option Arithmetic) (target value : Expr)
  | conditional (test yes no : Expr)
  | both (a b : Expr)
  | either (a b : Expr)
  | not (a : Expr)
  | minus (a : Expr)
  | plus (a : Expr)
  | inside (subscripts : List Expr) (array : String)
  | fits (negated : Bool) (a b : Expr)
  | compare (op : Comparison) (a b : Expr)
  | join (a b : Expr)
  | arithmetic (op : Arithmetic) (a b : Expr)
  | step (first : Bool) (down : Bool) (target : Expr)
  | call (name : String) (arguments : List Expr)
  | builtin (name : String) (arguments : List Expr)
  | nextLine (target : Option Expr) (file : Option Expr)
  | group (es : List Expr)
  deriving Inhabited

/-- Where a text is printed to: a file that is begun anew, one that is added to, or a command. -/
inductive Target where
  | write (file : Expr)
  | extend_ (file : Expr)
  | pipe (command : Expr)
  deriving Inhabited

/-- A statement. -/
inductive Statement where
  | expression (e : Expr)
  | print (es : List Expr) (target : Option Target)
  | format (es : List Expr) (target : Option Target)
  | choice (test : Expr) (yes : Statement) (no : Option Statement)
  | while_ (test : Expr) (body : Statement)
  | doWhile (body : Statement) (test : Expr)
  | for_ (start : Option Statement) (test : Option Expr) (step : Option Statement) (body : Statement)
  | forIn (name array : String) (body : Statement)
  | block (ss : List Statement)
  | next
  | exit (code : Option Expr)
  | back (value : Option Expr)
  | leave
  | again
  | delete (array : String) (subscripts : Option (List Expr))
  deriving Inhabited

/-- When an action is taken: before the first line, after the last one, or for lines. -/
inductive When where
  | start
  | finish
  | always
  | test (e : Expr)
  | range (first last : Expr)
  deriving Inhabited

/-- A function. -/
structure Function where
  name : String
  parameters : List String
  body : List Statement
  deriving Inhabited

/-- A script: actions with when they are taken, and functions. An action that is not given prints the line. -/
structure Script where
  rules : List (When × Option (List Statement)) := []
  functions : List Function := []
  deriving Inhabited

end VariantForge.Shell.Awk
