import VariantForge.Data.Members
import VariantForge.Text.Basic
import VariantForge.Text.Quoted

/-!
Commands that the outside runs, and what comes of them.

The line that shows a command puts words with blanks or quotes in double quotes. A command that
fails is described by what it printed, or by its exit code if it printed nothing.
-/

namespace VariantForge

/-- A command for the outside. Its output goes to the log file if it names one; `cancellable` says
whether it is to stop when the run is cancelled. -/
structure Command where
  program : String
  arguments : List String
  directory : Option String := none
  environment : Option (Members String) := none
  logFile : Option String := none
  cancellable : Bool := false
  deriving DecidableEq, Inhabited

/-- How a command ended. A command that was stopped from outside has no exit code. -/
structure CommandResult where
  code : Option Int
  output : String
  errors : String
  deriving DecidableEq, Inhabited

namespace Command

/-- Characters for which a word is put in quotes. -/
def needsQuotes (c : Char) : Bool := Text.isBlank c || c == '\'' || c == '"'

/-- A word as it stands on a command line. -/
def shownWord (word : String) : String := if word.toList.any needsQuotes then Text.quoted word else word

/-- A program and its arguments on one line. -/
def line (program : String) (arguments : List String) : String :=
  " ".intercalate ((program :: arguments).map shownWord)

end Command

namespace CommandResult

/-- Whether the command ended well. -/
def succeeded (r : CommandResult) : Bool := r.code == some 0

/-- The exit code in words. -/
def codeText (r : CommandResult) : String :=
  match r.code with
  | some n => toString n
  | none => "null"

/-- What went wrong, in the words of the command. -/
def failure (r : CommandResult) : String :=
  (Text.nonBlank? (r.output ++ "\n" ++ r.errors)).getD ("exit code " ++ r.codeText)

end CommandResult

end VariantForge
