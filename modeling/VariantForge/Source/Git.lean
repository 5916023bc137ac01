import VariantForge.World

/-!
Git commands. None of them asks questions on a terminal.
-/

namespace VariantForge.Git

/-- Git with some arguments in a directory. -/
def command (directory : Option String) (arguments : List String) : Command :=
  { program := "git", arguments, directory, environment := some [("GIT_TERMINAL_PROMPT", "0")] }

/-- Runs git with some arguments in a directory. -/
def run (o : Outside) (directory : Option String) (arguments : List String) : Forge CommandResult :=
  Forge.run o (command directory arguments)

/-- Runs git and gives what it printed; fails if git does. -/
def output (o : Outside) (directory : Option String) (arguments : List String) : Forge String := do
  let r ← run o directory arguments
  if r.succeeded then return r.output
  throw (.git arguments r)

/-- Runs git and says whether it ended well. -/
def succeeds (o : Outside) (directory : String) (arguments : List String) : Forge Bool :=
  return (← run o (some directory) arguments).succeeded

/-- An argument that is left out if it is blank. -/
def given (value : Option String) : Option String := value.filter (!·.isEmpty)

/-- The arguments that clone the end of a history. -/
def cloneArguments (url target : String) (depth : Number) (ref : Option String) : List String :=
  ["clone", s!"--depth={depth.text}"] ++ ((given ref).elim [] fun r => ["--branch", r]) ++ [url, target]

/-- Clones the end of a history. -/
def clone (o : Outside) (url target : String) (depth : Number) (ref : Option String) : Forge Unit := do
  let _ ← output o none (cloneArguments url target depth ref)

/-- Sets the name and the address that commits are made under. -/
def setIdentity (o : Outside) (directory name email : String) : Forge Unit := do
  let _ ← output o (some directory) ["config", "user.name", name]
  let _ ← output o (some directory) ["config", "user.email", email]

/-- The arguments that fetch from a remote. A depth of zero is none. -/
def fetchArguments (remote : String) (ref : Option String) (depth : Option Number) : List String :=
  let depth := depth.filter fun n => n != 0 && n != .nan
  ["fetch"] ++ (depth.elim [] fun n => [s!"--depth={n.text}"]) ++ [remote] ++ (given ref).toList

/-- Fetches from a remote. -/
def fetch (o : Outside) (directory remote : String) (ref : Option String) (depth : Option Number) :
    Forge Unit := do
  let _ ← output o (some directory) (fetchArguments remote ref depth)

/-- Checks a revision out. -/
def checkout (o : Outside) (directory revision : String) : Forge Unit := do
  let _ ← output o (some directory) ["checkout", revision]

/-- The hash of a revision, a short one if asked for. -/
def revParse (o : Outside) (directory revision : String) (short : Bool) : Forge String := do
  let arguments := if short then ["rev-parse", "--short", revision] else ["rev-parse", revision]
  return Text.trim (← output o (some directory) arguments)

/-- Drops edits, commits made after a revision, and files that git does not know. -/
def resetHard (o : Outside) (directory revision : String) : Forge Unit := do
  let _ ← output o (some directory) ["reset", "--hard", revision]
  let _ ← output o (some directory) ["clean", "-fd"]

/-- Whether a patch could be applied, or taken back. -/
def applyCheck (o : Outside) (directory patch : String) (reverse : Bool) : Forge Bool :=
  succeeds o directory
    (if reverse then ["apply", "--reverse", "--check", patch] else ["apply", "--check", patch])

/-- Applies a patch, with a merge of three sides if asked for. -/
def apply (o : Outside) (directory patch : String) (threeWay : Bool) : Forge CommandResult :=
  run o (some directory) (if threeWay then ["apply", "--3way", patch] else ["apply", patch])

/-- Whether one revision is part of the history of another. -/
def isAncestor (o : Outside) (directory ancestor descendant : String) : Forge Bool :=
  succeeds o directory ["merge-base", "--is-ancestor", ancestor, descendant]

/-- Merges a revision. -/
def merge (o : Outside) (directory revision : String) : Forge CommandResult :=
  run o (some directory) ["merge", "--no-edit", revision]

/-- Gives a merge up. -/
def mergeAbort (o : Outside) (directory : String) : Forge Unit := do
  let _ ← run o (some directory) ["merge", "--abort"]

end VariantForge.Git
