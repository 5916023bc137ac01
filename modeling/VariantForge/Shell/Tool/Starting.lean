import VariantForge.Data.Members
import VariantForge.Shell.Signal
import VariantForge.Shell.Tool.Words

/-!
Programs whose first words name another program, which they start: in another environment or directory, with
another priority, or for some time only.
-/

namespace VariantForge.Shell

/-- How a program is to start another one: with which environment, in which directory if not in the same
one, and for how many millionths of a second. One that takes longer gets a signal, and `keeps` says whether
its own status counts then. -/
structure Start where
  environment : List (String × String)
  directory : Option Place := none
  most : Option Nat := none
  signal : Nat := Signal.terminate
  keeps : Bool := false
  words : List String

namespace Tool

/-- A program that starts another one, or what it makes if it starts none. -/
abbrev Starter : Type := ToolCall → Except ToolResult Start

/-- Reads the options in front of the first word. -/
def beforeWords (c : ToolCall) (code : Nat) (g : Grammar) : Except ToolResult Options :=
  let count := c.arguments.foldl (fun n a => n + a.length + 1) 1
  (Grammar.read { g with mixed := false } count c.arguments).mapError fun words => misused c code words

/-- The variables that the first words set, with the other words. -/
def assignments : List String → List (String × String) × List String
  | [] => ([], [])
  | word :: rest =>
    let cs := word.toList
    if cs.contains '=' then
      let name := cs.takeWhile (· != '=')
      let (vs, words) := assignments rest
      ((String.ofList name, String.ofList (cs.drop (name.length + 1))) :: vs, words)
    else ([], word :: rest)

/-- Starts a program in an environment with some variables set or taken away, or shows the environment. -/
def env : Starter := fun c => do
  let o ← beforeWords c 125
    { letters := "iu:C:0v", long := [("ignore-environment", "i"), ("unset", "u"), ("chdir", "C"), ("null", "0"), ("debug", "v")] }
  let (clears, words) := match o.words with
    | "-" :: rest => (true, rest)
    | words => (o.has "i", words)
  let dropped := o.texts "u"
  if let some name := dropped.find? fun n => n.isEmpty || n.toList.contains '=' then
    throw (failing c c.disk 125 s!"cannot unset {Quoting.always name}: Invalid argument")
  let (values, words) := assignments words
  let kept := if clears then [] else c.environment.filter fun v => !dropped.contains v.1
  let environment := values.foldl (fun vs v => Members.put vs v.1 v.2) kept
  if words.isEmpty then
    if o.has "C" then throw (misused c 125 "must specify command with --chdir (-C)")
    let ending := if o.has "0" then "\x00" else "\n"
    throw (printing c.disk (String.join (environment.map fun v => v.1 ++ "=" ++ v.2 ++ ending)))
  match o.text? "C" with
  | none => return { environment, words }
  | some directory =>
    let refused (r : DiskReason) : Except ToolResult Start :=
      throw (failing c c.disk 125 s!"cannot change directory to {Quoting.always directory}: {reasonText r}")
    match c.disk.locate (path directory) with
    | .error r => refused r
    | .ok p =>
      if (c.disk.get? p).any Entry.isDirectory then return { environment, words, directory := some p }
      else refused (if (c.disk.get? p).isNone then .missing else .notDirectory)

/-- Starts a program with another priority, or shows the priority. -/
def nice : Starter := fun c => do
  let c := match c.arguments with
    | a :: rest =>
      match a.toList with
      | '-' :: d :: ds => if d.isDigit then { c with arguments := "-n" :: String.ofList (d :: ds) :: rest } else c
      | _ => c
    | [] => c
  let o ← beforeWords c 125 { letters := "n:", long := [("adjustment", "n")] }
  let adjustment := (o.text? "n").getD "10"
  let digits := match adjustment.toList with
    | '-' :: ds | '+' :: ds => ds
    | ds => ds
  if (natural? (String.ofList digits)).isNone then
    throw (failing c c.disk 125 s!"invalid adjustment {Quoting.always adjustment}")
  match o.words with
  | [] => throw (if o.has "n" then misused c 125 "a command must be given with an adjustment" else printing c.disk "0\n")
  | words => return { environment := c.environment, words }

/-- Starts a program that goes on when the terminal is gone. -/
def nohup : Starter := fun c => do
  let o ← beforeWords c 125 { letters := "" }
  match o.words with
  | [] => throw (misused c 125 "missing operand")
  | words => return { environment := c.environment, words }

/-- Starts a program that leads a session of its own. -/
def setsid : Starter := fun c => do
  let o ← beforeWords c 1 { letters := "cfw", long := [("ctty", "c"), ("fork", "f"), ("wait", "w")] }
  match o.words with
  | [] => throw (misused c 1 "no command specified")
  | words => return { environment := c.environment, words }

/-- Starts a program that may not take longer than some time. -/
def timeout : Starter := fun c => do
  let o ← beforeWords c 125
    { letters := "k:s:vpf", long := [("kill-after", "k"), ("signal", "s"), ("verbose", "v"), ("preserve-status", "p"), ("foreground", "f")] }
  let signal ← match o.text? "s" with
    | none => pure Signal.terminate
    | some name =>
      match Signal.ofText? 1 name with
      | some n => pure n
      | none => throw (misused c 125 s!"{Quoting.always name}: invalid signal")
  match o.words with
  | span :: first :: rest =>
    match span? span with
    | none => throw (misused c 125 s!"invalid time interval {Quoting.always span}")
    | some most =>
      return { environment := c.environment, most := if most = 0 then none else some most, signal
               keeps := o.has "p", words := first :: rest }
  | _ => throw (complaining c.disk 125 (hint c ++ "\n"))

/-- The programs that start others. -/
def starters : List (String × Starter) :=
  [("env", env), ("nice", nice), ("nohup", nohup), ("setsid", setsid), ("timeout", timeout)]

/-- The complaint of a program that it cannot start another one. -/
def unstarted (c : ToolCall) (name : String) (r : DiskReason) : String :=
  let quoted := Quoting.always name
  let before := match c.tool with
    | "env" | "nice" => quoted
    | "setsid" => s!"failed to execute {name}"
    | "xargs" => name
    | "find" => quoted
    | _ => s!"failed to run command {quoted}"
  s!"{c.name}: {before}: {reasonText r}\n"

end Tool

end VariantForge.Shell
