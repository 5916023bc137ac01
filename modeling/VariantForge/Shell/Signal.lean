import VariantForge.Shell.Integer

/-!
Signals: their numbers, their names, and what is said of a process that one of them ended.
-/

namespace VariantForge.Shell.Signal

/-- Names of signals by number, with the words for a process that they ended. Zero stands for the end of
the shell itself. -/
def all : List (String × String) :=
  [("EXIT", ""), ("HUP", "Hangup"), ("INT", "Interrupt"), ("QUIT", "Quit"), ("ILL", "Illegal instruction"),
    ("TRAP", "Trace/breakpoint trap"), ("ABRT", "Aborted"), ("BUS", "Bus error"),
    ("FPE", "Floating point exception"), ("KILL", "Killed"), ("USR1", "User defined signal 1"),
    ("SEGV", "Segmentation fault"), ("USR2", "User defined signal 2"), ("PIPE", "Broken pipe"),
    ("ALRM", "Alarm clock"), ("TERM", "Terminated"), ("STKFLT", "Stack fault"), ("CHLD", "Child exited"),
    ("CONT", "Continued"), ("STOP", "Stopped (signal)"), ("TSTP", "Stopped"), ("TTIN", "Stopped (tty input)"),
    ("TTOU", "Stopped (tty output)"), ("URG", "Urgent I/O condition"), ("XCPU", "CPU time limit exceeded"),
    ("XFSZ", "File size limit exceeded"), ("VTALRM", "Virtual timer expired"),
    ("PROF", "Profiling timer expired"), ("WINCH", "Window changed"), ("POLL", "I/O possible"),
    ("PWR", "Power failure"), ("SYS", "Bad system call")]

/-- One more than the largest number of a signal. -/
def limit : Nat := 65

/-- The signal that ends a process at once. -/
def kill : Nat := 9

/-- The signal of a quotient that is too large. -/
def arithmetic : Nat := 8

/-- The signal that asks a process to end. -/
def terminate : Nat := 15

/-- The name of a signal. -/
def name (n : Nat) : String := (all[n]?.map (·.1)).getD (toString n)

/-- The words for a process that a signal ended. -/
def words (n : Nat) : String := (all[n]?.map (·.2)).getD s!"Unknown signal {n}"

/-- Whether a process that does not look out for a signal goes on. -/
def isHarmless (n : Nat) : Bool := n = 0 || [17, 18, 19, 20, 21, 22, 23, 28].contains n

/-- Whether nothing is said of a process that a signal ended. -/
def isQuiet (n : Nat) : Bool := n = 2 || n = 13

/-- The status that tells of a process that a signal ended. -/
def status (n : Nat) : Nat := 128 + n

/-- The signal that a text names, from the number `least` on. Names may be written in any case. -/
def ofText? (least : Nat) (s : String) : Option Nat :=
  if !s.isEmpty && s.toList.all Char.isDigit then
    let n := (Integer.digits 10 0 s.toList).1
    if n < limit then some n else none
  else
    let upper := String.ofList (s.toList.map Char.toUpper)
    match all.findIdx? fun a => a.1 == upper with
    | some n => if least ≤ n then some n else none
    | none => none

end VariantForge.Shell.Signal
