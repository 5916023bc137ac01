import VariantForge.Path
import VariantForge.Shell.Machine

/-!
Finding programs. A program is one of those that every machine has, or a file that may be executed: a
script for the shell or for the program that its first line names.
-/

namespace VariantForge.Shell

/-- A program that can be started: one that every machine has, with arguments that come before the
others. -/
structure Program where
  tool : String
  front : List String

namespace Program

/-- The programs that every machine has. -/
def names : List String :=
  ["[", "awk", "base64", "basename", "bash", "cat", "chmod", "cmp", "comm", "cp", "cut", "dash", "dirname",
    "echo", "egrep", "env", "expand", "expr", "false", "fgrep", "find", "fold", "grep", "head", "ln", "ls",
    "mawk", "mkdir", "mktemp", "mv", "nice", "nl", "nohup", "od", "paste", "printenv", "printf", "pwd",
    "readlink", "realpath", "rev", "rm", "rmdir", "sed", "seq", "setsid", "sh", "sleep", "sort", "stat",
    "sync", "tac", "tail", "tee", "test", "timeout", "touch", "tr", "true", "uname", "uniq", "wc", "which",
    "xargs", "yes"]

/-- Directories that every machine has. -/
def directories : List Place :=
  [["bin"], ["dev"], ["etc"], ["home"], ["opt"], ["proc"], ["root"], ["sys"], ["tmp"], ["usr"], ["usr", "bin"],
    ["usr", "lib"], ["usr", "local"], ["usr", "local", "bin"], ["usr", "sbin"], ["usr", "share"], ["var"],
    ["var", "tmp"]]

/-- The mode of a program. -/
def mode : Nat := 0o755

/-- What every machine has: directories, programs, and the device that swallows all. -/
def furniture : List (Place × Entry) :=
  directories.map (·, .directory) ++
    names.flatMap (fun n => [(["usr", "bin", n], .file .empty mode), (["bin", n], .file .empty mode)]) ++
    [(["dev", "null"], .file .empty 0o666), (["dev", "zero"], .file .empty 0o666)]

/-- A disk with what every machine has. -/
def furnished (d : Disk) : Disk :=
  { d with entries := d.entries ++ furniture.filter fun e => (d.get? e.1).isNone }

/-- A disk without what every machine has, apart from what was there before. -/
def bare (before d : Disk) : Disk :=
  let added := (furniture.filter fun e => (before.get? e.1).isNone).map (·.1)
  { d with entries := d.entries.filter fun e => !added.contains e.1 }

/-- The program at a place that every machine has. -/
def toolAt? (p : Place) : Option String :=
  match p with
  | ["bin", name] | ["usr", "bin", name] => if names.contains name then some name else none
  | _ => none

/-- The program that the first line of a script names, and what is written after it. Without such a line the
script is for the shell. -/
def ofScript (d : Disk) (path text : String) : Except DiskReason Program :=
  let isBlank (c : Char) : Bool := c == ' ' || c == '\t'
  match text.toList with
  | '#' :: '!' :: rest =>
    let line := ((rest.takeWhile (· != '\n')).dropWhile isBlank).reverse.dropWhile isBlank |>.reverse
    let interpreter := line.takeWhile (!isBlank ·)
    let argument := (line.drop interpreter.length).dropWhile isBlank
    let front := (if argument.isEmpty then [] else [String.ofList argument]) ++ [path]
    if interpreter.isEmpty then .ok ⟨"sh", [path]⟩
    else match d.locate (Octets.toString (String.ofList interpreter)) with
      | .ok p =>
        match toolAt? p with
        | some name => .ok ⟨name, front⟩
        | none => .error (if (d.get? p).isSome then .denied else .missing)
      | .error r => .error r
  | _ => .ok ⟨"sh", [path]⟩

/-- The program at a path. -/
def atPath (d : Disk) (path : String) : Except DiskReason Program :=
  match d.locate (Octets.toString path) with
  | .error r => .error r
  | .ok p =>
    match d.get? p with
    | none => .error .missing
    | some (.file bytes mode) =>
      if !mayExecute mode then .error .denied
      else match toolAt? p with
        | some name => .ok ⟨name, []⟩
        | none => ofScript d path (Octets.ofBytes bytes)
    | some _ => .error .denied

/-- The path of a name in a directory. -/
def below (dir name : String) : String := if dir.isEmpty then name else dir ++ "/" ++ name

/-- The program of a name in the first of some directories that has one. A program that may not be
started is passed over, but told of if there is no other. -/
def among (d : Disk) (name : String) : List String → Except DiskReason Program
  | [] => .error .missing
  | dir :: rest =>
    match atPath d (below dir name) with
    | .ok p => .ok p
    | .error .denied =>
      match among d name rest with
      | .ok p => .ok p
      | .error _ => .error .denied
    | .error _ => among d name rest

/-- Whether a name is a path. -/
def isPath (name : String) : Bool := name.toList.contains '/'

/-- The program of a name, which is a path if it has a slash in it. -/
def find (d : Disk) (searchPath name : String) : Except DiskReason Program :=
  if name.isEmpty then .error .missing
  else if isPath name then atPath d name
  else among d name (searchPath.splitOn ":")

/-- Whether there is a file at a path, and whether it may be executed. -/
def executable? (d : Disk) (path : String) : Option Bool :=
  match d.look? (Octets.toString path) with
  | some (.file _ mode) => some (mayExecute mode)
  | some _ => some false
  | none => none

/-- The path of the first file with a name in some directories that may be executed, or why there is
none. -/
def locate (d : Disk) (searchPath name : String) : Except DiskReason String :=
  let found := (searchPath.splitOn ":").map fun dir => (below dir name, executable? d (below dir name))
  match found.find? (·.2 == some true) with
  | some (path, _) => .ok path
  | none => .error (if found.any (·.2 == some false) then .denied else .missing)

/-- The path of a program of some name. -/
def pathOf? (d : Disk) (searchPath name : String) : Option String :=
  if name.isEmpty then none
  else if isPath name then if executable? d name == some true then some name else none
  else (locate d searchPath name).toOption

end Program

end VariantForge.Shell
