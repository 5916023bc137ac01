import VariantForge.Disk.Operations
import VariantForge.Shell.Tool.Basic

/-!
Programs that make, remove, copy and move files and directories.
-/

namespace VariantForge.Shell.Tool

/-- A name in quotes. -/
def q (name : String) : String := Quoting.always name

/-- The path of a place. -/
def pathOf (p : Place) : String := Octets.ofString ("/" ++ "/".intercalate p)

/-- The last name of a path, slashes at its end left out. -/
def baseName (path : String) : String :=
  let cs := path.toList.reverse.dropWhile (· == '/')
  if cs.isEmpty then (if path.isEmpty then "" else "/")
  else String.ofList (cs.takeWhile (· != '/')).reverse

/-- The path above a path. -/
def dirName (path : String) : String :=
  let cs := path.toList.reverse.dropWhile (· == '/')
  let above := (cs.dropWhile (· != '/')).dropWhile (· == '/')
  if !above.isEmpty then String.ofList above.reverse
  else if path.toList.head? == some '/' then "/"
  else "."

/-- A path with one more name. -/
def inDirectory (dir name : String) : String :=
  if dir.toList.getLast? == some '/' then dir ++ name else dir ++ "/" ++ name

/-- Whether a path leads to a directory. -/
def isDirectory (d : Disk) (file : String) : Bool := d.isDirectory (path file)

/-- What a path names, a link not followed. -/
def named? (d : Disk) (file : String) : Except DiskReason Entry :=
  match d.locateSelf (path file) with
  | .error r => .error r
  | .ok p =>
    match d.get? p with
    | some e => .ok e
    | none => .error .missing

/-- The paths that a path goes through, itself at the end. -/
def ancestry (file : String) : List String :=
  let grow (done : List String) (name : String) : List String :=
    match done with
    | [] => [name]
    | before :: _ => if name.isEmpty then done else inDirectory before name :: done
  let names := file.splitOn "/"
  match names with
  | "" :: rest => ((rest.foldl grow ["/"]).reverse).drop 1
  | names => (names.foldl grow []).reverse

/-- Makes a directory and those above it that are missing; the fault names the path that it is about. -/
def makeAll (d : Disk) : List String → Except (String × DiskReason) Disk
  | [] => .ok d
  | file :: rest =>
    if isDirectory d file then makeAll d rest
    else match d.makeDirectory (path file) with
      | .ok d => makeAll d rest
      | .error .taken => .error (file, if rest.isEmpty then .taken else .notDirectory)
      | .error r => .error (file, r)

/-- Makes directories. -/
def mkdir (c : ToolCall) : ToolResult :=
  withOptions c { letters := "pm:v", long := [("parents", "p"), ("mode", "m"), ("verbose", "v")] } fun o =>
    if o.words.isEmpty then misused c 1 "missing operand"
    else forEach c.disk o.words fun d file =>
      let told (file : String) : String := if o.has "v" then s!"{c.name}: created directory {q file}\n" else ""
      if o.has "p" then
        match makeAll d (ancestry file) with
        | .ok made => printing made (String.join (((ancestry file).filter (!isDirectory d ·)).map told))
        | .error (at_, r) => failing c d 1 s!"cannot create directory {q at_}: {reasonText r}"
      else match d.makeDirectory (path file) with
        | .ok made => printing made (told file)
        | .error r => failing c d 1 s!"cannot create directory {q file}: {reasonText r}"

/-- Removes a directory that is empty. -/
def removeEmpty (d : Disk) (file : String) : Except DiskReason Disk := do
  let p ← d.locateSelf (path file)
  match d.get? p with
  | none => .error .missing
  | some .directory => if (d.below p).isEmpty then .ok (d.cut p) else .error .notEmpty
  | some _ => .error .notDirectory

/-- Removes directories. -/
def rmdir (c : ToolCall) : ToolResult :=
  withOptions c { letters := "pv", long := [("parents", "p"), ("verbose", "v"), ("ignore-fail-on-non-empty", "i")] }
    fun o =>
    if o.words.isEmpty then misused c 1 "missing operand"
    else forEach c.disk o.words fun d file =>
      let all := if o.has "p" then (ancestry file).reverse else [file]
      forEach d all fun d file =>
        match removeEmpty d file with
        | .ok d => done d
        | .error r => if r = .notEmpty && o.has "i" then done d
          else failing c d 1 s!"failed to remove {q file}: {reasonText r}"

/-- Removes files, and directories where asked for. -/
def rm (c : ToolCall) : ToolResult :=
  withOptions c { letters := "rRfidvI", long := [("recursive", "r"), ("force", "f"), ("dir", "d"), ("verbose", "v")] }
    fun o =>
    let all := o.has "r" || o.has "R"
    let told (d : Disk) (kind file : String) : ToolResult :=
      if o.has "v" then printing d s!"removed {kind}{q file}\n" else done d
    let refuse (d : Disk) (file : String) (r : DiskReason) : ToolResult :=
      failing c d 1 s!"cannot remove {q file}: {reasonText r}"
    if o.words.isEmpty then if o.has "f" then done c.disk else misused c 1 "missing operand"
    else forEach c.disk o.words fun d file =>
      match d.locateSelf (path file), named? d file with
      | _, .error r =>
        if o.has "f" && (r = .missing || r = .notDirectory) then done d else refuse d file r
      | .error r, _ => refuse d file r
      | .ok p, .ok .directory =>
        if all then
          if ["."  , ".."].contains (baseName file) then
            failing c d 1 s!"refusing to remove '.' or '..' directory: skipping {q file}"
          else if p.isEmpty then
            followedBy (failing c d 1 "it is dangerous to operate recursively on '/'")
              (failing c d 1 "use --no-preserve-root to override this failsafe")
          else told (d.cut p) "directory " file
        else if o.has "d" then
          match removeEmpty d file with
          | .ok d => told d "directory " file
          | .error r => refuse d file r
        else refuse d file .isDirectory
      | .ok p, .ok _ => told (d.cut p) "" file

/-- Makes files that are not there yet. -/
def touch (c : ToolCall) : ToolResult :=
  withOptions c { letters := "acmd:t:r:hf", long := [("no-create", "c"), ("date", "d"), ("reference", "r")] } fun o =>
    if o.words.isEmpty then misused c 1 "missing file operand"
    else forEach c.disk o.words fun d file =>
      if d.exists_ (path file) || o.has "c" then done d
      else match save c d file false .empty with
        | .ok d => done d
        | .error e => failing c d 1 s!"cannot touch {q file}: {e.text}"

/-- The mode of a new file that is copied from one of some mode. -/
def masked (c : ToolCall) (mode : Nat) : Nat := mode &&& ((0o777 : Nat) ^^^ (c.mask &&& 0o777))

/-- Copies one file or link to a path that is no directory. -/
def copyFile (c : ToolCall) (o : Options) (follows : Bool) (d : Disk) (source target : String) : ToolResult :=
  let told (d : Disk) : ToolResult := if o.has "v" then printing d s!"{q source} -> {q target}\n" else done d
  let blocked (r : String) : ToolResult := failing c d 1 s!"cannot create regular file {q target}: {r}"
  match (if follows then none else (named? d source).toOption) with
  | some (.link to_) =>
    let bare := match d.locateSelf (path target) with
      | .ok p => d.cut p
      | .error _ => d
    match bare.makeLink to_ (path target) with
    | .ok d => told d
    | .error f => failing c d 1 s!"cannot create symbolic link {q target}: {faultText f}"
  | _ =>
    match d.look? (path source), d.locate (path source) with
    | some (.file bytes mode), .ok place =>
      let there := d.look? (path target)
      let kept := o.has "p" || o.has "a"
      if !mayRead mode then failing c d 1 s!"cannot open {q source} for reading: {reasonText .denied}"
      else if there.isSome && (d.locate (path target)).toOption == some place then
        failing c d 1 s!"{q source} and {q target} are the same file"
      else if there.isSome && o.has "n" then done d
      else if there.any Entry.isDirectory then
        failing c d 1 s!"cannot overwrite directory {q target} with non-directory"
      else if there.isNone && target.toList.getLast? == some '/' then blocked (reasonText .notDirectory)
      else
        let d := match there, d.locate (path target) with
          | some (.file _ old), .ok p => if o.has "f" && !mayWrite old then d.cut p else d
          | _, _ => d
        match save c d target false bytes with
        | .error e => blocked e.text
        | .ok made =>
          let fresh := (d.look? (path target)).isNone
          if fresh || kept then
            told ((made.setMode (path target) (if kept then mode else masked c mode)).toOption.getD made)
          else told made
    | _, _ => failing c d 1 s!"cannot stat {q source}: {reasonText .missing}"

/-- Copies a file, or a directory with all below it. -/
def copyAll (c : ToolCall) (o : Options) (d : Disk) (source target : String) : ToolResult :=
  let all := o.has "r" || o.has "R" || o.has "a"
  let follows := !all || o.has "L" || o.has "H"
  let direct : Except DiskReason Entry := if follows then
      match d.locate (path source) with
      | .ok p => ((d.get? p).elim (.error .missing) .ok)
      | .error r => .error r
    else named? d source
  match direct with
  | .error r => failing c d 1 s!"cannot stat {q source}: {reasonText r}"
  | .ok .directory =>
    if !all then failing c d 1 s!"-r not specified; omitting directory {q source}"
    else
      match d.locate (path source), d.locate (path target) with
      | .ok from_, .ok to_ =>
        match d.get? to_ with
        | some (.file ..) => failing c d 1 s!"cannot overwrite non-directory {q target} with directory {q source}"
        | there =>
          if from_.isPrefixOf to_ then
            failing c d 1 s!"cannot copy a directory, {q source}, into itself, {q target}"
          else
            let made := if there.isSome then .ok d else d.makeDirectory (path target)
            match made with
            | .error r => failing c d 1 s!"cannot create directory {q target}: {reasonText r}"
            | .ok d =>
              { disk := ((d.below from_).mergeSort fun a b => a.1.length ≤ b.1.length).foldl
                  (fun d e => d.put (to_ ++ e.1.drop from_.length) e.2) d }
      | _, .error r => failing c d 1 s!"cannot create directory {q target}: {reasonText r}"
      | .error r, _ => failing c d 1 s!"cannot stat {q source}: {reasonText r}"
  | .ok _ => copyFile c o follows d source target

/-- The sources and what to do with each one and its target, of a program that takes many sources for one
directory. -/
def toTarget (c : ToolCall) (o : Options) (f : Disk → String → String → ToolResult) : ToolResult :=
  let direct := o.text? "t"
  let sources := if direct.isSome then o.words else o.words.dropLast
  let target := direct.getD (o.words.getLast?.getD "")
  let into := isDirectory c.disk target && !o.has "T"
  match o.words, direct with
  | [], _ => misused c 1 "missing file operand"
  | [w], none => misused c 1 s!"missing destination file operand after {q w}"
  | _, _ =>
    if !into && 1 < sources.length && !c.disk.exists_ (path target) then
      failing c c.disk 1 s!"target {q target}: {reasonText .missing}"
    else if !into && 1 < sources.length then failing c c.disk 1 s!"target {q target}: {reasonText .notDirectory}"
    else forEach c.disk sources fun d source =>
      f d source (if into then inDirectory target (baseName source) else target)

/-- Copies files. -/
def cp (c : ToolCall) : ToolResult :=
  withOptions c
    { letters := "rRafpnvuiTt:LHPdl", long := [("recursive", "r"), ("archive", "a"), ("force", "f"), ("verbose", "v"),
        ("no-clobber", "n"), ("no-target-directory", "T"), ("target-directory", "t"), ("dereference", "L")] } fun o =>
    toTarget c o (copyAll c o)

/-- Moves files. -/
def mv (c : ToolCall) : ToolResult :=
  withOptions c
    { letters := "fnviuTt:", long := [("force", "f"), ("verbose", "v"), ("no-clobber", "n"),
        ("no-target-directory", "T"), ("target-directory", "t")] } fun o =>
    toTarget c o fun d source target =>
      let told (d : Disk) : ToolResult :=
        if o.has "v" then printing d s!"renamed {q source} -> {q target}\n" else done d
      match named? d source with
      | .error r => failing c d 1 s!"cannot stat {q source}: {reasonText r}"
      | .ok e =>
        let there := (named? d target).toOption
        let same := (d.locateSelf (path source)).toOption == (d.locateSelf (path target)).toOption
        if there.isSome && same then failing c d 1 s!"{q source} and {q target} are the same file"
        else if there.isSome && o.has "n" then done d
        else if there.any (·.isDirectory) && !e.isDirectory then
          failing c d 1 s!"cannot overwrite directory {q target} with non-directory"
        else if there.any (!·.isDirectory) && e.isDirectory then
          failing c d 1 s!"cannot overwrite non-directory {q target} with directory {q source}"
        else match d.rename (path source) (path target) with
          | .ok d => told d
          | .error (.call .invalid ..) =>
            failing c d 1 s!"cannot move {q source} to a subdirectory of itself, {q target}"
          | .error f => failing c d 1 s!"cannot move {q source} to {q target}: {faultText f}"

/-- Makes links. -/
def ln (c : ToolCall) : ToolResult :=
  withOptions c
    { letters := "sfnvTt:irP", long := [("symbolic", "s"), ("force", "f"), ("no-dereference", "n"), ("verbose", "v"),
        ("no-target-directory", "T"), ("target-directory", "t")] } fun o =>
    let place (d : Disk) (source target : String) : ToolResult :=
      let d := match o.has "f", d.locateSelf (path target) with
        | true, .ok p => if (d.get? p).any (!·.isDirectory) then d.cut p else d
        | _, _ => d
      let told (d : Disk) : ToolResult :=
        let arrow := if o.has "s" then " -> " else " => "
        if o.has "v" then printing d s!"{q target}{arrow}{q source}\n" else done d
      if o.has "s" then
        match d.makeLink (path source) (path target) with
        | .ok d => told d
        | .error f => failing c d 1 s!"failed to create symbolic link {q target}: {faultText f}"
      else match named? d source with
        | .error r => failing c d 1 s!"failed to access {q source}: {reasonText r}"
        | .ok .directory => failing c d 1 s!"{Quoting.told source}: hard link not allowed for directory"
        | .ok e =>
          match named? d target, d.locateSelf (path target) with
          | .ok _, _ => failing c d 1 s!"failed to create hard link {q target}: {reasonText .taken}"
          | .error .missing, .ok p => told (d.put p e)
          | .error r, _ => failing c d 1 s!"failed to create hard link {q target}: {reasonText r}"
    match o.words with
    | [] => misused c 1 "missing file operand"
    | [source] => place c.disk source (if (o.text? "t").isSome then
        inDirectory ((o.text? "t").getD "") (baseName source) else baseName source)
    | _ =>
      let into := o.words.getLast?.getD ""
      if o.has "n" && (named? c.disk into).toOption.any (!·.isDirectory) && o.words.length = 2 then
        place c.disk (o.words.head?.getD "") into
      else toTarget c o place

/-- A change of modes: for whom bits are set, the sign, and the letters of the bits. -/
structure ModeChange where
  who : List Char
  sign : Char
  bits : List Char

/-- The mode after a change. -/
def ModeChange.apply (m : ModeChange) (mask mode : Nat) : Nat :=
  let share (w : Char) : Nat := match w with
    | 'u' => 0o700
    | 'g' => 0o070
    | 'o' => 0o007
    | _ => 0o777
  let whose := if m.who.isEmpty then (0o777 : Nat) else (m.who.map share).foldl (· ||| ·) 0
  let bit (b : Char) : Nat := match b with
    | 'r' => 0o444
    | 'w' => 0o222
    | 'x' => 0o111
    | 'X' => if mode &&& 0o111 = 0 then 0 else 0o111
    | 'u' => (mode >>> 6 &&& 7) * 0o111
    | 'g' => (mode >>> 3 &&& 7) * 0o111
    | 'o' => (mode &&& 7) * 0o111
    | _ => 0
  let bits := (m.bits.map bit).foldl (· ||| ·) 0 &&& whose
  let bits := if m.who.isEmpty then bits &&& ((0o777 : Nat) ^^^ mask) else bits
  match m.sign with
  | '+' => mode ||| bits
  | '-' => mode &&& ((0o7777 : Nat) ^^^ bits)
  | _ => (mode &&& ((0o7777 : Nat) ^^^ whose)) ||| bits

/-- Changes of modes as they are written. -/
def modeChanges? (text : String) : Option (List ModeChange) :=
  let isSign (c : Char) : Bool := c == '+' || c == '-' || c == '='
  let rec actions (who : List Char) : Nat → List Char → Option (List ModeChange)
    | 0, _ => none
    | _, [] => some []
    | fuel + 1, c :: cs =>
      let bits := cs.takeWhile (!isSign ·)
      if isSign c && bits.all "rwxXstugo".toList.contains then
        (actions who fuel (cs.drop bits.length)).map (⟨who, c, bits⟩ :: ·)
      else none
  let clause (part : String) : Option (List ModeChange) :=
    let cs := part.toList
    let who := cs.takeWhile "ugoa".toList.contains
    if cs.length = who.length then none else actions who (cs.length + 1) (cs.drop who.length)
  ((text.splitOn ",").mapM clause).map List.flatten

/-- The mode that a text makes of another one. -/
def modeOf? (text : String) (mask mode : Nat) : Option Nat :=
  match Number.readNat? 8 text.toList with
  | some n => if n ≤ 0o7777 then some n else none
  | none => (modeChanges? text).map fun ms => ms.foldl (fun mode m => m.apply mask mode) mode

/-- Sets the modes of files. -/
def chmod (c : ToolCall) : ToolResult :=
  let (flags, words) := (c.arguments.filter (· != "--")).partition fun a =>
    ["-R", "-v", "-f", "-c", "--recursive"].contains a
  match words with
  | [] => misused c 1 "missing operand"
  | [mode] => misused c 1 s!"missing operand after {q mode}"
  | mode :: files =>
    if (modeOf? mode 0 0).isNone then misused c 1 s!"invalid mode: {q mode}"
    else forEach c.disk files fun d file =>
      let change (d : Disk) (p : Place) : Disk := match d.get? p with
        | some (.file bytes old) => d.put p (.file bytes ((modeOf? mode c.mask old).getD old))
        | _ => d
      match d.locate (path file) with
      | .error r => failing c d 1 s!"cannot access {q file}: {reasonText r}"
      | .ok p =>
        match d.get? p with
        | none => failing c d 1 s!"cannot access {q file}: {reasonText .missing}"
        | some .directory =>
          if flags.contains "-R" || flags.contains "--recursive" then
            done ((d.below p).foldl (fun d e => change d e.1) d)
          else done d
        | some _ => done (change d p)

end VariantForge.Shell.Tool
