import VariantForge.Shell.Escape
import VariantForge.Shell.Glob
import VariantForge.Shell.Program
import VariantForge.Shell.Tool.Files

/-!
Programs that tell what is on the disk: the names in directories, what links point to, and which files there
are that meet some conditions.
-/

namespace VariantForge.Shell.Tool

/-- The letter of a kind of entry where it is shown after a name. -/
def kindMark : Entry → String
  | .directory => "/"
  | .link _ => "@"
  | .file _ mode => if mode &&& 0o111 = 0 then "" else "*"

/-- The bits of a mode as letters. -/
def modeLetters (e : Entry) : String :=
  let bits (n : Nat) : List Char :=
    [if n &&& 4 = 0 then '-' else 'r', if n &&& 2 = 0 then '-' else 'w', if n &&& 1 = 0 then '-' else 'x']
  let all (n : Nat) : List Char := bits (n >>> 6 &&& 7) ++ bits (n >>> 3 &&& 7) ++ bits (n &&& 7)
  String.ofList (match e with
    | .directory => 'd' :: all 0o755
    | .link _ => 'l' :: all 0o777
    | .file _ mode => '-' :: all mode)

/-- How many bytes an entry has. -/
def sizeOf : Entry → Nat
  | .directory => 4096
  | .link target => target.utf8ByteSize
  | .file bytes _ => bytes.size

/-- The mode of an entry. -/
def modeNumber : Entry → Nat
  | .directory => 0o755
  | .link _ => 0o777
  | .file _ mode => mode

/-- The names in a directory that are shown, in order. -/
def shownNames (o : Options) (d : Disk) (dir : String) : List String :=
  let all := match d.list (path dir) with
    | .ok names => (names.map Octets.ofString).mergeSort Octets.le
    | .error _ => []
  let kept := all.filter fun n => o.has "a" || o.has "A" || n.toList.head? != some '.'
  let kept := if o.has "a" then "." :: ".." :: kept else kept
  if o.has "r" then kept.reverse else kept

/-- Rows of names as they are listed. -/
def listed (o : Options) (d : Disk) (dir : Option String) (names : List String) : String :=
  let pathOf (n : String) : String := match dir with
    | some dir => inDirectory dir n
    | none => n
  let mark (n : String) : String :=
    match named? d (pathOf n) with
    | .ok e => if o.has "F" then kindMark e else if o.has "p" && e.isDirectory then "/" else ""
    | .error _ => if (o.has "F" || o.has "p") && (n = "." || n = "..") then "/" else ""
  let quoted (n : String) : String := if o.has "Q" then "\"" ++ n ++ "\"" else n
  let row (n : String) : String :=
    match o.has "l", named? d (pathOf n) with
    | true, .ok e =>
      let target := match e with
        | .link t => " -> " ++ Octets.ofString t
        | _ => ""
      s!"{modeLetters e} 1 root root {sizeOf e} Mar  4 05:06 {quoted n}{mark n}{target}\n"
    | true, .error _ => s!"{modeLetters .directory} 1 root root 4096 Mar  4 05:06 {n}\n"
    | false, _ => quoted n ++ mark n ++ "\n"
  if o.has "m" then (if names.isEmpty then "" else ", ".intercalate (names.map fun n => quoted n ++ mark n) ++ "\n")
  else String.join (names.map row)

/-- The listing of a directory, with those below it if that is asked for. -/
def listing (o : Options) (d : Disk) : Nat → Bool → String → String
  | 0, _, _ => ""
  | fuel + 1, titled, dir =>
    let names := shownNames o d dir
    let title := if titled then dir ++ ":\n" else ""
    let total := if o.has "l" then s!"total {4 * names.length}\n" else ""
    let inner := if o.has "R" then
        names.filter fun n => n != "." && n != ".." && ((named? d (inDirectory dir n)).toOption.any Entry.isDirectory)
      else []
    title ++ total ++ listed o d (some dir) names ++
      String.join (inner.map fun n => "\n" ++ listing o d fuel true (inDirectory dir n))

/-- Lists files and directories. -/
def ls (c : ToolCall) : ToolResult :=
  withOptions c
    { letters := "aAd1FplrRtSCxhmQgoinsGcuUfbkqNLHX", long := [("all", "a"), ("almost-all", "A"), ("directory", "d"),
        ("classify", "F"), ("reverse", "r"), ("recursive", "R"), ("color", "G"), ("quote-name", "Q")] } (fun o =>
    let words := if o.words.isEmpty then ["."] else (o.words.mergeSort Octets.le)
    let words := if o.has "r" then words.reverse else words
    let exists_ (w : String) : Bool := (named? c.disk w).toOption.isSome
    let faults := String.join ((words.filter (!exists_ ·)).map fun w =>
      match named? c.disk w with
      | .error r => s!"{c.name}: cannot access {q w}: {reasonText r}\n"
      | .ok _ => "")
    let there := words.filter exists_
    let isDir (w : String) : Bool := !o.has "d" && isDirectory c.disk w
    let files := there.filter (!isDir ·)
    let dirs := there.filter isDir
    let titled := 1 < words.length || o.has "R"
    let blocks := (if files.isEmpty then [] else [listed o c.disk none files]) ++
      dirs.map (listing o c.disk (c.disk.entries.length + 2) titled)
    { disk := c.disk, effects := [.error faults, .output ("\n".intercalate blocks)]
      code := if faults.isEmpty then 0 else 2 }) 2

/-- The words for a kind of entry. -/
def kindWords : Entry → String
  | .directory => "directory"
  | .link _ => "symbolic link"
  | .file bytes _ => if bytes.isEmpty then "regular empty file" else "regular file"

/-- Fills a format in with what is known of a file. -/
def described (e : Entry) (name : String) : List Char → List Char
  | '%' :: 's' :: rest => (toString (sizeOf e)).toList ++ described e name rest
  | '%' :: 'a' :: rest => Nat.toDigits 8 (modeNumber e) ++ described e name rest
  | '%' :: 'A' :: rest => (modeLetters e).toList ++ described e name rest
  | '%' :: 'n' :: rest => name.toList ++ described e name rest
  | '%' :: 'N' :: rest =>
    (Quoting.always name ++ (match e with
      | .link t => " -> " ++ Quoting.always (Octets.ofString t)
      | _ => "")).toList ++ described e name rest
  | '%' :: 'F' :: rest => (kindWords e).toList ++ described e name rest
  | '%' :: 'h' :: rest => '1' :: described e name rest
  | '%' :: '%' :: rest => '%' :: described e name rest
  | c :: rest => c :: described e name rest
  | [] => []

/-- Tells what is known of files. -/
def stat (c : ToolCall) : ToolResult :=
  withOptions c { letters := "Lc:ftP:", long := [("format", "c"), ("printf", "P"), ("dereference", "L")] } fun o =>
    if o.words.isEmpty then misused c 1 "missing operand"
    else forEach c.disk o.words fun d w =>
      let e := if o.has "L" then
          match d.locate (path w) with
          | .ok p => ((d.get? p).elim (.error .missing) .ok : Except DiskReason Entry)
          | .error r => .error r
        else named? d w
      match e with
      | .error r => failing c d 1 s!"cannot statx {q w}: {reasonText r}"
      | .ok e =>
        match o.text? "P", o.text? "c" with
        | some f, _ => printing d (String.ofList (Escape.expand [] (described e w f.toList)).1)
        | none, some f => printing d (String.ofList (described e w f.toList) ++ "\n")
        | none, none => printing d s!"  File: {w}\n  Size: {sizeOf e}\n"

/-- The place that a path stands for, and whether all that it goes through is there: all of it if `whole`
says so, else all but its end. -/
def settled (d : Disk) (whole lenient : Bool) (file : String) : Except DiskReason Place :=
  match d.locate (path file) with
  | .ok p => if whole && (d.get? p).isNone then .error .missing else .ok p
  | .error r =>
    if !lenient then .error r
    else
      let start := if file.toList.head? == some '/' then [] else d.here
      .ok ((file.splitOn "/").foldl (fun p n =>
        if n = "" || n = "." then p else if n = ".." then p.dropLast else p ++ [Octets.toString n]) start)

/-- Tells what links point to. -/
def readlink (c : ToolCall) : ToolResult :=
  withOptions c { letters := "femnqsvz", long := [("canonicalize", "f"), ("canonicalize-existing", "e"),
                    ("canonicalize-missing", "m"), ("no-newline", "n")] } fun o =>
    let close := if o.has "n" && o.words.length = 1 then "" else "\n"
    if o.words.isEmpty then misused c 1 "missing operand"
    else forEach c.disk o.words fun d w =>
      if o.has "f" || o.has "e" || o.has "m" then
        match settled d (o.has "e") (o.has "m") w with
        | .ok p => printing d (pathOf p ++ close)
        | .error _ => { disk := d, code := 1 }
      else match named? d w with
        | .ok (.link t) => printing d (Octets.ofString t ++ close)
        | _ => { disk := d, code := 1 }

/-- The path that leads from one place to another. -/
def relative : Place → Place → List String
  | a :: as, b :: bs => if a = b then relative as bs else List.replicate (as.length + 1) ".." ++ b :: bs
  | as, bs => as.map (fun _ => "..") ++ bs

/-- Tells the places that paths stand for. -/
def realpath (c : ToolCall) : ToolResult :=
  withOptions c { letters := "emsqzLPt:", long := [("canonicalize-existing", "e"), ("canonicalize-missing", "m"),
                    ("relative-to", "t"), ("strip", "s"), ("no-symlinks", "s")] } fun o =>
    if o.words.isEmpty then misused c 1 "missing operand"
    else forEach c.disk o.words fun d w =>
      match settled d (o.has "e") (o.has "m") w with
      | .ok p =>
        match o.text? "t" with
        | none => printing d (pathOf p ++ "\n")
        | some base =>
          let from_ := (d.locate (path base)).toOption.getD []
          let way := relative from_ p
          printing d ((if way.isEmpty then "." else Octets.ofString ("/".intercalate way)) ++ "\n")
      | .error r =>
        if o.has "q" then { disk := d, code := 1 }
        else failing c d 1 s!"{Quoting.told w}: {reasonText r}"

/-- Tells where programs are. -/
def which (c : ToolCall) : ToolResult :=
  let (flags, words) := c.arguments.partition fun a => a.toList.head? == some '-'
  let searchPath := ((c.environment.find? (·.1 == "PATH")).map (·.2)).getD ""
  if words.isEmpty then { disk := c.disk, code := 1 }
  else forEach c.disk words fun d w =>
    let found :=
      if Program.isPath w then (if Program.executable? d w == some true then [w] else [])
      else ((searchPath.splitOn ":").map fun dir => Program.below dir w).filter fun f =>
        Program.executable? d f == some true
    let found := if flags.contains "-a" then found else found.take 1
    { printing d (String.join (found.map (· ++ "\n"))) with code := if found.isEmpty then 1 else 0 }

/-- Makes a file or a directory with a name that is not taken. -/
def mktemp (c : ToolCall) : ToolResult :=
  withOptions c { letters := "dup:qt", long := [("directory", "d"), ("dry-run", "u"), ("tmpdir", "p")] } fun o =>
    let template := o.words.head?.getD "tmp.XXXXXXXXXX"
    let inside := o.words.isEmpty || o.has "t" || o.has "p"
    let dir := match o.text? "p" with
      | some dir => dir
      | none => ((c.environment.find? (·.1 == "TMPDIR")).map (·.2)).getD "/tmp"
    let template := if inside then inDirectory dir template else template
    let cs := template.toList.reverse
    let marks := (cs.takeWhile (· == 'X')).length
    if marks < 3 then failing c c.disk 1 s!"too few X's in template {q (o.words.head?.getD template)}"
    else
      let stem := (cs.drop marks).reverse
      let name (k : Nat) : String :=
        let ds := Nat.toDigits 10 k
        String.ofList (stem ++ List.replicate (marks - ds.length) 'a' ++ ds)
      let free := ((List.range 100).map name).find? fun f => !c.disk.exists_ (path f)
      let file := free.getD (name 0)
      let what := if o.has "d" then "directory" else "file"
      if o.has "u" then printing c.disk (file ++ "\n")
      else
        let made : Except String Disk := if o.has "d" then (c.disk.makeDirectory (path file)).mapError reasonText
          else (save c c.disk file false .empty).mapError (·.text)
        match made with
        | .ok d => printing ((d.setMode (path file) 0o600).toOption.getD d) (file ++ "\n")
        | .error words => failing c c.disk 1 s!"failed to create {what} via template {q template}: {words}"

end VariantForge.Shell.Tool
