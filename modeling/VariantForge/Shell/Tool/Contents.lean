import VariantForge.Shell.Tool.Basic

/-!
Programs that show what files hold: all of it, its beginning or its end, or how much there is.
-/

namespace VariantForge.Shell.Tool

/-- A number at the right of a field. -/
def rightmost (width n : Nat) : List Char :=
  let ds := Nat.toDigits 10 n
  List.replicate (width - ds.length) ' ' ++ ds

/-- A character as it is shown where all must be visible. -/
def visible (c : Char) : List Char :=
  let plain (c : Char) : List Char :=
    if c < ' ' then ['^', Char.ofNat (c.toNat + 64)] else if c = '\x7f' then ['^', '?'] else [c]
  if c = '\t' then [c] else if c < '\x80' then plain c
  else 'M' :: '-' :: plain (Char.ofNat (c.toNat - 128))

/-- How lines are shown: with numbers, with marks at their ends, with tabs made visible, with all made
visible, and without blank lines after blank lines. -/
structure Display where
  numbered : Bool
  unlessBlank : Bool
  ends : Bool
  tabs : Bool
  marks : Bool
  squeezed : Bool

namespace Display

/-- A line as it is shown. -/
def line (s : Display) (cs : List Char) : List Char :=
  cs.flatMap fun c => if s.tabs && c == '\t' then ['^', 'I'] else if s.marks then visible c else [c]

/-- Lines as they are shown; `ended` says whether the last one has an end, `count` how many were numbered,
and `blank` whether a blank line came before. -/
def lines (s : Display) (ended : Bool) : Nat → Bool → List (List Char) → List Char
  | _, _, [] => []
  | count, blank, l :: rest =>
    if s.squeezed && blank && l.isEmpty then lines s ended count blank rest
    else
      let counted := if s.unlessBlank then !l.isEmpty else s.numbered
      let number := if counted then rightmost 6 (count + 1) ++ ['\t'] else []
      let close := if rest.isEmpty && !ended then [] else (if s.ends then ['$'] else []) ++ ['\n']
      number ++ s.line l ++ close ++ lines s ended (if counted then count + 1 else count) l.isEmpty rest

end Display

/-- Shows files one after the other. -/
def cat (c : ToolCall) : ToolResult :=
  withOptions c { letters := "AbeEnstTuv"
                  long := [("show-all", "A"), ("number-nonblank", "b"), ("show-ends", "E"), ("number", "n"),
                    ("squeeze-blank", "s"), ("show-tabs", "T"), ("show-nonprinting", "v")] } fun o =>
    let all := o.has "A"
    let s : Display :=
      { numbered := o.has "n", unlessBlank := o.has "b", ends := all || o.has "E" || o.has "e"
        tabs := all || o.has "T" || o.has "t", marks := all || o.has "v" || o.has "e" || o.has "t"
        squeezed := o.has "s" }
    if o.found.all (·.1 == "u") then reading c o.words (unread c) fun d _ text => printing d (String.ofList text)
    else
      let (text, r) := wholeText c o.words (unread c)
      let (ls, ended) := lines text
      followedBy (printing c.disk (String.ofList (s.lines ended 0 false ls))) r

/-- The beginning of a text up to the end of line number `n`. -/
def firstLines : Nat → List Char → List Char
  | 0, _ => []
  | _, [] => []
  | n + 1, c :: cs => c :: firstLines (if c = '\n' then n else n + 1) cs
  termination_by structural _ cs => cs

/-- How many lines a text has, one that does not end counted. -/
def lineCount (cs : List Char) : Nat := (lines cs).1.length

/-- A count in an option: whether a sign stands before it, and the number with its unit. -/
def countOf? (s : String) : Option (Option Char × Nat) :=
  let (sign, cs) := match s.toList with
    | '+' :: rest => (some '+', rest)
    | '-' :: rest => (some '-', rest)
    | rest => (none, rest)
  let ds := cs.takeWhile Char.isDigit
  let unit? : Option Nat := match cs.drop ds.length with
    | [] => some 1
    | ['b'] => some 512
    | ['k'] | ['K'] | ['K', 'i', 'B'] => some 1024
    | ['k', 'B'] | ['K', 'B'] => some 1000
    | ['M'] | ['M', 'i', 'B'] => some 1048576
    | ['M', 'B'] => some 1000000
    | _ => none
  if ds.isEmpty then none else unit?.map fun u => (sign, Number.digitsValue ds * u)

/-- Arguments where a count that stands alone after a hyphen is written with a letter. -/
def spelled (signs : List Char) (arguments : List String) : List String :=
  arguments.flatMap fun a =>
    match a.toList with
    | sign :: d :: ds =>
      if signs.contains sign && (d :: ds).all Char.isDigit then
        ["-n", String.ofList (if sign = '+' then sign :: d :: ds else d :: ds)]
      else [a]
    | _ => [a]

/-- What stands before the text of a file where there are many; `first` says that nothing came before. -/
def heading (first : Bool) (file : String) : String :=
  let name := if file = "-" then "standard input" else file
  (if first then "" else "\n") ++ s!"==> {name} <==\n"

/-- Shows a part of each file, with headings where asked for or where there are many files. -/
def partsOf (c : ToolCall) (o : Options) (part : List Char → List Char) (taken : List Char → Nat) : ToolResult :=
  let files := if o.words.isEmpty then ["-"] else o.words
  let headed := (1 < files.length || o.has "v") && !o.has "q"
  (files.foldl (fun (r, first) file =>
    match textOf c r.disk file with
    | .ok (text, used) =>
      let title := if headed then heading first file else ""
      let shown := { printing r.disk (title ++ String.ofList (part text)) with
        used := if used = 0 then 0 else min used (taken text) }
      (followedBy r shown, false)
    | .error .isDirectory =>
      let title := if headed then heading first file else ""
      (followedBy r { disk := r.disk, code := 1, effects := [.output title, .error
        s!"{c.name}: error reading {Quoting.always file}: {reasonText .isDirectory}\n"] }, false)
    | .error e =>
      (followedBy r (failing c r.disk 1 s!"cannot open {Quoting.always file} for reading: {reasonText e}"), first))
    (done c.disk, true)).1

/-- The options of programs that show a part of a file. -/
def partGrammar : Grammar :=
  { letters := "n:c:qvfFs:z"
    long := [("lines", "n"), ("bytes", "c"), ("quiet", "q"), ("silent", "q"), ("verbose", "v"), ("follow", "f")] }

/-- How many bytes are read at once. -/
def blockSize : Nat := 8192

/-- Shows the beginning of files. -/
def head (c : ToolCall) : ToolResult :=
  withOptions { c with arguments := spelled ['-'] c.arguments } partGrammar fun o =>
    let byBytes := (o.found.reverse.find? fun f => f.1 == "n" || f.1 == "c").any (·.1 == "c")
    let text := (o.text? (if byBytes then "c" else "n")).getD "10"
    match countOf? text with
    | none =>
      let what := if byBytes then "bytes" else "lines"
      failing c c.disk 1 s!"invalid number of {what}: {Quoting.always text}"
    | some (sign, n) =>
      let part (cs : List Char) : List Char :=
        match byBytes, sign == some '-' with
        | true, true => cs.take (cs.length - n)
        | true, false => cs.take n
        | false, true => firstLines (lineCount cs - n) cs
        | false, false => firstLines n cs
      partsOf c o part fun cs =>
        let size := (part cs).length
        if byBytes || c.inputIsFile then size else (size + blockSize - 1) / blockSize * blockSize

/-- Shows the end of files. -/
def tail (c : ToolCall) : ToolResult :=
  withOptions { c with arguments := spelled ['-', '+'] c.arguments } partGrammar fun o =>
    let byBytes := (o.found.reverse.find? fun f => f.1 == "n" || f.1 == "c").any (·.1 == "c")
    let text := (o.text? (if byBytes then "c" else "n")).getD "10"
    match countOf? text with
    | none =>
      let what := if byBytes then "bytes" else "lines"
      failing c c.disk 1 s!"invalid number of {what}: {Quoting.always text}"
    | some (sign, n) =>
      let part (cs : List Char) : List Char :=
        match byBytes, sign == some '+' with
        | true, true => cs.drop (n - 1)
        | true, false => cs.drop (cs.length - n)
        | false, true => cs.drop (firstLines (n - 1) cs).length
        | false, false => cs.drop (firstLines (lineCount cs - n) cs).length
      partsOf c o part List.length

/-- Counts of a text: its lines, its words, its bytes, and the length of its longest line. -/
structure Counts where
  lines : Nat := 0
  words : Nat := 0
  bytes : Nat := 0
  longest : Nat := 0

/-- Whether a character stands between words. -/
def isGap (c : Char) : Bool := c == ' ' || ('\t' ≤ c && c ≤ '\r')

/-- The counts of a text. -/
def Counts.of (cs : List Char) : Counts :=
  let width (l : List Char) : Nat :=
    l.foldl (fun n c => if c = '\t' then n / 8 * 8 + 8 else if Quoting.isPrintable c then n + 1 else n) 0
  { lines := cs.count '\n'
    words := ((cs.splitBy fun a b => isGap a == isGap b).filter fun w => !(w.head?.any isGap)).length
    bytes := cs.length
    longest := ((Tool.lines cs).1.map width).foldl max 0 }

/-- Counts lines, words and bytes. -/
def wc (c : ToolCall) : ToolResult :=
  withOptions c { letters := "clmwL", long := [("bytes", "c"), ("chars", "m"), ("lines", "l"), ("words", "w"),
                    ("max-line-length", "L")] } fun o =>
    let asked := ["l", "w", "m", "c", "L"].filter o.has
    let asked := if asked.isEmpty then ["l", "w", "c"] else asked
    let files := if o.words.isEmpty then ["-"] else o.words
    let single := files.length = 1 && asked.length = 1
    let isFile (f : String) : Bool := if isInput f then c.inputIsFile else c.disk.isFile (path f) && f != "/dev/null"
    let found (f : String) : Bool := isInput f || c.disk.exists_ (path f)
    let size (f : String) : Nat :=
      if isFile f then match bytesOf c c.disk f with
        | .ok b => b.size
        | .error _ => 0
      else 0
    let total := (files.map size).foldl (· + ·) 0
    let width :=
      if single || !files.head?.any found then 1
      else max (if files.any fun f => found f && !isFile f then 7 else 1) (Nat.toDigits 10 total).length
    let row (n : Counts) (name : String) : String :=
      let cells := asked.map fun a => rightmost width (match a with
        | "l" => n.lines
        | "w" => n.words
        | "L" => n.longest
        | _ => n.bytes)
      String.ofList (List.intercalate [' '] cells) ++ (if name.isEmpty then "" else " " ++ name) ++ "\n"
    let add (a b : Counts) : Counts := ⟨a.lines + b.lines, a.words + b.words, a.bytes + b.bytes, max a.longest b.longest⟩
    let (r, sum) := files.foldl (fun (r, sum) file =>
      match textOf c r.disk file with
      | .ok (text, used) =>
        let n := Counts.of text
        (followedBy r { printing r.disk (row n (if o.words.isEmpty then "" else file)) with used }, add sum n)
      | .error .isDirectory =>
        (followedBy r { disk := r.disk, code := 1, effects := [.error (unread c file .isDirectory), .output (row {} file)] }, sum)
      | .error e => (followedBy r (complaining r.disk 1 (unread c file e)), sum)) (done c.disk, {})
    if 1 < files.length then followedBy r (printing r.disk (row sum "total")) else r

/-- Copies the input to the output and to files. -/
def tee (c : ToolCall) : ToolResult :=
  withOptions c { letters := "aip", long := [("append", "a")] } fun o =>
    let r := forEach c.disk o.words fun d file =>
      match save c d file (o.has "a") c.input with
      | .ok d => done d
      | .error e => failing c d 1 s!"{Quoting.told file}: {e.text}"
    followedBy { r with used := c.input.size } (printing r.disk (Octets.ofBytes c.input))

/-- Shows lines from the last one to the first. -/
def tac (c : ToolCall) : ToolResult :=
  withOptions c { letters := "brs:", long := [("separator", "s")] } fun o =>
    reading c o.words
      (fun file r => s!"{c.name}: failed to open {Quoting.always file} for reading: {reasonText r}\n") fun d _ text =>
      let (ls, ended) := lines text
      printing d (match ls.reverse with
        | last :: before => if ended then joinLines (last :: before) else String.ofList last ++ joinLines before
        | [] => "")

/-- Shows lines with their characters in the other order. -/
def rev (c : ToolCall) : ToolResult :=
  reading c c.arguments (fun file r => s!"{c.name}: cannot open {file}: {reasonText r}\n") fun d _ text =>
    let (ls, ended) := lines text
    printing d (unlines (ls.map List.reverse) ended)

end VariantForge.Shell.Tool
