import VariantForge.Shell.Tool.Listing

/-!
Looking for files: a walk over directories, with a condition that is asked of each entry and that may print
its path, remove it, or start programs for it.
-/

namespace VariantForge.Shell.Tool

/-- A condition on an entry, or something that is done with it. -/
inductive Condition_ where
  | always (holds : Bool)
  | name (anyCase : Bool) (pattern : List Char)
  | path (anyCase : Bool) (pattern : List Char)
  | kind (letters : List Char)
  | empty
  | size (sign : Option Char) (count unit : Nat)
  | mode (sign : Option Char) (bits : Nat)
  | print (close : String)
  | format (text : List Char)
  | remove
  | prune
  | start (words : List String) (together : Bool)
  | not (c : Condition_)
  | both (a b : Condition_)
  | either (a b : Condition_)
  deriving Inhabited

namespace Condition_

/-- Whether a condition does something, so that paths are not printed without being asked for. -/
def acts : Condition_ → Bool
  | .print _ | .format _ | .remove | .start .. => true
  | .not c => acts c
  | .both a b | .either a b => acts a || acts b
  | _ => false

/-- Whether a condition removes entries, so that directories come after what is in them. -/
def removes : Condition_ → Bool
  | .remove => true
  | .not c => removes c
  | .both a b | .either a b => removes a || removes b
  | _ => false

/-- Conditions that are read from words, one after another. -/
abbrev Read := StateT (List String) (Except String)

/-- The text after a word. -/
def operand (word : String) : Read String := do
  match ← get with
  | [] => throw s!"missing argument to `{word}'"
  | w :: rest =>
    set rest
    return w

mutual

/-- Reads conditions of which one must hold. -/
def anyOf : Nat → Read Condition_
  | 0 => return .always true
  | fuel + 1 => do
    let a ← allOf fuel
    match ← get with
    | w :: rest =>
      if w = "-o" || w = "-or" then
        set rest
        return .either a (← anyOf fuel)
      else return a
    | [] => return a

/-- Reads conditions that must all hold. -/
def allOf : Nat → Read Condition_
  | 0 => return .always true
  | fuel + 1 => do
    let a ← single fuel
    match ← get with
    | [] => return a
    | w :: rest =>
      if w = "-o" || w = "-or" || w = ")" || w = "," then return a
      if w = "-a" || w = "-and" then set rest
      return .both a (← allOf fuel)

/-- Reads one condition. -/
def single : Nat → Read Condition_
  | 0 => return .always true
  | fuel + 1 => do
    let w ← operand "!"
    let number (s : String) : Option (Option Char × Nat × List Char) :=
      let (sign, cs) := match s.toList with
        | '+' :: cs => (some '+', cs)
        | '-' :: cs => (some '-', cs)
        | cs => (none, cs)
      let (ds, rest) := Number.spanDigits cs
      if ds.isEmpty then none else some (sign, Number.digitsValue ds, rest)
    let pattern (f : List Char → Condition_) : Read Condition_ := return f (Glob.squeezed (← operand w).toList)
    match w with
    | "!" | "-not" => return .not (← single fuel)
    | "(" => do
      let c ← anyOf fuel
      match ← get with
      | ")" :: rest =>
        set rest
        return c
      | _ => throw "invalid expression; I was expecting to find a ')' somewhere but did not see one."
    | "-name" => pattern (.name false)
    | "-iname" => pattern (.name true)
    | "-path" | "-wholename" => pattern (.path false)
    | "-ipath" | "-iwholename" => pattern (.path true)
    | "-type" => do
      let t ← operand w
      match t.toList.find? fun c => !"bcdpfls,".toList.contains c with
      | some c => throw s!"Unknown argument to -type: {c}"
      | none => return .kind t.toList
    | "-empty" => return .empty
    | "-size" => do
      let t ← operand w
      match number t with
      | none => throw s!"Invalid argument `{t}' to -size"
      | some (sign, n, unit) =>
        let bytes := match unit with
          | ['c'] => 1
          | ['w'] => 2
          | ['k'] => 1024
          | ['M'] => 1048576
          | ['G'] => 1073741824
          | _ => 512
        return .size sign n bytes
    | "-perm" => do
      let t ← operand w
      let (sign, cs) := match t.toList with
        | '-' :: cs => (some '-', cs)
        | '/' :: cs => (some '/', cs)
        | cs => (none, cs)
      match modeOf? (String.ofList cs) 0 0 with
      | some n => return .mode sign n
      | none => throw s!"invalid mode {Quoting.always t}"
    | "-newer" | "-user" | "-group" | "-mtime" | "-mmin" | "-regex" => do
      let _ ← operand w
      return .always false
    | "-true" | "-depth" | "-xdev" | "-mount" | "-follow" | "-noleaf" => return .always true
    | "-maxdepth" | "-mindepth" => do
      let _ ← operand w
      return .always true
    | "-false" => return .always false
    | "-print" => return .print "\n"
    | "-print0" => return .print "\x00"
    | "-printf" => return .format (← operand w).toList
    | "-delete" => return .remove
    | "-prune" => return .prune
    | "-exec" | "-execdir" | "-ok" => do
      let ws ← get
      let words := ws.takeWhile fun v => v != ";" && v != "+"
      match ws.drop words.length with
      | close :: rest =>
        set rest
        return .start words (close == "+")
      | [] => throw s!"missing argument to `{w}'"
    | w =>
      if w.toList.head? == some '-' then throw s!"unknown predicate `{w}'"
      else throw s!"paths must precede expression: `{w}'"

end

end Condition_

/-- A walk at work: the disk, what it did for others to see, the programs that are started for all paths together, and whether the walk goes on below the entry. -/
structure Walk where
  name : String
  disk : Disk
  effects : List Effect := []
  together : List (List String × List String) := []
  pruned : Bool := false
  failed : Bool := false

/-- An entry on a walk: its path, what it is, how deep it is, and the path where the walk began. -/
structure Met where
  path : String
  entry : Entry
  depth : Nat
  root : String

/-- Fills a format in with what is known of an entry on a walk. -/
def Met.described (m : Met) : List Char → List Char
  | '%' :: 'p' :: rest => m.path.toList ++ described m rest
  | '%' :: 'f' :: rest => (baseName m.path).toList ++ described m rest
  | '%' :: 'h' :: rest => (dirName m.path).toList ++ described m rest
  | '%' :: 's' :: rest => (toString (sizeOf m.entry)).toList ++ described m rest
  | '%' :: 'm' :: rest => Nat.toDigits 8 (modeNumber m.entry) ++ described m rest
  | '%' :: 'M' :: rest => (modeLetters m.entry).toList ++ described m rest
  | '%' :: 'd' :: rest => (toString m.depth).toList ++ described m rest
  | '%' :: 'P' :: rest => (m.path.toList.drop (m.root.length + 1)) ++ described m rest
  | '%' :: 'l' :: rest =>
    (match m.entry with
      | .link t => (Octets.ofString t).toList
      | _ => []) ++ described m rest
  | '%' :: 'y' :: rest =>
    (match m.entry with
      | .directory => 'd'
      | .link _ => 'l'
      | .file .. => 'f') :: described m rest
  | '%' :: '%' :: rest => '%' :: described m rest
  | c :: rest => c :: described m rest
  | [] => []

/-- Asks a condition of an entry. -/
def Condition_.holds (m : Met) : Condition_ → Walk → Bool × Walk
  | .always b, w => (b, w)
  | .name anyCase p, w =>
    let name := (baseName m.path).toList
    (if anyCase then Glob.fits (p.map Char.toLower) (name.map Char.toLower) else Glob.fits p name, w)
  | .path anyCase p, w =>
    let name := m.path.toList
    (if anyCase then Glob.fits (p.map Char.toLower) (name.map Char.toLower) else Glob.fits p name, w)
  | .kind letters, w =>
    (letters.contains (match m.entry with
      | .directory => 'd'
      | .link _ => 'l'
      | .file .. => 'f'), w)
  | .empty, w =>
    (match m.entry with
      | .directory => match w.disk.locateSelf (Tool.path m.path) with
        | .ok p => (w.disk.below p).isEmpty
        | .error _ => false
      | .file bytes _ => bytes.isEmpty
      | .link _ => false, w)
  | .size sign n unit, w =>
    let blocks := (sizeOf m.entry + unit - 1) / unit
    (match sign with
      | some '+' => n < blocks
      | some _ => blocks < n
      | none => blocks == n, w)
  | .mode sign bits, w =>
    let mode := modeNumber m.entry &&& 0o7777
    (match sign with
      | some '-' => mode &&& bits == bits
      | some _ => bits == 0 || mode &&& bits != 0
      | none => mode == bits, w)
  | .print close, w => (true, { w with effects := w.effects ++ [.output (m.path ++ close)] })
  | .format text, w => (true, { w with effects := w.effects ++ [.output (String.ofList (Escape.expand [] (m.described text)).1)] })
  | .remove, w =>
    if m.path = "." then (true, w)
    else
      let removed : Except DiskReason Disk :=
        if m.entry.isDirectory then removeEmpty w.disk m.path
        else (w.disk.locateSelf (Tool.path m.path)).map w.disk.cut
      match removed with
      | .ok disk => (true, { w with disk })
      | .error r => (false, { w with failed := true, effects := w.effects ++
          [.error s!"{w.name}: cannot delete {Quoting.always m.path}: {reasonText r}\n"] })
  | .prune, w => (true, { w with pruned := true })
  | .start words together, w =>
    if together then
      let words := words.filter (· != "\x7b\x7d")
      let others := w.together.filter (·.1 != words)
      let before := ((w.together.find? (·.1 == words)).map (·.2)).getD []
      (true, { w with together := others ++ [(words, before ++ [m.path])] })
    else
      let words := words.map fun v => m.path.intercalate (v.splitOn "\x7b\x7d")
      (true, { w with effects := w.effects ++ [.start words none] })
  | .not c, w => let (b, w) := c.holds m w; (!b, w)
  | .both a b, w =>
    match a.holds m w with
    | (true, w) => b.holds m w
    | (false, w) => (false, w)
  | .either a b, w =>
    match a.holds m w with
    | (true, w) => (true, w)
    | (false, w) => b.holds m w

/-- Walks over an entry and all below it, down to some depth. -/
def walkFrom (c : Condition_) (least most : Nat) (late follows : Bool) : Nat → Walk → String → String → Nat → Walk
  | 0, w, _, _, _ => w
  | fuel + 1, w, root, file, depth =>
    let found := if follows then (w.disk.look? (path file)).or (named? w.disk file).toOption
      else (named? w.disk file).toOption
    match found with
    | none => w
    | some entry =>
      let ask (w : Walk) : Walk :=
        if depth < least then w else (c.holds ⟨file, entry, depth, root⟩ w).2
      let below (w : Walk) : Walk :=
        if !entry.isDirectory || most ≤ depth || w.pruned then w
        else match w.disk.list (path file) with
          | .error _ => w
          | .ok names =>
            ((names.map Octets.ofString).mergeSort Octets.le).foldl
              (fun w n => walkFrom c least most late follows fuel w root (inDirectory file n) (depth + 1)) w
      if late then ask (below { w with pruned := false })
      else { below (ask { w with pruned := false }) with pruned := false }

/-- Looks for files. -/
def find (c : ToolCall) : ToolResult :=
  let follows := c.arguments.head? == some "-L"
  let arguments := c.arguments.dropWhile fun a => ["-L", "-H", "-P"].contains a
  let isCondition (a : String) : Bool := a.toList.head? == some '-' && 1 < a.length || a = "(" || a = "!"
  let roots := arguments.takeWhile (!isCondition ·)
  let words := arguments.drop roots.length
  let roots := if roots.isEmpty then ["."] else roots
  let depthOf (name : String) : Except String (Option Nat) :=
    match (words.dropWhile (· != name)) with
    | _ :: n :: _ =>
      match natural? n with
      | some n => .ok (some n)
      | none => .error s!"Expected a positive decimal integer argument to {name}, but got {Quoting.always n}"
    | [_] => .error s!"missing argument to `{name}'"
    | [] => .ok none
  let parsed : Except String (Condition_ × List String) :=
    if words.isEmpty then .ok (.always true, []) else (Condition_.anyOf (4 * words.length + 8)).run words
  let read : Except String (Condition_ × Option Nat × Option Nat) := do
    let (cond, rest) ← parsed
    if !rest.isEmpty then throw "invalid expression; you have too many ')'"
    return (cond, ← depthOf "-mindepth", ← depthOf "-maxdepth")
  match read with
  | .error words => complaining c.disk 1 s!"{c.name}: {words}\n"
  | .ok (cond, least, most) =>
    let cond := if cond.acts then cond else .both cond (.print "\n")
    let late := cond.removes || words.contains "-depth"
    let depth := c.disk.entries.length + 2
    let w := roots.foldl (fun (w : Walk) root =>
      match named? w.disk root with
      | .error r => { w with failed := true, effects := w.effects ++ [.error s!"{c.name}: {q root}: {reasonText r}\n"] }
      | .ok _ => walkFrom cond (least.getD 0) (most.getD depth) late follows depth w root root 0) { name := c.name, disk := c.disk }
    { disk := w.disk, code := if w.failed then 1 else 0
      effects := w.effects ++ w.together.map fun t => .start (t.1 ++ t.2) none }

/-- The words of a text, as `xargs` reads them: blanks stand between them, quotes and backslashes take from
characters what they mean. A quote that does not end is told of after the words before it. -/
def quotedWords : Option Char → Option (List Char) → List Char → List String × Option String
  | none, word, [] => ((word.map fun w => String.ofList w.reverse).toList, none)
  | some m, _, [] =>
    let kind := if m = '"' then "double" else "single"
    ([], some s!"unmatched {kind} quote; by default quotes are special to xargs unless you use the -0 option")
  | none, word, '\\' :: c :: rest => quotedWords none (some (c :: word.getD [])) rest
  | mark, word, c :: rest =>
    match mark with
    | some m => if c = m then quotedWords none word rest
      else if c = '\n' then quotedWords (some m) word []
      else quotedWords mark (some (c :: word.getD [])) rest
    | none =>
      if c = '"' ∨ c = '\'' then quotedWords (some c) (some (word.getD [])) rest
      else if isGap c then
        let (more, fault?) := quotedWords none none rest
        ((word.map fun w => String.ofList w.reverse).toList ++ more, fault?)
      else quotedWords none (some (c :: word.getD [])) rest
where
  /-- Whether a character stands between words. -/
  isGap (c : Char) : Bool := c == ' ' || ('\t' ≤ c && c ≤ '\r')

/-- Words put together, some at a time. -/
def chunks (n : Nat) : Nat → List String → List (List String)
  | 0, _ => []
  | _, [] => []
  | fuel + 1, ws => ws.take n :: chunks n fuel (ws.drop n)

/-- Starts a program with the words that the input holds. -/
def xargs (c : ToolCall) : ToolResult :=
  withOptions c
    { letters := "0rtn:I:d:L:P:s:a:E:xi::", mixed := false
      long := [("null", "0"), ("no-run-if-empty", "r"), ("verbose", "t"), ("max-args", "n"), ("delimiter", "d"),
        ("replace", "i"), ("max-lines", "L"), ("max-procs", "P")] } fun o =>
    let text := (Octets.ofBytes c.input).toList
    let program := if o.words.isEmpty then ["echo"] else o.words
    let mark? := o.text? "I"
    let separated (by_ : Char) : List String :=
      let all := text.splitOn by_
      (if all.getLast? == some [] then all.dropLast else all).map String.ofList
    let (words, fault?) : List String × Option String :=
      if o.has "0" then (separated '\x00', none)
      else match o.text? "d" with
        | some d =>
          (separated (match (Escape.expand [] d.toList).1 with
            | ch :: _ => ch
            | [] => '\x00'), none)
        | none =>
          if mark?.isSome || (o.text? "L").isSome then
            ((separated '\n').filterMap fun l =>
              let l := String.ofList (l.toList.dropWhile fun ch => ch == ' ' || ch == '\t')
              if l.isEmpty then none else some l, none)
          else quotedWords none none text
    let starts : List (List String) :=
      match mark?, (o.text? "n").bind natural?, (o.text? "L").bind natural? with
      | some m, _, _ => words.map fun w => program.map fun p => if m.isEmpty then p else w.intercalate (p.splitOn m)
      | none, some n, _ => if words.isEmpty then (if o.has "r" then [] else [program])
        else (chunks (max n 1) words.length words).map (program ++ ·)
      | none, none, some n =>
        (chunks (max n 1) words.length words).map fun ls =>
          program ++ ls.flatMap fun l => (quotedWords none none l.toList).1
      | none, none, none => if words.isEmpty && (o.has "r" || fault?.isSome) then [] else [program ++ words]
    let effects := starts.flatMap fun words =>
      (if o.has "t" then [Effect.error (" ".intercalate words ++ "\n")] else []) ++ [.start words (some "")]
    let told := fault?.toList.map fun words => Effect.error s!"{c.name}: {words}\n"
    { disk := c.disk, used := c.input.size, effects := effects ++ told, code := if fault?.isSome then 1 else 0 }

end VariantForge.Shell.Tool
