import VariantForge.Shell.Glob
import VariantForge.Shell.Tool.Contents
import VariantForge.Shell.Tool.Words

/-!
Programs that work on the characters and the fields of lines: they cut parts out, put lines side by side, and
put characters in the place of others.
-/

namespace VariantForge.Shell.Tool

/-- Places in a line: numbers from the first to the last one of each part, the end being open where none is
given. -/
abbrev Parts := List (Nat × Option Nat)

/-- Whether a place is in one of the parts. -/
def Parts.has (ps : Parts) (n : Nat) : Bool := ps.any fun p => p.1 ≤ n && p.2.all (n ≤ ·)

/-- Reads parts; `fields` says whether they are of fields or of characters. -/
def parts (fields : Bool) (text : String) : Except String Parts :=
  let zero := if fields then "fields are numbered from 1" else "byte/character positions are numbered from 1"
  let value (s : String) : Except String Nat :=
    match natural? s with
    | some 0 => .error zero
    | some n => .ok n
    | none =>
      .error (if fields then s!"invalid field value {q s}" else s!"invalid byte/character position {q s}")
  ((text.toList.splitBy fun a b => (a == ',' || a == ' ') == (b == ',' || b == ' ')).map String.ofList).foldlM
    (fun ps part => do
      if part.toList.all fun c => c == ',' || c == ' ' then return ps
      match part.splitOn "-" with
      | [n] => do
        let n ← value n
        return ps ++ [(n, some n)]
      | ["", ""] => throw s!"invalid range with no endpoint: {part}"
      | [a, ""] => return ps ++ [(← value a, none)]
      | ["", b] => return ps ++ [(1, some (← value b))]
      | [a, b] => do
        let a ← value a
        let b ← value b
        if b < a then throw "invalid decreasing range"
        return ps ++ [(a, some b)]
      | _ => throw (if fields then "invalid field range" else "invalid byte or character range"))
    [] >>= fun ps => if ps.isEmpty then .error zero else .ok ps

/-- Cuts parts out of lines. -/
def cut (c : ToolCall) : ToolResult :=
  withOptions c
    { letters := "b:c:f:d:snzCO:", long := [("bytes", "b"), ("characters", "c"), ("fields", "f"), ("delimiter", "d"),
        ("only-delimited", "s"), ("complement", "C"), ("output-delimiter", "O")] } fun o =>
    let lists := o.found.filter fun f => f.1 == "b" || f.1 == "c" || f.1 == "f"
    let mark := (o.text? "d").getD "\t"
    match lists with
    | [] => misused c 1 "you must specify a list of bytes, characters, or fields"
    | _ :: _ :: _ => misused c 1 "only one list may be specified"
    | [(kind, text)] =>
      let fields := kind == "f"
      if 1 < mark.length then misused c 1 "the delimiter must be a single character"
      else if !fields && (o.text? "d").isSome then
        misused c 1 "an input delimiter may be specified only when operating on fields"
      else match parts fields text with
        | .error words => misused c 1 words
        | .ok ps =>
          let has (n : Nat) : Bool := ps.has n != o.has "C"
          let mark := mark.toList.head?.getD '\x00'
          let byCharacters (l : List Char) : Option (List Char) :=
            let kept := (l.zipIdx 1).filter fun e => has e.2
            match o.text? "O" with
            | none => some (kept.map (·.1))
            | some between =>
              let starts (n : Nat) : Bool := n = 1 || !has (n - 1) || (ps.any fun p => p.1 == n && 1 < n)
              some ((kept.zipIdx.flatMap fun e =>
                (if e.2 != 0 && starts e.1.2 then between.toList else []) ++ [e.1.1]))
          let byFields (l : List Char) : Option (List Char) :=
            if !l.contains mark then (if o.has "s" then none else some l)
            else
              let kept := ((l.splitOn mark).zipIdx 1).filter fun e => has e.2
              some (List.intercalate ((o.text? "O").getD mark.toString).toList (kept.map (·.1)))
          reading c o.words (unread c) fun d _ text =>
            printing d (joinLines ((lines text).1.filterMap (if fields then byFields else byCharacters)))

/-- The characters of a class of some name, in order. -/
def classCharacters? (name : String) : Option (List Char) :=
  if (Glob.inClass? name 'a').isNone then none
  else some (((List.range 256).map Char.ofNat).filter fun c => (Glob.inClass? name c).getD false)

/-- A part of a set of characters: some characters, or one that is repeated, as often as is needed if no count
is given. -/
inductive SetPart where
  | chars (cs : List Char)
  | repeated (c : Char) (count : Option Nat)

/-- Reads a set of characters as `tr` does. -/
def setParts : Nat → List Char → Except String (List SetPart)
  | 0, _ => .ok []
  | _, [] => .ok []
  | fuel + 1, cs => do
    let unit (cs : List Char) : Char × List Char :=
      match cs with
      | '\\' :: c :: rest =>
        if Escape.isOctal c then
          let ds := ((c :: rest).take 3).takeWhile Escape.isOctal
          let ds := if 255 < (Integer.digits 8 0 ds).1 then ds.take 2 else ds
          (Escape.byte (Integer.digits 8 0 ds).1, (c :: rest).drop ds.length)
        else ((if c = 'e' then c else (Escape.letter? c).getD c), rest)
      | c :: rest => (c, rest)
      | [] => ('\x00', [])
    match cs with
    | '[' :: ':' :: rest =>
      let name := String.ofList (rest.takeWhile (· != ':'))
      match rest.drop name.length with
      | ':' :: ']' :: rest =>
        match classCharacters? name with
        | some found => return .chars found :: (← setParts fuel rest)
        | none => throw s!"invalid character class {q name}"
      | _ => return .chars ['['] :: (← setParts fuel (':' :: rest))
    | '[' :: '=' :: e :: '=' :: ']' :: rest => return .chars [e] :: (← setParts fuel rest)
    | '[' :: inner =>
      let (e, rest) := unit inner
      match rest with
      | '*' :: rest =>
        let ds := rest.takeWhile Char.isDigit
        match rest.drop ds.length with
        | ']' :: rest =>
          let n := (Integer.digits (if ds.head? == some '0' then 8 else 10) 0 ds).1
          return .repeated e (if n = 0 then none else some n) :: (← setParts fuel rest)
        | _ => return .chars ['['] :: (← setParts fuel inner)
      | _ => return .chars ['['] :: (← setParts fuel inner)
    | cs =>
      let (low, rest) := unit cs
      match rest with
      | '-' :: high :: more =>
        let (high, rest) := unit (high :: more)
        if high < low then
          throw s!"range-endpoints of '{low}-{high}' are in reverse collating sequence order"
        else
          let found := (List.range (high.toNat + 1 - low.toNat)).map fun k => Char.ofNat (low.toNat + k)
          return .chars found :: (← setParts fuel rest)
      | rest => return .chars [low] :: (← setParts fuel rest)

/-- The characters of a set; a part that is repeated as needed makes it as long as `length`. -/
def setCharacters (length : Nat) (ps : List SetPart) : List Char :=
  let known := (ps.map fun p => match p with
    | .chars cs => cs.length
    | .repeated _ n => n.getD 0).foldl (· + ·) 0
  ps.flatMap fun p => match p with
    | .chars cs => cs
    | .repeated c n => List.replicate (n.getD (length - known)) c

/-- A text where a character that comes again at once is left out if it is in a set. -/
def squeeze (set : List Char) : List Char → List Char
  | a :: b :: rest => if a = b ∧ set.contains a then squeeze set (b :: rest) else a :: squeeze set (b :: rest)
  | cs => cs

/-- Puts characters in the place of others, or leaves them out. -/
def tr (c : ToolCall) : ToolResult :=
  withOptions c
    { letters := "cCdst", long := [("complement", "c"), ("delete", "d"), ("squeeze-repeats", "s"), ("truncate-set1", "t")]
      mixed := false } fun o =>
    let deletes := o.has "d"
    let squeezes := o.has "s"
    let most := if deletes && !squeezes then 1 else 2
    let least := if deletes == squeezes then 2 else 1
    match o.words with
    | [] => misused c 1 "missing operand"
    | words =>
      if words.length < least then
        let given := words.getLast?.getD ""
        let why := if squeezes then "Two strings must be given when both deleting and squeezing repeats."
          else "Two strings must be given when translating."
        misused c 1 (s!"missing operand after {q given}\n" ++ why)
      else if most < words.length then
        let extra := (words[most]?).getD ""
        let why := if deletes && words.length = 2 then
            "\nOnly one string may be given when deleting without squeezing repeats."
          else ""
        misused c 1 (s!"extra operand {q extra}" ++ why)
      else
        let read (w : String) : Except String (List SetPart) := setParts (w.length + 1) w.toList
        match read (words.head?.getD ""), (words[1]?).mapM read with
        | .error e, _ => failing c c.disk 1 e
        | _, .error e => failing c c.disk 1 e
        | .ok first, .ok second =>
          let named := setCharacters 0 first
          let complement := o.has "c" || o.has "C"
          let old := if complement then ((List.range 256).map Char.ofNat).filter (!named.contains ·) else named
          let new := setCharacters old.length (second.getD [])
          let translates := !deletes && second.isSome
          let new := if o.has "t" then new else new ++ List.replicate (old.length - new.length) (new.getLast?.getD ' ')
          if translates && second.any (setCharacters old.length · |>.isEmpty) && !o.has "t" then
            failing c c.disk 1 "when not truncating set1, string2 must be non-empty"
          else
            let pairs := (old.zip new).reverse
            let text := (Octets.ofBytes c.input).toList
            let text := if deletes then text.filter (!old.contains ·)
              else if translates then text.map fun ch => ((pairs.find? (·.1 == ch)).map (·.2)).getD ch
              else text
            let text := if squeezes then squeeze (if second.isSome then new else old) text else text
            { printing c.disk (String.ofList text) with used := c.input.size }

/-- Puts the lines of files side by side. -/
def paste (c : ToolCall) : ToolResult :=
  withOptions c { letters := "d:sz", long := [("delimiters", "d"), ("serial", "s")] } fun o =>
    let files := if o.words.isEmpty then ["-"] else o.words
    let rec marks : List Char → List (List Char)
      | '\\' :: c :: rest => (if c = '0' then [] else [((Escape.letter? c).getD c)]) :: marks rest
      | c :: rest => [c] :: marks rest
      | [] => []
    let ds := marks ((o.text? "d").getD "\t").toList
    let ds := if ds.isEmpty then [[]] else ds
    let mark (i : Nat) : List Char := (ds[i % ds.length]?).getD []
    let joined (row : List (List Char)) : List Char :=
      row.zipIdx.flatMap fun e => (if e.2 = 0 then [] else mark (e.2 - 1)) ++ e.1
    match files.find? fun f => (textOf c c.disk f).toOption.isNone with
    | some f => match textOf c c.disk f with
      | .error r => complaining c.disk 1 (unread c f r)
      | .ok _ => done c.disk
    | none =>
      let input := (lines (Octets.ofBytes c.input).toList).1
      let own (f : String) : List (List Char) := (textOf c c.disk f).toOption.elim [] fun t => (lines t.1).1
      let hyphens := (files.filter isInput).length
      let columns := if o.has "s" then files.map own
        else files.zipIdx.map fun e =>
          if isInput e.1 then
            let turn := (files.take e.2).countP isInput
            (input.zipIdx.filter fun l => l.2 % hyphens == turn).map (·.1)
          else own e.1
      let used := if files.any isInput then c.input.size else 0
      if o.has "s" then { printing c.disk (joinLines (columns.map joined)) with used }
      else
        let height := (columns.map List.length).foldl max 0
        let rows := (List.range height).map fun i => joined (columns.map fun col => (col[i]?).getD [])
        { printing c.disk (joinLines rows) with used }

/-- Breaks a line where it is wider than allowed; `spaces` says that it breaks after a blank if it can. -/
def folded (width : Nat) (spaces : Bool) : Nat → List Char → List (List Char)
  | 0, cs => [cs]
  | fuel + 1, cs =>
    if cs.length ≤ width then [cs]
    else
      let front := cs.take width
      let kept := (front.reverse.dropWhile fun c => c != ' ' && c != '\t').reverse
      let front := if spaces && !kept.isEmpty then kept else front
      front :: folded width spaces fuel (cs.drop front.length)

/-- Breaks long lines. -/
def fold (c : ToolCall) : ToolResult :=
  withOptions c { letters := "w:sbc", long := [("width", "w"), ("spaces", "s"), ("bytes", "b")] } fun o =>
    let width := (o.text? "w").getD "80"
    match natural? width with
    | none => failing c c.disk 1 s!"invalid number of columns: {q width}"
    | some 0 => failing c c.disk 1 s!"invalid number of columns: {q width}: Numerical result out of range"
    | some n => reading c o.words (unread c) fun d _ text =>
        let (ls, ended) := lines text
        printing d (unlines (ls.flatMap fun l => folded n (o.has "s") l.length l) ended)

/-- Puts blanks in the place of tabs. -/
def expand (c : ToolCall) : ToolResult :=
  withOptions c { letters := "t:i", long := [("tabs", "t"), ("initial", "i")] } fun o =>
    let width := max 1 (((o.text? "t").bind natural?).getD 8)
    let line (l : List Char) : List Char :=
      (l.foldl (fun (done, n) ch =>
        if ch = '\t' then
          let gap := width - n % width
          (List.replicate gap ' ' ++ done, n + gap)
        else (ch :: done, n + 1)) (([] : List Char), 0)).1.reverse
    reading c o.words (unread c) fun d _ text =>
      let (ls, ended) := lines text
      printing d (unlines (ls.map line) ended)

/-- Numbers lines. -/
def nl (c : ToolCall) : ToolResult :=
  withOptions c { letters := "b:w:s:v:i:n:h:f:d:p", long := [("body-numbering", "b"), ("number-width", "w"),
                    ("number-separator", "s"), ("starting-line-number", "v"), ("line-increment", "i")] } fun o =>
    let width := ((o.text? "w").bind natural?).getD 6
    let start := ((o.text? "v").bind natural?).getD 1
    let step := ((o.text? "i").bind natural?).getD 1
    let between := ((o.text? "s").getD "\t").toList
    let style := (o.text? "b").getD "t"
    let form := (o.text? "n").getD "rn"
    let number (n : Nat) : List Char :=
      let cs := rightmost width n
      if form = "rz" then cs.map fun ch => if ch = ' ' then '0' else ch
      else if form = "ln" then
        let ds := Nat.toDigits 10 n
        ds ++ List.replicate (width - ds.length) ' '
      else cs
    let (text, r) := wholeText c o.words (unread c)
    let (rows, _) := (lines text).1.foldl (fun (done, n) l =>
      if style = "a" || (style = "t" && !l.isEmpty) then ((number n ++ between ++ l) :: done, n + step)
      else ((List.replicate (width + between.length) ' ' ++ l) :: done, n)) (([] : List (List Char)), start)
    followedBy r (printing c.disk (joinLines rows.reverse))

end VariantForge.Shell.Tool
