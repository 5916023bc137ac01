import VariantForge.Shell.Tool.Contents
import VariantForge.Shell.Tool.Files
import VariantForge.Shell.Tool.Regular

/-!
Looking for lines that fit a pattern.
-/

namespace VariantForge.Shell.Tool

/-- What is looked for: patterns of which one must fit, in the whole line or in whole words if that is asked
for. -/
structure Search where
  patterns : List Regular
  wholeLine : Bool
  wholeWord : Bool
  turned : Bool

namespace Search

/-- The first part of a line that fits and begins at a place or after it, with where it ends. -/
def fit? (s : Search) (text : Array Char) : Nat → Nat → Option (Nat × Nat)
  | 0, _ => none
  | fuel + 1, at_ =>
    if text.size < at_ then none
    else
      let isWord (i : Nat) : Bool := (text[i]?).any Regular.isWord
      let allowed (stop : Nat) : Bool :=
        (!s.wholeLine || (at_ = 0 && stop = text.size)) &&
          (!s.wholeWord || (!(0 < at_ && isWord (at_ - 1)) && !isWord stop))
      let found := s.patterns.flatMap fun r =>
        (Regular.ends text r (Regular.hasBack r.node) r.node ⟨at_, []⟩).map (·.at_)
      match (found.filter allowed).foldl (fun b n => some (max n (b.getD 0))) none with
      | some stop => some (at_, stop)
      | none => fit? s text fuel (at_ + 1)

/-- The first part of a line that fits. -/
def first? (s : Search) (text : Array Char) (at_ : Nat) : Option (Nat × Nat) := s.fit? text (text.size + 1 - at_) at_

/-- Whether a line is looked for. -/
def selects (s : Search) (line : List Char) : Bool := (s.first? line.toArray 0).isSome != s.turned

/-- All parts of a line that fit and are not blank, one after the other. -/
def all (s : Search) (text : Array Char) : Nat → Nat → List (List Char)
  | 0, _ => []
  | fuel + 1, at_ =>
    match s.first? text at_ with
    | none => []
    | some (start, stop) =>
      if stop = start then all s text fuel (start + 1)
      else Regular.between text start stop :: all s text fuel stop

end Search

/-- How lines that were found are shown. -/
structure Shown where
  named : Bool
  numbered : Bool
  partsOnly : Bool
  before : Nat
  after : Nat
  most : Option Nat

/-- The lines of a file as they are shown: those that were found, and those around them. -/
def Shown.lines (v : Shown) (s : Search) (name : String) (ls : List (List Char)) : List String :=
  let flagged := ls.map fun l => (l, s.selects l)
  let upTo := match v.most with
    | none => flagged.length
    | some n =>
      let hits := (flagged.zipIdx.filter (·.1.2)).map (·.2)
      match hits[n]? with
      | some i => if n = 0 then 0 else i
      | none => flagged.length
  let hits := (((flagged.take upTo).zipIdx.filter (·.1.2)).map (·.2)).toArray
  let isHit (i : Nat) : Bool := hits.contains i
  let near (i : Nat) : Bool := hits.any fun h => h ≤ i + v.before && i ≤ h + v.after
  let head (i : Nat) (mark : String) : String :=
    (if v.named then name ++ mark else "") ++ (if v.numbered then toString (i + 1) ++ mark else "")
  if v.partsOnly then
    if s.turned then []
    else flagged.zipIdx.flatMap fun e =>
      if isHit e.2 then
        (s.all e.1.1.toArray (e.1.1.length + 2) 0).map fun p => head e.2 ":" ++ String.ofList p ++ "\n"
      else []
  else
    let kept := flagged.zipIdx.filter fun e => near e.2
    kept.zipIdx.map fun (e, k) =>
      let gap := k != 0 && (0 < v.before || 0 < v.after) &&
        (kept[k - 1]?).any fun p => p.2 + 1 != e.2
      (if gap then "--\n" else "") ++ head e.2 (if isHit e.2 then ":" else "-") ++ String.ofList e.1.1 ++ "\n"

/-- The files below a directory, in order. -/
def filesBelow (d : Disk) (dir : String) : List String :=
  match d.locate (path dir) with
  | .error _ => []
  | .ok p =>
    let found := (d.below p).filterMap fun e => match e.2 with
      | .file .. => some (Octets.ofString ("/".intercalate (e.1.drop p.length)))
      | _ => none
    (found.mergeSort Octets.le).map (inDirectory dir)

/-- The letters and long names of what a search is asked for. -/
def searchGrammar : Grammar :=
  { letters := "EFGPvcinqoxwlLshHe:f:m:A:B:C:rRabzUyTI"
    long := [("extended-regexp", "E"), ("fixed-strings", "F"), ("basic-regexp", "G"), ("perl-regexp", "P"),
      ("invert-match", "v"), ("count", "c"), ("ignore-case", "i"), ("line-number", "n"), ("quiet", "q"), ("silent", "q"),
      ("only-matching", "o"), ("line-regexp", "x"), ("word-regexp", "w"), ("files-with-matches", "l"),
      ("files-without-match", "L"), ("no-messages", "s"), ("no-filename", "h"), ("with-filename", "H"),
      ("regexp", "e"), ("file", "f"), ("max-count", "m"), ("after-context", "A"), ("before-context", "B"),
      ("context", "C"), ("recursive", "r"), ("text", "a")] }

/-- How a search is called. -/
def searchUsage : String := "Usage: grep [OPTION]... PATTERNS [FILE]...\nTry 'grep --help' for more information.\n"

/-- The complaint that a file cannot be looked through. -/
def unfound (c : ToolCall) (file : String) (r : DiskReason) : String := s!"{c.name}: {file}: {reasonText r}\n"

/-- Looks for lines that fit. -/
def grep (c : ToolCall) : ToolResult :=
  let c : ToolCall := { c with name := if c.tool = "grep" then c.name else "grep", arguments := (match c.tool with
    | "egrep" => ["-E"]
    | "fgrep" => ["-F"]
    | _ => []) ++ c.arguments.filter fun a => !(a.startsWith "--color") }
  let count := c.arguments.foldl (fun n a => n + a.length + 1) 1
  match searchGrammar.read count c.arguments with
  | .error words => complaining c.disk 2 s!"{c.name}: {words}\n{searchUsage}"
  | .ok o =>
    let given := o.texts "e"
    let listed := (o.texts "f").map fun f => (f, textOf c c.disk f)
    match listed.find? (fun f => f.2.toOption.isNone), given.isEmpty && listed.isEmpty, o.words with
    | some (f, .error r), _, _ => complaining c.disk 2 (unfound c f r)
    | _, true, [] => complaining c.disk 2 searchUsage
    | _, alone, words =>
      let texts := if alone then words.take 1 else
        given ++ listed.flatMap fun f => f.2.toOption.elim [] fun t => (lines t.1).1.map String.ofList
      let files := if alone then words.drop 1 else words
      let anyCase := o.has "i" || o.has "y"
      let read (text : String) : Except Regular.Fault Regular :=
        if o.has "F" then .ok (Regular.literal text.toList anyCase)
        else Regular.ofText ⟨o.has "E" || o.has "P", true, true, true⟩ text.toList anyCase
      match (texts.flatMap (·.splitOn "\n")).mapM read with
      | .error f =>
        complaining c.disk 2 s!"{c.name}: {f.message}\n"
      | .ok patterns =>
        let s : Search := ⟨patterns, o.has "x", o.has "w", o.has "v"⟩
        let recursive := o.has "r" || o.has "R"
        let number (l : String) : Nat := ((o.text? l).bind natural?).getD 0
        let around := number "C"
        let opened := if recursive && files.isEmpty then (filesBelow c.disk ".").map fun f => String.ofList (f.toList.drop 2)
          else if recursive then files.flatMap fun f => if isDirectory c.disk f then filesBelow c.disk f else [f]
          else if files.isEmpty then ["-"] else files
        let v : Shown :=
          { named := !o.has "h" && (o.has "H" || 1 < files.length || recursive), numbered := o.has "n", partsOnly := o.has "o"
            before := if (o.text? "B").isSome then number "B" else around
            after := if (o.text? "A").isSome then number "A" else around
            most := (o.text? "m").bind natural? }
        let quiet := o.has "q"
        let step (r : ToolResult × Bool × Bool) (file : String) : ToolResult × Bool × Bool :=
          let (r, found, failed) := r
          if quiet && found then (r, found, failed)
          else match textOf c c.disk file with
            | .error e =>
              let told := if o.has "s" then done c.disk else complaining c.disk 2 (unfound c file e)
              (followedBy r told, found, true)
            | .ok (text, used) =>
              let name := if file = "-" then "(standard input)" else file
              let ls := (lines text).1
              let hits := ls.countP s.selects
              let hits := v.most.elim hits (min hits)
              let shown :=
                if quiet then done c.disk
                else if o.has "l" then (if 0 < hits then printing c.disk (name ++ "\n") else done c.disk)
                else if o.has "L" then (if hits = 0 then printing c.disk (name ++ "\n") else done c.disk)
                else if o.has "c" then
                  printing c.disk ((if v.named then name ++ ":" else "") ++ toString hits ++ "\n")
                else if text.contains '\x00' && !o.has "a" then
                  (if 0 < hits then complaining c.disk 0 s!"{c.name}: {name}: binary file matches\n" else done c.disk)
                else printing c.disk (String.join (v.lines s name ls))
              (followedBy r { shown with used := max shown.used used }, found || 0 < hits, failed)
        let warned := (patterns.flatMap (·.idle)).map fun sign =>
          Effect.error s!"{c.name}: warning: {sign} at start of expression\n"
        let (r, found, failed) := opened.foldl step ({ disk := c.disk, effects := warned }, false, false)
        { r with code := if failed && !(quiet && found) then 2 else if found then 0 else 1 }

end VariantForge.Shell.Tool
