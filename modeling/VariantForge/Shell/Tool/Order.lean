import VariantForge.Shell.Tool.Contents
import VariantForge.Shell.Tool.Words

/-!
Programs that put lines in order, and that compare lines which are in order.
-/

namespace VariantForge.Shell.Tool

/-- How two texts are compared: as numbers, as numbers with units or with exponents, as versions, without
regard to case, blanks or other characters; and whether the order is turned around. -/
structure Ordering_ where
  numeric : Bool := false
  general : Bool := false
  units : Bool := false
  versions : Bool := false
  anyCase : Bool := false
  skipBlanks : Bool := false
  words : Bool := false
  reversed : Bool := false
  deriving DecidableEq

/-- The order that option letters ask for. -/
def Ordering_.ofLetters (cs : List Char) : Ordering_ :=
  let has (c : Char) : Bool := cs.contains c
  { numeric := has 'n', general := has 'g', units := has 'h', versions := has 'V', anyCase := has 'f'
    skipBlanks := has 'b', words := has 'd', reversed := has 'r' }

/-- A part of a line that is compared: from a character of a field to a character of another one. -/
structure Key where
  field : Nat
  char : Nat := 1
  skipsBlanks : Bool := false
  lastField : Option Nat := none
  lastChar : Nat := 0
  order : Option Ordering_ := none

/-- The number at the front of a text, after blanks. -/
def numberAt (cs : List Char) : Rat × List Char :=
  let cs := cs.dropWhile fun c => c == ' ' || c == '\t'
  let (negative, cs) := match cs with
    | '-' :: rest => (true, rest)
    | cs => (false, cs)
  let (whole, rest) := Number.spanDigits cs
  let (fraction, rest) := match rest with
    | '.' :: more => Number.spanDigits more
    | rest => ([], rest)
  let x := (Number.digitsValue (whole ++ fraction) : Rat) / (Nat.pow 10 fraction.length : Nat)
  (if negative then -x else x, rest)

/-- The rank of the unit that comes after a number. -/
def unitRank (cs : List Char) : Nat :=
  match cs.head? with
  | some 'K' | some 'k' => 1
  | some 'M' => 2
  | some 'G' => 3
  | some 'T' => 4
  | _ => 0

/-- The parts of a version: numbers, and texts between them. -/
def versionParts (cs : List Char) : List (Sum Nat (List Char)) :=
  (cs.splitBy fun a b => a.isDigit == b.isDigit).map fun p =>
    if p.head?.any Char.isDigit then .inl (Number.digitsValue p) else .inr p

/-- Compares versions. -/
def compareVersions : List (Sum Nat (List Char)) → List (Sum Nat (List Char)) → Ordering
  | [], [] => .eq
  | [], _ => .lt
  | _, [] => .gt
  | .inl a :: as, .inl b :: bs => (compare a b).then (compareVersions as bs)
  | .inr a :: as, .inr b :: bs => (compare a b).then (compareVersions as bs)
  | .inl _ :: _, .inr _ :: _ => .lt
  | .inr _ :: _, .inl _ :: _ => .gt

/-- Compares two texts. -/
def Ordering_.compare (o : Ordering_) (a b : List Char) : Ordering :=
  let plain (cs : List Char) : List Char :=
    let cs := if o.skipBlanks then cs.dropWhile fun c => c == ' ' || c == '\t' else cs
    let cs := if o.words then cs.filter fun c => c.isAlphanum || c == ' ' || c == '\t' else cs
    if o.anyCase then cs.map Char.toUpper else cs
  let r :=
    if o.numeric then (let x := (numberAt a).1; let y := (numberAt b).1; if x < y then .lt else if y < x then .gt else .eq)
    else if o.units then
      let (x, ra) := numberAt a
      let (y, rb) := numberAt b
      (Ord.compare (unitRank ra) (unitRank rb)).then (if x < y then .lt else if y < x then .gt else .eq)
    else if o.general then
      let value (cs : List Char) : Option Rat :=
        match Real.leading? Real.extended cs with
        | some (.finite negative x, _) => some (if negative then -x else x)
        | _ => none
      match value a, value b with
      | none, none => .eq
      | none, _ => .lt
      | _, none => .gt
      | some x, some y => if x < y then .lt else if y < x then .gt else .eq
    else if o.versions then compareVersions (versionParts a) (versionParts b)
    else Ord.compare (plain a) (plain b)
  if o.reversed then r.swap else r

/-- Where each field of a line begins and ends. -/
def fieldRanges (mark : Option Char) (line : List Char) : List (Nat × Nat) :=
  match mark with
  | some m =>
    ((line.splitOn m).foldl (fun (done, at_) f => ((at_, at_ + f.length) :: done, at_ + f.length + 1))
      (([] : List (Nat × Nat)), 0)).1.reverse
  | none =>
    let isBlank (c : Char) : Bool := c == ' ' || c == '\t'
    let runs := line.splitBy fun a b => isBlank a == isBlank b
    let rec pair : Nat → List (List Char) → List (Nat × Nat)
      | at_, a :: b :: rest =>
        if a.head?.any isBlank then (at_, at_ + a.length + b.length) :: pair (at_ + a.length + b.length) rest
        else (at_, at_ + a.length) :: pair (at_ + a.length) (b :: rest)
      | at_, [a] => [(at_, at_ + a.length)]
      | _, [] => []
    pair 0 runs

/-- The part of a line that a key stands for. -/
def Key.of (k : Key) (mark : Option Char) (line : List Char) : List Char :=
  let ranges := fieldRanges mark line
  let start := match ranges[k.field - 1]? with
    | none => line.length
    | some (from_, to_) =>
      let blanks := if k.skipsBlanks then
          ((line.drop from_).takeWhile fun c => c == ' ' || c == '\t').length
        else 0
      min (max to_ (from_ + blanks)) (from_ + blanks + (k.char - 1))
  let stop := match k.lastField with
    | none => line.length
    | some n =>
      match ranges[n - 1]? with
      | none => line.length
      | some (from_, to_) =>
        if k.lastChar = 0 then to_
        else
          let blanks := if k.skipsBlanks then
              ((line.drop from_).takeWhile fun c => c == ' ' || c == '\t').length
            else 0
          min to_ (from_ + blanks + k.lastChar)
  (line.take stop).drop start

/-- Reads a key. -/
def key (text : String) : Except String Key := do
  let bad (words : String) : Except String Key := .error s!"{words}: invalid field specification {q text}"
  let cs := text.toList
  let (ds, rest) := Number.spanDigits cs
  if ds.isEmpty then throw s!"invalid number at field start: invalid count at start of {q text}"
  let field := Number.digitsValue ds
  if field = 0 then bad "field number is zero"
  else
    let (char, rest) := match rest with
      | '.' :: more => let (ds, rest) := Number.spanDigits more; (Number.digitsValue ds, rest)
      | rest => (1, rest)
    if char = 0 then bad "character offset is zero"
    else
      let letters := rest.takeWhile "bdfghinMRrV".toList.contains
      let rest := rest.drop letters.length
      let (last, rest) : Option (Nat × Nat) × List Char := match rest with
        | ',' :: more =>
          let (ds, rest) := Number.spanDigits more
          let (ch, rest) := match rest with
            | '.' :: more => Number.spanDigits more
            | rest => ([], rest)
          (some (Number.digitsValue ds, Number.digitsValue ch), rest)
        | rest => (none, rest)
      let more := rest.takeWhile "bdfghinMRrV".toList.contains
      if more.length != rest.length then bad "stray character in field spec"
      else
        let all := letters ++ more
        return { field, char, skipsBlanks := all.contains 'b', lastField := last.map (·.1)
                 lastChar := (last.map (·.2)).getD 0
                 order := if all.isEmpty then none else some (Ordering_.ofLetters all) }

/-- Lines of which each differs from the one before. -/
def withoutRepeats (same : List Char → List Char → Bool) : List (List Char) → List (List Char)
  | a :: b :: rest => if same a b then withoutRepeats same (a :: rest) else a :: withoutRepeats same (b :: rest)
  | ls => ls
  termination_by ls => ls.length

/-- The first line that should come before the one above it, with its number. -/
def disorder? (before : List Char → List Char → Bool) : Nat → List (List Char) → Option (Nat × List Char)
  | n, a :: b :: rest => if before a b then disorder? before (n + 1) (b :: rest) else some (n + 1, b)
  | _, _ => none

/-- Puts lines in order. -/
def sort (c : ToolCall) : ToolResult :=
  withOptions c
    { letters := "bdfghinMRrVcCmo:k:t:suzS:T:", long := [("reverse", "r"), ("numeric-sort", "n"), ("unique", "u"),
        ("key", "k"), ("field-separator", "t"), ("stable", "s"), ("output", "o"), ("check", "c"),
        ("ignore-case", "f"), ("ignore-leading-blanks", "b"), ("version-sort", "V"), ("human-numeric-sort", "h"),
        ("general-numeric-sort", "g"), ("merge", "m")] } (fun o =>
    let order := Ordering_.ofLetters ((o.found.filter fun f => f.1 != "k").flatMap fun f => f.1.toList)
    let mark? := o.text? "t"
    let keys := (o.texts "k").mapM key
    match keys, mark? with
    | .error words, _ => failing c c.disk 2 words
    | .ok _, some "" => failing c c.disk 2 "empty tab"
    | .ok keys, mark? =>
      if mark?.any (1 < ·.length) && mark? != some "\\0" then
        failing c c.disk 2 ("multi-character tab " ++ q (mark?.getD ""))
      else
        let mark := mark?.bind (·.toList.head?)
        let inherited : Ordering_ := order
        let byKeys (a b : List Char) : Ordering :=
          if keys.isEmpty then order.compare a b
          else keys.foldl (fun r k => r.then (
            let o := k.order.getD inherited
            let k := if k.order.isNone then { k with skipsBlanks := inherited.skipBlanks } else k
            o.compare (k.of mark a) (k.of mark b))) .eq
        let plain := keys.isEmpty && { order with reversed := false } == {}
        let full (a b : List Char) : Ordering :=
          let r := byKeys a b
          if o.has "s" || o.has "u" || plain then r
          else r.then (if order.reversed then (compare a b).swap else compare a b)
        let files := if o.words.isEmpty then ["-"] else o.words
        match files.find? fun f => (textOf c c.disk f).toOption.isNone with
        | some f => match textOf c c.disk f with
          | .error .isDirectory => complaining c.disk 2 s!"{c.name}: read failed: {Quoting.told f}: Is a directory\n"
          | .error r => complaining c.disk 2 s!"{c.name}: cannot read: {Quoting.told f}: {reasonText r}\n"
          | .ok _ => done c.disk
        | none =>
          let texts := files.filterMap fun f => (textOf c c.disk f).toOption
          let used := texts.foldl (fun n t => max n t.2) 0
          let all := texts.flatMap fun t => (lines t.1).1
          if o.has "c" || o.has "C" then
            let inOrder (a b : List Char) : Bool :=
              if o.has "u" then byKeys a b == .lt else full a b != .gt
            match disorder? inOrder 1 all with
            | none => { done c.disk with used }
            | some (n, l) =>
              let name := files.head?.getD "-"
              { disk := c.disk, code := 1, used, effects := if o.has "C" then [] else
                  [.error s!"{c.name}: {name}:{n}: disorder: {String.ofList l}\n"] }
          else
            let sorted := all.mergeSort fun a b => full a b != .gt
            let sorted := if o.has "u" then withoutRepeats (fun a b => byKeys a b == .eq) sorted else sorted
            match o.text? "o" with
            | none => { printing c.disk (joinLines sorted) with used }
            | some file =>
              match save c c.disk file false (Octets.bytes (joinLines sorted)) with
              | .ok d => { done d with used }
              | .error e => failing c c.disk 2 s!"open failed: {Quoting.told file}: {e.text}") 2

/-- Lines that are the same one after the other, put together. -/
def grouped (same : List Char → List Char → Bool) (ls : List (List Char)) : List (List (List Char)) :=
  (ls.foldl (fun gs l => match gs with
    | (first :: rest) :: more => if same first l then (first :: (rest ++ [l])) :: more else [l] :: gs
    | _ => [l] :: gs) []).reverse

/-- Leaves out lines that come again, or shows which do. -/
def uniq (c : ToolCall) : ToolResult :=
  withOptions c
    { letters := "cdDuif:s:w:z", long := [("count", "c"), ("repeated", "d"), ("unique", "u"), ("ignore-case", "i"),
        ("skip-fields", "f"), ("skip-chars", "s"), ("check-chars", "w"), ("all-repeated", "D")] } fun o =>
    match o.words with
    | _ :: _ :: extra :: _ => misused c 1 s!"extra operand {q extra}"
    | words =>
      let file := words.head?.getD "-"
      let number (l : String) : Nat := ((o.text? l).bind natural?).getD 0
      let isBlank (ch : Char) : Bool := ch == ' ' || ch == '\t'
      let rec skip : Nat → List Char → List Char
        | 0, l => l
        | n + 1, l => skip n ((l.dropWhile isBlank).dropWhile (!isBlank ·))
      let part (l : List Char) : List Char :=
        let l := (skip (number "f") l).drop (number "s")
        let l := if (o.text? "w").isSome then l.take (number "w") else l
        if o.has "i" then l.map Char.toUpper else l
      match textOf c c.disk file with
      | .error r => complaining c.disk 1 (unread c file r)
      | .ok (text, used) =>
        let groups := grouped (fun a b => part a == part b) (lines text).1
        let shown := groups.flatMap fun g =>
          let n := g.length
          if o.has "D" then (if 1 < n then g else [])
          else if (o.has "d" && n = 1) || (o.has "u" && 1 < n) then []
          else (g.take 1).map fun l => if o.has "c" then rightmost 7 n ++ ' ' :: l else l
        match words with
        | [_, target] =>
          match save c c.disk target false (Octets.bytes (joinLines shown)) with
          | .ok d => { done d with used }
          | .error e => failing c c.disk 1 s!"{Quoting.told target}: {e.text}"
        | _ => { printing c.disk (joinLines shown) with used }

/-- The lines that two lists in order have, each with the column where it is shown. -/
def merged : Nat → List (List Char) → List (List Char) → List (Nat × List Char)
  | 0, _, _ => []
  | _, [], bs => bs.map (1, ·)
  | _, as, [] => as.map (0, ·)
  | fuel + 1, a :: as, b :: bs =>
    match compare a b with
    | .lt => (0, a) :: merged fuel as (b :: bs)
    | .gt => (1, b) :: merged fuel (a :: as) bs
    | .eq => (2, a) :: merged fuel as bs

/-- Shows which lines two files in order have. -/
def comm (c : ToolCall) : ToolResult :=
  withOptions c { letters := "123z", long := [("check-order", "z"), ("nocheck-order", "z")] } fun o =>
    match o.words with
    | [] => misused c 1 "missing operand"
    | [a] => misused c 1 s!"missing operand after {q a}"
    | [a, b] =>
      match textOf c c.disk a, textOf c c.disk b with
      | .error r, _ => complaining c.disk 1 (unread c a r)
      | _, .error r => complaining c.disk 1 (unread c b r)
      | .ok (x, m), .ok (y, n) =>
        let first := (lines x).1
        let second := (lines y).1
        let indent (k : Nat) : List Char :=
          List.replicate ((List.range k).filter fun i => !o.has (toString (i + 1))).length '\t'
        let rows := (merged (first.length + second.length + 1) first second).filterMap fun r =>
          if o.has (toString (r.1 + 1)) then none else some (indent r.1 ++ r.2)
        let unsorted (ls : List (List Char)) : Bool := (disorder? (fun a b => compare a b != .gt) 1 ls).isSome
        let told := (if unsorted first then s!"{c.name}: file 1 is not in sorted order\n" else "") ++
          (if unsorted second then s!"{c.name}: file 2 is not in sorted order\n" else "")
        let told := if told.isEmpty then "" else told ++ s!"{c.name}: input is not in sorted order\n"
        { disk := c.disk, used := max m n, code := if told.isEmpty then 0 else 1
          effects := [.output (joinLines rows), .error told] }
    | words => misused c 1 ("extra operand " ++ q (words[2]?.getD ""))

end VariantForge.Shell.Tool
