import VariantForge.Shell.Tool.Columns

/-!
Programs that show bytes in other forms, or tell whether files hold the same.
-/

namespace VariantForge.Shell.Tool

/-- The digits of the encoding with 64 letters. -/
def letters64 : List Char := "ABCDEFGHIJKLMNOPQRSTUVWXYZabcdefghijklmnopqrstuvwxyz0123456789+/".toList

/-- Bytes as letters, three of them as four letters. -/
def encode64 : List Nat → List Char
  | a :: b :: c :: rest =>
    let n := a * 65536 + b * 256 + c
    letter (n / 262144) :: letter (n / 4096) :: letter (n / 64) :: letter n :: encode64 rest
  | [a, b] =>
    let n := a * 65536 + b * 256
    [letter (n / 262144), letter (n / 4096), letter (n / 64), '=']
  | [a] =>
    let n := a * 65536
    [letter (n / 262144), letter (n / 4096), '=', '=']
  | [] => []
where
  /-- The letter of six bits. -/
  letter (n : Nat) : Char := (letters64[n % 64]?).getD 'A'

/-- The bytes of letters; the number of bits that are left over, and these bits, go on. -/
def decode64 : Nat → Nat → List Char → Option (List Char)
  | _, _, [] => some []
  | bits, held, c :: rest =>
    if c = '=' then (if rest.all (· == '=') then some [] else none)
    else match letters64.findIdx? (· == c) with
      | none => none
      | some n =>
        let held := held * 64 + n
        if bits < 2 then decode64 (bits + 6) held rest
        else (decode64 (bits - 2) (held % (1 <<< (bits - 2))) rest).map (Char.ofNat (held / (1 <<< (bits - 2)) % 256) :: ·)

/-- Shows bytes as letters, or letters as bytes. -/
def base64 (c : ToolCall) : ToolResult :=
  withOptions c { letters := "diw:", long := [("decode", "d"), ("ignore-garbage", "i"), ("wrap", "w")] } fun o =>
    let file := o.words.head?.getD "-"
    match textOf c c.disk file with
    | .error r => complaining c.disk 1 (unread c file r)
    | .ok (text, used) =>
      if o.has "d" then
        let cs := text.filter fun ch => ch != '\n' && (!o.has "i" || letters64.contains ch || ch == '=')
        match decode64 0 0 cs with
        | some found =>
          if cs.length % 4 = 0 then { printing c.disk (String.ofList found) with used }
          else { disk := c.disk, used, code := 1,
                 effects := [.output (String.ofList found), .error s!"{c.name}: invalid input\n"] }
        | none => { failing c c.disk 1 "invalid input" with used }
      else
        let cs := encode64 (text.map Char.toNat)
        let width := ((o.text? "w").bind natural?).getD 76
        let shown := if width = 0 then cs
          else ((folded width false cs.length cs).filter (!·.isEmpty)).flatMap (· ++ ['\n'])
        { printing c.disk (String.ofList shown) with used }

/-- How bytes are shown: as characters, or as numbers of some bytes each in some base, with or without a
sign. -/
inductive ByteForm where
  | characters
  | numbers (size base : Nat) (signed : Bool)

/-- How wide one item is. -/
def ByteForm.width : ByteForm → Nat
  | .characters => 4
  | .numbers size 16 _ => 2 * size + 1
  | .numbers size 8 _ => (8 * size + 2) / 3 + 1
  | .numbers size _ signed =>
    (match size with
      | 1 => 3
      | 2 => 5
      | 4 => 10
      | _ => 20) + (if signed then 2 else 1)

/-- How many bytes one item has. -/
def ByteForm.size : ByteForm → Nat
  | .characters => 1
  | .numbers size _ _ => size

/-- One item as it is shown. -/
def ByteForm.shown (f : ByteForm) (bytes : List Nat) : List Char :=
  let cs : List Char := match f with
    | .characters =>
      let n := bytes.headD 0
      let c := Char.ofNat n
      match c with
      | '\x00' => ['\\', '0']
      | '\x07' => ['\\', 'a']
      | '\x08' => ['\\', 'b']
      | '\x0c' => ['\\', 'f']
      | '\n' => ['\\', 'n']
      | '\r' => ['\\', 'r']
      | '\t' => ['\\', 't']
      | '\x0b' => ['\\', 'v']
      | c => if Quoting.isPrintable c then [c] else (Quoting.escape c).drop 1
    | .numbers size base signed =>
      let n := bytes.foldr (fun b n => n * 256 + b) 0
      let limit : Nat := 1 <<< (8 * size)
      if signed && limit ≤ 2 * n then '-' :: Nat.toDigits 10 (limit - n)
      else
        let ds := Nat.toDigits base n
        let least := if base = 10 then 1 else f.width - 1
        List.replicate (least - ds.length) '0' ++ ds
  List.replicate (f.width - cs.length) ' ' ++ cs

/-- Reads how bytes are shown. -/
def byteForm? (text : String) : Option ByteForm :=
  match text.toList with
  | ['c'] => some .characters
  | letter :: size =>
    let n := if size.isEmpty then some 4 else natural? (String.ofList size)
    match n, letter with
    | some n, 'x' => some (.numbers n 16 false)
    | some n, 'o' => some (.numbers n 8 false)
    | some n, 'u' => some (.numbers n 10 false)
    | some n, 'd' => some (.numbers n 10 true)
    | _, _ => none
  | [] => none

/-- Shows bytes as characters or as numbers. -/
def od (c : ToolCall) : ToolResult :=
  withOptions c { letters := "A:t:N:j:w::vcbxods", long := [("address-radix", "A"), ("format", "t"),
                    ("read-bytes", "N"), ("skip-bytes", "j"), ("width", "w"), ("output-duplicates", "v")] } fun o =>
    let forms := o.found.filterMap fun f => match f.1 with
      | "t" => byteForm? f.2
      | "c" => some .characters
      | "b" => some (.numbers 1 8 false)
      | "x" => some (.numbers 2 16 false)
      | "o" => some (.numbers 2 8 false)
      | "d" => some (.numbers 2 10 false)
      | "s" => some (.numbers 2 10 true)
      | _ => none
    let forms := if forms.isEmpty then [.numbers 2 8 false] else forms
    let (text, r) := wholeText c o.words (unread c)
    let bytes := (text.drop (((o.text? "j").bind natural?).getD 0)).map Char.toNat
    let bytes := match (o.text? "N").bind natural? with
      | some n => bytes.take n
      | none => bytes
    let start := ((o.text? "j").bind natural?).getD 0
    let perRow := match o.text? "w" with
      | some w => (natural? w).getD 32
      | none => 16
    let address (n : Nat) : List Char :=
      let digits (base width : Nat) : List Char :=
        let ds := Nat.toDigits base n
        List.replicate (width - ds.length) '0' ++ ds
      match o.text? "A" with
      | some "n" => []
      | some "d" => digits 10 7
      | some "x" => digits 16 6
      | _ => digits 8 7
    let perByte := if forms.length < 2 then 0 else (forms.map fun f => (f.width + f.size - 1) / f.size).foldl max 0
    let rec groups (n : Nat) : Nat → List Nat → List (List Nat)
      | 0, _ => []
      | _, [] => []
      | fuel + 1, bs => bs.take n :: groups n fuel (bs.drop n)
    let rows := groups (max perRow 1) bytes.length bytes
    let shown := rows.zipIdx.flatMap fun e =>
      let lines := forms.map fun f =>
        (groups f.size e.1.length e.1).flatMap fun item =>
          let cs := f.shown item
          List.replicate (perByte * f.size - cs.length) ' ' ++ cs
      let titles := address (start + perRow * e.2) :: List.replicate (forms.length - 1)
        (List.replicate (address 0).length ' ')
      let lines := (titles.zip lines).map fun t => t.1 ++ t.2
      let repeats := !o.has "v" && 0 < e.2 && (rows[e.2 - 1]?) == some e.1 && e.1.length = perRow
      if repeats then
        (if 1 < e.2 && (rows[e.2 - 2]?) == some e.1 then [] else ['*', '\n'])
      else lines.flatMap (· ++ ['\n'])
    let last := address (start + bytes.length)
    let close := if last.isEmpty then [] else last ++ ['\n']
    followedBy (printing c.disk (String.ofList (shown ++ close))) r

/-- Tells whether two files hold the same. -/
def cmp (c : ToolCall) : ToolResult :=
  withOptions c { letters := "slbn:i:", long := [("quiet", "s"), ("silent", "s")] } (fun o =>
    match o.words with
    | [] => misused c 2 "missing operand after 'cmp'"
    | a :: rest =>
      let b := rest.head?.getD "-"
      match textOf c c.disk a, textOf c c.disk b with
      | .error r, _ => complaining c.disk 2 s!"{c.name}: {a}: {reasonText r}\n"
      | _, .error r => complaining c.disk 2 s!"{c.name}: {b}: {reasonText r}\n"
      | .ok (x, m), .ok (y, n) =>
        let used := max m n
        match (x.zip y).findIdx? fun p => p.1 != p.2 with
        | some i =>
          let line := (x.take i).count '\n' + 1
          let told := if o.has "s" then "" else s!"{a} {b} differ: char {i + 1}, line {line}\n"
          { printing c.disk told with code := 1, used }
        | none =>
          if x.length = y.length then { done c.disk with used }
          else
            let (short, text) := if x.length < y.length then (a, x) else (b, y)
            let lines := text.count '\n'
            let where_ := if text.isEmpty then " which is empty"
              else if text.getLast? == some '\n' then s!" after byte {text.length}, line {lines}"
              else s!" after byte {text.length}, in line {lines + 1}"
            let told := if o.has "s" then [] else [.error s!"{c.name}: EOF on {short}{where_}\n"]
            { disk := c.disk, code := 1, used, effects := told }) 2

end VariantForge.Shell.Tool
