import VariantForge.Shell.Tool.Files
import VariantForge.Shell.Tool.Regular

/-!
Expressions that are words: numbers that are reckoned with, texts that are compared or taken apart.
-/

namespace VariantForge.Shell.Tool

/-- What is wrong with an expression. -/
inductive ExpressionFault where
  | missingAfter (word : String)
  | unexpected (word : String)
  | expectedClose (word : Option String)
  | unexpectedClose
  | noInteger
  | zeroDivisor
  | pattern (fault : Regular.Fault)

/-- The fault in words. -/
def ExpressionFault.message : ExpressionFault → String
  | .missingAfter w => s!"syntax error: missing argument after {q w}"
  | .unexpected w => s!"syntax error: unexpected argument {q w}"
  | .expectedClose (some w) => s!"syntax error: expecting ')' instead of {q w}"
  | .expectedClose none => "syntax error: expecting ')'"
  | .unexpectedClose => "syntax error: unexpected ')'"
  | .noInteger => "non-integer argument"
  | .zeroDivisor => "division by zero"
  | .pattern f => f.message

namespace Expression

/-- Evaluating from a list of words, of which the last one before is kept. -/
abbrev Eval := StateT (String × List String) (Except ExpressionFault)

/-- The number that a text is. -/
def integer? (s : String) : Option Int :=
  match s.toList with
  | '-' :: cs => (natural? (String.ofList cs)).map fun n => -(n : Int)
  | _ => (natural? s).map fun n => (n : Int)

/-- Whether a value counts as nothing. -/
def isNull (s : String) : Bool :=
  let cs := match s.toList with
    | '-' :: cs => cs
    | cs => cs
  s.isEmpty || (!cs.isEmpty && cs.all (· == '0'))

/-- The next word, if there is one. -/
def peek : Eval (Option String) := return (← get).2.head?

/-- Takes the next word. -/
def take : Eval String := do
  let (last, ws) ← get
  match ws with
  | [] => throw (.missingAfter last)
  | w :: rest =>
    set (w, rest)
    return w

/-- What a text has that fits a pattern from its beginning: the first group, or how many characters fit. -/
def fitting (text pattern : String) : Eval String := do
  match Regular.ofText {} pattern.toList with
  | .error f => throw (.pattern f)
  | .ok r =>
    let cs := text.toList.toArray
    match r.fitAt? cs 0 with
    | some f => return if 0 < r.groups then String.ofList (f.group cs 1) else toString (f.stop - f.start)
    | none => return if 0 < r.groups then "" else "0"

/-- Reckons with two numbers. -/
def reckon (op a b : String) : Eval String := do
  match integer? a, integer? b with
  | some m, some n =>
    match op with
    | "+" => return toString (m + n)
    | "-" => return toString (m - n)
    | "*" => return toString (m * n)
    | _ =>
      if n = 0 then throw .zeroDivisor
      else return toString (if op = "/" then m.tdiv n else m.tmod n)
  | _, _ => throw .noInteger

/-- Compares two numbers, or two texts where one is no number. -/
def compared (op a b : String) : String :=
  let r : Ordering := match integer? a, integer? b with
    | some m, some n => compare m n
    | _, _ => compare a.toList b.toList
  let yes : Bool := match op with
    | "<" => r == .lt
    | "<=" => r != .gt
    | "=" | "==" => r == .eq
    | "!=" => r != .eq
    | ">=" => r != .lt
    | _ => r == .gt
  if yes then "1" else "0"

/-- The signs of each level, the loosest first. -/
def signs : List (List String) :=
  [["|"], ["&"], ["<", "<=", "=", "==", "!=", ">=", ">"], ["+", "-"], ["*", "/", "%"], [":"]]

/-- What a sign makes of two values. -/
def apply (op a b : String) : Eval String :=
  match op with
  | "|" => return if !isNull a then a else if isNull b then "0" else b
  | "&" => return if isNull a || isNull b then "0" else a
  | ":" => fitting a b
  | "+" | "-" | "*" | "/" | "%" => reckon op a b
  | op => return compared op a b

mutual

/-- The value of an expression with signs of some level and tighter ones. -/
def level : Nat → List (List String) → Eval String
  | 0, _ => return ""
  | fuel + 1, [] => simple fuel
  | fuel + 1, ops :: tighter => do
    let a ← level fuel tighter
    onward fuel ops tighter a

/-- Goes on after a value with signs of a level. -/
def onward : Nat → List String → List (List String) → String → Eval String
  | 0, _, _, a => return a
  | fuel + 1, ops, tighter, a => do
    match ← peek with
    | some op =>
      if ops.contains op then
        let _ ← take
        let b ← level fuel tighter
        onward fuel ops tighter (← apply op a b)
      else return a
    | none => return a

/-- The value of a word, of brackets, or of a word that takes others after it. -/
def simple : Nat → Eval String
  | 0 => return ""
  | fuel + 1 => do
    let w ← take
    match w with
    | "+" => take
    | "(" =>
      let a ← level fuel signs
      let (last, ws) ← get
      match ws with
      | ")" :: rest =>
        set (")", rest)
        return a
      | [] => throw (.missingAfter last)
      | w :: _ => throw (.expectedClose (some w))
    | ")" => throw .unexpectedClose
    | "length" => return toString (← simple fuel).length
    | "match" => do
      let text ← simple fuel
      fitting text (← simple fuel)
    | "index" => do
      let text ← simple fuel
      let set ← simple fuel
      return toString ((text.toList.findIdx? set.toList.contains).elim 0 (· + 1))
    | "substr" => do
      let text ← simple fuel
      let start ← simple fuel
      let size ← simple fuel
      match integer? start, integer? size with
      | some s, some n =>
        if s < 1 || n < 1 then return ""
        return String.ofList ((text.toList.drop (s.toNat - 1)).take n.toNat)
      | _, _ => return ""
    | w => return w

end

end Expression

/-- Prints the value of an expression. -/
def expr (c : ToolCall) : ToolResult :=
  let words := if c.arguments.head? == some "--" then c.arguments.drop 1 else c.arguments
  if words.isEmpty then misused c 2 "missing operand"
  else match (Expression.level (16 * words.length + 16) Expression.signs).run ("", words) with
    | .error f => failing c c.disk 2 (match f with
      | .missingAfter w => if words.contains "(" && w != "(" && !Expression.signs.any (·.contains w) then
          s!"syntax error: expecting ')' after {q w}" else f.message
      | f => f.message)
    | .ok (_, _, w :: _) => failing c c.disk 2 (ExpressionFault.unexpected w).message
    | .ok (value, _, []) =>
      { printing c.disk (value ++ "\n") with code := if Expression.isNull value then 1 else 0 }

end VariantForge.Shell.Tool
