import VariantForge.Number.Decimal
import VariantForge.Shell.Escape
import VariantForge.Shell.Tool.Awk.Script

/-!
Reading scripts of patterns and actions.
-/

namespace VariantForge.Shell.Awk

/-- A piece of a script. -/
inductive Token where
  | number (text : List Char)
  | text (cs : List Char)
  | pattern (cs : List Char)
  | name (s : String)
  | callee (s : String)
  | word (s : String)
  | sign (s : String)
  | newline
  deriving DecidableEq, Inhabited

/-- The words that a script cannot use as names. -/
def keywords : List String :=
  ["BEGIN", "END", "function", "func", "if", "else", "while", "for", "do", "break", "continue", "next", "nextfile",
    "exit", "return", "delete", "in", "getline", "print", "printf"]

/-- The functions that every script has. -/
def builtins : List String :=
  ["length", "substr", "index", "split", "sub", "gsub", "match", "sprintf", "sin", "cos", "atan2", "exp", "log",
    "sqrt", "int", "rand", "srand", "tolower", "toupper", "close", "system", "fflush"]

/-- Signs, the longer ones first. -/
def signs : List String :=
  ["&&", "||", "==", "!=", "<=", ">=", ">>", "++", "--", "+=", "-=", "*=", "/=", "%=", "^=", "!~", "+",
    "-", "*", "/", "%", "^", "!", "~", "<", ">", "?", ":", "=", "$", "(", ")", "[", "]", "\x7b", "\x7d", ";", ",", "|"]

/-- A text in quotes, up to the quote that ends it. -/
def quoted : Nat → List Char → List Char → Option (List Char × List Char)
  | 0, _, _ => none
  | _, _, [] => none
  | _, done, '"' :: rest => some (done.reverse, rest)
  | _, _, '\n' :: _ => none
  | fuel + 1, done, '\\' :: c :: rest =>
    match c with
    | '"' => quoted fuel ('"' :: done) rest
    | '/' => quoted fuel ('/' :: '\\' :: done) rest
    | '\n' => quoted fuel done rest
    | c =>
      if Escape.isOctal c then
        let (b, rest) := Escape.octal 3 (c :: rest)
        quoted fuel (b :: done) rest
      else match (if c = 'e' then none else Escape.letter? c) with
        | some b => quoted fuel (b :: done) rest
        | none => quoted fuel (c :: '\\' :: done) rest
  | fuel + 1, done, c :: rest => quoted fuel (c :: done) rest

/-- An expression between slashes, up to the slash that ends it; `inSet` says that it is in a set. -/
def slashed : Nat → Bool → List Char → List Char → Option (List Char × List Char)
  | 0, _, _, _ => none
  | _, _, _, [] => none
  | _, _, _, '\n' :: _ => none
  | fuel + 1, inSet, done, '\\' :: '/' :: rest => slashed fuel inSet ('/' :: done) rest
  | fuel + 1, inSet, done, '\\' :: c :: rest => slashed fuel inSet (c :: '\\' :: done) rest
  | fuel + 1, inSet, done, c :: rest =>
    if c = '/' ∧ !inSet then some (done.reverse, rest)
    else if c = '[' ∧ !inSet then
      match rest with
      | '^' :: ']' :: rest => slashed fuel true (']' :: '^' :: c :: done) rest
      | ']' :: rest => slashed fuel true (']' :: c :: done) rest
      | rest => slashed fuel true (c :: done) rest
    else slashed fuel (inSet && c != ']') (c :: done) rest

/-- Whether an expression may end with a piece, so that a slash after it divides. -/
def endsOperand : Option Token → Bool
  | some (.number _) | some (.text _) | some (.pattern _) | some (.name _) => true
  | some (.word w) => builtins.contains w
  | some (.sign s) => [")", "]", "$", "++", "--"].contains s
  | _ => false

/-- The pieces of a script, each with its line; a fault tells the line and what is wrong. -/
def tokens : Nat → Nat → Option Token → List Char → Except (Nat × String) (List (Token × Nat))
  | 0, _, _, _ => .ok []
  | _, _, _, [] => .ok []
  | fuel + 1, line, last, c :: rest =>
    let go (t : Token) (rest : List Char) : Except (Nat × String) (List (Token × Nat)) :=
      (tokens fuel line (some t) rest).map ((t, line) :: ·)
    if c = '\n' then (tokens fuel (line + 1) (some .newline) rest).map ((.newline, line) :: ·)
    else if c = ' ' ∨ c = '\t' ∨ c = '\r' then tokens fuel line last rest
    else if c = '\\' ∧ rest.head? = some '\n' then tokens fuel (line + 1) last (rest.drop 1)
    else if c = '#' then tokens fuel line last (rest.dropWhile (· != '\n'))
    else if c = '"' then
      match quoted (rest.length + 1) [] rest with
      | some (cs, rest) => go (.text cs) rest
      | none => .error (line, "runaway string constant \"" ++ String.ofList (rest.takeWhile (· != '\n')) ++ " ...")
    else if c = '/' ∧ !endsOperand last then
      match slashed (rest.length + 1) false [] rest with
      | some (cs, rest) => go (.pattern cs) rest
      | none => .error (line, "runaway regular expression /" ++ String.ofList (rest.takeWhile (· != '\n')) ++ " ...")
    else if c.isDigit ∨ (c = '.' ∧ rest.head?.any Char.isDigit) then
      let whole := (c :: rest).takeWhile Char.isDigit
      let after := (c :: rest).drop whole.length
      let point := match after with
        | '.' :: more => '.' :: more.takeWhile Char.isDigit
        | _ => []
      let after := after.drop point.length
      let exponent := match after with
        | e :: more =>
          if e = 'e' ∨ e = 'E' then
            let sign := more.takeWhile fun c => c == '+' || c == '-'
            let ds := (more.drop sign.length).takeWhile Char.isDigit
            if sign.length ≤ 1 && !ds.isEmpty then e :: sign ++ ds else []
          else []
        | [] => []
      go (.number (whole ++ point ++ exponent)) (after.drop exponent.length)
    else if c.isAlpha ∨ c = '_' then
      let word := (c :: rest).takeWhile Regular.isWord
      let after := (c :: rest).drop word.length
      let s := String.ofList word
      if keywords.contains s || builtins.contains s then go (.word s) after
      else if after.head? = some '(' then go (.callee s) after
      else go (.name s) after
    else match signs.find? fun s => s.toList.isPrefixOf (c :: rest) with
      | some s => go (.sign s) ((c :: rest).drop s.length)
      | none => .error (line, s!"unexpected character '{c}'")

/-- Reading from the pieces of a script. -/
abbrev Read := StateT (List (Token × Nat)) (Except (Nat × String))

/-- A piece as it is shown. -/
def Token.shown : Token → String
  | .number cs | .text cs => String.ofList cs
  | .pattern cs => "/" ++ String.ofList cs ++ "/"
  | .name s | .callee s | .word s | .sign s => s
  | .newline => "end of line"

/-- Ends the reading because of the next piece. -/
def unexpected : Read α := do
  match ← get with
  | [] => throw (0, "missing \x7d near end of file")
  | (.sign ")", line) :: _ => throw (line, "extra ')'")
  | (.sign "\x7d", line) :: _ => throw (line, "syntax error at or near \x7d")
  | (t, line) :: _ => throw (line, "syntax error at or near " ++ t.shown)

/-- The next piece, if there is one. -/
def peek : Read (Option Token) := return (← get).head?.map (·.1)

/-- Goes past the next piece. -/
def drop : Read Unit := modify (·.drop 1)

/-- Goes past a piece if it comes next, and says whether it did. -/
def accept (t : Token) : Read Bool := do
  if (← peek) == some t then
    drop
    return true
  else return false

/-- Goes past a piece that must come next. -/
def expect (t : Token) : Read Unit := do if !(← accept t) then unexpected

/-- Goes past line ends. -/
def skipLines : Read Unit := modify (·.dropWhile (·.1 == .newline))

/-- Goes past line ends and semicolons. -/
def skipBreaks : Read Unit := modify (·.dropWhile fun t => t.1 == .newline || t.1 == .sign ";")

/-- The sign of an assignment. -/
def assignment? : Option Token → Option (Option Arithmetic)
  | some (.sign "=") => some none
  | some (.sign "+=") => some (some .add)
  | some (.sign "-=") => some (some .subtract)
  | some (.sign "*=") => some (some .multiply)
  | some (.sign "/=") => some (some .divide)
  | some (.sign "%=") => some (some .remainder)
  | some (.sign "^=") | some (.sign "**=") => some (some .power)
  | _ => none

/-- Whether an expression can be assigned to. -/
def isPlace : Expr → Bool
  | .variable _ | .field _ | .element .. => true
  | _ => false

/-- The sign of a comparison. A sign that sends output to a file is none where things are printed. -/
def comparison? (printing : Bool) : Option Token → Option Comparison
  | some (.sign "<") => some .less
  | some (.sign "<=") => some .lessEqual
  | some (.sign "==") => some .equal
  | some (.sign "!=") => some .notEqual
  | some (.sign ">") => if printing then none else some .greater
  | some (.sign ">=") => some .greaterEqual
  | _ => none

/-- Whether a piece may begin an operand that is joined to the one before it. -/
def beginsOperand : Option Token → Bool
  | some (.number _) | some (.text _) | some (.pattern _) | some (.name _) | some (.callee _) => true
  | some (.word w) => builtins.contains w
  | some (.sign s) => ["$", "!", "(", "-", "+", "++", "--"].contains s
  | _ => false

/-- Where an expression stands: where `>` sends output to a file, and where `in` does not test an array. -/
structure Context where
  printing : Bool := false
  plain : Bool := false

/-- The regular expression of a text. -/
def regular (cs : List Char) : Read Regular :=
  match Regular.ofText awkForm cs with
  | .ok r => return r
  | .error f => throw (1, "regular expression compile failed (" ++ f.message ++ ")\n" ++ String.ofList cs)

mutual

/-- Reads an expression. -/
def expr : Nat → Context → Read Expr
  | 0, _ => unexpected
  | fuel + 1, c => do
    let test ← eitherExpr fuel c
    match ← peek with
    | some (.sign "?") =>
      drop
      skipLines
      let yes ← expr fuel c
      skipLines
      expect (.sign ":")
      skipLines
      return .conditional test yes (← expr fuel c)
    | t =>
      match assignment? t with
      | some op =>
        if isPlace test then
          drop
          skipLines
          return .assign op test (← expr fuel c)
        else unexpected
      | none => return test

/-- Reads conditions of which one must hold. -/
def eitherExpr : Nat → Context → Read Expr
  | 0, _ => unexpected
  | fuel + 1, c => do
    let a ← bothExpr fuel c
    moreEither fuel c a

/-- Goes on after a condition. -/
def moreEither : Nat → Context → Expr → Read Expr
  | 0, _, a => return a
  | fuel + 1, c, a => do
    if ← accept (.sign "||") then
      skipLines
      moreEither fuel c (.either a (← bothExpr fuel c))
    else return a

/-- Reads conditions that must all hold. -/
def bothExpr : Nat → Context → Read Expr
  | 0, _ => unexpected
  | fuel + 1, c => do
    let a ← insideExpr fuel c
    moreBoth fuel c a

/-- Goes on after a condition. -/
def moreBoth : Nat → Context → Expr → Read Expr
  | 0, _, a => return a
  | fuel + 1, c, a => do
    if ← accept (.sign "&&") then
      skipLines
      moreBoth fuel c (.both a (← insideExpr fuel c))
    else return a

/-- Reads a test of an array. -/
def insideExpr : Nat → Context → Read Expr
  | 0, _ => unexpected
  | fuel + 1, c => do
    let a ← fittingExpr fuel c
    moreInside fuel c a

/-- Goes on after a test of an array. -/
def moreInside : Nat → Context → Expr → Read Expr
  | 0, _, a => return a
  | fuel + 1, c, a => do
    match (← get) with
    | (.word "in", _) :: (.name array, _) :: rest =>
      if c.plain then return a
      set rest
      let subscripts := match a with
        | .group es => es
        | e => [e]
      moreInside fuel c (.inside subscripts array)
    | _ => return a

/-- Reads a test by a regular expression. -/
def fittingExpr : Nat → Context → Read Expr
  | 0, _ => unexpected
  | fuel + 1, c => do
    let a ← comparedExpr fuel c
    moreFitting fuel c a

/-- Goes on after a test by a regular expression. -/
def moreFitting : Nat → Context → Expr → Read Expr
  | 0, _, a => return a
  | fuel + 1, c, a => do
    if ← accept (.sign "~") then moreFitting fuel c (.fits false a (← comparedExpr fuel c))
    else if ← accept (.sign "!~") then moreFitting fuel c (.fits true a (← comparedExpr fuel c))
    else return a

/-- Reads a comparison. -/
def comparedExpr : Nat → Context → Read Expr
  | 0, _ => unexpected
  | fuel + 1, c => do
    let a ← joinedExpr fuel c
    match comparison? c.printing (← peek) with
    | some op =>
      drop
      return .compare op a (← joinedExpr fuel c)
    | none => return a

/-- Reads texts that are joined. -/
def joinedExpr : Nat → Context → Read Expr
  | 0, _ => unexpected
  | fuel + 1, c => do
    let a ← sum fuel c
    moreJoined fuel c a

/-- Goes on after a text. -/
def moreJoined : Nat → Context → Expr → Read Expr
  | 0, _, a => return a
  | fuel + 1, c, a => do
    if beginsOperand (← peek) then moreJoined fuel c (.join a (← sum fuel c)) else return a

/-- Reads sums and differences. -/
def sum : Nat → Context → Read Expr
  | 0, _ => unexpected
  | fuel + 1, c => do
    let a ← product fuel c
    moreSum fuel c a

/-- Goes on after a sum. -/
def moreSum : Nat → Context → Expr → Read Expr
  | 0, _, a => return a
  | fuel + 1, c, a => do
    if ← accept (.sign "+") then moreSum fuel c (.arithmetic .add a (← product fuel c))
    else if ← accept (.sign "-") then moreSum fuel c (.arithmetic .subtract a (← product fuel c))
    else return a

/-- Reads products and quotients. -/
def product : Nat → Context → Read Expr
  | 0, _ => unexpected
  | fuel + 1, c => do
    let a ← signed fuel c
    moreProduct fuel c a

/-- Goes on after a product. -/
def moreProduct : Nat → Context → Expr → Read Expr
  | 0, _, a => return a
  | fuel + 1, c, a => do
    if ← accept (.sign "*") then moreProduct fuel c (.arithmetic .multiply a (← signed fuel c))
    else if ← accept (.sign "/") then moreProduct fuel c (.arithmetic .divide a (← signed fuel c))
    else if ← accept (.sign "%") then moreProduct fuel c (.arithmetic .remainder a (← signed fuel c))
    else return a

/-- Reads an expression with signs before it. -/
def signed : Nat → Context → Read Expr
  | 0, _ => unexpected
  | fuel + 1, c => do
    if ← accept (.sign "!") then return .not (← signed fuel c)
    else if ← accept (.sign "-") then return .minus (← signed fuel c)
    else if ← accept (.sign "+") then return .plus (← signed fuel c)
    else raised fuel c

/-- Reads a power. -/
def raised : Nat → Context → Read Expr
  | 0, _ => unexpected
  | fuel + 1, c => do
    let a ← stepped fuel c
    if ← accept (.sign "^") then return .arithmetic .power a (← signedPower fuel c) else return a

/-- Reads what a number is raised to. -/
def signedPower : Nat → Context → Read Expr
  | 0, _ => unexpected
  | fuel + 1, c => do
    if ← accept (.sign "-") then return .minus (← signedPower fuel c)
    else if ← accept (.sign "+") then return .plus (← signedPower fuel c)
    else raised fuel c

/-- Reads an expression that is counted up or down. -/
def stepped : Nat → Context → Read Expr
  | 0, _ => unexpected
  | fuel + 1, c => do
    if ← accept (.sign "++") then return .step true false (← stepped fuel c)
    else if ← accept (.sign "--") then return .step true true (← stepped fuel c)
    else
      let a ← simple fuel c
      if !isPlace a then return a
      else if ← accept (.sign "++") then return .step false false a
      else if ← accept (.sign "--") then return .step false true a
      else return a

/-- Reads an operand. -/
def simple : Nat → Context → Read Expr
  | 0, _ => unexpected
  | fuel + 1, c => do
    match ← get with
    | [] => unexpected
    | (t, _) :: rest =>
      let go (rest : List (Token × Nat)) : Read Unit := set rest
      match t with
      | .number cs =>
        go rest
        return .number cs
      | .text cs =>
        go rest
        return .text cs
      | .pattern cs =>
        go rest
        return .pattern (← regular cs)
      | .name s =>
        go rest
        if ← accept (.sign "[") then
          let es ← exprs fuel {}
          expect (.sign "]")
          return .element s es
        else return .variable s
      | .callee s =>
        go (rest.drop 1)
        let es ← arguments fuel
        return .call s es
      | .word "getline" =>
        go rest
        let target ← match ← peek with
          | some (.name _) | some (.sign "$") => do pure (some (← simple fuel c))
          | _ => pure none
        if ← accept (.sign "<") then return .nextLine target (some (← simple fuel c))
        else return .nextLine target none
      | .word w =>
        if !builtins.contains w then unexpected
        go rest
        if ← accept (.sign "(") then return .builtin w (← arguments fuel)
        else if w = "length" then return .builtin w []
        else unexpected
      | .sign "$" =>
        go rest
        let inner ← if ← accept (.sign "++") then pure (Expr.step true false (← simple fuel c))
          else if ← accept (.sign "--") then pure (Expr.step true true (← simple fuel c))
          else if ← accept (.sign "-") then pure (Expr.minus (← simple fuel c))
          else simple fuel c
        return .field inner
      | .sign "(" =>
        go rest
        let es ← exprs fuel {}
        expect (.sign ")")
        return .group es
      | .sign "-" =>
        go rest
        return .minus (← simple fuel c)
      | _ => unexpected

/-- Reads expressions with commas between them. -/
def exprs : Nat → Context → Read (List Expr)
  | 0, _ => unexpected
  | fuel + 1, c => do
    let e ← expr fuel c
    if ← accept (.sign ",") then
      skipLines
      return e :: (← exprs fuel c)
    else return [e]

/-- Reads the arguments of a function, up to the bracket that ends them. -/
def arguments : Nat → Read (List Expr)
  | 0 => unexpected
  | fuel + 1 => do
    skipLines
    if ← accept (.sign ")") then return []
    let es ← exprs fuel {}
    skipLines
    expect (.sign ")")
    return es

end

/-- Reads the end of a statement. -/
def statementEnd : Read Unit := do
  match ← peek with
  | some (.sign ";") | some .newline => drop
  | some (.sign "\x7d") | none => return
  | _ => unexpected

/-- Reads what is printed and where it is printed to. -/
def printed (fuel : Nat) : Read (List Expr × Option Target) := do
  let es ← match ← peek with
    | some (.sign ";") | some .newline | some (.sign "\x7d") | some (.sign ">") | some (.sign ">>")
    | some (.sign "|") | none => pure []
    | _ => exprs fuel { printing := true }
  let es := match es with
    | [.group inner] => inner
    | es => es
  if ← accept (.sign ">") then return (es, some (.write (← expr fuel { printing := true })))
  else if ← accept (.sign ">>") then return (es, some (.extend_ (← expr fuel { printing := true })))
  else if ← accept (.sign "|") then return (es, some (.pipe (← joinedExpr fuel { printing := true })))
  else return (es, none)

mutual

/-- Reads a statement. -/
def statement : Nat → Read Statement
  | 0 => unexpected
  | fuel + 1 => do
    match ← peek with
    | some (.sign "\x7b") =>
      drop
      let ss ← statements fuel
      expect (.sign "\x7d")
      return .block ss
    | some (.sign ";") =>
      drop
      return .block []
    | some (.word "if") =>
      drop
      expect (.sign "(")
      let test ← expr fuel {}
      expect (.sign ")")
      skipLines
      let yes ← statement fuel
      let before ← get
      skipBreaks
      if ← accept (.word "else") then
        skipLines
        return .choice test yes (some (← statement fuel))
      else
        set before
        return .choice test yes none
    | some (.word "while") =>
      drop
      expect (.sign "(")
      let test ← expr fuel {}
      expect (.sign ")")
      if ← accept (.sign ";") then return .while_ test (.block [])
      skipLines
      return .while_ test (← statement fuel)
    | some (.word "do") =>
      drop
      skipLines
      let body ← statement fuel
      skipBreaks
      expect (.word "while")
      expect (.sign "(")
      let test ← expr fuel {}
      expect (.sign ")")
      statementEnd
      return .doWhile body test
    | some (.word "for") =>
      drop
      expect (.sign "(")
      match ← get with
      | (.name v, _) :: (.word "in", _) :: (.name array, _) :: (.sign ")", _) :: rest =>
        set rest
        skipLines
        return .forIn v array (← statement fuel)
      | _ =>
        let start ← if (← peek) == some (.sign ";") then pure none else do pure (some (← plain fuel))
        expect (.sign ";")
        skipLines
        let test ← if (← peek) == some (.sign ";") then pure none else do pure (some (← expr fuel {}))
        expect (.sign ";")
        skipLines
        let step ← if (← peek) == some (.sign ")") then pure none else do pure (some (← plain fuel))
        expect (.sign ")")
        if ← accept (.sign ";") then return .for_ start test step (.block [])
        skipLines
        return .for_ start test step (← statement fuel)
    | _ =>
      let s ← plain fuel
      statementEnd
      return s

/-- Reads a statement that has no statements in it. -/
def plain : Nat → Read Statement
  | 0 => unexpected
  | fuel + 1 => do
    let isEnd : Option Token → Bool
      | some (.sign ";") | some .newline | some (.sign "\x7d") | none => true
      | _ => false
    match ← peek with
    | some (.word "print") =>
      drop
      let (es, target) ← printed fuel
      return .print es target
    | some (.word "printf") =>
      drop
      let (es, target) ← printed fuel
      return .format es target
    | some (.word "next") | some (.word "nextfile") =>
      drop
      return .next
    | some (.word "break") =>
      drop
      return .leave
    | some (.word "continue") =>
      drop
      return .again
    | some (.word "exit") =>
      drop
      if isEnd (← peek) then return .exit none else return .exit (some (← expr fuel {}))
    | some (.word "return") =>
      drop
      if isEnd (← peek) then return .back none else return .back (some (← expr fuel {}))
    | some (.word "delete") =>
      drop
      match ← get with
      | (.name array, _) :: rest =>
        set rest
        if ← accept (.sign "[") then
          let es ← exprs fuel {}
          expect (.sign "]")
          return .delete array (some es)
        else return .delete array none
      | _ => unexpected
    | _ => return .expression (← expr fuel {})

/-- Reads statements up to the brace that ends them. -/
def statements : Nat → Read (List Statement)
  | 0 => unexpected
  | fuel + 1 => do
    skipBreaks
    match ← peek with
    | some (.sign "\x7d") => return []
    | none => unexpected
    | _ =>
      let s ← statement fuel
      return s :: (← statements fuel)

end

/-- Reads an action, if there is one. -/
def action? (fuel : Nat) : Read (Option (List Statement)) := do
  if ← accept (.sign "\x7b") then
    let ss ← statements fuel
    expect (.sign "\x7d")
    return some ss
  else return none

/-- Reads the names of parameters, up to the bracket that ends them. -/
def parameters : Nat → Read (List String)
  | 0 => unexpected
  | fuel + 1 => do
    skipLines
    match ← get with
    | (.sign ")", _) :: rest =>
      set rest
      return []
    | (.name s, _) :: rest =>
      set rest
      skipLines
      let _ ← accept (.sign ",")
      return s :: (← parameters fuel)
    | _ => unexpected

/-- Reads rules and functions. -/
def rules (fuel : Nat) : Nat → Script → Read Script
  | 0, s => return s
  | bound + 1, s => do
    skipBreaks
    match ← get with
    | [] => return s
    | (.word "BEGIN", _) :: rest =>
      set rest
      match ← action? fuel with
      | some ss => rules fuel bound { s with rules := s.rules ++ [(.start, some ss)] }
      | none => unexpected
    | (.word "END", _) :: rest =>
      set rest
      match ← action? fuel with
      | some ss => rules fuel bound { s with rules := s.rules ++ [(.finish, some ss)] }
      | none => unexpected
    | (.word "function", _) :: (t, _) :: (.sign "(", _) :: rest | (.word "func", _) :: (t, _) :: (.sign "(", _) :: rest =>
      match t with
      | .callee name | .name name =>
        set rest
        let ps ← parameters fuel
        skipLines
        match ← action? fuel with
        | some body => rules fuel bound { s with functions := s.functions ++ [⟨name, ps, body⟩] }
        | none => unexpected
      | _ => unexpected
    | (.sign "\x7b", _) :: _ =>
      let a ← action? fuel
      rules fuel bound { s with rules := s.rules ++ [(.always, a)] }
    | _ =>
      let first ← expr fuel {}
      let w ← if ← accept (.sign ",") then do
          skipLines
          pure (When.range first (← expr fuel {}))
        else pure (When.test first)
      let a ← action? fuel
      if a.isNone then
        match ← peek with
        | some (.sign ";") | some .newline | none => pure ()
        | _ => unexpected
      rules fuel bound { s with rules := s.rules ++ [(w, a)] }

/-- The names of functions that are called and never defined, those that come last first. -/
def undefined (s : Script) (ts : List (Token × Nat)) : List String :=
  ts.foldl (fun found t => match t.1 with
    | .callee name =>
      if s.functions.any (·.name == name) || found.contains name then found else name :: found
    | _ => found) []

/-- Reads a script; faults tell the line and what is wrong. -/
def script (cs : List Char) : Except (List (Nat × String)) Script := do
  let ts ← (tokens (cs.length + 1) 1 none cs).mapError ([·])
  let next := cs.count '\n' + 2
  match (rules (30 * ts.length + 60) (ts.length + 1) {}).run ts with
  | .ok (s, _) =>
    match undefined s ts with
    | [] => return s
    | names => throw (names.map fun n => (next, s!"function {n} never defined"))
  | .error (line, words) => throw [(if line = 0 then next else line, words)]

end VariantForge.Shell.Awk
