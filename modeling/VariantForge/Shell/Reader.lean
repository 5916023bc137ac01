import VariantForge.Shell.Draft

/-!
Reading scripts.

A script is read one complete command at a time, since a command may change how the rest of the script is
read. Commands inside words are read together with the word, and a document that a command takes its
input from is read when the line ends.
-/

namespace VariantForge.Shell

/-- What the next token may be taken for: a keyword, another name for a command; whether line ends before
it are passed over; and whether it ends a document, so that nothing in it is put in later. -/
structure Checks where
  keywords : Bool := false
  newlines : Bool := false
  aliases : Bool := false
  endMark : Bool := false

/-- A name for a command whose text is being read, and how many characters come after that text. -/
structure AliasUse where
  name : String
  left : Nat
  blankEnd : Bool

/-- A document that is still to be read. -/
structure Pending where
  number : Nat
  mark : EndMark
  expanded : Bool

/-- Where the reader is. A token that was read and put back is `held`. -/
structure Position where
  rest : List Char
  line : Nat := 1
  held : Bool := false
  last : Token := .finish
  word : Word := []
  quoted : Bool := false
  redirect : Nat × RedirectKind := (0, .read)
  withoutTabs : Bool := false
  checks : Checks := {}
  pending : List Pending := []
  documents : Array Document := #[]
  aliases : List (String × String) := []
  uses : List AliasUse := []

/-- Reading, which may fail at some line. -/
abbrev Read := StateT Position (Except (Nat × SyntaxFault))

namespace Read

/-- Fails at the line that was reached. -/
def fail (f : SyntaxFault) : Read α := fun s => .error (s.line, f)

/-- Fails for the last token, where another one may have been wanted. -/
def unexpected (wanted : Option Token) : Read α := fun s => .error (s.line, .unexpected s.last wanted)

/-- Joins lines that end in a backslash. -/
def joined : List Char → Nat → List Char × Nat
  | '\\' :: '\n' :: rest, line => joined rest (line + 1)
  | cs, line => (cs, line)

/-- The next character. -/
def raw : Read (Option Char) := return (← get).rest.head?

/-- The next character, where lines that end in a backslash are joined. -/
def peek : Read (Option Char) := do
  let s ← get
  match s.rest with
  | '\\' :: '\n' :: _ =>
    let (rest, line) := joined s.rest s.line
    set { s with rest, line }
    return rest.head?
  | cs => return cs.head?

/-- Goes past a character. -/
def skip : Read Unit := modify fun s => { s with rest := s.rest.drop 1 }

/-- Goes past the end of a line. -/
def skipLine : Read Unit := modify fun s => { s with rest := s.rest.drop 1, line := s.line + 1 }

/-- Goes past the next character if it is `c`. -/
def skips (c : Char) : Read Bool := do
  if (← peek) == some c then
    skip
    return true
  else return false

/-- Puts the last token back. -/
def hold : Read Unit := modify fun s => { s with held := true }

/-- Says what the next token may be taken for. -/
def expect (checks : Checks) : Read Unit := modify fun s => { s with checks }

/-- What a command may begin with. -/
def atCommand : Checks := { keywords := true, aliases := true }

/-- What a command may begin with after the end of a line. -/
def afterLines : Checks := { keywords := true, aliases := true, newlines := true }

/-- Gives a token. -/
def found (t : Token) : Read Token := do
  modify fun s => { s with last := t }
  return t

/-- Goes past blanks and comments. -/
def blanks : Nat → List Char → Nat → List Char × Nat
  | 0, cs, line => (cs, line)
  | fuel + 1, cs, line =>
    match cs with
    | ' ' :: rest | '\t' :: rest => blanks fuel rest line
    | '\\' :: '\n' :: rest => blanks fuel rest (line + 1)
    | '#' :: rest => blanks fuel (rest.dropWhile (· != '\n')) line
    | cs => (cs, line)

/-- Goes past the texts of names that have been read to their ends. -/
def leaveAliases : Read Unit := do
  let s ← get
  if !s.uses.isEmpty then
    let left := s.rest.length
    let (open_, done) := s.uses.partition fun u => u.left < left
    let blankEnd := done.any (·.blankEnd)
    set { s with uses := open_, checks := { s.checks with aliases := s.checks.aliases || blankEnd } }

/-- The characters of a name, or those of a number. -/
def nameChars (accepts : Char → Bool) : Nat → List Char → Read (List Char)
  | 0, before => return before.reverse
  | fuel + 1, before => do
    match ← peek with
    | some c =>
      if accepts c then
        skip
        nameChars accepts fuel (c :: before)
      else return before.reverse
    | none => return before.reverse

/-- The name of a parameter with as many characters as it has. -/
def longName (accepts : Char → Bool) : Read String := do
  return String.ofList (← nameChars accepts (← get).rest.length [])

/-- A parameter whose name has been read inside braces: what it is asked for, whether a blank value
counts as unset, and whether its text is free of the quotes around it. -/
def useOf : Read (Use × Bool × Bool) := do
  let orBlank ← skips ':'
  match ← peek with
  | some '\x7d' => skip; return (.value, orBlank, false)
  | some '-' => skip; return (.default, orBlank, false)
  | some '+' => skip; return (.alternative, orBlank, false)
  | some '?' => skip; return (.require, orBlank, false)
  | some '=' => skip; return (.assign, orBlank, false)
  | some '%' =>
    skip
    if orBlank then return (.bad, true, false)
    return (.withoutEnd (← skips '%'), false, true)
  | some '#' =>
    skip
    if orBlank then return (.bad, true, false)
    return (.withoutFront (← skips '#'), false, true)
  | some _ => skip; return (.bad, orBlank, false)
  | none => return (.bad, orBlank, false)

/-- The length of a parameter whose name has been read; anything but a closing brace after it is bad. -/
def sizeOf (d : Draft) (name : String) : Read Draft := do
  let use := if (← peek) == some '\x7d' then Use.size else .bad
  return d.addParameter name use false false

/-- A parameter in braces, after the opening one. -/
def braced (d : Draft) : Read Draft := do
  let used (name : String) : Read Draft := do
    let (use, orBlank, bare) ← useOf
    return d.addParameter name use orBlank bare
  let bad : Draft := d.addParameter "" .bad false false
  match ← peek with
  | none => return bad
  | some c =>
    if isNameStart c then used (← longName isNameChar)
    else if c.isDigit then used (← longName Char.isDigit)
    else if c = '\x7d' then return bad
    else
      skip
      if c = '#' then
        match ← peek with
        | none => used "#"
        | some e =>
          if isNameStart e then sizeOf d (← longName isNameChar)
          else if e.isDigit then sizeOf d (← longName Char.isDigit)
          else
            let before ← get
            skip
            if e != '\x7d' && (← peek) == some '\x7d' then
              if isSpecialParameter e then return d.addParameter e.toString .size false false
              else return bad
            else
              set before
              used "#"
      else if isSpecialParameter c then used c.toString
      else return bad

/-- Goes past a line of a document if it is the end mark; tabs at its front are left out if they are to
be. -/
def atEnd (mark : EndMark) : Read Bool := do
  let _ ← peek
  if mark.withoutTabs then modify fun s => { s with rest := s.rest.dropWhile (· == '\t') }
  let s ← get
  let after := s.rest.drop mark.text.length
  if mark.text.isPrefixOf s.rest && (after.isEmpty || after.head? == some '\n') then
    set { s with rest := after.drop 1, line := s.line + 1 }
    return true
  else return false

/-- The text up to a closing backquote, with the backslashes before some characters taken away. -/
def backquoted (doubled : Bool) : Nat → List Char → Read (List Char)
  | 0, _ => fail .tooDeep
  | fuel + 1, before => do
    match ← peek with
    | none => fail .openBackquote
    | some c =>
      if c = backquoteChar then
        skip
        return before.reverse
      else if c = '\\' then
        skip
        match ← raw with
        | none => backquoted doubled fuel ('\\' :: before)
        | some e =>
          skip
          let gone := e == '\\' || e == backquoteChar || e == '$' || (doubled && e == '"')
          backquoted doubled fuel (if gone then e :: before else e :: '\\' :: before)
      else
        if c = '\n' then skipLine else skip
        backquoted doubled fuel (c :: before)

/-- The redirection that begins with a bracket, after the digit for its stream. -/
def redirection (stream? : Option Nat) (c : Char) : Read Token := do
  skip
  if c = '>' then
    let kind ←
      if ← skips '>' then pure .extend
      else if ← skips '|' then pure (.write true)
      else if ← skips '&' then pure (.duplicate false)
      else pure (.write false)
    modify fun s => { s with redirect := (stream?.getD 1, kind) }
  else
    if ← skips '<' then
      let withoutTabs ← skips '-'
      modify fun s => { s with redirect := (stream?.getD 0, .document), withoutTabs }
    else
      let kind ←
        if ← skips '&' then pure (.duplicate true)
        else if ← skips '>' then pure .both
        else pure .read
      modify fun s => { s with redirect := (stream?.getD 0, kind) }
  found .redirection

/-- Ends a word, or takes it for the digit before a redirection. -/
def endWord (d : Draft) : Read Token := do
  match d.fault? with
  | some f => fail f
  | none =>
    let next ← raw
    let plain (c : Char) : Read Token := do
      match d.pieces with
      | [] => redirection none c
      | [.char n] => redirection (some (n.toNat - 48)) c
      | _ => found .word
    let digit := match d.pieces with
      | [] => true
      | [.char n] => n.isDigit
      | _ => false
    match next with
    | some '<' => if digit && !d.quoted then plain '<' else settle
    | some '>' => if digit && !d.quoted then plain '>' else settle
    | _ => settle
where
  /-- Keeps the word. -/
  settle : Read Token := do
    modify fun s => { s with word := d.pieces.reverse, quoted := d.quoted }
    found .word

end Read

/-- How a list of commands may end: with the line, or before a token that closes it, where it may or may
not be empty. -/
inductive ListKind where
  | line
  | needed
  | free
  deriving DecidableEq

/-- The parameter that stands for all arguments, in quotes. -/
def allArguments : Word := [.mark, .parameter "@" .value false [], .mark]

/-- A command that runs beside the others. -/
def Command.asBackground : Command → Command
  | .pipe _ stages => .pipe true stages
  | .redirected line body redirects => .background line body redirects
  | c => .background 0 c []

open Read

mutual

/-- Reads the rest of a word or of a document. -/
def readDraft : Nat → Draft → Read Draft
  | 0, _ => fail .tooDeep
  | fuel + 1, d => do
    let next ← if d.layer.quoting = .single then raw else peek
    match next with
    | none => return d
    | some c =>
      let put (d : Draft) : Read Draft := do
        skip
        readDraft fuel d
      match CharRole.of d.layer.quoting c with
      | .newline =>
        if d.layer.quoting = .none && d.layer.depth = 0 then return d
        else
          skipLine
          let d := d.add (.char '\n')
          match d.mark with
          | none => readDraft fuel d
          | some mark => if ← atEnd mark then return d else readDraft fuel d
      | .plain => put (d.add (.char c))
      | .special => put (d.addSpecial c)
      | .backslash =>
        skip
        match ← raw with
        | none => return d.add (.quoted '\\')
        | some e =>
          skip
          readDraft fuel (d.addEscaped e)
      | .singleQuote => put d.openSingle
      | .doubleQuote => put d.openDouble
      | .endQuote => put (d.closeQuote c)
      | .closeBrace => put d.closeBrace
      | .openBracket => put { d.add (.char c) with layer := { d.layer with brackets := d.layer.brackets + 1 } }
      | .closeBracket =>
        skip
        if 0 < d.layer.brackets then
          readDraft fuel { d.add (.char c) with layer := { d.layer with brackets := d.layer.brackets - 1 } }
        else if ← skips ')' then readDraft fuel d.close.pop
        else readDraft fuel (d.add (.char c))
      | .backquote =>
        if (← get).checks.endMark then put { d.add (.char c) with quoted := true }
        else
          skip
          let n ← readBackquoted fuel d.layer.doubled
          readDraft fuel (d.add (.output n))
      | .dollar =>
        skip
        let d ← readDollar fuel d
        readDraft fuel d
      | .ending => if d.layer.depth = 0 then return d else put (d.add (.char c))

/-- Reads what comes after a dollar sign. -/
def readDollar : Nat → Draft → Read Draft
  | 0, _ => fail .tooDeep
  | fuel + 1, d => do
    match ← peek with
    | none => return d.add (.char '$')
    | some c =>
      if (← get).checks.endMark then return d.add (.char '$')
      else if c = '(' then
        skip
        if ← skips '(' then return d.openArithmetic
        else return d.add (.output (← readOutput fuel))
      else if c = '\x7b' then
        skip
        braced d
      else if isNameStart c then
        return d.addParameter (← longName isNameChar) .value false false
      else if isSpecialParameter c then
        skip
        return d.addParameter c.toString .value false false
      else return d.add (.char '$')

/-- Reads commands up to a closing bracket. -/
def readOutput : Nat → Read (Option Command)
  | 0 => fail .tooDeep
  | fuel + 1 => do
    let outer ← get
    set { outer with pending := [] }
    let (n, _) ← readList fuel .free false none
    let t ← readToken fuel
    if t != .closeBracket then unexpected (some .closeBracket)
    modify fun s => { s with pending := outer.pending, held := false }
    return n

/-- Reads commands up to a closing backquote. -/
def readBackquoted : Nat → Bool → Read (Option Command)
  | 0, _ => fail .tooDeep
  | fuel + 1, doubled => do
    let text ← backquoted doubled (← get).rest.length.succ []
    let outer ← get
    set { outer with rest := text, line := 1, held := false, pending := [], uses := [] }
    let (n, _) ← readList fuel .free false none
    modify fun s =>
      { s with rest := outer.rest, line := outer.line, held := false, pending := outer.pending, uses := outer.uses }
    return n

/-- Reads the documents that the line asked for. -/
def readDocuments : Nat → Read Unit
  | 0 => fail .tooDeep
  | fuel + 1 => do
    match (← get).pending with
    | [] => return
    | p :: rest =>
      modify fun s => { s with pending := rest }
      let layer : Layer := if p.expanded then { quoting := .double, doubled := true } else { quoting := .single }
      let start : Draft := { layer, mark := some p.mark }
      let d ← if ← atEnd p.mark then pure start else readDraft fuel start
      match d.fault? with
      | some f => fail f
      | none =>
        modify fun s =>
          { s with documents := s.documents.setIfInBounds p.number ⟨d.pieces.reverse, p.expanded⟩ }
      readDocuments fuel

/-- The next token, without a look at what it may be taken for. -/
def readPlain : Nat → Read Token
  | 0 => fail .tooDeep
  | fuel + 1 => do
    let s ← get
    if s.held then
      set { s with held := false }
      return s.last
    leaveAliases
    let s ← get
    let (rest, line) := blanks s.rest.length s.rest s.line
    set { s with rest, line }
    leaveAliases
    match rest with
    | [] => found .finish
    | '\n' :: _ =>
      skipLine
      found .newline
    | '&' :: _ =>
      skip
      found (if ← skips '&' then .both else .background)
    | '|' :: _ =>
      skip
      found (if ← skips '|' then .either else .pipe)
    | ';' :: _ =>
      skip
      found (if ← skips ';' then .endArm else .semicolon)
    | '(' :: _ =>
      skip
      found .openBracket
    | ')' :: _ =>
      skip
      found .closeBracket
    | _ =>
      let d ← readDraft fuel {}
      endWord d

/-- The next token, taken for what it may be. -/
def readToken : Nat → Read Token
  | 0 => fail .tooDeep
  | fuel + 1 => do readChecked fuel (← get).checks

/-- The next token, taken for what the checks and those said meanwhile allow. -/
def readChecked : Nat → Checks → Read Token
  | 0, _ => fail .tooDeep
  | fuel + 1, checks => do
    let t ← readPlain fuel
    let t ← if checks.newlines && t = .newline then readPastLines fuel else pure t
    let later := (← get).checks
    let checks := { checks with
      keywords := checks.keywords || later.keywords, aliases := checks.aliases || later.aliases }
    expect {}
    let s ← get
    if t != .word || s.quoted then return t
    match Word.plain? s.word with
    | none => return t
    | some cs =>
      let text := String.ofList cs
      match (if checks.keywords then Keyword.ofText? text else none) with
      | some k => found (.keyword k)
      | none =>
        if !checks.aliases then return t
        match s.aliases.find? fun a => a.1 == text && !s.uses.any (·.name == a.1) with
        | none => return t
        | some (name, value) =>
          let use : AliasUse := ⟨name, s.rest.length, value.toList.getLast?.any fun c => c == ' ' || c == '\t'⟩
          if !value.isEmpty then set { s with rest := value.toList ++ s.rest, uses := use :: s.uses }
          readChecked fuel checks

/-- The first token that is no line end, after one that was. -/
def readPastLines : Nat → Read Token
  | 0 => fail .tooDeep
  | fuel + 1 => do
    readDocuments fuel
    expect {}
    let t ← readPlain fuel
    if t = .newline then readPastLines fuel else return t

/-- Reads commands one after the other, after those in `before`. Says also whether nothing was left. -/
def readList : Nat → ListKind → Bool → Option Command → Read (Option Command × Bool)
  | 0, _, _, _ => fail .tooDeep
  | fuel + 1, kind, started, before => do
    let ending (n : Option Command) : Read (Option Command × Bool) := do
      readDocuments fuel
      modify fun s => { s with held := true, last := .finish }
      return (n, n.isNone && kind = .line)
    expect { afterLines with newlines := kind != .line }
    match ← readToken fuel with
    | .newline =>
      readDocuments fuel
      return (before, false)
    | .finish => ending before
    | t =>
      hold
      if t.closes && (kind = .free || (kind = .needed && started)) then return (before, false)
      let n ← readEither fuel
      let t ← readToken fuel
      let n := if t = .background then n.asBackground else n
      let all := match before with
        | none => n
        | some b => .sequence b n
      match t with
      | .finish => ending (some all)
      | .newline =>
        hold
        readList fuel kind true (some all)
      | .background | .semicolon => readList fuel kind true (some all)
      | _ =>
        if kind = .line then unexpected none
        hold
        return (some all, false)

/-- Reads commands that must be there. Where the script ends instead, what closes them is missing too and
will be missed. -/
def readBody : Nat → Read Command
  | 0 => fail .tooDeep
  | fuel + 1 => return ((← readList fuel .needed false none).1).getD default

/-- Reads commands joined by what says when the next one runs. -/
def readEither : Nat → Read Command
  | 0 => fail .tooDeep
  | fuel + 1 => do
    let n ← readPipeline fuel
    readJoined fuel n

/-- Reads what is joined to a command. -/
def readJoined : Nat → Command → Read Command
  | 0, _ => fail .tooDeep
  | fuel + 1, n => do
    match ← readToken fuel with
    | .both =>
      expect afterLines
      let m ← readPipeline fuel
      readJoined fuel (.both n m)
    | .either =>
      expect afterLines
      let m ← readPipeline fuel
      readJoined fuel (.either n m)
    | _ =>
      hold
      return n

/-- Reads a pipe of commands, which may be negated. -/
def readPipeline : Nat → Read Command
  | 0 => fail .tooDeep
  | fuel + 1 => do
    let negated := (← readToken fuel) == .keyword .negation
    if negated then expect atCommand else hold
    let n ← readCommand fuel
    let n ← if (← readToken fuel) == .pipe then return_ (← readStages fuel [n]) else pure n
    hold
    return if negated then .negated n else n
where
  /-- A pipe of the stages. -/
  return_ (stages : List Command) : Read Command := return .pipe false stages

/-- Reads the stages of a pipe after its sign; those before stand in reverse order. -/
def readStages : Nat → List Command → Read (List Command)
  | 0, _ => fail .tooDeep
  | fuel + 1, before => do
    expect afterLines
    let n ← readCommand fuel
    if (← readToken fuel) == .pipe then readStages fuel (n :: before)
    else return (n :: before).reverse

/-- Reads a command with the redirections after it. -/
def readCommand : Nat → Read Command
  | 0 => fail .tooDeep
  | fuel + 1 => do
    let line := (← get).line
    let close (t : Token) (n : Command) : Read Command := do
      if (← readToken fuel) != t then unexpected (some t)
      readAfter fuel line n
    match ← readToken fuel with
    | .keyword .openIf =>
      let n ← readChoice fuel
      close (.keyword .closeIf) n
    | .keyword .openWhile => close (.keyword .closeBody) (← readLoop fuel false)
    | .keyword .openUntil => close (.keyword .closeBody) (← readLoop fuel true)
    | .keyword .openFor => close (.keyword .closeBody) (← readEach fuel line)
    | .keyword .openCase =>
      if (← readToken fuel) != .word then unexpected (some .word)
      let w := (← get).word
      expect afterLines
      if (← readToken fuel) != .keyword .members then unexpected (some (.keyword .members))
      let arms ← readArms fuel []
      readAfter fuel line (.select line w arms)
    | .openBracket =>
      let n ← readBody fuel
      close .closeBracket (.isolated line n [])
    | .keyword .openGroup =>
      let n ← readBody fuel
      close (.keyword .closeGroup) n
    | .word | .redirection =>
      hold
      readSimple fuel (← get).line { aliases := true } [] [] []
    | _ => unexpected none

/-- Reads the redirections after a command that is not a simple one. -/
def readAfter : Nat → Nat → Command → Read Command
  | 0, _, _ => fail .tooDeep
  | fuel + 1, line, n => do
    expect atCommand
    let redirects ← readRedirects fuel []
    return match redirects, n with
      | [], n => n
      | rs, .isolated line body [] => .isolated line body rs
      | rs, n => .redirected line n rs

/-- Reads redirections; those before stand in reverse order. -/
def readRedirects : Nat → List Redirect → Read (List Redirect)
  | 0, _ => fail .tooDeep
  | fuel + 1, before => do
    if (← readToken fuel) == .redirection then
      let r ← readTarget fuel
      readRedirects fuel (r :: before)
    else
      hold
      return before.reverse

/-- Reads a choice after its first word. -/
def readChoice : Nat → Read Command
  | 0 => fail .tooDeep
  | fuel + 1 => do
    let condition ← readBody fuel
    if (← readToken fuel) != .keyword .consequence then unexpected (some (.keyword .consequence))
    let body ← readBody fuel
    match ← readToken fuel with
    | .keyword .elseIf => return .choice condition body (some (← readChoice fuel))
    | .keyword .otherwise => return .choice condition body (some (← readBody fuel))
    | _ =>
      hold
      return .choice condition body none

/-- Reads a loop after its first word. -/
def readLoop : Nat → Bool → Read Command
  | 0, _ => fail .tooDeep
  | fuel + 1, untilTrue => do
    let condition ← readBody fuel
    if (← readToken fuel) != .keyword .openBody then unexpected (some (.keyword .openBody))
    return .loop untilTrue condition (← readBody fuel)

/-- Reads a loop over words after its first word. -/
def readEach : Nat → Nat → Read Command
  | 0, _ => fail .tooDeep
  | fuel + 1, line => do
    let t ← readToken fuel
    let s ← get
    let name := (Word.plain? s.word).getD []
    if t != .word || s.quoted || !isName name then fail .badLoopName
    expect afterLines
    let words ←
      if (← readToken fuel) == .keyword .members then
        let words ← readWords fuel []
        let last := (← get).last
        if last != .newline && last != .semicolon then unexpected none
        pure words
      else
        if (← get).last != .semicolon then hold
        pure [allArguments]
    expect afterLines
    if (← readToken fuel) != .keyword .openBody then unexpected (some (.keyword .openBody))
    return .each line (String.ofList name) words (← readBody fuel)

/-- Reads words; those before stand in reverse order. -/
def readWords : Nat → List Word → Read (List Word)
  | 0, _ => fail .tooDeep
  | fuel + 1, before => do
    if (← readToken fuel) == .word then readWords fuel ((← get).word :: before)
    else return before.reverse

/-- Reads the arms of a choice by patterns; those before stand in reverse order. -/
def readArms : Nat → List (List Word × Option Command) → Read (List (List Word × Option Command))
  | 0, _ => fail .tooDeep
  | fuel + 1, before => do
    expect { keywords := true, newlines := true }
    let t ← readToken fuel
    if t = .keyword .closeCase then return before.reverse
    if t = .openBracket then let _ ← readToken fuel
    let patterns ← readPatterns fuel []
    if (← get).last != .closeBracket then unexpected (some .closeBracket)
    let (body, _) ← readList fuel .free false none
    let before := (patterns, body) :: before
    expect { keywords := true, newlines := true }
    let t ← readToken fuel
    if t = .keyword .closeCase then return before.reverse
    if t != .endArm then unexpected (some .endArm)
    readArms fuel before

/-- Reads the patterns of an arm, the first of which was read; those before it stand in reverse order. -/
def readPatterns : Nat → List Word → Read (List Word)
  | 0, _ => fail .tooDeep
  | fuel + 1, before => do
    let w := (← get).word
    if (← readToken fuel) == .pipe then
      let _ ← readToken fuel
      readPatterns fuel (w :: before)
    else return (w :: before).reverse

/-- Reads the rest of a simple command or the definition of a function. Words before stand in reverse
order. -/
def readSimple : Nat → Nat → Checks → List Word → List Word → List Redirect → Read Command
  | 0, _, _, _, _, _ => fail .tooDeep
  | fuel + 1, line, checks, assignments, words, redirects => do
    let finish : Read Command := do
      hold
      return .simple line assignments.reverse words.reverse redirects.reverse
    expect checks
    match ← readToken fuel with
    | .word =>
      let w := (← get).word
      if checks.aliases && w.isAssignment then readSimple fuel line checks (w :: assignments) words redirects
      else readSimple fuel line {} assignments (w :: words) redirects
    | .redirection =>
      let r ← readTarget fuel
      readSimple fuel line checks assignments words (r :: redirects)
    | .openBracket =>
      match assignments, words, redirects with
      | [], [w], [] =>
        if (← readToken fuel) != .closeBracket then unexpected (some .closeBracket)
        match Word.plain? w with
        | none => fail .badFunctionName
        | some name =>
          let text := String.ofList name
          if !isName name || specialNames.contains text then fail .badFunctionName
          expect afterLines
          let line := (← get).line
          return .define line text (← readCommand fuel)
      | _, _, _ => finish
    | _ => finish

/-- Reads what a redirection goes to. -/
def readTarget : Nat → Read Redirect
  | 0 => fail .tooDeep
  | fuel + 1 => do
    let s ← get
    let (stream, kind) := s.redirect
    if kind = .document then expect { endMark := true }
    if (← readToken fuel) != .word then unexpected none
    let t ← get
    if kind = .document then
      let number := t.documents.size
      let pending : Pending := ⟨number, ⟨Word.bare t.word, s.withoutTabs⟩, !t.quoted⟩
      set { t with documents := t.documents.push ⟨[], false⟩, pending := t.pending ++ [pending] }
      return .mk stream kind [] number
    else return .mk stream kind t.word 0

end

/-- What reading a script gives: its end, or the next complete command, which may be blank. -/
inductive Reading where
  | finish
  | command (c : Option Command)

/-- Reads the next complete command of a script. -/
def Position.next (p : Position) : Except (Nat × SyntaxFault) (Reading × Position) :=
  let aliased := p.aliases.foldl (fun n a => n + a.2.length) 0
  let fuel := 64 * (p.rest.length + 64) + 64 * aliased
  let start := { p with held := false, checks := {}, pending := [] }
  match (readList fuel .line false none).run start with
  | .error e => .error e
  | .ok ((_, true), q) => .ok (.finish, q)
  | .ok ((n, false), q) => .ok (.command n, q)

end VariantForge.Shell
