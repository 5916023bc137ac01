import VariantForge.Shell.Fault
import VariantForge.Shell.Script

/-!
Words that are being read.

What a character means inside a word hangs on the quotes around it. Every text for a parameter that has
quotes of its own, and every arithmetic expression, puts a new layer of quoting over the old one.
-/

namespace VariantForge.Shell

/-- The quotes around a place in a word. -/
inductive Quoting where
  | none
  | double
  | single
  | arithmetic
  deriving DecidableEq

/-- What a character does inside a word. -/
inductive CharRole where
  | newline
  | plain
  | special
  | backslash
  | singleQuote
  | doubleQuote
  | endQuote
  | dollar
  | closeBrace
  | openBracket
  | closeBracket
  | backquote
  | ending
  deriving DecidableEq

/-- The character that stands around commands whose output is put in. -/
def backquoteChar : Char := Char.ofNat 96

/-- What a character does inside some quotes. -/
def CharRole.of (q : Quoting) (c : Char) : CharRole :=
  if c = '\n' then .newline
  else
    match q with
    | .single =>
      if c = '\'' then .endQuote
      else if "!*?[=~:/-^]\\".toList.contains c then .special else .plain
    | .double =>
      if c = '\\' then .backslash else if c = '"' then .endQuote else if c = backquoteChar then .backquote
      else if c = '$' then .dollar else if c = '\x7d' then .closeBrace
      else if "!*?[=~:/-^]".toList.contains c then .special else .plain
    | .arithmetic =>
      if c = '\\' then .backslash else if c = backquoteChar then .backquote else if c = '$' then .dollar
      else if c = '\x7d' then .closeBrace else if c = '(' then .openBracket
      else if c = ')' then .closeBracket else .plain
    | .none =>
      if c = '\\' then .backslash else if c = '\'' then .singleQuote else if c = '"' then .doubleQuote
      else if c = backquoteChar then .backquote else if c = '$' then .dollar
      else if c = '\x7d' then .closeBrace
      else if "<>();&| \t".toList.contains c then .ending else .plain

/-- A layer of quoting. `depth` counts the parameters whose texts are open in it, `doubledDepth` those of
them in double quotes, and `inner` says whether double quotes are open inside such a text. -/
structure Layer where
  quoting : Quoting := .none
  doubled : Bool := false
  inner : Bool := false
  pushed : Bool := false
  depth : Nat := 0
  doubledDepth : Nat := 0
  brackets : Nat := 0

/-- What was opened in a word and is still to be closed. -/
inductive Opened where
  | parameter (name : String) (use : Use) (orBlank : Bool)
  | arithmetic

/-- The line that ends a document, and whether tabs at the front of its lines are left out. -/
structure EndMark where
  text : List Char
  withoutTabs : Bool

/-- A word that is being read: layers of quoting, what is open with the pieces before it, and the
pieces since then, in reverse order. A document is read like a word and has an end mark. -/
structure Draft where
  layer : Layer := {}
  below : List Layer := []
  opened : List (Opened × List Piece) := []
  pieces : List Piece := []
  quoted : Bool := false
  mark : Option EndMark := none

namespace Draft

/-- Adds a piece. -/
def add (d : Draft) (p : Piece) : Draft := { d with pieces := p :: d.pieces }

/-- Adds a mark, except in a document. -/
def addMark (d : Draft) : Draft := if d.mark.isNone then d.add .mark else d

/-- Adds a character that a pattern could take for something else, as a quoted one if it is quoted. -/
def addSpecial (d : Draft) (c : Char) : Draft :=
  d.add (if d.mark.isNone || d.layer.doubled || 0 < d.layer.depth then .quoted c else .char c)

/-- Adds a character after a backslash. Inside double quotes the backslash stays before most. -/
def addEscaped (d : Draft) (c : Char) : Draft :=
  let l := d.layer
  let kept := l.doubled && c != '\\' && c != backquoteChar && c != '$' &&
    (c != '"' || (d.mark.isSome && l.depth == 0)) && (c != '\x7d' || l.depth == 0)
  { (if kept then d.add (.quoted '\\') else d).add (.quoted c) with quoted := true }

/-- Whether double quotes change inside an open text. -/
def toggled (l : Layer) : Layer := if 0 < l.depth then { l with inner := !l.inner } else l

/-- Opens single quotes. -/
def openSingle (d : Draft) : Draft := { d with layer := { d.layer with quoting := .single } }.addMark

/-- Opens double quotes. -/
def openDouble (d : Draft) : Draft :=
  { d with layer := toggled { d.layer with quoting := .double, doubled := true } }.addMark

/-- Closes quotes. In a document quotes are plain characters. -/
def closeQuote (d : Draft) (c : Char) : Draft :=
  if d.mark.isSome && d.layer.depth == 0 then d.add (.char c)
  else
    let l := d.layer
    let l := if l.doubledDepth = 0 then { l with quoting := .none, doubled := false } else l
    { d with layer := if c = '"' then toggled l else l, quoted := true }.addMark

/-- Puts a new layer over the others. -/
def push (d : Draft) (l : Layer) : Draft := { d with layer := l, below := d.layer :: d.below }

/-- Takes the uppermost layer away. -/
def pop (d : Draft) : Draft :=
  match d.below with
  | l :: below => { d with layer := l, below }
  | [] => d

/-- Closes what was opened last. -/
def close (d : Draft) : Draft :=
  match d.opened with
  | (.parameter name use orBlank, before) :: opened =>
    { d with opened, pieces := .parameter name use orBlank d.pieces.reverse :: before }
  | (.arithmetic, before) :: opened => { d with opened, pieces := .arithmetic d.pieces.reverse :: before }
  | [] => d

/-- Takes a closing brace: it ends the text for a parameter, if one is open and no quotes are in it. -/
def closeBrace (d : Draft) : Draft :=
  let l := d.layer
  if !l.inner && 0 < l.depth then
    let l := { l with depth := l.depth - 1 }
    let d := d.close
    if l.depth = 0 && l.pushed then { d with layer := l }.pop
    else { d with layer := { l with doubledDepth := l.doubledDepth - 1 } }
  else d.add (.char '\x7d')

/-- Adds a parameter: a plain value at once, any other use when its text has ended. `bare` says that the
text for it has no quotes from outside. -/
def addParameter (d : Draft) (name : String) (use : Use) (orBlank bare : Bool) : Draft :=
  if use = .value && !orBlank then d.add (.parameter name .value false [])
  else
    let quoting := if bare then .none else if d.layer.quoting = .arithmetic then .double else d.layer.quoting
    let d :=
      if quoting != d.layer.quoting || d.layer.inner then
        d.push { quoting, pushed := true, doubled := quoting != .none }
      else d
    let l := d.layer
    let l := { l with depth := l.depth + 1, doubledDepth := l.doubledDepth + (if l.doubled then 1 else 0) }
    { d with layer := l, opened := (.parameter name use orBlank, d.pieces) :: d.opened, pieces := [] }

/-- Opens an arithmetic expression. -/
def openArithmetic (d : Draft) : Draft :=
  let d := d.push { quoting := .arithmetic, doubled := true }
  { d with opened := (.arithmetic, d.pieces) :: d.opened, pieces := [] }

/-- What is wrong with a word that ends here. -/
def fault? (d : Draft) : Option SyntaxFault :=
  let l := d.layer
  if l.quoting = .arithmetic then some .openArithmetic
  else if l.quoting ≠ .none && d.mark.isNone then some .openQuote
  else if l.depth ≠ 0 then some .openBrace
  else none

end Draft

end VariantForge.Shell
