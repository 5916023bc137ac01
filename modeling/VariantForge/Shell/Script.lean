/-!
Scripts of the shell.

A word is a list of pieces: characters, quoted or not, marks where quotes begin and end, and what is
put in its place when a command runs. Commands inside a word are read together with the word.
-/

namespace VariantForge.Shell

/-- What a parameter is asked for: its value, its length, another text where it is unset or where it
is set, or its value without a part that fits a pattern. A use that the shell does not know is `bad`;
it fails when the word is expanded. -/
inductive Use where
  | value
  | size
  | default
  | assign
  | alternative
  | require
  | withoutFront (longest : Bool)
  | withoutEnd (longest : Bool)
  | bad
  deriving DecidableEq, Inhabited

/-- What a redirection does: it opens a file to read, to write, to extend or for both, takes another
stream or the text that is written in the script. `force` says that a file may be written even where
files are kept. -/
inductive RedirectKind where
  | read
  | write (force : Bool)
  | extend
  | both
  | duplicate (input : Bool)
  | document
  deriving DecidableEq, Inhabited

mutual

/-- A piece of a word. `orBlank` says whether a blank value counts as unset. -/
inductive Piece where
  | char (c : Char)
  | quoted (c : Char)
  | mark
  | parameter (name : String) (use : Use) (orBlank : Bool) (word : List Piece)
  | arithmetic (expression : List Piece)
  | output (script : Option Command)

/-- A redirection of a stream. The word names a file or a stream; a document is known by its number. -/
inductive Redirect where
  | mk (stream : Nat) (kind : RedirectKind) (target : List Piece) (document : Nat)

/-- A command of a script. -/
inductive Command where
  | simple (line : Nat) (assignments words : List (List Piece)) (redirects : List Redirect)
  | pipe (background : Bool) (stages : List Command)
  | redirected (line : Nat) (body : Command) (redirects : List Redirect)
  | background (line : Nat) (body : Command) (redirects : List Redirect)
  | isolated (line : Nat) (body : Command) (redirects : List Redirect)
  | sequence (first second : Command)
  | both (first second : Command)
  | either (first second : Command)
  | negated (body : Command)
  | choice (condition body : Command) (otherwise : Option Command)
  | loop (untilTrue : Bool) (condition body : Command)
  | each (line : Nat) (name : String) (words : List (List Piece)) (body : Command)
  | select (line : Nat) (word : List Piece) (arms : List (List (List Piece) × Option Command))
  | define (line : Nat) (name : String) (body : Command)

end

instance : Inhabited Piece := ⟨.mark⟩
instance : Inhabited Command := ⟨.simple 1 [] [] []⟩

/-- A word as it is written. -/
abbrev Word := List Piece

/-- A text that is written in the script for a command to read; one whose end was not quoted is
expanded. -/
structure Document where
  body : Word
  expanded : Bool
  deriving Inhabited

namespace Word

/-- The characters of a word that has nothing but plain ones. -/
def plain? : Word → Option (List Char)
  | [] => some []
  | .char c :: rest => (plain? rest).map (c :: ·)
  | _ :: _ => none

/-- The characters of a word, without what is put in later. -/
def bare : Word → List Char
  | [] => []
  | .char c :: rest | .quoted c :: rest => c :: bare rest
  | _ :: rest => bare rest

/-- The plain characters at the front of a word. -/
def front : Word → List Char
  | .char c :: rest => c :: front rest
  | _ => []

end Word

/-- Whether a character may begin a name. -/
def isNameStart (c : Char) : Bool := c.isAlpha || c == '_'

/-- Whether a character may stand in a name. -/
def isNameChar (c : Char) : Bool := c.isAlphanum || c == '_'

/-- Whether a text is a name. -/
def isName : List Char → Bool
  | c :: rest => isNameStart c && rest.all isNameChar
  | [] => false

/-- Whether a word begins with a name and an equals sign. -/
def Word.isAssignment (w : Word) : Bool :=
  let cs := w.front
  let name := cs.takeWhile isNameChar
  isName name && (cs.drop name.length).head? == some '='

/-- Whether a character is the name of a parameter of its own. -/
def isSpecialParameter (c : Char) : Bool := ['$', '!', '#', '*', '-', '?', '@'].contains c || c.isDigit

end VariantForge.Shell
