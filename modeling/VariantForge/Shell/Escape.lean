import VariantForge.Shell.Integer

/-!
Escapes in texts that scripts print: a backslash with a letter or with octal digits stands for a byte.
-/

namespace VariantForge.Shell.Escape

/-- The byte of an escape of one letter. -/
def letter? (c : Char) : Option Char :=
  match c with
  | 'a' => some '\x07'
  | 'b' => some '\x08'
  | 'e' => some '\x1b'
  | 'f' => some '\x0c'
  | 'n' => some '\n'
  | 'r' => some '\r'
  | 't' => some '\t'
  | 'v' => some '\x0b'
  | '\\' => some '\\'
  | _ => none

/-- The byte of a number, of which only the last eight bits count. -/
def byte (n : Nat) : Char := Char.ofNat (n % 256)

/-- Whether a character is an octal digit. -/
def isOctal (c : Char) : Bool := '0' ≤ c && c ≤ '7'

/-- The byte of at most `most` octal digits at the front, with what comes after them. -/
def octal (most : Nat) (cs : List Char) : Char × List Char :=
  let ds := (cs.take most).takeWhile isOctal
  (byte (Integer.digits 8 0 ds).1, cs.drop ds.length)

/-- The byte of an escape after its backslash, with what comes after it. A backslash that begins no escape
stands for itself. -/
def read (cs : List Char) : Char × List Char :=
  match cs with
  | [] => ('\\', [])
  | c :: rest =>
    if isOctal c then octal 3 cs
    else match letter? c with
      | some b => (b, rest)
      | none => ('\\', cs)

theorem length_read_le (cs : List Char) : (read cs).2.length ≤ cs.length := by
  unfold read
  split
  · simp
  · rename_i c rest
    split
    · simp [octal]
    · split <;> simp

/-- A text with its escapes, where octal digits may have a zero before them; and whether an escape says
that nothing comes after it. -/
def expand (before : List Char) : List Char → List Char × Bool
  | [] => (before.reverse, false)
  | c :: rest =>
    if c = '\\' then
      if rest.head? = some 'c' then (before.reverse, true)
      else
        let rest := if rest.head? = some '0' ∧ ((rest.drop 1).head?.any isOctal) then rest.drop 1 else rest
        expand ((read rest).1 :: before) (read rest).2
    else expand (c :: before) rest
  termination_by cs => cs.length
  decreasing_by
    · refine Nat.lt_succ_of_le (Nat.le_trans (length_read_le _) ?_)
      split
      · exact Nat.le_trans (Nat.le_of_eq (List.length_drop ..)) (Nat.sub_le ..)
      · exact Nat.le_refl _
    · exact Nat.lt_succ_self _

/-- Words with a blank between two and a line end, escapes in them being read; a first word `-n` leaves the
line end out. -/
def echo (words : List String) : String :=
  let (ended, words) := match words with
    | "-n" :: rest => (false, rest)
    | words => (true, words)
  let (cs, stopped) := expand [] (" ".intercalate words).toList
  String.ofList (if ended && !stopped then cs ++ ['\n'] else cs)

end VariantForge.Shell.Escape
