import Mathlib.Tactic.SplitIfs
import VariantForge.Proofs.Execution
import VariantForge.Proofs.Text.Units
import VariantForge.Source.Git

/-!
# Commands — the line that shows one tells all its words

On the line that shows a command words stand with single blanks between them, some as they are and some in double
quotes. A reader goes over the line once (`read`): in quotes it looks for backslashes and for the closing quote, and
elsewhere for blanks alone. A word that stands as it is has neither blanks nor quotes, so it is read up to the next
blank, even if it is empty; a word in quotes is read up to the quote that closes it, whatever is in it (`read_shownWord`).

So the words of a line come back from it (`words_line`), and no two commands are shown alike. All this is said of texts,
the sequences of units that strings hold.
-/

namespace VariantForge.Command

open Forge Text

variable {c : Char} {cs : List Char} {u : UInt16} {word us rest : List UInt16}

/-! ## Reading a line -/

/-- The unit of a character of ASCII. -/
def unit (c : Char) : UInt16 := c.toNat.toUInt16

/-- What a letter behind a backslash means. -/
def meant? (u : UInt16) : Option UInt16 :=
  if u = unit '"' ∨ u = unit '\\' then some u
  else if u = unit 'b' then some 8
  else if u = unit 't' then some 9
  else if u = unit 'n' then some 10
  else if u = unit 'f' then some 12
  else if u = unit 'r' then some 13
  else none

/-- The value of a digit of base sixteen. -/
def digit? (u : UInt16) : Option Nat :=
  if unit '0' ≤ u ∧ u ≤ unit '9' then some (u.toNat - 48)
  else if unit 'a' ≤ u ∧ u ≤ unit 'f' then some (u.toNat - 87)
  else none

/-- Where a reading is, with what is read of the word that it is in: in a word that stands as it is, in one that stands in
quotes, behind a backslash there, before so many digits of a number there, or behind the closing quote. -/
inductive Reading where
  | bare (word : List UInt16)
  | quoted (word : List UInt16)
  | escape (word : List UInt16)
  | digits (word : List UInt16) (left value : Nat)
  | closed (word : List UInt16)

/-- The words of a line from some reading on. A quote counts only where a word begins. -/
def read : Reading → List UInt16 → Option (List Text)
  | .bare word, [] => some [⟨word⟩]
  | .bare word, u :: rest =>
    if u = unit ' ' then (read (.bare []) rest).map (⟨word⟩ :: ·)
    else if u = unit '"' ∧ word = [] then read (.quoted []) rest
    else read (.bare (word ++ [u])) rest
  | .quoted word, u :: rest =>
    if u = unit '"' then read (.closed word) rest
    else if u = unit '\\' then read (.escape word) rest
    else read (.quoted (word ++ [u])) rest
  | .escape word, u :: rest =>
    if u = unit 'u' then read (.digits word 4 0) rest
    else (meant? u).bind fun v => read (.quoted (word ++ [v])) rest
  | .digits word left value, u :: rest =>
    (digit? u).bind fun d =>
      if left = 1 then read (.quoted (word ++ [(16 * value + d).toUInt16])) rest
      else read (.digits word (left - 1) (16 * value + d)) rest
  | .closed word, [] => some [⟨word⟩]
  | .closed word, u :: rest => if u = unit ' ' then (read (.bare []) rest).map (⟨word⟩ :: ·) else none
  | _, [] => none

/-- The words of a line. -/
def words (line : Text) : Option (List Text) := read (.bare []) line.units

/-! ## Characters in quotes -/

/-- What stands for characters between double quotes, from the first on. -/
def quotedChars : List Char → List Char
  | [] => []
  | [c] => quotedAlone c
  | c :: d :: rest =>
    if isHalf c && isHalf d && isLead (halfUnit c) && isTrail (halfUnit d) then c :: d :: quotedChars rest
    else quotedAlone c ++ quotedChars (d :: rest)

theorem quotedAfter_eq (before cs : List Char) : quotedAfter before cs = before.reverse ++ quotedChars cs := by
  fun_induction quotedAfter before cs with
  | case1 before => simp [quotedChars]
  | case2 before c => simp [quotedChars]
  | case3 before c d rest hpair ih => simp [quotedChars, hpair, ih]
  | case4 before c d rest hpair ih => simp [quotedChars, hpair, ih]

/-- A character of ASCII is one unit. -/
theorem unitsOfChar_ascii (h : c.toNat < 128) : unitsOfChar c = [unit c] := by
  have hplain : isHalf c = false := by
    rw [isHalf, ← Bool.not_eq_true, isHalfPoint_iff]
    omega
  rw [unitsOfChar, if_neg (by simp [hplain]), unitsOfPoint, if_pos (Nat.lt_trans h (by decide))]
  rfl

/-- A unit of ASCII stands for its character alone. -/
theorem eq_of_unit_mem {d : Char} (hd : d.toNat < 128) (h : unit d ∈ unitsOfChar c) : c = d := by
  have hunit : (unit d).toNat = d.toNat := UInt16.toNat_ofNat_of_lt' (by simp [UInt16.size]; omega)
  rw [unitsOfChar] at h
  split at h
  · rename_i hhalf
    rw [isHalf, isHalfPoint_iff] at hhalf
    have hvalue : (halfUnit c).toNat = 0xD800 + (c.toNat - halfBase) :=
      UInt16.toNat_ofNat_of_lt' (by simp [UInt16.size, halfBase]; omega)
    rw [List.mem_singleton] at h
    rw [← h, hunit] at hvalue
    omega
  · -- the halves of a pair are beyond ASCII
    rcases unitsOfPoint_cases c with ⟨u, -, hc, hcu⟩ | ⟨u, v, hu, hv, hc, -⟩
    · rw [hc, List.mem_singleton] at h
      rw [← h, hunit] at hcu
      exact (Char.toNat_inj.1 hcu).symm
    · rw [isLead_iff] at hu
      rw [isTrail_iff] at hv
      simp only [hc, List.mem_cons, List.not_mem_nil, or_false] at h
      rcases h with rfl | rfl <;> omega

theorem read_quoted_plain (hquote : unit '"' ∉ us) (hbackslash : unit '\\' ∉ us) :
    read (.quoted word) (us ++ rest) = read (.quoted (word ++ us)) rest := by
  induction us generalizing word with
  | nil => simp
  | cons u us ih =>
    rw [List.mem_cons, not_or] at hquote hbackslash
    rw [List.cons_append, read, if_neg (Ne.symm hquote.1), if_neg (Ne.symm hbackslash.1), ih hquote.2 hbackslash.2]
    simp

/-- A character that means nothing else in quotes is read as it is. -/
theorem read_plain (hquote : c ≠ '"') (hbackslash : c ≠ '\\') :
    read (.quoted word) (unitsOfChar c ++ rest) = read (.quoted (word ++ unitsOfChar c)) rest :=
  read_quoted_plain (fun hmem => hquote (eq_of_unit_mem (by decide) hmem))
    fun hmem => hbackslash (eq_of_unit_mem (by decide) hmem)

theorem toNat_hexDigit_lt : ∀ n < 16, (hexDigit n).toNat < 128 := by decide

theorem digit?_hexDigit : ∀ n < 16, digit? (unit (hexDigit n)) = some n := by decide

theorem read_digit {n left value : Nat} (hn : n < 16) :
    read (.digits word left value) (unitsOfChar (hexDigit n) ++ rest) =
      if left = 1 then read (.quoted (word ++ [(16 * value + n).toUInt16])) rest
      else read (.digits word (left - 1) (16 * value + n)) rest := by
  rw [unitsOfChar_ascii (toNat_hexDigit_lt n hn), List.singleton_append, read, digit?_hexDigit n hn]
  rfl

/-- Four digits are read as the number that they were written for. -/
theorem read_hexDigits {n : Nat} (hn : n < 65536) :
    read (.digits word 4 0) ((hexDigits 4 n).flatMap unitsOfChar ++ rest) =
      read (.quoted (word ++ [n.toUInt16])) rest := by
  have hvalue : 16 * (16 * (16 * (16 * 0 + n / 16 / 16 / 16 % 16) + n / 16 / 16 % 16) + n / 16 % 16) + n % 16 = n := by
    omega
  have hlt (m : Nat) : m % 16 < 16 := Nat.mod_lt m (by decide)
  simp only [hexDigits, List.nil_append, List.flatMap_append, List.flatMap_singleton, List.append_assoc]
  rw [read_digit (hlt _), if_neg (by decide), read_digit (hlt _), if_neg (by decide), read_digit (hlt _),
    if_neg (by decide), read_digit (hlt _), if_pos rfl, hvalue]

/-- A unit behind a backslash is read as what it means. -/
theorem read_meant {v : UInt16} (hletter : u ≠ unit 'u') (hmeant : meant? u = some v) :
    read (.quoted word) (unit '\\' :: u :: rest) = read (.quoted (word ++ [v])) rest := by
  rw [read, if_neg (by decide), if_pos rfl, read, if_neg hletter, hmeant]
  rfl

/-- A unit that is written as a number is read. -/
theorem read_numbered {n : Nat} (hn : n < 65536) :
    read (.quoted word) (('\\' :: 'u' :: hexDigits 4 n).flatMap unitsOfChar ++ rest) =
      read (.quoted (word ++ [n.toUInt16])) rest := by
  rw [List.flatMap_cons, List.flatMap_cons, unitsOfChar_ascii (by decide), unitsOfChar_ascii (by decide),
    List.append_assoc, List.append_assoc, List.singleton_append, List.singleton_append, read, if_neg (by decide),
    if_pos rfl, read, if_pos rfl, read_hexDigits hn]

theorem read_quotedChar (hhalf : isHalf c = false) :
    read (.quoted word) ((quotedChar c).flatMap unitsOfChar ++ rest) = read (.quoted (word ++ unitsOfChar c)) rest := by
  have hletter {l : Char} (hc : c.toNat < 128) (hl : l.toNat < 128) (hnot : unit l ≠ unit 'u')
      (hmeant : meant? (unit l) = some (unit c)) :
      read (.quoted word) (['\\', l].flatMap unitsOfChar ++ rest) = read (.quoted (word ++ unitsOfChar c)) rest := by
    rw [unitsOfChar_ascii hc, List.flatMap_cons, List.flatMap_singleton, unitsOfChar_ascii hl, unitsOfChar_ascii (by decide)]
    exact read_meant hnot hmeant
  have hunit {n : Nat} (hn : c.toNat = n) : unit c = n.toUInt16 := by rw [unit, hn]
  rw [quotedChar]
  split_ifs with hquote hbackslash hcontrol hfeed htab hreturn hback hform
  · subst hquote
    exact hletter (by decide) (by decide) (by decide) (by decide)
  · subst hbackslash
    exact hletter (by decide) (by decide) (by decide) (by decide)
  · subst hfeed
    exact hletter (by decide) (by decide) (by decide) (by decide)
  · subst htab
    exact hletter (by decide) (by decide) (by decide) (by decide)
  · subst hreturn
    exact hletter (by decide) (by decide) (by decide) (by decide)
  · exact hletter (by omega) (by decide) (by decide) (by rw [hunit hback]; decide)
  · exact hletter (by omega) (by decide) (by decide) (by rw [hunit hform]; decide)
  · rw [read_numbered (by omega), unitsOfChar_ascii (by omega)]
    rfl
  · rw [List.flatMap_singleton, read_plain hquote hbackslash]

theorem read_quotedAlone (c : Char) :
    read (.quoted word) ((quotedAlone c).flatMap unitsOfChar ++ rest) = read (.quoted (word ++ unitsOfChar c)) rest := by
  rw [quotedAlone]
  split
  · rename_i hhalf
    have hunits : unitsOfChar c = [halfUnit c] := by rw [unitsOfChar, if_pos hhalf]
    rw [read_numbered (halfUnit c).toNat_lt, hunits]
    simp
  · rename_i hhalf
    exact read_quotedChar (by simpa using hhalf)

/-- What stands between quotes is read as the text that it was written for. -/
theorem read_quotedChars (cs : List Char) :
    read (.quoted word) ((quotedChars cs).flatMap unitsOfChar ++ rest) =
      read (.quoted (word ++ cs.flatMap unitsOfChar)) rest := by
  fun_induction quotedChars cs generalizing word with
  | case1 => simp
  | case2 c => rw [read_quotedAlone, List.flatMap_singleton]
  | case3 c d rest' hpair ih =>
    -- two halves that make a pair stand as they are
    have hplain {c : Char} (hc : isHalf c = true) : c ≠ '"' ∧ c ≠ '\\' := by
      constructor <;> rintro rfl <;> exact absurd hc (by decide)
    simp only [Bool.and_eq_true] at hpair
    obtain ⟨hquote, hbackslash⟩ := hplain hpair.1.1.1
    obtain ⟨hquote', hbackslash'⟩ := hplain hpair.1.1.2
    simp only [List.flatMap_cons, List.append_assoc]
    rw [read_plain hquote hbackslash, read_plain hquote' hbackslash', ih]
    simp only [List.append_assoc]
  | case4 c d rest' hpair ih =>
    rw [List.flatMap_append, List.append_assoc, read_quotedAlone, ih, List.append_assoc, ← List.flatMap_cons]

/-! ## Words -/

/-- Whether a line ends, or a blank comes next. -/
def EndsWord (rest : List UInt16) : Prop := rest.head?.all (· == unit ' ') = true

theorem endsWord_nil : EndsWord [] := rfl

theorem endsWord_blank (rest : List UInt16) : EndsWord (unit ' ' :: rest) := rfl

theorem read_bare_end (h : EndsWord rest) : read (.bare word) rest = read (.closed word) rest := by
  cases rest with
  | nil => rfl
  | cons u rest =>
    have hblank : u = unit ' ' := by simpa [EndsWord] using h
    rw [read, read, if_pos hblank, if_pos hblank]

/-- A word without blanks is read up to its end, if it does not begin with a quote or if some of it is read. -/
theorem read_bare (hblank : unit ' ' ∉ us) (hquote : word = [] → us.head? ≠ some (unit '"')) :
    read (.bare word) (us ++ rest) = read (.bare (word ++ us)) rest := by
  induction us generalizing word with
  | nil => simp
  | cons u us ih =>
    rw [List.mem_cons, not_or] at hblank
    have hstays : ¬ (u = unit '"' ∧ word = []) := by
      rintro ⟨rfl, hword⟩
      exact hquote hword rfl
    rw [List.cons_append, read, if_neg (Ne.symm hblank.1), if_neg hstays, ih hblank.2 (by simp)]
    simp

/-- A word of a line is read as it was, whatever is in it. -/
theorem read_shownWord (s : String) (h : EndsWord rest) :
    read (.bare []) ((ofString (shownWord s)).units ++ rest) = read (.closed (ofString s).units) rest := by
  rw [shownWord]
  split
  · -- the word stands in quotes, and the last of them is the first that no backslash stands before
    have hquoted : (ofString (quoted s)).units =
        unit '"' :: ((quotedChars s.toList).flatMap unitsOfChar ++ [unit '"']) := by
      rw [ofString, quoted, quotedAfter_eq]
      simp [unitsOfChar_ascii (c := '"') (by decide)]
    rw [hquoted, List.cons_append, List.append_assoc, read, if_neg (by decide), if_pos ⟨rfl, rfl⟩, read_quotedChars,
      List.nil_append, List.singleton_append, read, if_pos rfl]
    rfl
  · rename_i hplain
    have hnone {d : Char} (hd : d.toNat < 128) (hneeds : needsQuotes d = true) : unit d ∉ (ofString s).units := by
      intro hmem
      obtain ⟨c, hc, hunit⟩ := List.mem_flatMap.1 hmem
      rw [← eq_of_unit_mem hd hunit] at hneeds
      exact hplain (List.any_eq_true.2 ⟨c, hc, hneeds⟩)
    have hquote : unit '"' ∉ (ofString s).units := hnone (by decide) (by decide)
    rw [read_bare (hnone (by decide) (by decide)) fun _ hhead => hquote (List.mem_of_head? hhead), List.nil_append,
      read_bare_end h]

/-- A line is read as the words that it was made of. -/
theorem words_line (program : String) (arguments : List String) :
    words (ofString (line program arguments)) = some (ofString program :: arguments.map ofString) := by
  have hcons (s : String) (ws : List String) :
      read (.bare []) (ofString (" ".intercalate ((s :: ws).map shownWord))).units =
        some (ofString s :: ws.map ofString) := by
    induction ws generalizing s with
    | nil =>
      have hword := read_shownWord s endsWord_nil
      rw [List.append_nil] at hword
      simpa [read] using hword
    | cons t ws ih =>
      have hunits : (ofString (" ".intercalate ((s :: t :: ws).map shownWord))).units =
          (ofString (shownWord s)).units ++
            unit ' ' :: (ofString (" ".intercalate ((t :: ws).map shownWord))).units := by
        simp [ofString, String.intercalate_cons_cons, unitsOfChar_ascii (c := ' ') (by decide)]
      rw [hunits, read_shownWord s (endsWord_blank _), read, if_pos rfl, ih]
      rfl
  exact hcons program arguments

-- a quote within a word that stands as it is would be read as part of it; behind a word in quotes nothing else is read
example : words (ofString "a\"b \"c\"d") = none := by decide +kernel

/-! ## Git -/

theorem runOn_output_of_fails {o : Outside} {w : World} {directory : Option String} {arguments : List String}
    {r : CommandResult} (hran : (o.run w (Git.command directory arguments)).result = .ok r) (hcode : r.code ≠ some 0) :
    runOn w (Git.output o directory arguments) =
      (.error (.git arguments r), afterRun o w (Git.command directory arguments)) := by
  have hrun : runOn w (Git.run o directory arguments) = (.ok r, afterRun o w (Git.command directory arguments)) := by
    rw [Git.run, runOn_run, hran]
  have hfails : ¬ r.succeeded = true := fun hok => hcode (succeeded_iff.1 hok)
  rw [Git.output, runOn_bind_ok hrun, if_neg hfails]
  rfl

/-- The words of every command come back from the line that shows it, so that two commands are shown alike only if they
are the same, whatever texts their words are. A git command that fails says what was run in this way: its words come back
from the line in the failure. -/
theorem line_unambiguous :
    (∀ program arguments,
      words (ofString (line program arguments)) = some (ofString program :: arguments.map ofString)) ∧
    (∀ (program program' : Text) (arguments arguments' : List Text),
      ofString (line program.toString (arguments.map Text.toString)) =
          ofString (line program'.toString (arguments'.map Text.toString)) ↔
        program = program' ∧ arguments = arguments') ∧
    ∀ (o : Outside) (w : World) (directory : Option String) (arguments : List String) (r : CommandResult),
      (o.run w (Git.command directory arguments)).result = .ok r → r.code ≠ some 0 →
        ∃ f shown, runOn w (Git.output o directory arguments) =
            (.error f, afterRun o w (Git.command directory arguments)) ∧
          f.message = shown ++ " failed: " ++ r.failure ∧
          words (ofString shown) = some (ofString "git" :: arguments.map ofString) := by
  refine ⟨words_line, fun program program' arguments arguments' => ?_, fun o w directory arguments r hran hcode => ?_⟩
  · -- reading a line gives its words back, so lines that are the same have the same words
    have hwords (c : Text) (a : List Text) : words (ofString (line c.toString (a.map Text.toString))) = some (c :: a) := by
      rw [words_line, List.map_map, ofString_toString]
      simp [Function.comp_def, ofString_toString]
    constructor
    · intro hsame
      have hboth := hwords program arguments
      rw [hsame, hwords, Option.some.injEq, List.cons.injEq] at hboth
      exact ⟨hboth.1.symm, hboth.2.symm⟩
    · rintro ⟨rfl, rfl⟩
      rfl
  · exact ⟨.git arguments r, line "git" arguments, runOn_output_of_fails hran hcode, rfl, words_line "git" arguments⟩

/-- An outside in which every command fails. -/
def refusing : Outside where
  run w _ := ⟨w.disk, false, .ok ⟨some 128, "", "fatal: not a repository\n"⟩⟩
  fetch _ _ := (false, .silent)
  cancelsWait _ := false
  clock _ := none
  searchPath := none
  processors := 1

/-- Words that look like parts of a line: nothing at all, a blank, quotes, a backslash and a quote, and a wide blank. -/
def odd : List String := ["", " ", "it's", "\"a\" b", "\\\"", "\u3000", "\\"]

theorem line_unambiguous_odd :
    (refusing.run ⟨⟨[], []⟩, false, 0, []⟩ (Git.command none odd)).result =
        .ok ⟨some 128, "", "fatal: not a repository\n"⟩ ∧
      (some 128 : Option Int) ≠ some 0 ∧
      line "git" odd = "git  \" \" \"it's\" \"\\\"a\\\" b\" \"\\\\\\\"\" \"\u3000\" \\" ∧
      ∃ f shown, runOn ⟨⟨[], []⟩, false, 0, []⟩ (Git.output refusing none odd) =
          (.error f, afterRun refusing ⟨⟨[], []⟩, false, 0, []⟩ (Git.command none odd)) ∧
        f.message = shown ++ " failed: " ++ "fatal: not a repository" ∧
        words (ofString shown) = some (ofString "git" :: odd.map ofString) := by
  have hwords : CommandResult.failure ⟨some 128, "", "fatal: not a repository\n"⟩ = "fatal: not a repository" := by
    decide +kernel
  have hshown := line_unambiguous.2.2 refusing ⟨⟨[], []⟩, false, 0, []⟩ none odd
    ⟨some 128, "", "fatal: not a repository\n"⟩ rfl (by decide)
  rw [hwords] at hshown
  exact ⟨rfl, by decide, by decide +kernel, hshown⟩

end VariantForge.Command
