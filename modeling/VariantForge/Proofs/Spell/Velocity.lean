import VariantForge.Proofs.Pattern.Moves
import VariantForge.Proofs.Spell.Choices
import VariantForge.Spell.Catalog

/-!
# Velocity — an edit of lines

The spell that forces rendering to system memory looks for the function that decides, and for the line
on which its body begins; or else for the line that looks at the debug flag. Its patterns say so with
repetitions that are tried in turn; here the same is said by a scan of the lines (`velocityPlace?`), and the
two are the same on every text (`search?_functionPattern`, `search?_guardPattern`).
-/

namespace VariantForge.Spell

open Pattern Text

variable {us : List UInt16} {i j p r : Nat} {x : Found}

/-! ## Lines -/

/-- Whether a unit ends a line: a line feed, a carriage return, or a separator of lines or paragraphs. -/
def endsLine (u : UInt16) : Bool := u == 10 || u == 13 || u == 0x2028 || u == 0x2029

/-- Whether a line begins at a position: the text does, or a unit that ends a line stands before it. -/
def lineBegins (us : List UInt16) (i : Nat) : Bool := i == 0 || (us[i - 1]?).any endsLine

/-- Whether a unit is no line feed. -/
def notFeed (u : UInt16) : Bool := u != 10

/-- Whether a unit is a space or a tab. -/
def isGap (u : UInt16) : Bool := u == 32 || u == 9

/-- Whether a unit is a letter or a digit of ASCII or the low line. -/
def isWordUnit (u : UInt16) : Bool :=
  (48 ≤ u && u ≤ 57) || (65 ≤ u && u ≤ 90) || (97 ≤ u && u ≤ 122) || u == 95

/-! ## The scan -/

/-- The name of the function that decides. -/
def functionName : List UInt16 := (ofString "use_sysmem_rendering").units

/-- The test of the debug flag. -/
def guardText : List UInt16 := (ofString "if (TU_DEBUG(SYSMEM))").units

/-- Whether the function that decides is named at the beginning of a line. -/
def functionAt (us : List UInt16) (i : Nat) : Bool :=
  lineBegins us i && standsAt functionName us i && !(us[i + functionName.length]?).any isWordUnit

/-- Whether a line feed and then an opening brace stand before and at a position after `p`. -/
def bodyAt (us : List UInt16) (p i : Nat) : Bool := decide (p < i) && us[i - 1]? == some 10 && us[i]? == some 123

/-- Whether the debug flag is tested first on the line that begins at a position. -/
def guardAt (us : List UInt16) (i : Nat) : Bool := lineBegins us i && standsAt guardText us (runEnd us isGap i)

/-- Where the spell puts text in, and which: at the end of the line on which the body of the function begins,
else at the beginning of the line that tests the debug flag. -/
def velocityPlace? (us : List UInt16) : Option (Nat × Text) :=
  match (firstPlace? us (functionAt us)).bind fun p => firstPlace? us (bodyAt us p) with
  | some r => some (runEnd us notFeed r, ofString ("\n   " ++ tigerMarker ++ "\n   return true;"))
  | none =>
    match firstPlace? us (guardAt us) with
    | some i => some (i, ofString ("   " ++ tigerMarker ++ "\n   return true;\n"))
    | none => none

/-! ## The trees of the patterns -/

/-- The flags of both patterns. -/
def lineFlags : Flags := { multiline := true }

theorem lineFlags_plain : lineFlags.Plain := ⟨rfl, rfl, rfl, rfl⟩

/-- Fits a unit that is no line feed. -/
def notFeedNode : Node := .oneOf [.range 10 10] true

/-- Fits a space or a tab. -/
def gapNode : Node := .oneOf [.range 32 32, .range 9 9] false

/-- Fits the rest of a line with its line feed, after another tree. -/
def restOfLine (n : Node) : Node := .sequence (.sequence n (notFeedNode.star true)) (.char 10)

/-- Fits the beginning of a line. -/
def beginNode : Node := .sequence .empty .lineStart

/-- Fits the name of the function at the beginning of a line. -/
def functionNode : Node := .sequence (beginNode.thenChars (functionName.map (·.toNat))) (.wordEdge false)

/-- The pattern of the function and its body. -/
def functionPattern : Compiled where
  flags := lineFlags
  node :=
    .sequence (.sequence (.sequence (restOfLine functionNode) ((restOfLine .empty).star false)) (.char 123))
      (notFeedNode.star true)
  groups := 0
  names := []

/-- The pattern of the test of the debug flag. -/
def guardPattern : Compiled where
  flags := lineFlags
  node := (Node.sequence (.sequence beginNode (gapNode.star true)) (.char 105)).thenChars
    (guardText.tail.map (·.toNat))
  groups := 0
  names := []

deriving instance DecidableEq for Unicode.Ranges
deriving instance DecidableEq for CharItem
deriving instance DecidableEq for Node
deriving instance DecidableEq for Compiled

theorem compile_functionPattern :
    Rule.compileTarget (ofString "^use_sysmem_rendering\\b[^\\n]*\\n(?:[^\\n]*\\n)*?\\\x7b[^\\n]*") (some true) "m" =
      .ok functionPattern := by
  decide +kernel

theorem compile_guardPattern :
    Rule.compileTarget (ofString "^[ \\t]*if \\(TU_DEBUG\\(SYSMEM\\)\\)") (some true) "m" = .ok guardPattern := by
  decide +kernel

/-! ## What the trees fit -/

/-- A text as both patterns see it. -/
def lineSubject (us : List UInt16) : Subject := ⟨lineFlags, us.toArray⟩

theorem lineSubject_reads : (lineSubject us).Reads us := ⟨lineFlags_plain, rfl⟩

theorem isLineEnd_toNat (u : UInt16) : isLineEnd u.toNat = endsLine u := by
  rw [Bool.eq_iff_iff]
  simp [isLineEnd, endsLine, ← UInt16.toNat_inj]

theorem isWordChar_toNat (u : UInt16) : lineFlags.isWordChar u.toNat = isWordUnit u := by
  rw [Bool.eq_iff_iff]
  simp [Flags.isWordChar, isWordUnit, lineFlags, ← UInt16.toNat_inj, UInt16.le_iff_toNat_le]

theorem lineStartAt_lineSubject : (lineSubject us).lineStartAt i = lineBegins us i := by
  rw [Subject.lineStartAt, lineBegins, lineSubject_reads.unit?]
  cases us[i - 1]? with
  | none => rfl
  | some u => exact congrArg (i == 0 || ·) (isLineEnd_toNat u)

theorem wordAt_lineSubject : (lineSubject us).wordAt i = (us[i]?).any isWordUnit := by
  rw [Subject.wordAt, lineSubject_reads.unit?]
  cases us[i]? with
  | none => rfl
  | some u => exact isWordChar_toNat u

theorem gapNode_moves : gapNode.Moves (lineSubject us) (stepOver us isGap) := by
  refine .oneOf_stepOver lineSubject_reads fun u => ?_
  rw [Bool.eq_iff_iff]
  simp [fitsClass, CharItem.has, Flags.alike, lineSubject, lineFlags, isGap, ← UInt16.toNat_inj]
  omega

theorem notFeedNode_moves : notFeedNode.Moves (lineSubject us) (stepOver us notFeed) := by
  refine .oneOf_stepOver lineSubject_reads fun u => ?_
  rw [Bool.eq_iff_iff]
  simp [fitsClass, CharItem.has, Flags.alike, lineSubject, lineFlags, notFeed, ← UInt16.toNat_inj]

theorem beginNode_moves : beginNode.Moves (lineSubject us) fun i => if lineBegins us i then some i else none := by
  refine (Node.Moves.empty.sequence .lineStart).congr fun i => ?_
  rw [Option.bind_some, lineStartAt_lineSubject]

theorem functionNode_moves : functionNode.Moves (lineSubject us) fun i =>
    if functionAt us i then some (i + functionName.length) else none := by
  refine ((Node.Moves.thenChars lineSubject_reads beginNode_moves).sequence .wordEdge).congr fun i => ?_
  rw [functionAt]
  cases hbegins : lineBegins us i with
  | false => rfl
  | true =>
    cases hstands : standsAt functionName us i with
    | false => simp [hstands]
    | true =>
      have hlength : functionName.length = 20 := by decide
      have hlast : us[i + 19]? = some 103 := by
        rw [getElem?_of_standsAt hstands (by rw [hlength]; decide)]
        decide
      have hbefore : (lineSubject us).wordBefore (i + functionName.length) = true := by
        rw [hlength, Subject.wordBefore, Nat.add_sub_assoc (by decide), lineSubject_reads.unit?, hlast]
        simp [Flags.isWordChar]
      simp only [if_true, Option.bind_some, hstands, hbefore, wordAt_lineSubject]
      cases (us[i + functionName.length]?).any isWordUnit <;> rfl

/-! ## The function and its body -/

/-- The move to the beginning of the next line. -/
def nextLine (us : List UInt16) (i : Nat) : Option Nat :=
  if us[runEnd us notFeed i]? = some 10 then some (runEnd us notFeed i + 1) else none

theorem nextLine_eq_some (h : nextLine us i = some j) : i < j ∧ j ≤ us.length ∧ us[j - 1]? = some 10 := by
  rw [nextLine] at h
  split at h
  case isTrue hfeed =>
    cases h
    exact ⟨Nat.lt_succ_of_le le_runEnd, (List.getElem?_eq_some_iff.1 hfeed).1, hfeed⟩
  case isFalse => cases h

/-- A line feed that stands further on is not passed over. -/
theorem nextLine_le (hij : i ≤ j) (h : us[j]? = some 10) : ∃ l, nextLine us i = some l ∧ l ≤ j + 1 := by
  have hle : runEnd us notFeed i ≤ j := runEnd_le hij h rfl
  have hlt : runEnd us notFeed i < us.length := Nat.lt_of_le_of_lt hle (List.getElem?_eq_some_iff.1 h).1
  have hfeed : us[runEnd us notFeed i]? = some 10 := by
    have hunit := List.getElem?_eq_getElem hlt
    have := not_fits_runEnd hunit
    rw [hunit]
    simpa [notFeed] using this
  exact ⟨_, by rw [nextLine, if_pos hfeed], Nat.succ_le_succ hle⟩

theorem restOfLine_moves {n : Node} {move : Nat → Option Nat} (h : n.Moves (lineSubject us) move) :
    (restOfLine n).Moves (lineSubject us) fun i => (move i).bind (nextLine us) :=
  h.starThen lineSubject_reads notFeedNode_moves (.char lineSubject_reads 10) fun _ => no_char_of_stepOver rfl

/-- What must fit after the lines between the function's name and its body: the brace and the rest of its line. -/
def bodyThen (us : List UInt16) (x : Found) : Option Found :=
  (Node.char 123).run (lineSubject us) [] false ((notFeedNode.star true).run (lineSubject us) [] false some) x

theorem bodyThen_eq : bodyThen us { x with position := i } =
    if us[i]? = some 123 then some { x with position := runEnd us notFeed i } else none := by
  have hbrace : (Node.char 123).Moves (lineSubject us) fun i => if us[i]? = some 123 then some (i + 1) else none :=
    .char lineSubject_reads 123
  rw [bodyThen, hbrace]
  dsimp only
  split
  case isTrue h =>
    rw [Option.bind_some, Node.run_star lineSubject_reads, runEnd_of_fits h rfl]
    exact Node.rounds_greedy notFeedNode_moves (Nat.lt_succ_of_le (Nat.sub_le ..)) rfl
  case isFalse => rfl

theorem bodyAt_iff : bodyAt us p r = true ↔ p < r ∧ us[r - 1]? = some 10 ∧ us[r]? = some 123 := by
  simp [bodyAt, and_assoc]

/-- From a line before the first body, that body is come to line by line. -/
theorem tries_body (hr : firstPlace? us (bodyAt us p) = some r) (n : Nat) (hn : r - j ≤ n) (hpj : p < j) (hjr : j ≤ r)
    (hj : us[j - 1]? = some 10) : Tries (nextLine us) (fun i => bodyThen us { x with position := i }) j r := by
  obtain ⟨-, hbody, hfirst⟩ := firstPlace?_eq_some.1 hr
  obtain ⟨-, hfeed, -⟩ := bodyAt_iff.1 hbody
  -- Each round goes to the next line, and never past the body: a line feed stands right before it.
  induction n generalizing j with
  | zero =>
    obtain rfl : j = r := by omega
    exact .here
  | succ n ih =>
    rcases Nat.eq_or_lt_of_le hjr with rfl | hlt
    · exact .here
    · have hbrace : us[j]? ≠ some 123 := fun h => by
        have := bodyAt_iff.2 ⟨hpj, hj, h⟩
        rw [hfirst j hlt] at this
        cases this
      obtain ⟨l, hl, hle⟩ := nextLine_le (i := j) (by omega) hfeed
      obtain ⟨hjl, -, hlfeed⟩ := nextLine_eq_some hl
      refine .later ?_ hl (ih (by omega) (by omega) (by omega) hlfeed)
      rw [bodyThen_eq, if_neg hbrace]

/-- The lines before the body are tried one after the other until the first body. -/
theorem run_lines (hpx : p < x.position) (hx : us[x.position - 1]? = some 10)
    (hbefore : ∀ r, bodyAt us p r = true → x.position ≤ r) :
    ((restOfLine .empty).star false).run (lineSubject us) [] false (bodyThen us) x =
      (firstPlace? us (bodyAt us p)).map fun r => { x with position := runEnd us notFeed r } := by
  have hline : (restOfLine .empty).Moves (lineSubject us) (nextLine us) :=
    (restOfLine_moves .empty).congr fun _ => rfl
  rw [Node.run_star lineSubject_reads]
  cases hr : firstPlace? us (bodyAt us p) with
  | none =>
    -- Wherever the rounds come to, a line begins there after the function's name.
    refine Node.rounds_lazy_none hline (fun i j h => (nextLine_eq_some h).1) fun r htries => ?_
    have hkept : p < r ∧ us[r - 1]? = some 10 :=
      htries.keeps (P := fun i => p < i ∧ us[i - 1]? = some 10)
        (fun a b ha hb => ⟨ha.1.trans (nextLine_eq_some hb).1, (nextLine_eq_some hb).2.2⟩) ⟨hpx, hx⟩
    rw [bodyThen_eq, if_neg]
    intro hbrace
    have hnone := firstPlace?_eq_none.1 hr r (List.getElem?_eq_some_iff.1 hbrace).1.le
    rw [bodyAt_iff.2 ⟨hkept.1, hkept.2, hbrace⟩] at hnone
    cases hnone
  | some r =>
    have hbody := (firstPlace?_eq_some.1 hr).2.1
    refine Node.rounds_lazy hline (fun i j h => ⟨(nextLine_eq_some h).1, (nextLine_eq_some h).2.1⟩)
      (Nat.lt_succ_of_le (Nat.sub_le ..)) (tries_body hr _ (Nat.le_refl _) hpx (hbefore r hbody) hx) ?_
    rw [bodyThen_eq, if_pos (bodyAt_iff.1 hbody).2.2]

/-- No line ends within the name of the function. -/
theorem add_length_le_of_feed (h : functionAt us i = true) (hij : i ≤ j) (hj : us[j]? = some 10) :
    i + functionName.length ≤ j := by
  have hstands : standsAt functionName us i = true := by
    simp only [functionAt, Bool.and_eq_true] at h
    exact h.1.2
  by_contra hlt
  have hunit := getElem?_of_standsAt hstands (j := j - i) (by omega)
  rw [Nat.add_sub_cancel' hij, hj] at hunit
  have hmem : (10 : UInt16) ∈ functionName := List.mem_of_getElem? hunit.symm
  exact absurd hmem (by decide)

/-- The function's pattern fits where the function is named, if there is a body after that. -/
theorem matchAt?_functionPattern (us : List UInt16) (i : Nat) : functionPattern.matchAt? (lineSubject us) i =
    if functionAt us i then (firstPlace? us (bodyAt us i)).map fun r => ⟨i, runEnd us notFeed r, [none]⟩ else none := by
  have hrun (x : Found) : functionPattern.node.run (lineSubject us) [] false some x =
      (restOfLine functionNode).run (lineSubject us) [] false
        (((restOfLine .empty).star false).run (lineSubject us) [] false (bodyThen us)) x := by
    rw [functionPattern, Node.run_sequence, Node.run_sequence, Node.run_sequence]
    rfl
  have hnames : functionPattern.names = [] := rfl
  rw [Compiled.matchAt?, hnames, hrun, restOfLine_moves functionNode_moves]
  dsimp only
  split
  case isFalse => rfl
  case isTrue hname =>
    have hfeed (r : Nat) (hr : bodyAt us i r = true) : i + functionName.length ≤ r - 1 := by
      obtain ⟨hir, hfeed, -⟩ := bodyAt_iff.1 hr
      exact add_length_le_of_feed hname (by omega) hfeed
    rw [Option.bind_some]
    cases hnext : nextLine us (i + functionName.length) with
    | none =>
      have hnone : firstPlace? us (bodyAt us i) = none := by
        refine firstPlace?_eq_none.2 fun r _ => Bool.eq_false_iff.2 fun hr => ?_
        obtain ⟨l, hl, -⟩ := nextLine_le (hfeed r hr) (bodyAt_iff.1 hr).2.1
        rw [hnext] at hl
        cases hl
      rw [hnone]
      rfl
    | some j =>
      obtain ⟨hlt, -, hj⟩ := nextLine_eq_some hnext
      have hbefore (r : Nat) (hr : bodyAt us i r = true) : j ≤ r := by
        obtain ⟨hir, hrfeed, -⟩ := bodyAt_iff.1 hr
        obtain ⟨l, hl, hle⟩ := nextLine_le (hfeed r hr) hrfeed
        rw [hnext] at hl
        cases hl
        omega
      rw [Option.bind_some, run_lines (p := i) (by dsimp only; omega) hj hbefore, Option.map_map]
      rfl

/-- The first match of the function's pattern. -/
theorem search?_functionPattern (content : Text) : functionPattern.search? content =
    (firstPlace? content.units (functionAt content.units)).bind fun p =>
      (firstPlace? content.units (bodyAt content.units p)).map fun r => ⟨p, runEnd content.units notFeed r, [none]⟩ := by
  refine Compiled.search?_eq_firstPlace? rfl (matchAt?_functionPattern content.units) fun p j hpj hnone => ?_
  -- A function that is named later has no body either.
  rw [Option.map_eq_none_iff, firstPlace?_eq_none] at hnone ⊢
  refine fun r hr => Bool.eq_false_iff.2 fun hbody => ?_
  obtain ⟨hjr, hends⟩ := bodyAt_iff.1 hbody
  have := hnone r hr
  rw [bodyAt_iff.2 ⟨by omega, hends⟩] at this
  cases this

/-! ## The test of the debug flag -/

/-- The guard's pattern fits where the debug flag is tested first on a line. -/
theorem matchAt?_guardPattern (us : List UInt16) (i : Nat) : guardPattern.matchAt? (lineSubject us) i =
    if guardAt us i then some ⟨i, runEnd us isGap i + guardText.length, [none]⟩ else none := by
  have hreads : (lineSubject us).Reads us := lineSubject_reads
  have hfirst := beginNode_moves.starThen hreads gapNode_moves (.char hreads 105) fun _ => no_char_of_stepOver rfl
  have hmoves : guardPattern.node.Moves (lineSubject us) _ := hfirst.thenChars hreads
  have htext : guardText = 105 :: guardText.tail := by decide
  refine (Compiled.matchAt?_of_moves hmoves).trans ?_
  rw [guardAt, htext, standsAt_cons, List.length_cons]
  cases lineBegins us i with
  | false => rfl
  | true =>
    simp only [if_true, Option.bind_some, Bool.true_and]
    by_cases hunit : us[runEnd us isGap i]? = some 105
    · rw [if_pos hunit, hunit, Option.bind_some, List.tail_cons, Nat.add_assoc, Nat.add_comm 1]
      cases standsAt guardText.tail us (runEnd us isGap i + 1) <;> rfl
    · simp [hunit]

/-- The first match of the guard's pattern. -/
theorem search?_guardPattern (content : Text) : guardPattern.search? content =
    (firstPlace? content.units (guardAt content.units)).map fun i =>
      ⟨i, runEnd content.units isGap i + guardText.length, [none]⟩ := by
  have hsearch := Compiled.search?_eq_firstPlace? (t := content) rfl (matchAt?_guardPattern content.units)
    fun i j _ hnone => nomatch hnone
  rw [hsearch, Option.map_eq_bind]
  rfl

/-! ## The rule -/

/-- The rule of the spell. -/
def velocityRule : Rule :=
  .firstOf
    [.insert .after
      (ofString "^use_sysmem_rendering\\b[^\\n]*\\n(?:[^\\n]*\\n)*?\\\x7b[^\\n]*")
      (ofString ("\n   " ++ tigerMarker ++ "\n   return true;")) (some true),
    .insert .before (ofString "^[ \\t]*if \\(TU_DEBUG\\(SYSMEM\\)\\)")
      (ofString ("   " ++ tigerMarker ++ "\n   return true;\n")) (some true)]

theorem apply_velocityRule (content : Text) : velocityRule.apply content =
    .ok (match velocityPlace? content.units with
      | none => ⟨content, false⟩
      | some (i, text) => ⟨content.insertedAt text i, true⟩) := by
  rw [velocityRule, Rule.apply, Rule.applyFirst, Rule.apply, Rule.applyInsert_eq compile_functionPattern,
    search?_functionPattern, Rule.applyFirst, Rule.apply, Rule.applyInsert_eq compile_guardPattern,
    search?_guardPattern, velocityPlace?]
  cases firstPlace? content.units (functionAt content.units) with
  | none =>
    simp only [Option.bind_none]
    cases firstPlace? content.units (guardAt content.units) <;> rfl
  | some p =>
    simp only [Option.bind_some]
    cases firstPlace? content.units (bodyAt content.units p) with
    | none => cases firstPlace? content.units (guardAt content.units) <;> rfl
    | some r => rfl

/-! ## The marker -/

/-- The marker in units. -/
def markerUnits : List UInt16 := (ofString tigerMarker).units

/-- The line of the marker in what is put in. -/
def markerLine : List UInt16 := [32, 32, 32] ++ markerUnits

/-- The statement in what is put in. -/
def returnLine : List UInt16 := (ofString "   return true;").units

theorem markerUnits_ne_nil : markerUnits ≠ [] := by decide

theorem not_endsLine_of_mem {u : UInt16} (h : u ∈ markerUnits) : endsLine u = false := by
  have hall : markerUnits.all (!endsLine ·) = true := by decide
  simpa using List.all_eq_true.1 hall u h

theorem feed_not_mem : (10 : UInt16) ∉ markerUnits := fun h => by
  have := not_endsLine_of_mem h
  cases this

theorem occurrences_markerLine : occurrences markerUnits markerLine = 1 := by decide

theorem occurrences_returnLine : occurrences markerUnits returnLine = 0 := by decide

/-- A marker of one line stands once in a text that it is put at the end of. -/
theorem occurrences_withMarker {content marker : Text} (hmarker : marker.units ≠ []) (hfeed : (10 : UInt16) ∉ marker.units)
    (h : content.contains marker = false) : occurrences marker.units (content.withMarker marker).units = 1 := by
  have hcontent : occurrences marker.units content.units = 0 := occurrences_eq_zero.2 h
  have hlast : occurrences marker.units (marker.units ++ [10]) = 1 := by
    rw [occurrences_append_cons hmarker hfeed, occurrences_self hmarker, occurrences]
    simp [hmarker]
  rw [Text.withMarker, if_neg (by simp [h])]
  dsimp only
  split
  case isTrue hend =>
    rw [Bool.or_eq_true, List.isEmpty_iff, Text.endsWithUnit, beq_iff_eq, List.getLast?_eq_some_iff] at hend
    obtain hnil | ⟨before, hbefore⟩ := hend
    · rw [hnil]
      exact hlast
    · have hzero : occurrences marker.units before + occurrences marker.units [] = 0 := by
        rw [← occurrences_append_cons hmarker hfeed, ← hcontent, hbefore]
        rfl
      have hshape : content.units ++ [] ++ marker.units ++ [lineFeed] = before ++ 10 :: (marker.units ++ [10]) := by
        rw [hbefore]
        simp [lineFeed]
      rw [hshape, occurrences_append_cons hmarker hfeed, hlast]
      omega
  case isFalse =>
    have hshape : content.units ++ [lineFeed] ++ marker.units ++ [lineFeed] =
        content.units ++ 10 :: (marker.units ++ [10]) := by simp [lineFeed]
    rw [hshape, occurrences_append_cons hmarker hfeed, hlast, hcontent]

/-- At the end of a line the marker is put in once. -/
theorem occurrences_after (h : occurrences markerUnits us = 0) (hi : ∀ u, us[i]? = some u → u = 10) :
    occurrences markerUnits
      (us.take i ++ (ofString ("\n   " ++ tigerMarker ++ "\n   return true;")).units ++ us.drop i) = 1 := by
  have htext : (ofString ("\n   " ++ tigerMarker ++ "\n   return true;")).units =
      10 :: (markerLine ++ 10 :: returnLine) := by decide
  have hsum (vs : List UInt16) : us.take i ++ 10 :: (markerLine ++ 10 :: returnLine) ++ vs =
      us.take i ++ 10 :: (markerLine ++ 10 :: (returnLine ++ vs)) := by simp
  rw [htext, hsum, occurrences_append_cons markerUnits_ne_nil feed_not_mem,
    occurrences_append_cons markerUnits_ne_nil feed_not_mem, occurrences_markerLine]
  cases hunit : us[i]? with
  | none =>
    have hle := List.getElem?_eq_none_iff.1 hunit
    rw [List.take_of_length_le hle, List.drop_eq_nil_of_le hle, List.append_nil, h, occurrences_returnLine]
  | some u =>
    obtain ⟨hlt, hget⟩ := List.getElem?_eq_some_iff.1 hunit
    have hdrop : us.drop i = 10 :: us.drop (i + 1) := by
      rw [List.drop_eq_getElem_cons hlt, hget, hi u hunit]
    rw [← List.take_append_drop i us, hdrop, occurrences_append_cons markerUnits_ne_nil feed_not_mem] at h
    rw [hdrop, occurrences_append_cons markerUnits_ne_nil feed_not_mem, occurrences_returnLine]
    omega

/-- At the beginning of a line the marker is put in once. -/
theorem occurrences_before (h : occurrences markerUnits us = 0) (hi : i ≤ us.length) (hbegins : lineBegins us i = true) :
    occurrences markerUnits
      (us.take i ++ (ofString ("   " ++ tigerMarker ++ "\n   return true;\n")).units ++ us.drop i) = 1 := by
  have htext : (ofString ("   " ++ tigerMarker ++ "\n   return true;\n")).units =
      markerLine ++ 10 :: (returnLine ++ [10]) := by decide
  have hsum (vs : List UInt16) : us.take i ++ (markerLine ++ 10 :: (returnLine ++ [10])) ++ vs =
      us.take i ++ markerLine ++ 10 :: (returnLine ++ 10 :: vs) := by simp
  rw [htext, hsum, occurrences_append_cons markerUnits_ne_nil feed_not_mem,
    occurrences_append_cons markerUnits_ne_nil feed_not_mem, occurrences_returnLine]
  rw [lineBegins, Bool.or_eq_true, beq_iff_eq, Option.any_eq_true] at hbegins
  obtain rfl | ⟨u, hunit, hends⟩ := hbegins
  · rw [List.drop_zero, h, List.take_zero, List.nil_append, occurrences_markerLine]
  · have hnot : u ∉ markerUnits := fun hmem => by
      rw [not_endsLine_of_mem hmem] at hends
      cases hends
    cases i with
    | zero => rw [List.drop_zero, h, List.take_zero, List.nil_append, occurrences_markerLine]
    | succ i =>
      rw [Nat.add_sub_cancel] at hunit
      have htake : us.take (i + 1) = us.take i ++ [u] := by rw [List.take_add_one, hunit, Option.toList_some]
      rw [← List.take_append_drop (i + 1) us, htake, List.append_assoc, List.singleton_append,
        occurrences_append_cons markerUnits_ne_nil hnot] at h
      rw [htake, List.append_assoc, List.singleton_append, occurrences_append_cons markerUnits_ne_nil hnot,
        occurrences_markerLine]
      omega

/-- Wherever the spell puts its text in, the marker stands once then. -/
theorem occurrences_velocityPlace? {text : Text} (h : occurrences markerUnits us = 0)
    (hplace : velocityPlace? us = some (i, text)) :
    occurrences markerUnits (us.take i ++ text.units ++ us.drop i) = 1 := by
  rw [velocityPlace?] at hplace
  split at hplace
  case h_1 r =>
    cases hplace
    exact occurrences_after h fun u hu => by simpa [notFeed] using not_fits_runEnd hu
  case h_2 =>
    cases hguard : firstPlace? us (guardAt us) with
    | none =>
      rw [hguard] at hplace
      cases hplace
    | some g =>
      rw [hguard] at hplace
      cases hplace
      obtain ⟨hi, hbegins, -⟩ := firstPlace?_eq_some.1 hguard
      rw [guardAt, Bool.and_eq_true] at hbegins
      exact occurrences_before h hi hbegins.1

/-! ## The edit -/

/-- What the rules of the spell make of a text, by a scan of its lines. -/
def velocityEdited (content : Text) : Edited :=
  match velocityPlace? content.units with
  | some (i, text) => ⟨content.insertedAt text i, 1, []⟩
  | none => ⟨content, 0, [velocityRule.describe]⟩

theorem applyAll_velocityRule (content : Text) : Rule.applyAll content [velocityRule] = .ok (velocityEdited content) := by
  rw [Rule.applyAll, List.foldlM_cons, Rule.applyNext, apply_velocityRule, velocityEdited]
  cases velocityPlace? content.units with
  | none => rfl
  | some place => rfl

/-- The spell is an edit of lines. It puts its text in at the end of the line on which the body of the first
function of that name begins; if there is none, before the first line that tests the debug flag; else
it changes nothing and says that the rule found nothing. Then the marker stands in the text once. -/
theorem tigerVelocity_edits_lines (content : Text) (h : content.contains (ofString tigerMarker) = false) :
    tigerVelocity.work =
      .edit "src/freedreno/vulkan/tu_cmd_buffer.cc" (ofString tigerMarker) [velocityRule] ∧
    Rule.applyAll content [velocityRule] = .ok (velocityEdited content) ∧
    occurrences (ofString tigerMarker).units
      ((velocityEdited content).content.withMarker (ofString tigerMarker)).units = 1 := by
  refine ⟨rfl, applyAll_velocityRule content, ?_⟩
  have hcontent : occurrences markerUnits content.units = 0 := occurrences_eq_zero.2 h
  rw [velocityEdited]
  cases hplace : velocityPlace? content.units with
  | none => exact occurrences_withMarker markerUnits_ne_nil feed_not_mem h
  | some place =>
    have hone : occurrences markerUnits (content.insertedAt place.2 place.1).units = 1 :=
      occurrences_velocityPlace? hcontent hplace
    have hmarked : (content.insertedAt place.2 place.1).contains (ofString tigerMarker) = true := by
      by_contra hnot
      have hzero : occurrences markerUnits (content.insertedAt place.2 place.1).units = 0 :=
        occurrences_eq_zero.2 (Bool.eq_false_iff.2 hnot)
      omega
    dsimp only
    rw [Text.withMarker, if_pos hmarked]
    exact hone

/-- A function of that name with nothing in its body. -/
def emptyFunction : Text := ofString "use_sysmem_rendering()\n\x7b\n\x7d\n"

theorem tigerVelocity_edits_lines_empty :
    emptyFunction.contains (ofString tigerMarker) = false ∧
    Rule.applyAll emptyFunction [velocityRule] =
      .ok ⟨ofString ("use_sysmem_rendering()\n\x7b\n   // Dragon: Tiger Velocity\n   return true;\n\x7d\n"), 1, []⟩ ∧
    occurrences (ofString tigerMarker).units
      ((velocityEdited emptyFunction).content.withMarker (ofString tigerMarker)).units = 1 := by
  have h : emptyFunction.contains (ofString tigerMarker) = false := by decide
  have hedited : velocityEdited emptyFunction =
      ⟨ofString ("use_sysmem_rendering()\n\x7b\n   // Dragon: Tiger Velocity\n   return true;\n\x7d\n"), 1, []⟩ := by
    decide
  obtain ⟨-, happly, hone⟩ := tigerVelocity_edits_lines emptyFunction h
  rw [hedited] at happly
  exact ⟨h, happly, hone⟩

end VariantForge.Spell
