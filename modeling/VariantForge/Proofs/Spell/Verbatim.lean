import VariantForge.Proofs.Pattern.Literal
import VariantForge.Proofs.Spell.Choices

/-!
# Verbatim rules — what is no pattern is searched as it is

A rule that is not told to look for a pattern looks for its text. Its way leads through a pattern all the
same: the text is escaped, read and run. `apply_verbatim` says that nothing of this is seen: the rule works
as a search from left to right does, for any units, and cannot fail.
-/

namespace VariantForge.Rule

open Text Pattern

variable {content find anchor replacement text : Text} {pattern : Option Bool} {flags : Option String} {f : Flags}

/-- The text with `replacement` in the place of each occurrence of `find`, from left to right. -/
def replaced (content find replacement : Text) : Text :=
  ⟨replacement.units.intercalate (pieces find.units content.units)⟩

/-- The text with another put in directly after or before the first occurrence of `anchor`, if there is one. -/
def inserted (side : Side) (content anchor text : Text) : Text :=
  match indexOf? anchor.units content.units with
  | none => content
  | some i =>
    match side with
    | .after => content.insertedAt text (i + anchor.length)
    | .before => content.insertedAt text i

theorem compileTarget_verbatim {letters : String} (hpattern : pattern ≠ some true)
    (hletters : Flags.read? letters = some f) (hf : f.Plain) :
    compileTarget find pattern letters = .ok (literalPattern f find) := by
  rw [compileTarget, if_neg hpattern, compile_literal hletters hf]

theorem isEmpty_allMatches_literal (hf : f.Plain) (hfind : find.units ≠ []) :
    ((literalPattern f find).allMatches content).isEmpty = !content.contains find := by
  have hall : (literalPattern f find).allMatches content = _ := matchesFrom_literal hf hfind (Nat.zero_le _)
  rw [hall, List.drop_zero, Text.contains, ← isSome_indexOf?]
  cases indexOf? find.units content.units <;> rfl

theorem replaceMatches_literal (hf : f.Plain) (hfind : find.units ≠ []) :
    replaceMatches content ((literalPattern f find).allMatches content) (fun _ => replacement.units) =
      replaced content find replacement := by
  have hsize : ((literalPattern f find).subject content).input.size = content.units.length := (reads_subject hf).size
  have hreplace : replaceFrom (fun _ => replacement.units) 0 (content.units.drop 0)
      ((literalPattern f find).allMatches content) = _ :=
    replaceFrom_matchesFrom hf hfind replacement.units (Nat.zero_le _) (by omega)
  rw [List.drop_zero] at hreplace
  exact congrArg Text.mk hreplace

theorem replaced_of_not_contains (h : content.contains find = false) : replaced content find replacement = content := by
  rw [replaced, pieces_of_none (indexOf?_eq_none.2 h), List.intercalate_singleton]

theorem applyReplace_verbatim (hpattern : pattern ≠ some true) (hfind : find.units ≠ [])
    (hflags : ∀ letters ∈ flags, PlainLetters letters) :
    applyReplace content find replacement pattern flags =
      .ok ⟨replaced content find replacement, content.contains find⟩ := by
  have hletters : PlainLetters (flags.getD "m") := by
    cases flags with
    | none => exact plainLetters_of_all (by decide) (by decide)
    | some letters => exact hflags letters rfl
  obtain ⟨f, hread, hf⟩ := hletters.withFlag.read?
  have hcompile : compileTarget find pattern (withFlag (flags.getD "m") 'g') = .ok (literalPattern f find) :=
    compileTarget_verbatim hpattern hread hf
  rw [applyReplace, replaceFlags, hcompile]
  dsimp only [bind, Except.bind]
  rw [isEmpty_allMatches_literal hf hfind, if_neg hpattern, replaceMatches_literal hf hfind]
  cases h : content.contains find with
  | false =>
    rw [replaced_of_not_contains h]
    rfl
  | true => rfl

theorem applyInsert_verbatim (side : Side) (hpattern : pattern ≠ some true) :
    applyInsert content side anchor text pattern =
      .ok ⟨inserted side content anchor text, content.contains anchor⟩ := by
  have hread : Flags.read? "m" = some { multiline := true } := by decide
  have hf : (⟨false, false, false, true, false, false, false, false⟩ : Flags).Plain := ⟨rfl, rfl, rfl, rfl⟩
  rw [applyInsert_eq (compileTarget_verbatim hpattern hread hf), Text.contains, ← isSome_indexOf?, inserted,
    search?_literal hf]
  cases indexOf? anchor.units content.units with
  | none => rfl
  | some i => cases side <;> rfl

/-- A rule that looks for a text itself, and whose flags are among those for indices, for all places, for
lines and for points, finds something if the content has the text anywhere. What it puts in is put in as it is:
in the place of all occurrences from left to right, or next to the first one. It never fails. -/
theorem apply_verbatim (content find : Text) (pattern : Option Bool) (hfind : find.units ≠ [])
    (hpattern : pattern ≠ some true) :
    (∀ replacement flags, (∀ letters ∈ flags, PlainLetters letters) →
      (Rule.replace find replacement pattern flags).apply content =
        .ok ⟨replaced content find replacement, content.contains find⟩) ∧
    ∀ side text, (Rule.insert side find text pattern).apply content =
      .ok ⟨inserted side content find text, content.contains find⟩ := by
  refine ⟨fun replacement flags hflags => ?_, fun side text => ?_⟩
  · rw [apply]
    exact applyReplace_verbatim hpattern hfind hflags
  · rw [apply]
    exact applyInsert_verbatim side hpattern

/-- Signs of patterns and of templates are characters here. -/
theorem apply_verbatim_signs : (ofString "a.b").units ≠ [] ∧ PlainLetters "sd" ∧
    (Rule.replace (ofString "a.b") (ofString "$&!") none (some "sd")).apply (ofString "a.b axb a.b") =
      .ok ⟨ofString "$&! axb $&!", true⟩ := by
  have hfind : (ofString "a.b").units ≠ [] := by decide +kernel
  have hletters : PlainLetters "sd" := plainLetters_of_all (by decide) (by decide)
  have hreplaced : replaced (ofString "a.b axb a.b") (ofString "a.b") (ofString "$&!") = ofString "$&! axb $&!" := by
    decide +kernel
  have hcontains : (ofString "a.b axb a.b").contains (ofString "a.b") = true := by decide +kernel
  have h := (apply_verbatim (ofString "a.b axb a.b") (ofString "a.b") none hfind (by decide)).1
    (ofString "$&!") (some "sd") fun letters hl => by cases hl; exact hletters
  rw [hreplaced, hcontains] at h
  exact ⟨hfind, hletters, h⟩

end VariantForge.Rule
