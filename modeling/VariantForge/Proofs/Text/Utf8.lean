import Mathlib.Tactic.IntervalCases
import VariantForge.Proofs.Text.Units
import VariantForge.Text.Utf8

/-!
# UTF-8 — bytes that were written are read as they were meant

Reading the bytes of a string gives its characters back (`decodeChars_toUTF8`), one after the other.
Halves of pairs that stand alone are the only units of a text that its bytes do not hold
(`decodeText_encodeText`). Texts that come together have the bytes of both where no pair meets
(`encodeText_append`), and bytes that are read and written again are the same if they were well-formed, and only
then (`encodeText_decodeText_iff`).
-/

namespace VariantForge.Utf8

open Text

variable {before : List Char} {rest : List UInt8}

/-! ## Bytes in a list -/

theorem loop_toList (bytes : ByteArray) (i : Nat) (before : List UInt8) :
    ByteArray.toList.loop bytes i before = before.reverse ++ bytes.data.toList.drop i := by
  fun_induction ByteArray.toList.loop bytes i before with
  | case1 i before hi ih =>
    have hi' : i < bytes.data.toList.length := by simpa using hi
    have hget : bytes.get! i = bytes.data.toList[i] := by simp [ByteArray.get!, hi]
    rw [ih, List.drop_eq_getElem_cons hi', List.reverse_cons, List.append_assoc, List.singleton_append,
      hget]
  | case2 i before hi =>
    rw [List.drop_eq_nil_of_le (by simpa using hi), List.append_nil]

theorem toList_toByteArray (bytes : List UInt8) : bytes.toByteArray.toList = bytes := by
  rw [ByteArray.toList, loop_toList]
  simp

theorem toList_toUTF8 (s : String) : s.toUTF8.toList = s.toList.flatMap String.utf8EncodeChar := by
  have hbytes : s.toUTF8 = (s.toList.flatMap String.utf8EncodeChar).toByteArray :=
    String.utf8Encode_toList.symm
  rw [hbytes, toList_toByteArray]

theorem toNat_byte {n : Nat} (h : n < 256) : (UInt8.ofNat n).toNat = n := UInt8.toNat_ofNat_of_lt' h

/-! ## Continuation bytes -/

theorem continuation_cons {n b value : Nat} {low high : UInt8} (hb : b < 64)
    (hlow : low.toNat ≤ b + 128) (hhigh : b + 128 ≤ high.toNat) :
    continuation (n + 1) low high value (UInt8.ofNat (b + 128) :: rest) =
      continuation n 0x80 0xBF (value * 64 + b) rest := by
  have hbyte : (UInt8.ofNat (b + 128)).toNat = b + 128 := toNat_byte (by omega)
  have hrange : (decide (low ≤ UInt8.ofNat (b + 128)) && decide (UInt8.ofNat (b + 128) ≤ high)) = true := by
    rw [Bool.and_eq_true, decide_eq_true_eq, decide_eq_true_eq, UInt8.le_iff_toNat_le,
      UInt8.le_iff_toNat_le, hbyte]
    exact ⟨hlow, hhigh⟩
  rw [continuation, if_pos hrange, hbyte, Nat.add_sub_cancel]

/-- A continuation byte of which any will do. -/
theorem continuation_any {n b value : Nat} (hb : b < 64) :
    continuation (n + 1) 0x80 0xBF value (UInt8.ofNat (b + 128) :: rest) =
      continuation n 0x80 0xBF (value * 64 + b) rest :=
  continuation_cons hb (by simp) (by simp; omega)

/-! ## First bytes -/

theorem toNat_ite_le {c : Prop} [Decidable c] {x y : UInt8} {n : Nat} (hx : c → x.toNat ≤ n)
    (hy : y.toNat ≤ n) : (if c then x else y).toNat ≤ n := by
  split
  · exact hx ‹_›
  · exact hy

theorem le_toNat_ite {c : Prop} [Decidable c] {x y : UInt8} {n : Nat} (hx : c → n ≤ x.toNat)
    (hy : n ≤ y.toNat) : n ≤ (if c then x else y).toNat := by
  split
  · exact hx ‹_›
  · exact hy

theorem lead?_two {k : Nat} (hk : 2 ≤ k) (hk' : k < 32) :
    lead? (UInt8.ofNat (k + 192)) = some ⟨1, 0x80, 0xBF, k⟩ := by
  have hbyte : (UInt8.ofNat (k + 192)).toNat = k + 192 := toNat_byte (by omega)
  have hlow : ¬ UInt8.ofNat (k + 192) < 0xC2 := by
    rw [UInt8.lt_iff_toNat_lt, hbyte]
    exact Nat.not_lt.2 (Nat.add_le_add_right hk 192)
  have hhigh : UInt8.ofNat (k + 192) < 0xE0 := by
    rw [UInt8.lt_iff_toNat_lt, hbyte]
    exact Nat.add_lt_add_right hk' 192
  rw [lead?, if_neg hlow, if_pos hhigh, hbyte, Nat.add_sub_cancel]

theorem lead?_three {k : Nat} (hk : k < 16) :
    lead? (UInt8.ofNat (k + 224)) =
      some ⟨2, if k = 0 then 0xA0 else 0x80, if k = 13 then 0x9F else 0xBF, k⟩ := by
  interval_cases k <;> rfl

theorem lead?_four {k : Nat} (hk : k < 5) :
    lead? (UInt8.ofNat (k + 240)) =
      some ⟨3, if k = 0 then 0x90 else 0x80, if k = 4 then 0x8F else 0xBF, k⟩ := by
  interval_cases k <;> rfl

/-! ## Characters -/

/-- Bytes that begin with one that announces others stand for one code point if these are there. -/
theorem charsAfter_lead {b : UInt8} {lead : Lead} {p : Nat} {bytes : List UInt8}
    (hb : 0x80 ≤ b.toNat) (hlead : lead? b = some lead)
    (hread : continuation lead.following lead.low lead.high lead.bits bytes = (some p, rest)) :
    charsAfter before (b :: bytes) = charsAfter ((charsOfPoint p).reverse ++ before) rest := by
  rw [charsAfter, if_neg (by simpa [UInt8.lt_iff_toNat_lt] using hb), hlead]
  simp [hread]

/-- The bytes of a character are read as that character. -/
theorem charsAfter_encodeChar (c : Char) :
    charsAfter before (String.utf8EncodeChar c ++ rest) =
      charsAfter ((charsOfPoint c.toNat).reverse ++ before) rest := by
  have hvalid : c.toNat < 0xD800 ∨ 0xDFFF < c.toNat ∧ c.toNat < 0x110000 := c.valid
  have hval : c.val.toNat = c.toNat := rfl
  rw [String.utf8EncodeChar, hval]
  generalize hv : c.toNat = v at hvalid
  split
  · rename_i hsmall
    have hbyte : (UInt8.ofNat v).toNat = v := toNat_byte (by omega)
    have hpoint : charsOfPoint v = [Char.ofNat v] := by
      rw [charsOfPoint, if_neg]
      rw [isHalfPoint_iff]
      omega
    rw [List.singleton_append, charsAfter, if_pos (by simp [UInt8.lt_iff_toNat_lt, hbyte]; omega),
      hbyte, hpoint]
    rfl
  split
  · rename_i hone htwo
    have hk : v / 64 % 32 = v / 64 := by omega
    have hbyte : (UInt8.ofNat (v / 64 + 192)).toNat = v / 64 + 192 := toNat_byte (by omega)
    have hsum : v / 64 * 64 + v % 64 = v := by omega
    rw [hk]
    simp only [List.cons_append, List.nil_append]
    refine charsAfter_lead (by omega) (lead?_two (by omega) (by omega)) ?_
    dsimp only
    rw [continuation_any (by omega), hsum]
    rfl
  split
  · rename_i hone htwo hthree
    have hk : v / 4096 % 16 = v / 4096 := by omega
    have hbyte : (UInt8.ofNat (v / 4096 + 224)).toNat = v / 4096 + 224 := toNat_byte (by omega)
    have hsum : (v / 4096 * 64 + v / 64 % 64) * 64 + v % 64 = v := by omega
    -- overlong forms and halves of pairs are what the range of the second byte shuts out
    have hlong : v / 4096 = 0 → 160 ≤ v / 64 % 64 + 128 := by omega
    have hhalf : v / 4096 = 13 → v / 64 % 64 + 128 ≤ 159 := by omega
    have hany : v / 64 % 64 + 128 ≤ 191 := by omega
    rw [hk]
    simp only [List.cons_append, List.nil_append]
    refine charsAfter_lead (by omega) (lead?_three (by omega)) ?_
    dsimp only
    rw [continuation_cons (by omega) (toNat_ite_le hlong (Nat.le_add_left ..))
      (le_toNat_ite hhalf hany), continuation_any (by omega), hsum]
    rfl
  · rename_i hone htwo hthree
    have hk : v / 262144 % 8 = v / 262144 := by omega
    have hbyte : (UInt8.ofNat (v / 262144 + 240)).toNat = v / 262144 + 240 := toNat_byte (by omega)
    have hsum : ((v / 262144 * 64 + v / 4096 % 64) * 64 + v / 64 % 64) * 64 + v % 64 = v := by omega
    have hlong : v / 262144 = 0 → 144 ≤ v / 4096 % 64 + 128 := by omega
    have hpast : v / 262144 = 4 → v / 4096 % 64 + 128 ≤ 143 := by omega
    have hany : v / 4096 % 64 + 128 ≤ 191 := by omega
    rw [hk]
    simp only [List.cons_append, List.nil_append]
    refine charsAfter_lead (by omega) (lead?_four (by omega)) ?_
    dsimp only
    rw [continuation_cons (by omega) (toNat_ite_le hlong (Nat.le_add_left ..))
      (le_toNat_ite hpast hany), continuation_any (by omega),
      continuation_any (by omega), hsum]
    rfl

theorem charsAfter_encodeChars (cs : List Char) :
    charsAfter before (cs.flatMap String.utf8EncodeChar) =
      before.reverse ++ cs.flatMap fun c => charsOfPoint c.toNat := by
  induction cs generalizing before with
  | nil => simp [charsAfter]
  | cons c cs ih => simp [charsAfter_encodeChar, ih]

/-- Reading the bytes of a string gives what it would hold for the code points of its characters. -/
theorem decodeChars_toUTF8 (s : String) :
    decodeChars s.toUTF8 = s.toList.flatMap fun c => charsOfPoint c.toNat := by
  rw [decodeChars, toList_toUTF8, charsAfter_encodeChars, List.reverse_nil, List.nil_append]

/-! ## Texts -/

theorem isValidChar_toNat (c : Char) : c.toNat.isValidChar := c.valid

/-- A text that was written is read with its lone halves mended. -/
theorem decodeText_encodeText (t : Text) : decodeText (encodeText t) = ⟨mended t.units⟩ := by
  have hpoint (c : Char) : (charsOfPoint c.toNat).flatMap unitsOfChar = unitsOfPoint c.toNat :=
    unitsOfChar_charsOfPoint (isValidChar_toNat c)
  have hunits : (decodeChars (encodeText t)).flatMap unitsOfChar = mended t.units := by
    rw [encodeText, encode, decodeChars_toUTF8, List.flatMap_assoc, toList_shown, toList_toString,
      ← shownUnits_heldChars, shownUnits]
    simp only [hpoint]
  rw [decodeText, hunits]

/-- A well-formed part of a text is found in what is read after the text was written. -/
theorem contains_decodeText_encodeText {t part : Text} (hwell : isWellFormed part.units = true)
    (h : t.contains part = true) : (decodeText (encodeText t)).contains part = true := by
  rw [decodeText_encodeText]
  exact occursIn_mended hwell h

/-! ## Bytes of parts -/

variable {us vs : List UInt16} {bytes : ByteArray}

theorem toList_encodeText (t : Text) :
    (encodeText t).toList = (writtenChars t.units).flatMap String.utf8EncodeChar := by
  rw [encodeText, encode, toList_toUTF8, toList_shown, toList_toString]
  rfl

/-- The bytes of two texts that come together without a pair of halves meeting. -/
theorem encodeText_append (h : WholeCut us vs) :
    (encodeText ⟨us ++ vs⟩).toList = (encodeText ⟨us⟩).toList ++ (encodeText ⟨vs⟩).toList := by
  rw [toList_encodeText, toList_encodeText, toList_encodeText, writtenChars_append h, List.flatMap_append]

/-- The bytes of a string are read as its characters. -/
theorem decodeText_toUTF8 (s : String) : decodeText s.toUTF8 = ⟨unitsOfChars s.toList⟩ := by
  have hpoint (c : Char) : (charsOfPoint c.toNat).flatMap unitsOfChar = unitsOfPoint c.toNat :=
    unitsOfChar_charsOfPoint (isValidChar_toNat c)
  rw [decodeText, decodeChars_toUTF8, List.flatMap_assoc]
  simp only [hpoint]
  rfl

/-- Bytes that are read and written again are the same if they are well-formed, and only then. -/
theorem encodeText_decodeText_iff : encodeText (decodeText bytes) = bytes ↔ bytes.IsValidUTF8 := by
  constructor
  · intro h
    rw [← h]
    exact String.isValidUTF8 _
  · intro h
    obtain ⟨s, rfl⟩ : ∃ s : String, bytes = s.toUTF8 := ⟨⟨bytes, h⟩, rfl⟩
    have hshown : shown (Text.toString ⟨unitsOfChars s.toList⟩) = s := by
      rw [← String.toList_inj, toList_shown, toList_toString]
      exact writtenChars_unitsOfChars s.toList
    rw [decodeText_toUTF8, encodeText, encode, hshown]

end VariantForge.Utf8
