import Lifeline.Json.Reader

/-!
# Texts read back

Every character is written as itself or as one escape sequence, and one round of
the reader takes exactly what one character was written as
(`readChars_writeChar`).  So a written text is read back up to its closing
quote, whatever follows it (`readText_writeText`).
-/

namespace Lifeline.Json

theorem hexValue?_hexDigit {n : Nat} (hdigit : n < 16) : hexValue? (hexDigit n) = some n := by
  have hall : ∀ m < 16, hexValue? (hexDigit m) = some m := by decide
  exact hall n hdigit

/-- The escape sequence of a control character. -/
theorem readUnicode_control {c : Char} (hcontrol : c.toNat < 0x20) (rest : List Char) :
    readUnicode ('0' :: '0' :: hexDigit (c.toNat / 16) :: hexDigit (c.toNat % 16) :: rest) =
      .ok (c, rest) := by
  have hzero : hexValue? '0' = some 0 := by decide
  have hhigh : hexValue? (hexDigit (c.toNat / 16)) = some (c.toNat / 16) :=
    hexValue?_hexDigit (by omega)
  have hlow : hexValue? (hexDigit (c.toNat % 16)) = some (c.toNat % 16) :=
    hexValue?_hexDigit (by omega)
  have hunit : ((0 * 16 + 0) * 16 + c.toNat / 16) * 16 + c.toNat % 16 = c.toNat := by omega
  have hread : readHex
      ('0' :: '0' :: hexDigit (c.toNat / 16) :: hexDigit (c.toNat % 16) :: rest) =
        .ok (c.toNat, rest) := by
    simp only [readHex, hzero, hhigh, hlow, hunit]
  have hnotLow : isLowSurrogate c.toNat = false := by
    simp only [isLowSurrogate, Bool.and_eq_false_iff, decide_eq_false_iff_not]
    omega
  have hnotHigh : isHighSurrogate c.toNat = false := by
    simp only [isHighSurrogate, Bool.and_eq_false_iff, decide_eq_false_iff_not]
    omega
  simp only [readUnicode, hread, Except.bind, bind, hnotLow, hnotHigh, Char.ofNat_toNat]
  rfl

theorem writeChar_ne_nil (c : Char) : writeChar c ≠ [] := by
  unfold writeChar
  split <;> simp
  split <;> simp

theorem readChars_plain (fuel : Nat) {c : Char} (rest : List Char) (hquote : c ≠ '"')
    (hbackslash : c ≠ '\\') (hplain : ¬ c.toNat < 0x20) :
    readChars (fuel + 1) (c :: rest) =
      (do let (cs, rest) ← readChars fuel rest; .ok (c :: cs, rest)) := by
  simp only [readChars, if_neg hplain]

/-- One round takes what one character was written as. -/
theorem readChars_writeChar (fuel : Nat) (c : Char) (rest : List Char) :
    readChars (fuel + 1) (writeChar c ++ rest) =
      (do let (cs, rest) ← readChars fuel rest; .ok (c :: cs, rest)) := by
  unfold writeChar
  split
  case h_8 hquote hbackslash _ _ _ _ _ =>
      split
      · next hcontrol =>
          simp only [List.cons_append, List.nil_append, readChars, readEscape,
            readUnicode_control hcontrol, Except.bind, bind]
      · next hplain =>
          exact readChars_plain fuel rest hquote hbackslash hplain
  all_goals rfl

theorem readChars_writeChars (written : List Char) (rest : List Char) {fuel : Nat}
    (hfuel : written.length < fuel) :
    readChars fuel (written.flatMap writeChar ++ '"' :: rest) = .ok (written, rest) := by
  induction written generalizing fuel with
  | nil =>
      obtain ⟨fuel, rfl⟩ := Nat.exists_eq_add_one.2 hfuel
      rfl
  | cons c cs ih =>
      obtain ⟨fuel, rfl⟩ := Nat.exists_eq_add_one.2 (Nat.zero_lt_of_lt hfuel)
      rw [List.flatMap_cons, List.append_assoc, readChars_writeChar,
        ih (by simpa using hfuel)]
      rfl

theorem length_le_length_writeChars (written : List Char) :
    written.length ≤ (written.flatMap writeChar).length := by
  induction written with
  | nil => exact Nat.le_refl 0
  | cons c cs ih =>
      have hsome : 0 < (writeChar c).length := List.length_pos_iff.2 (writeChar_ne_nil c)
      rw [List.flatMap_cons, List.length_append, List.length_cons]
      omega

/-- A written text is read back, whatever follows its closing quote. -/
theorem readText_writeText (text : String) (rest : List Char) :
    readText (text.toList.flatMap writeChar ++ '"' :: rest) = .ok (text, rest) := by
  have hlength := length_le_length_writeChars text.toList
  rw [readText, readChars_writeChars]
  · simp only [Except.bind, bind, String.ofList_toList]
  · rw [List.length_append]
    omega

end Lifeline.Json
