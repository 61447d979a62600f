import Mathlib.Data.List.Lex

/-!
# The order of bytes

Texts are compared by their code points, and where their bytes in UTF-8 are
compared instead, the outcome is the same.  The number of bytes of a character
shows in its first byte, and of two characters with equally many bytes the later
one has the greater digits to the base 64, the foremost first.  So the bytes of
two different characters part before either ends (`precedes_utf8EncodeChar`).
-/

namespace Lifeline.Text

open String (utf8EncodeChar)

/-- The bytes of a text in UTF-8. -/
def bytes (text : String) : List UInt8 := text.toUTF8.data.toList

/-- The one comes before the other whatever follows them. -/
def Precedes (left right : List UInt8) : Prop :=
  ∀ leftRest rightRest, left ++ leftRest < right ++ rightRest

theorem precedes_cons {first second : Nat} (hless : first < second) (hbound : second < 256)
    (left right : List UInt8) :
    Precedes (UInt8.ofNat first :: left) (UInt8.ofNat second :: right) := by
  intro leftRest rightRest
  have hbytes := (UInt8.ofNat_lt_iff_lt (Nat.lt_trans hless hbound) hbound).2 hless
  exact List.cons_lt_cons_iff.2 (.inl hbytes)

theorem Precedes.append {left right : List UInt8} (hprecedes : Precedes left right)
    (leftRest rightRest : List UInt8) : Precedes (left ++ leftRest) (right ++ rightRest) := by
  intro leftEnd rightEnd
  rw [List.append_assoc, List.append_assoc]
  exact hprecedes _ _

theorem Precedes.append_left {left right : List UInt8} (hprecedes : Precedes left right)
    (shared : List UInt8) : Precedes (shared ++ left) (shared ++ right) := by
  intro leftRest rightRest
  rw [List.append_assoc, List.append_assoc]
  exact List.append_left_lt (hprecedes leftRest rightRest)

/-- The bytes of a number grow with it, below a bound. -/
def Grows (write : Nat → List UInt8) (bound : Nat) : Prop :=
  ∀ first second, first < second → second < bound → Precedes (write first) (write second)

/-- The byte that goes on with the last six bits of a number. -/
def further (code : Nat) : UInt8 := UInt8.ofNat (code % 64 + 128)

theorem grows_lead (mark : Nat) : Grows (fun code => [UInt8.ofNat (code + mark)]) (256 - mark) := by
  intro first second hless hbound
  exact precedes_cons (by omega) (by omega) [] []

/-- One more byte takes in six more bits. -/
theorem Grows.further {write : Nat → List UInt8} {bound : Nat} (hgrows : Grows write bound) :
    Grows (fun code => write (code / 64) ++ [further code]) (bound * 64) := by
  intro first second hless hbound
  rcases Nat.lt_or_ge (first / 64) (second / 64) with hleading | hleading
  · exact (hgrows _ _ hleading (by omega)).append _ _
  · have hsame : first / 64 = second / 64 := by omega
    dsimp only
    rw [hsame]
    exact (precedes_cons (by omega) (by omega) [] []).append_left _

/-! ## Characters -/

theorem toNat_lt (c : Char) : c.toNat < 0x110000 := by
  have hvalid := c.valid
  unfold UInt32.isValidChar Nat.isValidChar at hvalid
  change c.val.toNat < _
  omega

/-- The bytes of a character, by their number. -/
theorem utf8EncodeChar_eq (c : Char) :
    utf8EncodeChar c =
      if c.toNat < 0x80 then [UInt8.ofNat (c.toNat + 0)]
      else if c.toNat < 0x800 then [UInt8.ofNat (c.toNat / 64 + 192), further c.toNat]
      else if c.toNat < 0x10000 then
        [UInt8.ofNat (c.toNat / 64 / 64 + 224), further (c.toNat / 64), further c.toNat]
      else
        [UInt8.ofNat (c.toNat / 64 / 64 / 64 + 240), further (c.toNat / 64 / 64),
          further (c.toNat / 64), further c.toNat] := by
  have hbound := toNat_lt c
  have hsame : c.val.toNat = c.toNat := rfl
  simp only [utf8EncodeChar, further, hsame, Nat.div_div_eq_div_mul]
  generalize c.toNat = code at hbound
  split_ifs
  all_goals try omega
  · rfl
  · rw [Nat.mod_eq_of_lt (by omega : code / 64 < 32)]
  · rw [Nat.mod_eq_of_lt (by omega : code / 4096 < 16)]
  · rw [Nat.mod_eq_of_lt (by omega : code / 262144 < 8)]

/-- The bytes of a character come before those of a later one. -/
theorem precedes_utf8EncodeChar {c d : Char} (hless : c < d) :
    Precedes (utf8EncodeChar c) (utf8EncodeChar d) := by
  have hcodes : c.toNat < d.toNat := hless
  have hbound := toNat_lt d
  rw [utf8EncodeChar_eq c, utf8EncodeChar_eq d]
  generalize c.toNat = first at hcodes
  generalize d.toNat = second at hcodes hbound
  split_ifs
  all_goals try omega
  -- Among the others the one with more bytes has the greater first byte.
  all_goals try exact precedes_cons (by omega) (by omega) _ _
  · exact (grows_lead 192).further _ _ hcodes (by omega)
  · exact (grows_lead 224).further.further _ _ hcodes (by omega)
  · exact (grows_lead 240).further.further.further _ _ hcodes (by omega)

theorem utf8EncodeChar_ne_nil (c : Char) : utf8EncodeChar c ≠ [] := by
  rw [utf8EncodeChar_eq]
  split_ifs <;> exact List.cons_ne_nil _ _

/-! ## Texts -/

theorem bytes_eq (text : String) : bytes text = text.toList.flatMap utf8EncodeChar := by
  rw [bytes, String.toUTF8_eq_toByteArray, ← String.utf8Encode_toList]
  simp [List.utf8Encode]

theorem flatMap_utf8EncodeChar_lt {left right : List Char}
    (hless : List.Lex (· < ·) left right) :
    left.flatMap utf8EncodeChar < right.flatMap utf8EncodeChar := by
  induction hless with
  | @nil c rest =>
      obtain ⟨first, others, hfirst⟩ := List.exists_cons_of_ne_nil (utf8EncodeChar_ne_nil c)
      rw [List.flatMap_nil, List.flatMap_cons, hfirst]
      exact List.nil_lt_cons _ _
  | cons _ ih => exact List.append_left_lt ih
  | rel hcodes => exact precedes_utf8EncodeChar hcodes _ _

/-- A text that comes before another by its code points does so by its bytes. -/
theorem bytes_lt_bytes {left right : String} (hless : left < right) : bytes left < bytes right := by
  rw [bytes_eq, bytes_eq]
  exact flatMap_utf8EncodeChar_lt (String.lt_iff.1 hless)

end Lifeline.Text
