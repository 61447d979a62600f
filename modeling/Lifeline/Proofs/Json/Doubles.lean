import Lifeline.Proofs.Json.Number

/-!
# The extent of a double

The text of a double is digits, then a point with more digits, an exponent, or
both.  What it is read back as depends on rounding, but whatever number the
reader returns, it has taken exactly this text (`leaves_readNumber`).
-/

namespace Lifeline

namespace Decimal

def AllDigits (written : List Char) : Prop := ∀ c ∈ written, isDigit c = true

theorem allDigits_nil : AllDigits [] := List.forall_mem_nil _

theorem allDigits_digits (n : Nat) : AllDigits (digits n) := fun _ => isDigit_of_mem_digits

theorem AllDigits.append {first second : List Char} (hfirst : AllDigits first)
    (hsecond : AllDigits second) : AllDigits (first ++ second) :=
  List.forall_mem_append.2 ⟨hfirst, hsecond⟩

theorem allDigits_zeros (count : Nat) : AllDigits (List.replicate count '0') := by
  intro c hc
  rw [List.eq_of_mem_replicate hc]
  rfl

theorem AllDigits.dropTrailingZeros {written : List Char} (hwritten : AllDigits written) :
    AllDigits (dropTrailingZeros written) := by
  intro c hc
  rw [Decimal.dropTrailingZeros, List.mem_reverse] at hc
  exact hwritten c (List.mem_reverse.1 ((List.dropWhile_sublist _).subset hc))

/-- An exponent is written with its sign. -/
inductive ExponentText : List Char → Prop
  | up {written : List Char} (hwritten : AllDigits written) : ExponentText ('e' :: '+' :: written)
  | down {written : List Char} (hwritten : AllDigits written) : ExponentText ('e' :: '-' :: written)

/-- What follows the digits with which a double begins. -/
inductive TailText : List Char → Prop
  | fraction {written : List Char} (hwritten : AllDigits written) : TailText ('.' :: written)
  | exponent {exponent : List Char} (hexponent : ExponentText exponent) : TailText exponent
  | both {written exponent : List Char} (hwritten : AllDigits written)
      (hexponent : ExponentText exponent) : TailText ('.' :: (written ++ exponent))

/-- The text of a double without its sign. -/
inductive DoubleText : List Char → Prop
  | intro {whole tail : List Char} (hwhole : AllDigits whole) (htail : TailText tail) :
      DoubleText (whole ++ tail)

theorem exponentText_layout (first : Int) :
    ExponentText ((if first < 0 then ['e', '-'] else ['e', '+']) ++ digits first.natAbs) := by
  split
  · exact .down (allDigits_digits _)
  · exact .up (allDigits_digits _)

theorem doubleText_layout (style : PointLayout) (decimal : Scientific) :
    DoubleText (layout style decimal) := by
  have hwritten := (allDigits_digits decimal.significand).dropTrailingZeros
  unfold layout
  dsimp only
  split
  · split
    · have hpoint (after : List Char) : "0.".toList ++ after = ['0'] ++ '.' :: after := rfl
      rw [List.append_assoc, hpoint]
      exact .intro (by simp [AllDigits, isDigit]) (.fraction ((allDigits_zeros _).append hwritten))
    · refine .intro (AllDigits.append (fun c hc => hwritten c (List.mem_of_mem_take hc))
        (allDigits_zeros _)) (.fraction ?_)
      split
      · simp [AllDigits, isDigit]
      · exact fun c hc => hwritten c (List.mem_of_mem_drop hc)
  · rw [List.append_assoc]
    have hexponent := exponentText_layout (decimal.exponent +
      (digits decimal.significand).length - 1)
    split
    · exact .intro allDigits_nil (.exponent hexponent)
    · next digit heq => exact .intro (heq ▸ hwritten) (.exponent hexponent)
    · next digit rest _ heq =>
        obtain ⟨hdigit, hrest⟩ := List.forall_mem_cons.1 (heq ▸ hwritten)
        have hwhole : AllDigits [digit] := List.forall_mem_singleton.2 hdigit
        have hboth := DoubleText.intro hwhole (.both hrest hexponent)
        exact hboth

end Decimal

namespace Json

open Decimal

/-- Whatever is read, this is what is left. -/
def Leaves {α : Type} (rest : List Char) (result : Except Fault (α × List Char)) : Prop :=
  ∀ ⦃value left⦄, result = .ok (value, left) → left = rest

section

variable {α : Type} {rest : List Char}

theorem leaves_error (fault : Fault) :
    Leaves rest (.error fault : Except Fault (α × List Char)) := by
  intro value left hread
  cases hread

theorem leaves_ok (value : α) : Leaves rest (.ok (value, rest)) := by
  intro other left hread
  cases hread
  rfl

end

theorem span_digits {written after : List Char} (hwritten : AllDigits written)
    (hstop : after.takeWhile isDigit = []) :
    (written ++ after).takeWhile isDigit = written ∧
      (written ++ after).dropWhile isDigit = after := by
  have hnone : after.dropWhile isDigit = after := by
    have hsplit := List.takeWhile_append_dropWhile (p := isDigit) (l := after)
    rwa [hstop] at hsplit
  constructor
  · rw [List.takeWhile_append_of_pos hwritten, hstop, List.append_nil]
  · rw [List.dropWhile_append_of_pos hwritten, hnone]

theorem leaves_scaledNumber (negative : Bool) (significand : Nat) (exponent : Int)
    (rest : List Char) : Leaves rest (scaledNumber negative significand exponent rest) := by
  unfold scaledNumber
  split
  · exact leaves_ok _
  · exact leaves_error _

section

variable {rest : List Char} (hends : EndsNumber rest)

include hends

/-- The digits of an exponent are read to their end, or to where they grow too large. -/
theorem readExponentDigits_written {written : List Char} (hwritten : AllDigits written)
    (sofar : Nat) :
    (∃ size, readExponentDigits sofar (written ++ rest) = (some size, rest)) ∨
      ∃ left, readExponentDigits sofar (written ++ rest) = (none, left) ∧
        left.dropWhile isDigit = rest := by
  induction written generalizing sofar with
  | nil =>
      cases rest with
      | nil => exact .inl ⟨sofar, rfl⟩
      | cons c rest => exact .inl ⟨sofar, by simp [readExponentDigits, hends.1]⟩
  | cons c written ih =>
      obtain ⟨hdigit, hlater⟩ := List.forall_mem_cons.1 hwritten
      rw [List.cons_append, readExponentDigits, if_pos hdigit]
      dsimp only
      split
      · exact ih hlater _
      · exact .inr ⟨_, rfl, dropWhile_isDigit hends hlater⟩

theorem leaves_readExponent (negative : Bool) (significand : Nat) (start : Int) {text : List Char}
    (htext : ExponentText ('e' :: text)) :
    Leaves rest (readExponent negative significand start (text ++ rest)) := by
  cases htext with
  | up hwritten | down hwritten =>
      unfold readExponent
      dsimp only [List.cons_append]
      split
      · exact leaves_error _
      · split
        · obtain ⟨size, hread⟩ | ⟨left, hread, hleft⟩ := readExponentDigits_written hends hwritten 0
          · simp only [hread]
            exact leaves_scaledNumber _ _ _ _
          · simp only [hread]
            split
            · rw [hleft]
              exact leaves_ok _
            · exact leaves_error _
        · exact leaves_error _

theorem leaves_readFraction (negative : Bool) (significand : Nat) (start : Int)
    {written exponent : List Char} (hwritten : AllDigits written)
    (hexponent : exponent = [] ∨ ExponentText exponent) :
    Leaves rest (readFraction negative significand start (written ++ (exponent ++ rest))) := by
  have hstop : (exponent ++ rest).takeWhile isDigit = [] := by
    rcases hexponent with rfl | hexponent
    · exact takeWhile_isDigit_eq_nil hends
    · cases hexponent <;> rfl
  obtain ⟨htaken, hdropped⟩ := span_digits hwritten hstop
  simp only [readFraction, htaken, hdropped]
  split
  · exact leaves_error _
  · rcases hexponent with rfl | hexponent
    · rw [List.nil_append]
      split
      · exact absurd rfl hends.2.2.1
      · exact absurd rfl hends.2.2.2
      · exact leaves_scaledNumber _ _ _ _
    · obtain ⟨later, rfl⟩ : ∃ later, exponent = 'e' :: later := by
        cases hexponent <;> exact ⟨_, rfl⟩
      exact leaves_readExponent hends _ _ _ hexponent

/-- Whatever number is read where a double was written, the text of the double was taken. -/
theorem leaves_readNumber (negative : Bool) {text : List Char} (htext : DoubleText text) :
    Leaves rest (readNumber negative (text ++ rest)) := by
  obtain @⟨whole, tail, hwhole, htail⟩ := htext
  have hstop : (tail ++ rest).takeWhile isDigit = [] := by
    cases htail with
    | fraction | both => rfl
    | exponent hexponent => cases hexponent <;> rfl
  obtain ⟨htaken, hdropped⟩ := span_digits hwhole hstop
  rw [List.append_assoc]
  unfold readNumber
  split
  · exact leaves_error _
  · split
    · exact leaves_error _
    · split
      · simp only [htaken, hdropped]
        cases htail with
        | fraction hwritten =>
            exact leaves_readFraction hends _ _ _ hwritten (.inl rfl)
        | both hwritten hexponent =>
            rw [List.cons_append, List.append_assoc]
            exact leaves_readFraction hends _ _ _ hwritten (.inr hexponent)
        | exponent hexponent =>
            obtain ⟨later, rfl⟩ : ∃ later, tail = 'e' :: later := by
              cases hexponent <;> exact ⟨_, rfl⟩
            exact leaves_readExponent hends _ _ _ hexponent
      · exact leaves_error _

end

end Json

end Lifeline
