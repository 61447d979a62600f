import Lifeline.Json.Decode

/-!
# Numbers read back

A whole number is written as its digits behind an optional minus sign, without
zeros in front.  Whatever follows, the reader of numbers takes exactly these
digits and gives the number back, as long as what follows does not itself go on
with a number (`readNumber_digits`).
-/

namespace Lifeline

namespace Decimal

theorem isDigit_eq (c : Char) : isDigit c = c.isDigit := by
  simp [isDigit, Char.isDigit, Char.le_def]

theorem valueFrom_eq (written : List Char) :
    valueFrom 0 written = Nat.ofDigitChars 10 written 0 := by
  simp [Nat.ofDigitChars_eq_foldl, valueFrom, digitValue, Nat.mul_comm]

theorem isDigit_of_mem_digits {n : Nat} {c : Char} (member : c ∈ digits n) : isDigit c = true := by
  rw [isDigit_eq]
  exact Nat.isDigit_of_mem_toDigits (by omega) (by omega) member

theorem digits_ne_nil (n : Nat) : digits n ≠ [] := Nat.toDigits_ne_nil

theorem valueFrom_digits (n : Nat) : valueFrom 0 (digits n) = n := by
  rw [valueFrom_eq]
  exact Nat.ofDigitChars_ten_toDigits

theorem digits_zero : digits 0 = ['0'] := rfl

/-- Zero alone begins with the digit of zero. -/
theorem head?_digits_ne_zero {n : Nat} (hpositive : 0 < n) : (digits n).head? ≠ some '0' := by
  induction n using Nat.strongRecOn with
  | ind n ih =>
      by_cases hsmall : n < 10
      · rw [digits, Nat.toDigits_of_lt_base hsmall]
        simpa [Nat.digitChar_eq_zero] using Nat.ne_of_gt hpositive
      · obtain ⟨first, others, hfirst⟩ := List.exists_cons_of_ne_nil (digits_ne_nil (n / 10))
        have hshorter := ih (n / 10) (by omega) (by omega)
        rw [digits, Nat.toDigits_of_base_le (by omega) (by omega)]
        rw [digits] at hfirst hshorter
        rw [hfirst] at hshorter ⊢
        exact hshorter

theorem le_valueFrom (sofar : Nat) (written : List Char) : sofar ≤ valueFrom sofar written := by
  induction written generalizing sofar with
  | nil => exact Nat.le_refl sofar
  | cons c rest ih =>
      calc sofar ≤ sofar * 10 + digitValue c := by omega
        _ ≤ valueFrom (sofar * 10 + digitValue c) rest := ih _

end Decimal

namespace Json

open Decimal

/-- A number that stands in front of this text ends there. -/
def EndsNumber : List Char → Prop
  | [] => True
  | c :: _ => isDigit c = false ∧ c ≠ '.' ∧ c ≠ 'e' ∧ c ≠ 'E'

instance : (rest : List Char) → Decidable (EndsNumber rest)
  | [] => .isTrue trivial
  | _ :: _ => inferInstanceAs (Decidable (_ ∧ _))

theorem endsNumber_nil : EndsNumber [] := trivial

theorem endsNumber_cons {c : Char} (rest : List Char) (hends : EndsNumber [c]) :
    EndsNumber (c :: rest) := hends

/-- Digits of a number below the bound are all absorbed. -/
theorem absorb_eq {sofar : Nat} {written : List Char}
    (hbound : valueFrom sofar written < beyond64) :
    absorb sofar written = (valueFrom sofar written, []) := by
  induction written generalizing sofar with
  | nil => rfl
  | cons c rest ih =>
      have hnext : sofar * 10 + digitValue c < beyond64 :=
        Nat.lt_of_le_of_lt (le_valueFrom _ rest) hbound
      rw [absorb, if_pos hnext]
      exact ih hbound

section

variable {rest : List Char} (hends : EndsNumber rest)

include hends

theorem takeWhile_isDigit_eq_nil : rest.takeWhile isDigit = [] := by
  cases rest with
  | nil => rfl
  | cons c rest => exact List.takeWhile_cons_of_neg (by simp [hends.1])

theorem takeWhile_isDigit {written : List Char} (hwritten : ∀ c ∈ written, isDigit c = true) :
    (written ++ rest).takeWhile isDigit = written := by
  rw [List.takeWhile_append_of_pos hwritten, takeWhile_isDigit_eq_nil hends, List.append_nil]

theorem dropWhile_isDigit {written : List Char} (hwritten : ∀ c ∈ written, isDigit c = true) :
    (written ++ rest).dropWhile isDigit = rest := by
  rw [List.dropWhile_append_of_pos hwritten]
  cases rest with
  | nil => rfl
  | cons c rest => exact List.dropWhile_cons_of_neg (by simp [hends.1])

/-- The digits of a count are read as the whole number that they denote. -/
theorem readNumber_digits (negative : Bool) {n : Nat} (hbound : n < beyond64) :
    readNumber negative (digits n ++ rest) = .ok (wholeNumber negative n, rest) := by
  have hdigits : ∀ c ∈ digits n, isDigit c = true := fun c => isDigit_of_mem_digits
  have htaken := takeWhile_isDigit hends hdigits
  have hdropped := dropWhile_isDigit hends hdigits
  have habsorbed : absorb 0 (digits n) = (n, []) := by
    rw [absorb_eq (by rwa [valueFrom_digits]), valueFrom_digits]
  obtain ⟨first, others, hfirst⟩ := List.exists_cons_of_ne_nil (digits_ne_nil n)
  have hdigit : isDigit first = true := hdigits first (by simp [hfirst])
  -- only zero begins with a zero, and nothing follows it
  have hleading : ¬ (first = '0' ∧ ((others ++ rest).takeWhile isDigit).isEmpty = false) := by
    rintro ⟨rfl, hmore⟩
    rcases Nat.eq_zero_or_pos n with rfl | hpositive
    · obtain rfl : [] = others := by simpa [digits_zero] using hfirst
      simp [takeWhile_isDigit_eq_nil hends] at hmore
    · exact head?_digits_ne_zero hpositive (by rw [hfirst]; rfl)
  rw [hfirst, List.cons_append] at htaken hdropped ⊢
  rw [hfirst] at habsorbed
  simp only [readNumber, if_neg hleading, if_pos hdigit, htaken, hdropped, habsorbed,
    List.isEmpty_nil, if_true]
  split
  · exact absurd rfl hends.2.1
  · exact absurd rfl hends.2.2.1
  · exact absurd rfl hends.2.2.2
  · rfl

end

theorem wholeNumber_ofNat {n : Nat} (fits : Fits (n : Int)) :
    wholeNumber false n = .whole n fits := by
  simp [wholeNumber, fits]

theorem wholeNumber_negSucc {n : Nat} (fits : Fits (Int.negSucc n)) :
    wholeNumber true (n + 1) = .whole (Int.negSucc n) fits := by
  have hvalue : -((n + 1 : Nat) : Int) = Int.negSucc n := rfl
  simp only [wholeNumber, if_true, hvalue, dif_pos fits]
  rw [if_neg (by simp)]

theorem Scalar.count_lt {name : String} {beyond n : Nat} {found : Found}
    (hcount : Scalar.count name beyond found = .ok n) : n < beyond := by
  unfold Scalar.count Scalar.whole at hcount
  split at hcount
  · next value fits =>
      split at hcount
      · next hbounds =>
          cases hcount
          omega
      · cases hcount
  · cases hcount

/-- The value of a count is taken as this count. -/
theorem Scalar.count_ofNat {name : String} {beyond n : Nat} (hcount : n < beyond)
    (hbeyond : beyond ≤ Decimal.beyond64) :
    Scalar.count name beyond (Value.ofNat n).found = .ok n := by
  have hmod : n % 18446744073709551616 = n := Nat.mod_eq_of_lt (Nat.lt_of_lt_of_le hcount hbeyond)
  have hbounds : (0 : Int) ≤ n ∧ (n : Int) < beyond := by omega
  simp only [Value.ofNat, Value.found, Scalar.count, Scalar.whole, hmod, if_pos hbounds]
  rfl

end Json

end Lifeline
