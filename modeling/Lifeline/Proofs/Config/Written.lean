import Lifeline.Config.Variables
import Lifeline.Proofs.Json.Number
import Mathlib.Data.List.TakeWhile

/-!
# How settings are written

A count is written in digits, perhaps behind a plus sign (`Decimal.Spells`).  A
duration is such a count with blanks around it (`Text.Padded`), as long as it is
not zero; a port has no blanks, and a switch is one of eight words.  The readers
take exactly what is written like this, and give back what it denotes.
-/

namespace Lifeline

namespace Text

/-- The text is this core with blanks around it. -/
def Padded (text core : List Char) : Prop :=
  ∃ before after, text = before ++ core ++ after ∧
    (∀ c ∈ before, isBlank c = true) ∧ ∀ c ∈ after, isBlank c = true

theorem padded_refl (text : List Char) : Padded text text :=
  ⟨[], [], by simp, List.forall_mem_nil _, List.forall_mem_nil _⟩

theorem padded_trim (text : List Char) : Padded text (trim text) := by
  refine ⟨text.takeWhile isBlank, ((trimStart text).reverse.takeWhile isBlank).reverse, ?_, ?_, ?_⟩
  · have hend : trim text ++ ((trimStart text).reverse.takeWhile isBlank).reverse =
        trimStart text := by
      rw [trim, trimEnd, ← List.reverse_append, List.takeWhile_append_dropWhile,
        List.reverse_reverse]
    rw [List.append_assoc, hend, trimStart, List.takeWhile_append_dropWhile]
  · exact fun c => List.mem_takeWhile_imp
  · exact fun c hc => List.mem_takeWhile_imp (List.mem_reverse.1 hc)

theorem dropWhile_plain {core : List Char} (hplain : ∀ c ∈ core, isBlank c = false) :
    core.dropWhile isBlank = core := by
  cases core with
  | nil => rfl
  | cons c rest => exact List.dropWhile_cons_of_neg (by simp [hplain c])

/-- What has no blanks of its own is all that is left between the blanks. -/
theorem trim_of_padded {text core : List Char} (hpadded : Padded text core)
    (hplain : ∀ c ∈ core, isBlank c = false) : trim text = core := by
  obtain ⟨before, after, rfl, hbefore, hafter⟩ := hpadded
  have hreversed : ∀ c ∈ after.reverse, isBlank c = true := fun c hc =>
    hafter c (List.mem_reverse.1 hc)
  have hend : trimEnd (core ++ after) = core := by
    rw [trimEnd, List.reverse_append, List.dropWhile_append_of_pos hreversed,
      dropWhile_plain fun c hc => hplain c (List.mem_reverse.1 hc), List.reverse_reverse]
  rw [trim, trimStart, List.append_assoc, List.dropWhile_append_of_pos hbefore]
  cases core with
  | nil => rw [List.nil_append, List.dropWhile_eq_nil_iff.2 hafter]; rfl
  | cons c rest =>
      have hfirst : isBlank c = false := hplain c List.mem_cons_self
      rw [List.cons_append, List.dropWhile_cons_of_neg (by simp [hfirst]), ← List.cons_append, hend]

/-- What has no blanks is found between blanks exactly if it is what trimming leaves. -/
theorem exists_padded_iff {property : List Char → Prop}
    (hplain : ∀ core, property core → ∀ c ∈ core, isBlank c = false) (text : List Char) :
    (∃ core, Padded text core ∧ property core) ↔ property (trim text) := by
  constructor
  · rintro ⟨core, hpadded, hcore⟩
    rwa [trim_of_padded hpadded (hplain core hcore)]
  · intro hcore
    exact ⟨trim text, padded_trim text, hcore⟩

end Text

namespace Decimal

/-- Some digits, at least one, that denote the number. -/
def Denotes (written : List Char) (n : Nat) : Prop :=
  written ≠ [] ∧ (∀ c ∈ written, c.isDigit = true) ∧ Nat.ofDigitChars 10 written 0 = n

/-- Digits that denote the number, perhaps behind a plus sign. -/
def Spells (text : List Char) (n : Nat) : Prop :=
  Denotes text n ∨ ∃ written, text = '+' :: written ∧ Denotes written n

theorem spells_digits (n : Nat) : Spells (digits n) n :=
  .inl ⟨digits_ne_nil n, fun _ hc => Nat.isDigit_of_mem_toDigits (by omega) (by omega) hc,
    Nat.ofDigitChars_ten_toDigits⟩

theorem spells_plus_iff {written : List Char} {n : Nat} :
    Spells ('+' :: written) n ↔ Denotes written n := by
  constructor
  · rintro (⟨-, hdigits, -⟩ | ⟨rest, heq, hdenotes⟩)
    · have hplus := hdigits '+' List.mem_cons_self
      contradiction
    · cases heq
      exact hdenotes
  · intro hdenotes
    exact .inr ⟨written, rfl, hdenotes⟩

theorem spells_bare_iff {text : List Char} (hbare : ∀ rest, text ≠ '+' :: rest) {n : Nat} :
    Spells text n ↔ Denotes text n := by
  constructor
  · rintro (hdenotes | ⟨rest, heq, -⟩)
    · exact hdenotes
    · exact absurd heq (hbare rest)
  · exact .inl

theorem denotes_iff {written : List Char} {n : Nat} :
    Denotes written n ↔
      (written.isEmpty || !written.all isDigit) = false ∧ valueFrom 0 written = n := by
  simp [Denotes, isDigit_eq, valueFrom_eq, and_assoc]

/-- A count is read exactly if it is written and below the bound. -/
theorem readCount_eq_some_iff {bound : Nat} {text : List Char} {n : Nat} :
    readCount bound text = some n ↔ Spells text n ∧ n < bound := by
  have hdigits (written : List Char) :
      (if written.isEmpty || !written.all isDigit then none
        else if valueFrom 0 written < bound then some (valueFrom 0 written) else none) = some n ↔
          Denotes written n ∧ n < bound := by
    rw [denotes_iff]
    cases written.isEmpty || !written.all isDigit with
    | true => simp
    | false =>
        simp only [Bool.false_eq_true, if_false, true_and, Option.ite_none_right_eq_some,
          Option.some.injEq]
        constructor
        · rintro ⟨hless, rfl⟩
          exact ⟨rfl, hless⟩
        · rintro ⟨rfl, hless⟩
          exact ⟨hless, rfl⟩
  by_cases hplus : ∃ written, text = '+' :: written
  · obtain ⟨written, rfl⟩ := hplus
    rw [spells_plus_iff, ← hdigits]
    rfl
  · have hbare : ∀ written, text ≠ '+' :: written := not_exists.1 hplus
    rw [spells_bare_iff hbare, ← hdigits, readCount.eq_def]
    revert hbare
    split
    · next written =>
        intro hbare
        exact absurd rfl (hbare written)
    · exact fun _ => Iff.rfl

theorem not_isBlank_of_isDigit {c : Char} (hdigit : c.isDigit = true) :
    Text.isBlank c = false := by
  have hrange : 48 ≤ c.toNat ∧ c.toNat ≤ 57 := by
    simpa [Char.isDigit, UInt32.le_iff_toNat_le] using hdigit
  simp only [Text.isBlank, Bool.or_eq_false_iff, Bool.and_eq_false_iff, decide_eq_false_iff_not,
    beq_eq_false_iff_ne]
  omega

theorem Denotes.not_isBlank {written : List Char} {n : Nat} (hdenotes : Denotes written n) :
    ∀ c ∈ written, Text.isBlank c = false := fun c hc =>
  not_isBlank_of_isDigit (hdenotes.2.1 c hc)

theorem Spells.not_isBlank {text : List Char} {n : Nat} (hspells : Spells text n) :
    ∀ c ∈ text, Text.isBlank c = false := by
  obtain hdenotes | ⟨written, rfl, hdenotes⟩ := hspells
  · exact hdenotes.not_isBlank
  · exact List.forall_mem_cons.2 ⟨rfl, hdenotes.not_isBlank⟩

end Decimal

namespace Config

open Decimal (Spells)
open Text (Padded)

/-- The words for yes and for no. -/
def switchWords : Bool → List String
  | true => ["1", "true", "yes", "on"]
  | false => ["0", "false", "no", "off"]

theorem durationOf_eq_some_iff {raw : String} {duration : UInt64} :
    durationOf raw = some duration ↔
      (∃ core, Padded raw.toList core ∧ Spells core duration.toNat) ∧ 0 < duration.toNat := by
  have hfits : duration.toNat < Decimal.beyond64 := duration.toNat_lt
  rw [Text.exists_padded_iff fun core => Spells.not_isBlank, durationOf]
  constructor
  · intro hread
    split at hread
    · next count hcount =>
        obtain ⟨hspells, hbound⟩ := Decimal.readCount_eq_some_iff.1 hcount
        cases hread
        rw [UInt64.toNat_ofNat_of_lt' hbound]
        exact ⟨hspells, Nat.succ_pos count⟩
    · cases hread
  · rintro ⟨hspells, hpositive⟩
    have hcount := Decimal.readCount_eq_some_iff.2 ⟨hspells, hfits⟩
    obtain ⟨count, hsucc⟩ := Nat.exists_eq_add_one.2 hpositive
    have hduration : UInt64.ofNat (count + 1) = duration := by
      rw [← hsucc, UInt64.ofNat_toNat]
    rw [hcount, hsucc]
    exact congrArg some hduration

theorem portOf_eq_some_iff {raw : String} {port : UInt16} :
    portOf raw = some port ↔ Spells raw.toList port.toNat := by
  have hfits : port.toNat < Decimal.beyond16 := port.toNat_lt
  rw [portOf, Option.map_eq_some_iff]
  constructor
  · rintro ⟨count, hcount, rfl⟩
    obtain ⟨hspells, hbound⟩ := Decimal.readCount_eq_some_iff.1 hcount
    rwa [UInt16.toNat_ofNat_of_lt' hbound]
  · intro hspells
    exact ⟨port.toNat, Decimal.readCount_eq_some_iff.2 ⟨hspells, hfits⟩, UInt16.ofNat_toNat⟩

/-- Lowering the case of letters leaves blanks as they are. -/
theorem toLower_of_isBlank {c : Char} (hblank : Text.isBlank c = true) : c.toLower = c := by
  apply dif_neg
  intro hupper
  have hrange : 65 ≤ c.toNat ∧ c.toNat ≤ 90 := by
    simpa [UInt32.le_iff_toNat_le] using hupper
  simp only [Text.isBlank, Bool.or_eq_true, Bool.and_eq_true, decide_eq_true_eq,
    beq_iff_eq] at hblank
  omega

theorem not_isBlank_of_lowered {word plain : String} (hword : lowered word = plain)
    (hplain : plain.toList.all (fun c => !Text.isBlank c) = true) :
    ∀ c ∈ word.toList, Text.isBlank c = false := by
  intro c hc
  rw [Bool.eq_false_iff]
  intro hblank
  have hmember : c ∈ plain.toList := by
    rw [← hword, lowered, String.toList_map]
    exact List.mem_map.2 ⟨c, hc, toLower_of_isBlank hblank⟩
  have hnot := List.all_eq_true.1 hplain c hmember
  rw [hblank] at hnot
  contradiction

theorem switchOf_eq_some_iff {raw : String} {value : Bool} :
    switchOf raw = some value ↔
      ∃ word, Padded raw.toList word.toList ∧ lowered word ∈ switchWords value := by
  have hwords : ∀ plain ∈ switchWords value,
      plain.toList.all (fun c => !Text.isBlank c) = true := by
    cases value <;> decide +kernel
  have hplain (word : String) (hword : lowered word ∈ switchWords value) :
      ∀ c ∈ word.toList, Text.isBlank c = false :=
    not_isBlank_of_lowered rfl (hwords _ hword)
  have htrimmed : switchOf raw = some value ↔ lowered (Text.trimmed raw) ∈ switchWords value := by
    have hapart : ∀ plain ∈ switchWords true, plain ∉ switchWords false := by decide
    change (if lowered (Text.trimmed raw) ∈ switchWords true then some true
      else if lowered (Text.trimmed raw) ∈ switchWords false then some false else none) =
        some value ↔ _
    split
    · next hyes => cases value <;> simp [hyes, hapart _ hyes]
    · next hyes => cases value <;> simp [hyes]
  rw [htrimmed]
  constructor
  · intro hword
    refine ⟨Text.trimmed raw, ?_, hword⟩
    rw [Text.trimmed, String.toList_ofList]
    exact Text.padded_trim raw.toList
  · rintro ⟨word, hpadded, hword⟩
    rw [Text.trimmed, Text.trim_of_padded hpadded (hplain word hword), String.ofList_toList]
    exact hword

end Config

end Lifeline
