import Lifeline.Proofs.Json.Extent

/-!
# Values told apart by what is written

A written text is told from everything else that can be written
(`write_eq_writeText_iff`).  Objects that differ in one value are written alike
only if these values are (`write_of_write_object`).
-/

namespace Lifeline.Json

open Value

theorem writeText_injective : Function.Injective writeText := by
  intro left right heq
  have hopen := (List.cons.inj heq).2
  have hleft := readText_writeText left []
  have hright := readText_writeText right []
  rw [hopen, hright] at hleft
  cases hleft
  rfl

theorem head?_write_number (number : Number) : number.write.head? ≠ some '"' := by
  have hdigits (n : Nat) : (Decimal.digits n).head? ≠ some '"' := by
    intro hhead
    have hdigit := Decimal.isDigit_of_mem_digits (List.mem_of_mem_head? hhead)
    contradiction
  cases number with
  | whole value fits =>
      cases value with
      | ofNat n => exact hdigits n
      | negSucc n => simp [Number.write, Decimal.ofInt]
  | float value =>
      rw [Number.write]
      split
      · obtain ⟨text, htext, heq | heq⟩ := exists_ofBinary64 value
        · simp [heq]
        · obtain ⟨c, rest, rfl, hc⟩ := DoubleText.exists_cons htext
          rw [heq, List.head?_cons, ne_eq, Option.some.injEq]
          rintro rfl
          rcases hc with hdigit | hpoint | hletter <;> contradiction
      · decide

/-- Only a text is written with a quote in front, and no two texts are written alike. -/
theorem write_eq_writeText_iff {value : Value} {text : String} :
    value.write = writeText text ↔ value = .text text := by
  constructor
  · intro heq
    have hhead : value.write.head? = some '"' := by rw [heq, writeText, List.head?_cons]
    cases value with
    | text other => rw [writeText_injective heq]
    | number number => exact absurd hhead (head?_write_number number)
    | boolean value => cases value <;> contradiction
    | null => contradiction
    | array | object => simp [write_array, write_object] at hhead
  · rintro rfl
    rfl

/-! ## Objects -/

/-- What is written for the entries before the last one, each with the comma after it. -/
def writeEarlierEntries (entries : List (String × Value)) : List Char :=
  entries.flatMap fun entry => writeText entry.1 ++ ':' :: (entry.2.write ++ [','])

theorem writeEntries_append (earlier : List (String × Value)) (entry : String × Value)
    (later : List (String × Value)) :
    writeEntries (earlier ++ entry :: later) =
      writeEarlierEntries earlier ++ writeEntries (entry :: later) := by
  induction earlier with
  | nil => rfl
  | cons first rest ih =>
      have hlater : writeLaterEntries (rest ++ entry :: later) =
          ',' :: writeEntries (rest ++ entry :: later) := by
        cases rest <;> rfl
      rw [List.cons_append, writeEntries_cons, hlater, ih]
      simp [writeEarlierEntries]

/-- Where all else is the same, the texts of two objects tell what is written for one key. -/
theorem write_of_write_object {earlier later : List (String × Value)} {key : String}
    {left right : Value}
    (heq : (Value.object (earlier ++ (key, left) :: later)).write =
      (Value.object (earlier ++ (key, right) :: later)).write) :
    left.write = right.write := by
  have hentries := (List.cons.inj heq).2
  rw [writeEntries_append, writeEntries_append, writeEntries_cons, writeEntries_cons] at hentries
  have hfrom := List.append_cancel_left (List.append_cancel_left hentries)
  exact List.append_cancel_right (List.cons.inj hfrom).2

end Lifeline.Json
