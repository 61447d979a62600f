import Lifeline.Json.Reader

/-!
# What parsing yields

A parsed value is canonical: every object in it is a table, however its entries
were ordered or repeated in the text.  It also nests no deeper than the reader
may go (`parse_sound`).  Both follow from what the loops of the reader pass on
from one round to the next (`readItems_yields`, `readEntries_yields`).
-/

namespace Lifeline

theorem bind_eq_ok {ε α β : Type} {first : Except ε α} {next : α → Except ε β} {result : β} :
    (first >>= next) = .ok result ↔ ∃ value, first = .ok value ∧ next value = .ok result := by
  cases first <;> simp [bind, Except.bind]

namespace Json

/-! ## What readers yield -/

/-- Every value that a reader returns has the property. -/
def Yields {α : Type} (reader : Reader α) (property : α → Prop) : Prop :=
  ∀ ⦃text value rest⦄, reader text = .ok (value, rest) → property value

theorem readItems_yields {α : Type} {item : Reader α} {property : α → Prop}
    (hitem : Yields item property) (first : Bool) (fuel : Nat) :
    Yields (readItems item first fuel) fun values => ∀ value ∈ values, property value := by
  induction fuel generalizing first with
  | zero =>
      intro text values rest hread
      cases hread
  | succ fuel ih =>
      intro text values rest hread
      rw [readItems, bind_eq_ok] at hread
      obtain ⟨⟨more, start⟩, -, hread⟩ := hread
      cases more with
      | false =>
          cases hread
          exact List.forall_mem_nil _
      | true =>
          obtain ⟨⟨value, afterValue⟩, hvalue, hread⟩ := bind_eq_ok.1 hread
          obtain ⟨⟨later, afterLater⟩, hlater, hread⟩ := bind_eq_ok.1 hread
          cases hread
          exact List.forall_mem_cons.2 ⟨hitem hvalue, ih false hlater⟩

/-- A round of the loop ends it, or takes one entry and goes on with the later ones. -/
theorem readEntries_succ_iff {σ : Type} {step : σ → String → Reader σ} {first : Bool} {fuel : Nat}
    {gathered last : σ} {text rest : List Char} :
    readEntries step first (fuel + 1) gathered text = .ok (last, rest) ↔
      (nextKey first text = .ok (none, rest) ∧ gathered = last) ∨
      ∃ key start next after, nextKey first text = .ok (some key, start) ∧
        step gathered key start = .ok (next, after) ∧
        readEntries step false fuel next after = .ok (last, rest) := by
  rw [readEntries, bind_eq_ok]
  constructor
  · rintro ⟨⟨key, start⟩, hkey, hread⟩
    cases key with
    | none =>
        cases hread
        exact .inl ⟨hkey, rfl⟩
    | some key =>
        obtain ⟨⟨next, after⟩, hentry, hlater⟩ := bind_eq_ok.1 hread
        exact .inr ⟨key, start, next, after, hkey, hentry, hlater⟩
  · rintro (⟨hkey, rfl⟩ | ⟨key, start, next, after, hkey, hentry, hlater⟩)
    · exact ⟨_, hkey, rfl⟩
    · exact ⟨_, hkey, bind_eq_ok.2 ⟨_, hentry, hlater⟩⟩

/-- What every step keeps holds of all that was gathered. -/
theorem readEntries_yields {σ : Type} {step : σ → String → Reader σ} {kept : σ → Prop}
    (hstep : ∀ gathered key, kept gathered → Yields (step gathered key) kept)
    (first : Bool) (fuel : Nat) {gathered : σ} (hgathered : kept gathered) :
    Yields (readEntries step first fuel gathered) kept := by
  induction fuel generalizing first gathered with
  | zero =>
      intro text result rest hread
      cases hread
  | succ fuel ih =>
      intro text result rest hread
      obtain ⟨-, rfl⟩ | ⟨key, start, next, after, -, hentry, hlater⟩ := readEntries_succ_iff.1 hread
      · exact hgathered
      · exact ih false (hstep gathered key hgathered hentry) hlater

/-- A table whose values all have the property. -/
def TableOf (property : Value → Prop) (entries : Object) : Prop :=
  Table.Sorted entries ∧ ∀ entry ∈ entries, property entry.2

section

variable {property : Value → Prop} {entries : Object}

theorem tableOf_nil : TableOf property [] := ⟨Table.sorted_nil, List.forall_mem_nil _⟩

theorem TableOf.insert (hentries : TableOf property entries) {value : Value}
    (hvalue : property value) (key : String) : TableOf property (Table.insert entries key value) :=
  ⟨hentries.1.insert key value, Table.forall_insert hvalue hentries.2 key⟩

theorem TableOf.erase (hentries : TableOf property entries) (key : String) :
    TableOf property (Table.erase entries key) :=
  ⟨hentries.1.erase key, fun entry member => hentries.2 entry (Table.mem_erase member)⟩

theorem storeEntry_yields {reader : Reader Value} (hreader : Yields reader property)
    (entries : Object) (key : String) (hentries : TableOf property entries) :
    Yields (storeEntry reader entries key) (TableOf property) := by
  intro text stored rest hread
  obtain ⟨afterColon, -, hread⟩ := bind_eq_ok.1 hread
  obtain ⟨⟨value, afterValue⟩, hvalue, hread⟩ := bind_eq_ok.1 hread
  cases hread
  exact hentries.insert (hreader hvalue) key

end

/-! ## Values -/

/-- A value that is canonical and opens at most so many levels. -/
def Sound (levels : Nat) (value : Value) : Prop := value.Canonical ∧ value.depth ≤ levels

theorem sound_text (text : String) : Sound 0 (.text text) := ⟨trivial, Nat.le_refl 0⟩

theorem sound_number (number : Number) : Sound 0 (.number number) := ⟨trivial, Nat.le_refl 0⟩

theorem sound_array_iff {levels : Nat} {items : List Value} :
    Sound (levels + 1) (.array items) ↔ ∀ item ∈ items, Sound levels item := by
  simp [Sound, Value.Canonical, Value.depth, forall_and]

theorem sound_object_iff {levels : Nat} {entries : Object} :
    Sound (levels + 1) (.object entries) ↔ TableOf (Sound levels) entries := by
  simp [Sound, TableOf, Value.Canonical, Value.depth, forall_and, and_assoc]

section

variable {levels : Nat}

theorem Sound.exists_items {items : List Value} (harray : Sound levels (.array items)) :
    ∃ below, levels = below + 1 ∧ ∀ item ∈ items, Sound below item := by
  cases levels with
  | zero => exact absurd harray.2 (Nat.not_succ_le_zero _)
  | succ below => exact ⟨below, rfl, sound_array_iff.1 harray⟩

variable {entries : Object}

theorem Sound.exists_tableOf (hobject : Sound levels (.object entries)) :
    ∃ below, levels = below + 1 ∧ TableOf (Sound below) entries := by
  cases levels with
  | zero => exact absurd hobject.2 (Nat.not_succ_le_zero _)
  | succ below => exact ⟨below, rfl, sound_object_iff.1 hobject⟩

theorem Sound.insert (hobject : Sound levels (.object entries)) {value : Value}
    (hvalue : Sound 0 value) (key : String) :
    Sound levels (.object (Table.insert entries key value)) := by
  obtain ⟨below, rfl, htable⟩ := hobject.exists_tableOf
  have hbelow : Sound below value := ⟨hvalue.1, Nat.le_trans hvalue.2 (Nat.zero_le below)⟩
  exact sound_object_iff.2 (htable.insert hbelow key)

theorem Sound.erase (hobject : Sound levels (.object entries)) (key : String) :
    Sound levels (.object (Table.erase entries key)) := by
  obtain ⟨below, rfl, htable⟩ := hobject.exists_tableOf
  exact sound_object_iff.2 (htable.erase key)

end

theorem readValue_yields (levels : Nat) : Yields (readValue levels) (Sound levels) := by
  induction levels using Nat.strongRecOn with
  | ind levels ih =>
      intro text value rest hread
      rw [readValue] at hread
      split at hread
      case h_1 => cases hread
      case h_2 | h_3 | h_4 =>
          obtain ⟨after, -, hread⟩ := bind_eq_ok.1 hread
          cases hread
          exact ⟨trivial, Nat.zero_le levels⟩
      case h_5 | h_6 =>
          obtain ⟨⟨read, after⟩, -, hread⟩ := bind_eq_ok.1 hread
          cases hread
          exact ⟨trivial, Nat.zero_le levels⟩
      case h_7 =>
          split at hread
          · cases hread
          · next levels =>
              obtain ⟨⟨items, after⟩, hitems, hread⟩ := bind_eq_ok.1 hread
              obtain ⟨last, -, hread⟩ := bind_eq_ok.1 hread
              cases hread
              exact sound_array_iff.2
                (readItems_yields (ih levels (Nat.lt_succ_self levels)) _ _ hitems)
      case h_8 =>
          split at hread
          · cases hread
          · next levels =>
              obtain ⟨⟨entries, after⟩, hentries, hread⟩ := bind_eq_ok.1 hread
              obtain ⟨last, -, hread⟩ := bind_eq_ok.1 hread
              cases hread
              have hstep := storeEntry_yields (ih levels (Nat.lt_succ_self levels))
              exact sound_object_iff.2 (readEntries_yields hstep _ _ tableOf_nil hentries)
      case h_9 =>
          split at hread
          · obtain ⟨⟨read, after⟩, -, hread⟩ := bind_eq_ok.1 hread
            cases hread
            exact ⟨trivial, Nat.zero_le levels⟩
          · cases hread

/-- A parsed value is canonical and within the limit of levels. -/
theorem parse_sound {text : String} {value : Value} (hparse : parse text = .ok value) :
    Sound levelLimit value := by
  obtain ⟨⟨read, rest⟩, hread, hparse⟩ := bind_eq_ok.1 hparse
  have hsound := readValue_yields levelLimit hread
  dsimp only at hparse
  split at hparse
  · cases hparse
    exact hsound
  · cases hparse

end Json

end Lifeline
