import Lifeline.Proofs.Json.Number
import Lifeline.Proofs.Json.Parsed
import Lifeline.Proofs.Json.Text

/-!
# Values read back

What is written for a value is read back as that value, whatever follows it.
The loops for lists and objects are treated once for any reader of their parts
(`readItems_written`, `readEntries_written`), so that the value as a whole needs
only an induction on the levels that may be open (`readValue_write`).  An object
is read back as the table of its entries; this is the object itself where its
entries form a table.
-/

namespace Lifeline.Json

open Value

/-- Here a value may start: at a character that is neither blank nor the end of a list. -/
def StartsValue (text : List Char) : Prop :=
  ∃ c rest, text = c :: rest ∧ isGap c = false ∧ c ≠ ']'

/-- The reader gives back a value from what is written for it. -/
def ReadsBack (reader : Reader Value) (value : Value) : Prop :=
  ∀ rest, EndsNumber rest → reader (value.write ++ rest) = .ok (value, rest)

theorem skipGap_cons {c : Char} (rest : List Char) (hplain : isGap c = false) :
    skipGap (c :: rest) = c :: rest :=
  List.dropWhile_cons_of_neg (by simp [hplain])

theorem StartsValue.append {text : List Char} (hstarts : StartsValue text) (rest : List Char) :
    StartsValue (text ++ rest) := by
  obtain ⟨c, later, rfl, hplain⟩ := hstarts
  exact ⟨c, later ++ rest, rfl, hplain⟩

theorem isGap_eq_false_of_isDigit {c : Char} (hdigit : Decimal.isDigit c = true) :
    isGap c = false := by
  by_cases hgap : isGap c = true
  · simp only [isGap, Bool.or_eq_true, beq_iff_eq] at hgap
    rcases hgap with ((rfl | rfl) | rfl) | rfl <;> contradiction
  · exact Bool.eq_false_iff.2 hgap

theorem startsValue_digits (n : Nat) : StartsValue (Decimal.digits n) := by
  obtain ⟨c, rest, heq⟩ := List.exists_cons_of_ne_nil (Decimal.digits_ne_nil n)
  have hdigit : Decimal.isDigit c = true := Decimal.isDigit_of_mem_digits (n := n) (by simp [heq])
  refine ⟨c, rest, heq, isGap_eq_false_of_isDigit hdigit, ?_⟩
  rintro rfl
  contradiction

theorem startsValue_write {value : Value} (hexact : value.Exact) : StartsValue value.write := by
  cases value with
  | null => exact ⟨'n', "ull".toList, rfl, rfl, by decide⟩
  | boolean value =>
      cases value with
      | false => exact ⟨'f', "alse".toList, rfl, rfl, by decide⟩
      | true => exact ⟨'t', "rue".toList, rfl, rfl, by decide⟩
  | number value =>
      cases value with
      | whole value fits =>
          cases value with
          | ofNat n => exact startsValue_digits n
          | negSucc n => exact ⟨'-', _, rfl, rfl, by decide⟩
      | float value => exact hexact.elim
  | text value => exact ⟨'"', _, rfl, rfl, by decide⟩
  | array items => exact ⟨'[', _, rfl, rfl, by decide⟩
  | object entries => exact ⟨'{', _, rfl, rfl, by decide⟩

/-! ## Lists -/

/-- What is written after an item of a list: the later items and the bracket. -/
def writeLaterItems : List Value → List Char
  | [] => [']']
  | items => ',' :: writeItems items

theorem writeItems_cons (item : Value) (items : List Value) :
    writeItems (item :: items) = item.write ++ writeLaterItems items := by
  cases items <;> rfl

theorem writeLaterItems_cons (item : Value) (items : List Value) :
    writeLaterItems (item :: items) = ',' :: (item.write ++ writeLaterItems items) := by
  rw [← writeItems_cons]
  rfl

theorem endsNumber_writeLaterItems (items : List Value) (rest : List Char) :
    EndsNumber (writeLaterItems items ++ rest) := by
  cases items with
  | nil => exact endsNumber_cons rest (by decide)
  | cons item items => exact endsNumber_cons _ (by decide)

theorem length_lt_length_writeLaterItems (items : List Value) :
    items.length < (writeLaterItems items).length := by
  induction items with
  | nil => exact Nat.zero_lt_one
  | cons item items ih =>
      simp only [writeLaterItems_cons, List.length_cons, List.length_append]
      omega

theorem length_le_length_writeItems (items : List Value) :
    items.length ≤ (writeItems items).length := by
  cases items with
  | nil => exact Nat.zero_le 1
  | cons item items =>
      have hlater := length_lt_length_writeLaterItems items
      rw [writeItems_cons, List.length_append, List.length_cons]
      omega

theorem nextItem_first {text : List Char} (hstarts : StartsValue text) :
    nextItem true text = .ok (true, text) := by
  obtain ⟨c, rest, rfl, hplain, hopen⟩ := hstarts
  simp only [nextItem, skipGap_cons rest hplain, if_true]

theorem nextItem_comma (text : List Char) :
    nextItem false (',' :: text) = match skipGap text with
      | [] => .error (.on .endInValue [])
      | ']' :: rest => .error (.on .trailingComma (']' :: rest))
      | rest => .ok (true, rest) := rfl

theorem nextItem_later {text : List Char} (hstarts : StartsValue text) :
    nextItem false (',' :: text) = .ok (true, text) := by
  obtain ⟨c, rest, rfl, hplain, hopen⟩ := hstarts
  rw [nextItem_comma, skipGap_cons rest hplain]
  split
  · next heq => exact absurd heq (List.cons_ne_nil c rest)
  · next heq => exact absurd (List.cons.inj heq).1 hopen
  · rfl

section

variable {item : Reader Value} {items : List Value}

/-- One round of the loop: an item and then the later ones. -/
theorem readItems_next {first : Bool} {fuel : Nat} {value : Value} {text rest : List Char}
    (hnext : nextItem first text = .ok (true, value.write ++ (writeLaterItems items ++ rest)))
    (hvalue : ReadsBack item value)
    (hlater :
      readItems item false fuel (writeLaterItems items ++ rest) = .ok (items, ']' :: rest)) :
    readItems item first (fuel + 1) text = .ok (value :: items, ']' :: rest) := by
  have hread := hvalue _ (endsNumber_writeLaterItems items rest)
  simp only [readItems, hnext, hread, hlater, Except.bind, bind]

theorem readItems_laterItems (hitems : ∀ value ∈ items, value.Exact ∧ ReadsBack item value)
    {fuel : Nat} (hfuel : items.length < fuel) (rest : List Char) :
    readItems item false fuel (writeLaterItems items ++ rest) = .ok (items, ']' :: rest) := by
  induction items generalizing fuel with
  | nil =>
      obtain ⟨fuel, rfl⟩ := Nat.exists_eq_add_one.2 hfuel
      rfl
  | cons value later ih =>
      obtain ⟨fuel, rfl⟩ := Nat.exists_eq_add_one.2 (Nat.zero_lt_of_lt hfuel)
      obtain ⟨⟨hexact, hvalue⟩, hlater⟩ := List.forall_mem_cons.1 hitems
      refine readItems_next ?_ hvalue (ih hlater (Nat.lt_of_succ_lt_succ hfuel))
      rw [writeLaterItems_cons, List.cons_append, List.append_assoc]
      exact nextItem_later ((startsValue_write hexact).append _)

/-- A written list is read back by a reader that reads back its items. -/
theorem readItems_written (hitems : ∀ value ∈ items, value.Exact ∧ ReadsBack item value)
    {fuel : Nat} (hfuel : items.length < fuel) (rest : List Char) :
    readItems item true fuel (writeItems items ++ rest) = .ok (items, ']' :: rest) := by
  obtain ⟨fuel, rfl⟩ := Nat.exists_eq_add_one.2 (Nat.zero_lt_of_lt hfuel)
  cases items with
  | nil => rfl
  | cons value later =>
      obtain ⟨⟨hexact, hvalue⟩, hlater⟩ := List.forall_mem_cons.1 hitems
      refine readItems_next ?_ hvalue
        (readItems_laterItems hlater (Nat.lt_of_succ_lt_succ hfuel) rest)
      rw [writeItems_cons, List.append_assoc]
      exact nextItem_first ((startsValue_write hexact).append _)

end

/-! ## Objects -/

/-- What is written after an entry of an object: the later entries and the brace. -/
def writeLaterEntries : List (String × Value) → List Char
  | [] => ['}']
  | entries => ',' :: writeEntries entries

theorem writeEntries_cons (entry : String × Value) (entries : List (String × Value)) :
    writeEntries (entry :: entries) =
      writeText entry.1 ++ ':' :: (entry.2.write ++ writeLaterEntries entries) := by
  obtain ⟨key, value⟩ := entry
  cases entries <;> rfl

theorem writeLaterEntries_cons (entry : String × Value) (entries : List (String × Value)) :
    writeLaterEntries (entry :: entries) =
      ',' :: (writeText entry.1 ++ ':' :: (entry.2.write ++ writeLaterEntries entries)) := by
  rw [← writeEntries_cons]
  rfl

theorem endsNumber_writeLaterEntries (entries : List (String × Value)) (rest : List Char) :
    EndsNumber (writeLaterEntries entries ++ rest) := by
  cases entries with
  | nil => exact endsNumber_cons rest (by decide)
  | cons entry entries => exact endsNumber_cons _ (by decide)

theorem length_lt_length_writeLaterEntries (entries : List (String × Value)) :
    entries.length < (writeLaterEntries entries).length := by
  induction entries with
  | nil => exact Nat.zero_lt_one
  | cons entry entries ih =>
      simp only [writeLaterEntries_cons, List.length_cons, List.length_append]
      omega

theorem length_le_length_writeEntries (entries : List (String × Value)) :
    entries.length ≤ (writeEntries entries).length := by
  cases entries with
  | nil => exact Nat.zero_le 1
  | cons entry entries =>
      have hlater := length_lt_length_writeLaterEntries entries
      simp only [writeEntries_cons, List.length_cons, List.length_append]
      omega

theorem writeText_append (text : String) (rest : List Char) :
    writeText text ++ rest = '"' :: (text.toList.flatMap writeChar ++ '"' :: rest) := by
  simp [writeText]

theorem nextKey_first (key : String) (rest : List Char) :
    nextKey true (writeText key ++ rest) = .ok (some key, rest) := by
  have hquote (text : List Char) : nextKey true ('"' :: text) =
      readText text >>= fun read => .ok (some read.1, read.2) := rfl
  rw [writeText_append, hquote, readText_writeText]
  rfl

theorem nextKey_later (key : String) (rest : List Char) :
    nextKey false (',' :: (writeText key ++ rest)) = .ok (some key, rest) := by
  have hquote (text : List Char) : nextKey false (',' :: '"' :: text) =
      readText text >>= fun read => .ok (some read.1, read.2) := rfl
  rw [writeText_append, hquote, readText_writeText]
  rfl

section

variable {σ : Type} {step : σ → String → Reader σ} {store : σ → String × Value → σ}
  {entries : List (String × Value)}

/-- A step that reads an entry's value and stores it. -/
def Stores (step : σ → String → Reader σ) (store : σ → String × Value → σ)
    (entry : String × Value) : Prop :=
  ∀ gathered rest, EndsNumber rest →
    step gathered entry.1 (':' :: (entry.2.write ++ rest)) = .ok (store gathered entry, rest)

/-- One round of the loop: an entry and then the later ones. -/
theorem readEntries_next {first : Bool} {fuel : Nat} {entry : String × Value} {gathered : σ}
    {text rest : List Char}
    (hnext : nextKey first text =
      .ok (some entry.1, ':' :: (entry.2.write ++ (writeLaterEntries entries ++ rest))))
    (hentry : Stores step store entry)
    (hlater :
      readEntries step false fuel (store gathered entry) (writeLaterEntries entries ++ rest) =
        .ok (entries.foldl store (store gathered entry), '}' :: rest)) :
    readEntries step first (fuel + 1) gathered text =
      .ok ((entry :: entries).foldl store gathered, '}' :: rest) := by
  have hread := hentry gathered _ (endsNumber_writeLaterEntries entries rest)
  simp only [readEntries, hnext, hread, hlater, Except.bind, bind, List.foldl_cons]

theorem readEntries_laterEntries (hentries : ∀ entry ∈ entries, Stores step store entry)
    {fuel : Nat} (hfuel : entries.length < fuel) (gathered : σ) (rest : List Char) :
    readEntries step false fuel gathered (writeLaterEntries entries ++ rest) =
      .ok (entries.foldl store gathered, '}' :: rest) := by
  induction entries generalizing fuel gathered with
  | nil =>
      obtain ⟨fuel, rfl⟩ := Nat.exists_eq_add_one.2 hfuel
      rfl
  | cons entry later ih =>
      obtain ⟨fuel, rfl⟩ := Nat.exists_eq_add_one.2 (Nat.zero_lt_of_lt hfuel)
      obtain ⟨hentry, hlater⟩ := List.forall_mem_cons.1 hentries
      refine readEntries_next ?_ hentry (ih hlater (Nat.lt_of_succ_lt_succ hfuel) _)
      simp only [writeLaterEntries_cons, List.cons_append, List.append_assoc, nextKey_later]

/-- The entries of a written object are stored one after the other. -/
theorem readEntries_written (hentries : ∀ entry ∈ entries, Stores step store entry)
    {fuel : Nat} (hfuel : entries.length < fuel) (gathered : σ) (rest : List Char) :
    readEntries step true fuel gathered (writeEntries entries ++ rest) =
      .ok (entries.foldl store gathered, '}' :: rest) := by
  obtain ⟨fuel, rfl⟩ := Nat.exists_eq_add_one.2 (Nat.zero_lt_of_lt hfuel)
  cases entries with
  | nil => rfl
  | cons entry later =>
      obtain ⟨hentry, hlater⟩ := List.forall_mem_cons.1 hentries
      refine readEntries_next ?_ hentry
        (readEntries_laterEntries hlater (Nat.lt_of_succ_lt_succ hfuel) _ rest)
      simp only [writeEntries_cons, List.cons_append, List.append_assoc, nextKey_first]

end

theorem storeEntry_stores {reader : Reader Value} {entry : String × Value}
    (hread : ReadsBack reader entry.2) :
    Stores (storeEntry reader) (fun table entry => Table.insert table entry.1 entry.2) entry := by
  intro gathered rest hends
  have hcolon : readColon (':' :: (entry.2.write ++ rest)) = .ok (entry.2.write ++ rest) := rfl
  simp only [storeEntry, hcolon, hread rest hends, Except.bind, bind]

/-! ## Values -/

theorem readValue_number (levels : Nat) {value : Number} (hexact : (Value.number value).Exact) :
    ReadsBack (readValue levels) (.number value) := by
  intro rest hends
  cases value with
  | float value => exact hexact.elim
  | whole value fits =>
      cases value with
      | ofNat n =>
          have hbound : n < Decimal.beyond64 := Int.ofNat_lt.1 fits.2
          have hnumber := readNumber_digits hends false hbound
          rw [wholeNumber_ofNat fits] at hnumber
          obtain ⟨c, later, heq⟩ := List.exists_cons_of_ne_nil (Decimal.digits_ne_nil n)
          have hdigit : Decimal.isDigit c = true :=
            Decimal.isDigit_of_mem_digits (n := n) (by simp [heq])
          rw [write_number, Number.write, Decimal.ofInt]
          rw [heq, List.cons_append] at hnumber ⊢
          rw [readValue, skipGap_cons _ (isGap_eq_false_of_isDigit hdigit)]
          split
          case h_1 heq => exact absurd heq (List.cons_ne_nil c _)
          case h_9 heq =>
              obtain ⟨rfl, rfl⟩ := List.cons.inj heq
              simp only [if_pos hdigit, hnumber, Except.bind, bind, Int.ofNat_eq_natCast]
          -- no other beginning of a value is a digit
          all_goals
            · next heq =>
                obtain ⟨rfl, -⟩ := List.cons.inj heq
                contradiction
      | negSucc n =>
          have hbound : n + 1 < Decimal.beyond64 := by
            have hleast := fits.1
            rw [Decimal.beyond64]
            omega
          have hnumber := readNumber_digits hends true hbound
          rw [wholeNumber_negSucc fits] at hnumber
          rw [write_number, Number.write, Decimal.ofInt, List.cons_append, readValue,
            skipGap_cons _ (by decide)]
          simp only [hnumber, Except.bind, bind]

theorem readValue_null (levels : Nat) : ReadsBack (readValue levels) .null := by
  intro rest _
  rw [readValue]
  rfl

theorem readValue_boolean (levels : Nat) (value : Bool) :
    ReadsBack (readValue levels) (.boolean value) := by
  intro rest _
  rw [readValue]
  cases value <;> rfl

theorem readValue_text (levels : Nat) (value : String) :
    ReadsBack (readValue levels) (.text value) := by
  intro rest _
  rw [write_text, writeText_append, readValue_quote levels (skipGap_cons _ rfl),
    readText_writeText]
  rfl

theorem readValue_array {levels : Nat} {items : List Value}
    (hitems : ∀ item ∈ items, item.Exact ∧ ReadsBack (readValue levels) item) :
    ReadsBack (readValue (levels + 1)) (.array items) := by
  intro rest _
  have hlength : items.length < (writeItems items ++ rest).length + 1 := by
    have hwritten := length_le_length_writeItems items
    rw [List.length_append]
    omega
  rw [write_array, List.cons_append, readValue_bracket levels (skipGap_cons _ rfl),
    readItems_written hitems hlength]
  rfl

/-- An object is read back as the table of its entries. -/
theorem readValue_object {levels : Nat} {entries : List (String × Value)}
    (hentries : ∀ entry ∈ entries, ReadsBack (readValue levels) entry.2) (rest : List Char) :
    readValue (levels + 1) ((Value.object entries).write ++ rest) =
      .ok (.object (Table.ofList entries), rest) := by
  have hlength : entries.length < (writeEntries entries ++ rest).length + 1 := by
    have hwritten := length_le_length_writeEntries entries
    rw [List.length_append]
    omega
  have hstores := fun entry member => storeEntry_stores (hentries entry member)
  rw [write_object, List.cons_append, readValue_brace levels (skipGap_cons _ rfl),
    readEntries_written hstores hlength]
  rfl

/-- What is written for a value is read back, if its levels may be opened. -/
theorem readValue_write {levels : Nat} {value : Value} (hexact : value.Exact)
    (hsound : Sound levels value) : ReadsBack (readValue levels) value := by
  -- the items and entries are read with one level less
  induction levels using Nat.strongRecOn generalizing value with
  | ind levels ih =>
      cases value with
      | null => exact readValue_null levels
      | boolean value => exact readValue_boolean levels value
      | number value => exact readValue_number levels hexact
      | text value => exact readValue_text levels value
      | array items =>
          obtain ⟨below, rfl, hitems⟩ := hsound.exists_items
          have hexacts := exactItems_iff.1 hexact
          exact readValue_array fun item member => ⟨hexacts item member,
            ih below (Nat.lt_succ_self below) (hexacts item member) (hitems item member)⟩
      | object entries =>
          obtain ⟨below, rfl, hsorted, hentries⟩ := hsound.exists_tableOf
          have hexacts := exactEntries_iff.1 hexact
          have hread := readValue_object fun entry member =>
            ih below (Nat.lt_succ_self below) (hexacts entry member) (hentries entry member)
          rw [hsorted.ofList_eq] at hread
          exact fun rest _ => hread rest

/-- A rendered value is parsed as that value, unless it nests too deeply. -/
theorem parse_render {value : Value} (hexact : value.Exact) (hsound : Sound levelLimit value) :
    parse value.render = .ok value := by
  have hread := readValue_write hexact hsound [] endsNumber_nil
  rw [List.append_nil] at hread
  rw [parse, readAll, render, String.toList_ofList, hread]
  rfl

end Lifeline.Json
