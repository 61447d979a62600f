import Lifeline.Proofs.Json.Doubles
import Lifeline.Proofs.Json.RoundTrip

/-!
# The extent of a value

A value that holds doubles need not be read back as it was: rounding may differ,
and a double may be refused.  But if the reader accepts what was written for it,
it has taken exactly that text, and the parts without doubles are as they were
(`rereads_readValue`).  So the entries of an object that hold none survive
whatever stands around them (`parse_render_object`).
-/

namespace Lifeline.Json

open Value

/-- If the reader accepts what was written for a value, it takes exactly that, and gives the
value back if no double is in it. -/
def Rereads (reader : Reader Value) (value : Value) : Prop :=
  ∀ ⦃rest read left⦄, EndsNumber rest → reader (value.write ++ rest) = .ok (read, left) →
    left = rest ∧ (value.Exact → read = value)

theorem ReadsBack.rereads {reader : Reader Value} {value : Value}
    (hvalue : ReadsBack reader value) : Rereads reader value := by
  intro rest read left hends hread
  rw [hvalue rest hends] at hread
  cases hread
  exact ⟨rfl, fun _ => rfl⟩

section

variable {α β : Type} {rest : List Char} {first : Except Fault (α × List Char)}

theorem Leaves.bind (hfirst : Leaves rest first)
    {next : α × List Char → Except Fault (β × List Char)} {last : List Char}
    (hnext : ∀ value, Leaves last (next (value, rest))) : Leaves last (first >>= next) := by
  intro result left hread
  obtain ⟨⟨value, start⟩, hvalue, hread⟩ := bind_eq_ok.1 hread
  rw [hfirst hvalue] at hread
  exact hnext value hread

end

/-! ## Doubles -/

theorem DoubleText.exists_cons {text : List Char} (htext : Decimal.DoubleText text) :
    ∃ c rest, text = c :: rest ∧ (Decimal.isDigit c = true ∨ c = '.' ∨ c = 'e') := by
  obtain @⟨whole, tail, hwhole, htail⟩ := htext
  cases whole with
  | nil =>
      cases htail with
      | fraction | both => exact ⟨'.', _, rfl, .inr (.inl rfl)⟩
      | exponent hexponent => cases hexponent <;> exact ⟨'e', _, rfl, .inr (.inr rfl)⟩
  | cons c whole => exact ⟨c, _, rfl, .inl (hwhole c List.mem_cons_self)⟩

/-- A finite double is written with its sign. -/
theorem exists_ofBinary64 (number : Binary64) :
    ∃ text, Decimal.DoubleText text ∧
      (Decimal.ofBinary64 number = '-' :: text ∨ Decimal.ofBinary64 number = text) := by
  have hdigit : Decimal.AllDigits ['0'] := Decimal.allDigits_zeros 1
  have hzero : Decimal.DoubleText (['0'] ++ ['.', '0']) := .intro hdigit (.fraction hdigit)
  unfold Decimal.ofBinary64
  dsimp only
  split <;> split
  · exact ⟨_, hzero, .inl rfl⟩
  · exact ⟨_, Decimal.doubleText_layout _ _, .inl rfl⟩
  · exact ⟨_, hzero, .inr rfl⟩
  · exact ⟨_, Decimal.doubleText_layout _ _, .inr rfl⟩

theorem startsValue_doubleText {text : List Char} (htext : Decimal.DoubleText text) :
    StartsValue text := by
  obtain ⟨c, rest, rfl, hc⟩ := DoubleText.exists_cons htext
  refine ⟨c, rest, rfl, ?_, ?_⟩
  · rcases hc with hdigit | rfl | rfl
    · exact isGap_eq_false_of_isDigit hdigit
    · rfl
    · rfl
  · rintro rfl
    rcases hc with hdigit | hpoint | hletter <;> contradiction

theorem startsValue_float (value : Binary64) : StartsValue (Value.number (.float value)).write := by
  simp only [write_number, Number.write]
  split
  · obtain ⟨text, htext, heq | heq⟩ := exists_ofBinary64 value
    · exact ⟨'-', text, heq, rfl, by decide⟩
    · exact heq ▸ startsValue_doubleText htext
  · exact ⟨'n', "ull".toList, rfl, rfl, by decide⟩

/-- Every value starts with a character that is neither blank nor the end of a list. -/
theorem startsValue_written (value : Value) : StartsValue value.write := by
  cases value with
  | number number =>
      cases number with
      | whole number fits =>
          have hexact : (Value.number (.whole number fits)).Exact := trivial
          exact startsValue_write hexact
      | float number => exact startsValue_float number
  | array items => exact ⟨'[', _, rfl, rfl, by decide⟩
  | object entries => exact ⟨'{', _, rfl, rfl, by decide⟩
  | null | boolean | text => exact startsValue_write trivial

theorem readValue_minus (levels : Nat) (text : List Char) :
    readValue levels ('-' :: text) =
      readNumber true text >>= fun read => .ok (.number read.1, read.2) := by
  rw [readValue]
  rfl

/-- Here only a number can start, if anything can. -/
theorem readValue_plain (levels : Nat) {c : Char}
    (hc : Decimal.isDigit c = true ∨ c = '.' ∨ c = 'e') (text : List Char) :
    readValue levels (c :: text) =
      if Decimal.isDigit c then
        readNumber false (c :: text) >>= fun read => .ok (.number read.1, read.2)
      else .error (.on .expectedValue (c :: text)) := by
  have hplain : isGap c = false := by
    rcases hc with hdigit | rfl | rfl
    · exact isGap_eq_false_of_isDigit hdigit
    · rfl
    · rfl
  rw [readValue, skipGap_cons _ hplain]
  split
  case h_1 heq => exact absurd heq (List.cons_ne_nil c _)
  case h_9 heq =>
      obtain ⟨rfl, rfl⟩ := List.cons.inj heq
      rfl
  all_goals
    · next heq =>
        obtain ⟨rfl, -⟩ := List.cons.inj heq
        rcases hc with hdigit | hpoint | hletter <;> contradiction

theorem leaves_readValue_float (levels : Nat) (value : Binary64) {rest : List Char}
    (hends : EndsNumber rest) :
    Leaves rest (readValue levels ((Value.number (.float value)).write ++ rest)) := by
  simp only [write_number, Number.write]
  split
  · obtain ⟨text, htext, heq | heq⟩ := exists_ofBinary64 value
    · rw [heq, List.cons_append, readValue_minus]
      exact (leaves_readNumber hends true htext).bind fun number => leaves_ok _
    · have hnumber := leaves_readNumber hends false htext
      obtain ⟨c, later, rfl, hc⟩ := DoubleText.exists_cons htext
      rw [heq, List.cons_append, readValue_plain levels hc]
      split
      · exact hnumber.bind fun number => leaves_ok _
      · exact leaves_error _
  · intro read left hread
    exact (ReadsBack.rereads (readValue_null levels) hends hread).1

/-! ## Lists -/

section

variable {item : Reader Value} {items : List Value} {rest : List Char}

/-- One round of the loop: an item and then the later ones. -/
theorem leaves_readItems_next {first : Bool} {fuel : Nat} {value : Value} {text : List Char}
    (hnext : nextItem first text = .ok (true, value.write ++ (writeLaterItems items ++ rest)))
    (hvalue : Rereads item value)
    (hlater : Leaves (']' :: rest) (readItems item false fuel (writeLaterItems items ++ rest))) :
    Leaves (']' :: rest) (readItems item first (fuel + 1) text) := by
  have hextent : Leaves (writeLaterItems items ++ rest)
      (item (value.write ++ (writeLaterItems items ++ rest))) := fun read left hread =>
    (hvalue (endsNumber_writeLaterItems items rest) hread).1
  have hround : readItems item first (fuel + 1) text =
      item (value.write ++ (writeLaterItems items ++ rest)) >>= fun read =>
        readItems item false fuel read.2 >>= fun later => .ok (read.1 :: later.1, later.2) := by
    simp only [readItems, hnext]
    rfl
  rw [hround]
  exact hextent.bind fun read => hlater.bind fun values => leaves_ok _

theorem leaves_readItems_later (hitems : ∀ value ∈ items, Rereads item value) (fuel : Nat) :
    Leaves (']' :: rest) (readItems item false fuel (writeLaterItems items ++ rest)) := by
  induction items generalizing fuel with
  | nil =>
      cases fuel with
      | zero => exact leaves_error _
      | succ fuel => exact leaves_ok _
  | cons value later ih =>
      cases fuel with
      | zero => exact leaves_error _
      | succ fuel =>
          obtain ⟨hvalue, hlater⟩ := List.forall_mem_cons.1 hitems
          refine leaves_readItems_next ?_ hvalue (ih hlater fuel)
          rw [writeLaterItems_cons, List.cons_append, List.append_assoc]
          exact nextItem_later ((startsValue_written value).append _)

/-- A list is read up to its closing bracket. -/
theorem leaves_readItems (hitems : ∀ value ∈ items, Rereads item value) (fuel : Nat) :
    Leaves (']' :: rest) (readItems item true fuel (writeItems items ++ rest)) := by
  cases fuel with
  | zero => exact leaves_error _
  | succ fuel =>
      cases items with
      | nil => exact leaves_ok _
      | cons value later =>
          obtain ⟨hvalue, hlater⟩ := List.forall_mem_cons.1 hitems
          refine leaves_readItems_next ?_ hvalue (leaves_readItems_later hlater fuel)
          rw [writeItems_cons, List.append_assoc]
          exact nextItem_first ((startsValue_written value).append _)

end

/-! ## Objects -/

/-- What the entries without doubles say of a key is found in the table; where there is no entry,
what was gathered before stays. -/
def Gathered (entries gathered table : Object) : Prop :=
  ∀ key value, (Table.get? entries key = some value ∧ value.Exact ∨
      Table.get? entries key = none ∧ gathered.get? key = some value) →
    table.get? key = some value

section

variable {reader : Reader Value} {entries : Object} {rest : List Char}

theorem gathered_nil (gathered : Object) : Gathered [] gathered gathered := by
  rintro key value (⟨hsome, -⟩ | ⟨-, hold⟩)
  · contradiction
  · exact hold

theorem Gathered.cons {key : String} {value read : Value} {gathered table : Object}
    (hsorted : Table.Sorted ((key, value) :: entries)) (hread : value.Exact → read = value)
    (hlater : Gathered entries (gathered.insert key read) table) :
    Gathered ((key, value) :: entries) gathered table := by
  have habsent : Table.get? entries key = none := Table.get?_eq_none fun other member equal =>
    String.lt_irrefl _ (equal ▸ (Table.sorted_cons.1 hsorted).1 other member)
  intro sought found hfound
  apply hlater
  rw [Table.get?_insert]
  by_cases hsame : key = sought
  · subst hsame
    rcases hfound with ⟨hsome, hexact⟩ | ⟨hnone, -⟩
    · simp only [Table.get?, if_true, Option.some.injEq] at hsome
      subst hsome
      rw [hread hexact]
      exact .inr ⟨habsent, if_pos rfl⟩
    · simp [Table.get?] at hnone
  · simp only [Table.get?, if_neg hsame] at hfound
    rwa [if_neg (Ne.symm hsame)]

/-- What reading entries returns: their text is taken, and the table holds them. -/
def ReadsEntries (entries gathered : Object) (rest : List Char)
    (result : Except Fault (Object × List Char)) : Prop :=
  ∀ ⦃table left⦄, result = .ok (table, left) → left = '}' :: rest ∧ Gathered entries gathered table

theorem readsEntries_next {first : Bool} {fuel : Nat} {key : String} {value : Value}
    {gathered : Object} {text : List Char}
    (hsorted : Table.Sorted ((key, value) :: entries))
    (hnext : nextKey first text =
      .ok (some key, ':' :: (value.write ++ (writeLaterEntries entries ++ rest))))
    (hvalue : Rereads reader value)
    (hlater : ∀ gathered, ReadsEntries entries gathered rest
      (readEntries (storeEntry reader) false fuel gathered (writeLaterEntries entries ++ rest))) :
    ReadsEntries ((key, value) :: entries) gathered rest
      (readEntries (storeEntry reader) first (fuel + 1) gathered text) := by
  have hround : readEntries (storeEntry reader) first (fuel + 1) gathered text =
      storeEntry reader gathered key
          (':' :: (value.write ++ (writeLaterEntries entries ++ rest))) >>= fun read =>
        readEntries (storeEntry reader) false fuel read.1 read.2 := by
    simp only [readEntries, hnext]
    rfl
  intro table left hread
  rw [hround] at hread
  obtain ⟨⟨extended, afterEntry⟩, hentry, hread⟩ := bind_eq_ok.1 hread
  obtain ⟨afterColon, hcolon, hentry⟩ := bind_eq_ok.1 hentry
  cases hcolon
  obtain ⟨⟨read, afterValue⟩, hparsed, hstored⟩ := bind_eq_ok.1 hentry
  cases hstored
  obtain ⟨rfl, hexact⟩ := hvalue (endsNumber_writeLaterEntries entries rest) hparsed
  obtain ⟨hleft, hgathered⟩ := hlater _ hread
  exact ⟨hleft, hgathered.cons hsorted hexact⟩

theorem readsEntries_end (gathered : Object) (rest : List Char) :
    ReadsEntries [] gathered rest (.ok (gathered, '}' :: rest)) := by
  intro table left hread
  cases hread
  exact ⟨rfl, gathered_nil gathered⟩

theorem readsEntries_error (gathered : Object) (rest : List Char) (fault : Fault) :
    ReadsEntries entries gathered rest (.error fault) := by
  intro table left hread
  cases hread

theorem readsEntries_later (hsorted : Table.Sorted entries)
    (hentries : ∀ entry ∈ entries, Rereads reader entry.2) (fuel : Nat) (gathered : Object)
    (rest : List Char) :
    ReadsEntries entries gathered rest
      (readEntries (storeEntry reader) false fuel gathered
        (writeLaterEntries entries ++ rest)) := by
  induction entries generalizing fuel gathered with
  | nil =>
      cases fuel with
      | zero => exact readsEntries_error _ _ _
      | succ fuel => exact readsEntries_end _ _
  | cons entry later ih =>
      cases fuel with
      | zero => exact readsEntries_error _ _ _
      | succ fuel =>
          obtain ⟨hentry, hlater⟩ := List.forall_mem_cons.1 hentries
          have hsortedLater := (Table.sorted_cons.1 hsorted).2
          refine readsEntries_next hsorted ?_ hentry (ih hsortedLater hlater fuel)
          simp only [writeLaterEntries_cons, List.cons_append, List.append_assoc, nextKey_later]

/-- The entries of an object are read up to its closing brace. -/
theorem readsEntries (hsorted : Table.Sorted entries)
    (hentries : ∀ entry ∈ entries, Rereads reader entry.2) (fuel : Nat) (gathered : Object)
    (rest : List Char) :
    ReadsEntries entries gathered rest
      (readEntries (storeEntry reader) true fuel gathered (writeEntries entries ++ rest)) := by
  cases fuel with
  | zero => exact readsEntries_error _ _ _
  | succ fuel =>
      cases entries with
      | nil => exact readsEntries_end _ _
      | cons entry later =>
          obtain ⟨hentry, hlater⟩ := List.forall_mem_cons.1 hentries
          have hsortedLater := (Table.sorted_cons.1 hsorted).2
          refine readsEntries_next hsorted ?_ hentry
            fun gathered => readsEntries_later hsortedLater hlater fuel gathered rest
          simp only [writeEntries_cons, List.cons_append, List.append_assoc, nextKey_first]

end

/-! ## Values -/

theorem leaves_readValue_array {levels : Nat} {items : List Value}
    (hitems : ∀ item ∈ items, Rereads (readValue levels) item) (rest : List Char) :
    Leaves rest (readValue (levels + 1) ((Value.array items).write ++ rest)) := by
  rw [write_array, List.cons_append, readValue_bracket levels (skipGap_cons _ rfl)]
  exact (leaves_readItems hitems _).bind fun values => leaves_ok _

/-- If an object is read back, so are its entries without doubles. -/
theorem readValue_object_gathered {levels : Nat} {entries : Object}
    (hsorted : Table.Sorted entries)
    (hentries : ∀ entry ∈ entries, Rereads (readValue levels) entry.2) {rest left : List Char}
    {read : Value}
    (hread : readValue (levels + 1) ((Value.object entries).write ++ rest) = .ok (read, left)) :
    left = rest ∧ ∃ table, read = .object table ∧ Gathered entries [] table := by
  rw [write_object, List.cons_append, readValue_brace levels (skipGap_cons _ rfl)] at hread
  obtain ⟨⟨table, afterEntries⟩, htable, hread⟩ := bind_eq_ok.1 hread
  obtain ⟨rfl, hgathered⟩ := readsEntries hsorted hentries _ _ _ htable
  cases hread
  exact ⟨rfl, table, rfl, hgathered⟩

/-- Reading takes what was written for a value, and nothing else. -/
theorem rereads_readValue {levels : Nat} {value : Value} (hsound : Sound levels value) :
    Rereads (readValue levels) value := by
  -- the items and entries are read with one level less
  induction levels using Nat.strongRecOn generalizing value with
  | ind levels ih =>
      intro rest read left hends hread
      refine ⟨?_, fun hexact => ((readValue_write hexact hsound).rereads hends hread).2 hexact⟩
      cases value with
      | null => exact ((readValue_null levels).rereads hends hread).1
      | boolean value => exact ((readValue_boolean levels value).rereads hends hread).1
      | text value => exact ((readValue_text levels value).rereads hends hread).1
      | number value =>
          cases value with
          | whole value fits =>
              have hexact : (Value.number (.whole value fits)).Exact := trivial
              exact ((readValue_number levels hexact).rereads hends hread).1
          | float value => exact leaves_readValue_float levels value hends hread
      | array items =>
          obtain ⟨below, rfl, hitems⟩ := hsound.exists_items
          have hreads := fun item member => ih below (Nat.lt_succ_self below) (hitems item member)
          exact leaves_readValue_array hreads rest hread
      | object entries =>
          obtain ⟨below, rfl, hsorted, hentries⟩ := hsound.exists_tableOf
          have hreads := fun entry member =>
            ih below (Nat.lt_succ_self below) (hentries entry member)
          exact (readValue_object_gathered hsorted hreads hread).1

/-- If the text of an object is parsed, the entries without doubles are as they were. -/
theorem parse_render_object {entries : Object} (hsound : Sound levelLimit (.object entries))
    {read : Value} (hparse : parse (Value.object entries).render = .ok read) :
    ∃ table, read = .object table ∧ ∀ key value, Table.get? entries key = some value →
      value.Exact → Table.get? table key = some value := by
  obtain ⟨below, hlevels, hsorted, hentries⟩ := hsound.exists_tableOf
  obtain ⟨⟨value, left⟩, hread, hparse⟩ := bind_eq_ok.1 hparse
  rw [render, String.toList_ofList, ← List.append_nil (Value.object entries).write, hlevels]
    at hread
  have hreads := fun entry member => rereads_readValue (hentries entry member)
  obtain ⟨rfl, table, rfl, hgathered⟩ := readValue_object_gathered hsorted hreads hread
  cases hparse
  exact ⟨table, rfl, fun key value hget hexact => hgathered key value (.inl ⟨hget, hexact⟩)⟩

end Lifeline.Json
