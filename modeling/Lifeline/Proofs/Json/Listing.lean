import Lifeline.Json.Decode
import Lifeline.Proofs.Json.Parsed
import Mathlib.Data.List.DropRight

/-!
# The entries of an object as they are listed

A text may repeat a key, and its entries stand in any order.  `listing` gives the
entries of the object that a text holds as they stand there.  Whatever is made of
an object while it is read, entry by entry, is a fold over this list, as long as
each step takes what a value reader takes (`readEntries_eq_ok_iff`); so the value
of the text is the table of its listing (`parse_eq_object_iff`).  A reader of typed
scalars recognises any other value as what it is (`readFound_of_readValue`).
-/

namespace Lifeline.Json

/-- The entries up to the closing brace, in the order of the text. -/
def readListed (value : Reader Value) (first : Bool) (fuel : Nat) :
    Reader (List (String × Value)) :=
  match fuel with
  | 0 => fun text => .error (.before .endInObject text)
  | fuel + 1 => fun text => do
      match ← nextKey first text with
      | (none, rest) => .ok ([], rest)
      | (some key, rest) =>
          let (read, rest) ← value (← readColon rest)
          let (later, rest) ← readListed value false fuel rest
          .ok ((key, read) :: later, rest)

theorem readListed_succ_iff {value : Reader Value} {first : Bool} {fuel : Nat}
    {text rest : List Char} {listed : List (String × Value)} :
    readListed value first (fuel + 1) text = .ok (listed, rest) ↔
      (nextKey first text = .ok (none, rest) ∧ listed = []) ∨
      ∃ key start afterColon read afterValue later, nextKey first text = .ok (some key, start) ∧
        readColon start = .ok afterColon ∧ value afterColon = .ok (read, afterValue) ∧
        readListed value false fuel afterValue = .ok (later, rest) ∧
        listed = (key, read) :: later := by
  rw [readListed, bind_eq_ok]
  constructor
  · rintro ⟨⟨key, start⟩, hkey, hread⟩
    cases key with
    | none =>
        cases hread
        exact .inl ⟨hkey, rfl⟩
    | some key =>
        obtain ⟨afterColon, hcolon, hread⟩ := bind_eq_ok.1 hread
        obtain ⟨⟨read, afterValue⟩, hvalue, hread⟩ := bind_eq_ok.1 hread
        obtain ⟨⟨later, afterLater⟩, hlater, hread⟩ := bind_eq_ok.1 hread
        cases hread
        exact .inr
          ⟨key, start, afterColon, read, afterValue, later, hkey, hcolon, hvalue, hlater, rfl⟩
  · rintro (⟨hkey, rfl⟩ |
      ⟨key, start, afterColon, read, afterValue, later, hkey, hcolon, hvalue, hlater, rfl⟩)
    · exact ⟨_, hkey, rfl⟩
    · exact ⟨_, hkey, bind_eq_ok.2
        ⟨_, hcolon, bind_eq_ok.2 ⟨_, hvalue, bind_eq_ok.2 ⟨_, hlater, rfl⟩⟩⟩⟩

def readListing (levels : Nat) : Reader (List (String × Value)) :=
  fun text => match skipGap text with
    | '{' :: rest => do
        let (listed, rest) ← readListed (readValue levels) true (rest.length + 1) rest
        .ok (listed, ← closeObject rest)
    | rest => .error (.on .expectedValue rest)

/-- The entries of the object that a text holds, in their order and with every repetition. -/
def listing (text : String) : Except Fault (List (String × Value)) :=
  readAll (readListing (levelLimit - 1)) text.toList

theorem readAll_eq_ok_iff {α : Type} {reader : Reader α} {text : List Char} {value : α} :
    readAll reader text = .ok value ↔
      ∃ rest, reader text = .ok (value, rest) ∧ skipGap rest = [] := by
  rw [readAll, bind_eq_ok]
  constructor
  · rintro ⟨⟨read, rest⟩, hread, hlast⟩
    dsimp only at hlast
    split at hlast
    · next hend =>
        cases hlast
        exact ⟨rest, hread, hend⟩
    · cases hlast
  · rintro ⟨rest, hread, hend⟩
    refine ⟨(value, rest), hread, ?_⟩
    simp only [hend]

/-! ## Folds over a listing -/

/-- The step takes a value as the reader does, and adds it if it may be added. -/
def Adds {σ : Type} (value : Reader Value) (step : σ → String → Reader σ)
    (add : σ → String × Value → Option σ) : Prop :=
  ∀ gathered key text next rest, step gathered key text = .ok (next, rest) ↔
    ∃ afterColon read, readColon text = .ok afterColon ∧ value afterColon = .ok (read, rest) ∧
      add gathered (key, read) = some next

section

variable {σ : Type} {value : Reader Value} {step : σ → String → Reader σ}
  {add : σ → String × Value → Option σ}

/-- Reading entries one after the other folds over them as they are listed. -/
theorem readEntries_eq_ok_iff (hadds : Adds value step add) {first : Bool} {fuel : Nat}
    {gathered last : σ} {text rest : List Char} :
    readEntries step first fuel gathered text = .ok (last, rest) ↔
      ∃ listed, readListed value first fuel text = .ok (listed, rest) ∧
        listed.foldlM add gathered = some last := by
  induction fuel generalizing first gathered text with
  | zero => simp [readEntries, readListed]
  | succ fuel ih =>
      constructor
      · intro hread
        obtain ⟨hkey, rfl⟩ | ⟨key, start, next, after, hkey, hentry, hlater⟩ :=
          readEntries_succ_iff.1 hread
        · exact ⟨[], readListed_succ_iff.2 (.inl ⟨hkey, rfl⟩), rfl⟩
        · obtain ⟨afterColon, read, hcolon, hvalue, hadd⟩ := (hadds _ _ _ _ _).1 hentry
          obtain ⟨later, hlisted, hfold⟩ := ih.1 hlater
          refine ⟨(key, read) :: later, ?_, ?_⟩
          · exact readListed_succ_iff.2 (.inr
              ⟨key, start, afterColon, read, after, later, hkey, hcolon, hvalue, hlisted, rfl⟩)
          · rw [List.foldlM_cons, hadd]
            exact hfold
      · rintro ⟨listed, hlisted, hfold⟩
        obtain ⟨hkey, rfl⟩ |
            ⟨key, start, afterColon, read, after, later, hkey, hcolon, hvalue, hlater, rfl⟩ :=
          readListed_succ_iff.1 hlisted
        · cases hfold
          exact readEntries_succ_iff.2 (.inl ⟨hkey, rfl⟩)
        · rw [List.foldlM_cons, Option.bind_eq_bind, Option.bind_eq_some_iff] at hfold
          obtain ⟨next, hadd, hfold⟩ := hfold
          have hentry := (hadds _ _ _ _ _).2 ⟨afterColon, read, hcolon, hvalue, hadd⟩
          exact readEntries_succ_iff.2
            (.inr ⟨key, start, next, after, hkey, hentry, ih.2 ⟨later, hlater, hfold⟩⟩)

/-- A step that reads the value of an entry and always adds it. -/
theorem adds_of_eq {add : σ → String × Value → σ}
    (hstep : ∀ gathered key text, step gathered key text = readColon text >>= fun afterColon =>
      value afterColon >>= fun read => .ok (add gathered (key, read.1), read.2)) :
    Adds value step fun gathered entry => some (add gathered entry) := by
  intro gathered key text next rest
  rw [hstep, bind_eq_ok]
  constructor
  · rintro ⟨afterColon, hcolon, hread⟩
    obtain ⟨⟨read, afterValue⟩, hvalue, hread⟩ := bind_eq_ok.1 hread
    cases hread
    exact ⟨afterColon, read, hcolon, hvalue, rfl⟩
  · rintro ⟨afterColon, read, hcolon, hvalue, hnext⟩
    cases hnext
    exact ⟨afterColon, hcolon, bind_eq_ok.2 ⟨_, hvalue, rfl⟩⟩

theorem storeEntry_adds (value : Reader Value) :
    Adds value (storeEntry value) fun table entry => some (Table.insert table entry.1 entry.2) :=
  adds_of_eq fun _ _ _ => rfl

end

/-! ## Values -/

/-- A text begins with a quote and an object with a brace. -/
def Opens : Value → List Char → Prop
  | .text _, text => ∃ after, text = '"' :: after
  | .object _, text => ∃ after, text = '{' :: after
  | _, _ => True

theorem opens_of_readValue {levels : Nat} {text rest : List Char} {value : Value}
    (hread : readValue levels text = .ok (value, rest)) : Opens value (skipGap text) := by
  rw [readValue] at hread
  split at hread
  case h_1 => cases hread
  case h_5 heq =>
      obtain ⟨⟨written, after⟩, -, hread⟩ := bind_eq_ok.1 hread
      cases hread
      exact ⟨_, heq⟩
  case h_8 heq =>
      split at hread
      · cases hread
      · obtain ⟨⟨entries, after⟩, -, hread⟩ := bind_eq_ok.1 hread
        obtain ⟨last, -, hread⟩ := bind_eq_ok.1 hread
        cases hread
        exact ⟨_, heq⟩
  -- all other values begin in another way
  case h_2 | h_3 | h_4 | h_6 =>
      obtain ⟨read, -, hread⟩ := bind_eq_ok.1 hread
      cases hread
      trivial
  case h_7 =>
      split at hread
      · cases hread
      · obtain ⟨⟨items, after⟩, -, hread⟩ := bind_eq_ok.1 hread
        obtain ⟨last, -, hread⟩ := bind_eq_ok.1 hread
        cases hread
        trivial
  case h_9 =>
      split at hread
      · obtain ⟨read, -, hread⟩ := bind_eq_ok.1 hread
        cases hread
        trivial
      · cases hread

theorem readListing_brace (levels : Nat) {text after : List Char}
    (hbrace : skipGap text = '{' :: after) :
    readListing levels text =
      readListed (readValue levels) true (after.length + 1) after >>= fun read =>
        closeObject read.2 >>= fun rest => .ok (read.1, rest) := by
  rw [readListing, hbrace]
  rfl

theorem brace_of_readListing {levels : Nat} {text rest : List Char} {listed : List (String × Value)}
    (hread : readListing levels text = .ok (listed, rest)) :
    ∃ after, skipGap text = '{' :: after := by
  unfold readListing at hread
  split at hread
  · next after hbrace => exact ⟨after, hbrace⟩
  · cases hread

/-- A text is read in the same way however many levels may be opened. -/
theorem readValue_eq_text_iff {levels : Nat} {text rest : List Char} {written : String} :
    readValue levels text = .ok (.text written, rest) ↔
      ∃ after, skipGap text = '"' :: after ∧ readText after = .ok (written, rest) := by
  constructor
  · intro hread
    obtain ⟨after, hquote⟩ := opens_of_readValue hread
    rw [readValue_quote levels hquote] at hread
    obtain ⟨⟨read, afterText⟩, htext, hread⟩ := bind_eq_ok.1 hread
    cases hread
    exact ⟨after, hquote, htext⟩
  · rintro ⟨after, hquote, htext⟩
    rw [readValue_quote levels hquote, htext]
    rfl

/-- An object is the table of its listing. -/
theorem readValue_eq_object_iff {levels : Nat} {text rest : List Char} {entries : Object} :
    readValue (levels + 1) text = .ok (.object entries, rest) ↔
      ∃ listed, readListing levels text = .ok (listed, rest) ∧
        Table.ofList listed = entries := by
  have hfold (listed : List (String × Value)) :
      listed.foldlM (fun table entry => some (Table.insert table entry.1 entry.2)) [] =
        some (Table.ofList listed) := List.foldlM_pure
  constructor
  · intro hread
    obtain ⟨after, hbrace⟩ := opens_of_readValue hread
    rw [readValue_brace levels hbrace] at hread
    obtain ⟨⟨stored, afterEntries⟩, hentries, hread⟩ := bind_eq_ok.1 hread
    obtain ⟨last, hclose, hread⟩ := bind_eq_ok.1 hread
    cases hread
    obtain ⟨listed, hlisted, hstored⟩ := (readEntries_eq_ok_iff (storeEntry_adds _)).1 hentries
    rw [hfold, Option.some.injEq] at hstored
    refine ⟨listed, ?_, hstored⟩
    rw [readListing_brace levels hbrace]
    exact bind_eq_ok.2 ⟨_, hlisted, bind_eq_ok.2 ⟨_, hclose, rfl⟩⟩
  · rintro ⟨listed, hread, rfl⟩
    obtain ⟨after, hbrace⟩ := brace_of_readListing hread
    rw [readListing_brace levels hbrace] at hread
    obtain ⟨⟨taken, afterEntries⟩, hlisted, hread⟩ := bind_eq_ok.1 hread
    obtain ⟨last, hclose, hread⟩ := bind_eq_ok.1 hread
    cases hread
    have hentries := (readEntries_eq_ok_iff (storeEntry_adds _)).2 ⟨taken, hlisted, hfold taken⟩
    rw [readValue_brace levels hbrace]
    exact bind_eq_ok.2 ⟨_, hentries, bind_eq_ok.2 ⟨_, hclose, rfl⟩⟩

/-- A text holds an object exactly if it has a listing. -/
theorem parse_eq_object_iff {text : String} {entries : Object} :
    parse text = .ok (.object entries) ↔
      ∃ listed, listing text = .ok listed ∧ Table.ofList listed = entries := by
  have hlimit : levelLimit = levelLimit - 1 + 1 := rfl
  rw [parse, readAll_eq_ok_iff]
  constructor
  · rintro ⟨rest, hread, hend⟩
    rw [hlimit, readValue_eq_object_iff] at hread
    obtain ⟨listed, hlisted, htable⟩ := hread
    exact ⟨listed, readAll_eq_ok_iff.2 ⟨rest, hlisted, hend⟩, htable⟩
  · rintro ⟨listed, hlisting, htable⟩
    obtain ⟨rest, hlisted, hend⟩ := readAll_eq_ok_iff.1 hlisting
    exact ⟨rest, hlimit ▸ readValue_eq_object_iff.2 ⟨listed, hlisted, htable⟩, hend⟩

/-! ## Scalars -/

theorem readScalar_eq_ok_iff {α : Type} {scalar : Scalar α} {text rest : List Char} {value : α} :
    readScalar scalar text = .ok (value, rest) ↔
      ∃ found, readFound (skipGap text) = .ok (found, rest) ∧ scalar found = .ok value := by
  rw [readScalar, bind_eq_ok]
  constructor
  · rintro ⟨⟨found, afterFound⟩, hfound, hread⟩
    cases hscalar : scalar found with
    | error complaint => simp [hscalar] at hread
    | ok taken =>
        simp only [hscalar, Except.ok.injEq, Prod.mk.injEq] at hread
        obtain ⟨rfl, rfl⟩ := hread
        exact ⟨found, hfound, hscalar⟩
  · rintro ⟨found, hfound, hscalar⟩
    refine ⟨(found, rest), hfound, ?_⟩
    simp only [hscalar]

theorem readScalar_never {α : Type} {expected : String} {text rest : List Char} {value : α} :
    readScalar (Scalar.never expected) text ≠ .ok (value, rest) := by
  intro hread
  obtain ⟨found, -, hscalar⟩ := readScalar_eq_ok_iff.1 hread
  cases hscalar

/-- Where no bracket opens, the levels that may be opened do not matter. -/
theorem readValue_of_unopened (levels : Nat) {text : List Char}
    (hlist : ∀ rest, skipGap text ≠ '[' :: rest) (hobject : ∀ rest, skipGap text ≠ '{' :: rest) :
    readValue levels text = readValue 0 (skipGap text) := by
  have hskipped : skipGap (skipGap text) = skipGap text := List.dropWhile_idempotent _ _
  rw [readValue, readValue, hskipped]
  split
  case h_7 rest heq => exact absurd heq (hlist rest)
  case h_8 rest heq => exact absurd heq (hobject rest)
  all_goals rfl

/-- A value that is neither a list nor an object is found as what it is. -/
theorem readFound_of_readValue {levels : Nat} {text rest : List Char} {value : Value}
    (hread : readValue levels text = .ok (value, rest)) (hplain : value.depth = 0) :
    readFound (skipGap text) = .ok (value.found, rest) := by
  have hlist : ∀ after, skipGap text ≠ '[' :: after := by
    intro after hbracket
    cases levels with
    | zero =>
        rw [readValue, hbracket] at hread
        cases hread
    | succ levels =>
        rw [readValue_bracket levels hbracket] at hread
        obtain ⟨⟨items, afterItems⟩, -, hread⟩ := bind_eq_ok.1 hread
        obtain ⟨last, -, hread⟩ := bind_eq_ok.1 hread
        cases hread
        exact Nat.succ_ne_zero _ hplain
  have hobject : ∀ after, skipGap text ≠ '{' :: after := by
    intro after hbrace
    cases levels with
    | zero =>
        rw [readValue, hbrace] at hread
        cases hread
    | succ levels =>
        rw [readValue_brace levels hbrace] at hread
        obtain ⟨⟨entries, afterEntries⟩, -, hread⟩ := bind_eq_ok.1 hread
        obtain ⟨last, -, hread⟩ := bind_eq_ok.1 hread
        cases hread
        exact Nat.succ_ne_zero _ hplain
  rw [readValue_of_unopened levels hlist hobject] at hread
  unfold readFound
  split
  · next hend =>
      rw [hend, readValue] at hread
      cases hread
  · next after hbracket => exact absurd hbracket (hlist after)
  · next after hbrace => exact absurd hbrace (hobject after)
  · rw [hread]; rfl

/-- A reader of typed values takes a text where the reader of values does. -/
theorem readScalar_text_iff (levels : Nat) {text rest : List Char} {written : String} :
    readScalar Scalar.text text = .ok (written, rest) ↔
      readValue levels text = .ok (.text written, rest) := by
  rw [readScalar_eq_ok_iff]
  constructor
  · rintro ⟨found, hfound, hscalar⟩
    cases found with
    | text taken =>
        cases hscalar
        unfold readFound at hfound
        split at hfound
        · cases hfound
        · cases hfound
        · cases hfound
        · obtain ⟨⟨value, afterValue⟩, hvalue, hfound⟩ := bind_eq_ok.1 hfound
          cases value with
          | text written =>
              cases hfound
              have hskipped : skipGap (skipGap text) = skipGap text := List.dropWhile_idempotent _ _
              rw [readValue_eq_text_iff, hskipped] at hvalue
              exact readValue_eq_text_iff.2 hvalue
          | _ => cases hfound
    | _ => cases hscalar
  · intro hread
    exact ⟨.text written, readFound_of_readValue hread rfl, rfl⟩

end Lifeline.Json
