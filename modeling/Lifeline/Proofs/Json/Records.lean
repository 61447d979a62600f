import Lifeline.Proofs.Json.Listing
import Lifeline.Proofs.Json.RoundTrip
import Mathlib.Data.List.Pairwise
import Mathlib.Data.List.Perm.Basic
import Mathlib.Data.List.ReduceOption

/-!
# Records from objects as they are listed

A record is read entry by entry from an object whose entries stand in any order.
`asListed` gives the object of a text with its entries in their order, and what a
reader makes of a value may depend on this alone (`Reads`).  An entry fills in a
part of a draft (`Filling`); where these parts are apart from each other, the
order of the entries makes no difference to the record (`readRecord_reads`).
-/

namespace Lifeline.Json

/-! ## Objects as they are listed -/

/-- Reads a value.  The entries of an object are kept as they are listed, and so are those of
the objects in it. -/
def readAsListed : Nat → Reader Value
  | 0 => readValue 0
  | levels + 1 => fun text => match skipGap text with
      | '{' :: rest => do
          let (listed, rest) ← readListed (readAsListed levels) true (rest.length + 1) rest
          .ok (.object listed, ← closeObject rest)
      | _ => readValue (levels + 1) text

/-- The value of a text, with the entries of its objects as they are listed. -/
def asListed (text : String) : Except Fault Value :=
  readAll (readAsListed levelLimit) text.toList

theorem readAsListed_brace (levels : Nat) {text after : List Char}
    (hbrace : skipGap text = '{' :: after) :
    readAsListed (levels + 1) text =
      readListed (readAsListed levels) true (after.length + 1) after >>= fun read =>
        closeObject read.2 >>= fun rest => .ok (.object read.1, rest) := by
  simp only [readAsListed, hbrace]

theorem readAsListed_eq_object {levels : Nat} {text rest : List Char}
    {listed : List (String × Value)}
    (hread : readAsListed (levels + 1) text = .ok (.object listed, rest)) :
    ∃ after afterEntries, skipGap text = '{' :: after ∧
      readListed (readAsListed levels) true (after.length + 1) after = .ok (listed, afterEntries) ∧
      closeObject afterEntries = .ok rest := by
  by_cases hbrace : ∃ after, skipGap text = '{' :: after
  · obtain ⟨after, hbrace⟩ := hbrace
    rw [readAsListed_brace levels hbrace] at hread
    obtain ⟨⟨taken, afterEntries⟩, hlisted, hread⟩ := bind_eq_ok.1 hread
    obtain ⟨last, hclose, hread⟩ := bind_eq_ok.1 hread
    cases hread
    exact ⟨after, afterEntries, hbrace, hlisted, hclose⟩
  · have hvalue : readValue (levels + 1) text = .ok (.object listed, rest) := by
      simp only [readAsListed] at hread
      split at hread
      · next after hafter => exact absurd ⟨after, hafter⟩ hbrace
      · exact hread
    exact absurd (opens_of_readValue hvalue) hbrace

/-- What is no object is read as any value is. -/
theorem readValue_of_readAsListed {levels : Nat} {text rest : List Char} {value : Value}
    (hread : readAsListed levels text = .ok (value, rest))
    (hvalue : ∀ listed, value ≠ .object listed) : readValue levels text = .ok (value, rest) := by
  cases levels with
  | zero => exact hread
  | succ levels =>
      simp only [readAsListed] at hread
      split at hread
      · obtain ⟨⟨listed, afterEntries⟩, -, hread⟩ := bind_eq_ok.1 hread
        obtain ⟨last, -, hread⟩ := bind_eq_ok.1 hread
        cases hread
        exact absurd rfl (hvalue listed)
      · exact hread

/-! ### Written objects -/

/-- Reads the value of an entry and lists it behind the earlier ones. -/
def listEntry (value : Reader Value) (listed : List (String × Value)) (key : String) :
    Reader (List (String × Value)) :=
  fun text => do
    let rest ← readColon text
    let (value, rest) ← value rest
    .ok (listed ++ [(key, value)], rest)

theorem listEntry_adds (value : Reader Value) :
    Adds value (listEntry value) fun listed entry => some (listed ++ [entry]) :=
  adds_of_eq fun _ _ _ => rfl

theorem listEntry_stores {reader : Reader Value} {entry : String × Value}
    (hread : ReadsBack reader entry.2) :
    Stores (listEntry reader) (fun listed entry => listed ++ [entry]) entry := by
  intro gathered rest hends
  have hcolon : readColon (':' :: (entry.2.write ++ rest)) = .ok (entry.2.write ++ rest) := rfl
  simp only [listEntry, hcolon, hread rest hends, Except.bind, bind]

/-- The entries of a written object are listed as they were written. -/
theorem readListed_written {reader : Reader Value} {entries : List (String × Value)}
    (hentries : ∀ entry ∈ entries, ReadsBack reader entry.2) {fuel : Nat}
    (hfuel : entries.length < fuel) (rest : List Char) :
    readListed reader true fuel (Value.writeEntries entries ++ rest) =
      .ok (entries, '}' :: rest) := by
  have happended (earlier later : List (String × Value)) :
      later.foldl (fun listed entry => listed ++ [entry]) earlier = earlier ++ later := by
    induction later generalizing earlier with
    | nil => simp
    | cons entry later ih => simp [ih]
  have hread := readEntries_written (fun entry member => listEntry_stores (hentries entry member))
    hfuel [] rest
  obtain ⟨listed, hlisted, hfold⟩ := (readEntries_eq_ok_iff (listEntry_adds reader)).1 hread
  have hsame : some (listed.foldl (fun listed entry => listed ++ [entry]) []) =
      some (entries.foldl (fun listed entry => listed ++ [entry]) []) :=
    List.foldlM_pure.symm.trans hfold
  rw [happended, happended, List.nil_append, List.nil_append, Option.some.injEq] at hsame
  rw [hlisted, hsame]

/-- What is written for anything but an object is read back as it is by a reader of values. -/
theorem readAsListed_readsBack {levels : Nat} {value : Value}
    (hread : ReadsBack (readValue levels) value) (hvalue : ∀ listed, value ≠ .object listed) :
    ReadsBack (readAsListed levels) value := by
  intro rest hends
  have hwritten := hread rest hends
  cases levels with
  | zero => exact hwritten
  | succ levels =>
      simp only [readAsListed]
      split
      · next after hbrace =>
          rw [readValue_brace levels hbrace] at hwritten
          obtain ⟨⟨entries, afterEntries⟩, -, hwritten⟩ := bind_eq_ok.1 hwritten
          obtain ⟨last, -, hwritten⟩ := bind_eq_ok.1 hwritten
          cases hwritten
          exact absurd rfl (hvalue entries)
      · exact hwritten

theorem readAsListed_object {levels : Nat} {entries : List (String × Value)}
    (hentries : ∀ entry ∈ entries, ReadsBack (readAsListed levels) entry.2) :
    ReadsBack (readAsListed (levels + 1)) (.object entries) := by
  intro rest _
  have hlength : entries.length < (Value.writeEntries entries ++ rest).length + 1 := by
    have hwritten := length_le_length_writeEntries entries
    rw [List.length_append]
    omega
  rw [Value.write_object, List.cons_append, readAsListed_brace levels (skipGap_cons _ rfl),
    readListed_written hentries hlength]
  rfl

/-! ## Readers by value -/

/-- Wherever the value is written, the reader takes it for this result. -/
def Reads {β : Type} (levels : Nat) (value : Value) (reader : Reader β) (result : β) : Prop :=
  ∀ text rest, readAsListed levels text = .ok (value, rest) → reader text = .ok (result, rest)

theorem readAll_of_reads {β : Type} {value : Value} {reader : Reader β} {result : β}
    (hreads : Reads levelLimit value reader result) {text : String}
    (hlisted : asListed text = .ok value) : readAll reader text.toList = .ok result := by
  obtain ⟨rest, hread, hend⟩ := readAll_eq_ok_iff.1 hlisted
  exact readAll_eq_ok_iff.2 ⟨rest, hreads _ _ hread, hend⟩

theorem reads_scalar {β : Type} {levels : Nat} {value : Value} {scalar : Scalar β} {result : β}
    (hplain : value.depth = 0) (hscalar : scalar value.found = .ok result) :
    Reads levels value (readScalar scalar) result := by
  intro text rest hread
  have hobject : ∀ listed, value ≠ .object listed := by
    rintro listed rfl
    exact Nat.succ_ne_zero _ hplain
  have hfound := readFound_of_readValue (readValue_of_readAsListed hread hobject) hplain
  exact readScalar_eq_ok_iff.2 ⟨value.found, hfound, hscalar⟩

theorem reads_choice {β : Type} {levels : Nat} {choices : List (String × β)} {name : String}
    {choice : β} (hchoice : choices.lookup name = some choice) :
    Reads levels (.text name) (readChoice choices) choice := by
  intro text rest hread
  have hvalue := readValue_of_readAsListed hread (by simp)
  obtain ⟨after, hquote, -⟩ := readValue_eq_text_iff.1 hvalue
  have hskipped : skipGap ('"' :: after) = '"' :: after := rfl
  have hfound := readFound_of_readValue hvalue rfl
  rw [hquote] at hfound
  simp only [readChoice, hquote, readScalar, hskipped, hfound, Value.found, hchoice, bind,
    Except.bind]

/-! ## Records -/

section

variable {Draft α : Type}

section

variable {record : Record Reader Draft α} {text rest : List Char} {value : α}

/-- What comes of a draft that has been read: it is completed, and the brackets are closed. -/
theorem finish_eq_ok_iff {read : Except Fault (Draft × List Char)}
    {close : List Char → Except Fault (List Char)} {complain : Draft × List Char → String → Fault} :
    (read >>= fun taken => match record.finish taken.1 with
      | .ok value => close taken.2 >>= fun last => .ok (value, last)
      | .error name => .error (complain taken name)) = .ok (value, rest) ↔
      ∃ draft after, read = .ok (draft, after) ∧ record.finish draft = .ok value ∧
        close after = .ok rest := by
  rw [bind_eq_ok]
  constructor
  · rintro ⟨⟨draft, after⟩, hread, htaken⟩
    dsimp only at htaken
    split at htaken
    · next taken hfinish =>
        obtain ⟨last, hclose, htaken⟩ := bind_eq_ok.1 htaken
        cases htaken
        exact ⟨draft, after, hread, hfinish, hclose⟩
    · cases htaken
  · rintro ⟨draft, after, hread, hfinish, hclose⟩
    refine ⟨(draft, after), hread, ?_⟩
    simp only [hfinish, hclose, bind, Except.bind]

theorem readRecord_brace_iff {after : List Char} (hbrace : skipGap text = '{' :: after) :
    readRecord record text = .ok (value, rest) ↔
      ∃ draft afterEntries,
        readEntries (readField record) true (after.length + 1) record.blank after =
          .ok (draft, afterEntries) ∧
        record.finish draft = .ok value ∧ closeObject afterEntries = .ok rest := by
  rw [readRecord, hbrace]
  exact finish_eq_ok_iff

theorem readRecord_bracket_iff {after : List Char} (hbracket : skipGap text = '[' :: after) :
    readRecord record text = .ok (value, rest) ↔
      ∃ draft afterItems,
        readFieldsInOrder true record.fields record.blank after = .ok (draft, afterItems) ∧
        record.finish draft = .ok value ∧ closeList afterItems = .ok rest := by
  rw [readRecord, hbracket]
  exact finish_eq_ok_iff

theorem opens_of_readRecord (hread : readRecord record text = .ok (value, rest)) :
    ∃ after, skipGap text = '{' :: after ∨ skipGap text = '[' :: after := by
  simp only [readRecord] at hread
  split at hread
  · next after hbrace => exact ⟨after, .inl hbrace⟩
  · next after hbracket => exact ⟨after, .inr hbracket⟩
  · exact absurd hread readScalar_never

end

/-! ## Fillings -/

/-- An entry of an object, with the part of a draft that it fills in. -/
structure Filling (Draft : Type) where
  entry : String × Value
  isSet : Draft → Bool
  fill : Draft → Draft

namespace Filling

/-- The record has a field for the entry, which fills in this part of the draft. -/
def Fits (levels : Nat) (record : Record Reader Draft α) (filling : Filling Draft) : Prop :=
  ∃ field, record.field? filling.entry.1 = some field ∧ field.isSet = filling.isSet ∧
    ∀ draft, Reads levels filling.entry.2 (field.read draft) (filling.fill draft)

/-- Fills in one part of a draft, which is empty unless it has been set. -/
def ofPart {β : Type} (get : Draft → Option β) (set : Draft → β → Draft) (name : String)
    (value : Value) (part : β) : Filling Draft where
  entry := (name, value)
  isSet draft := (get draft).isSome
  fill draft := set draft part

theorem fits_ofReader {β : Type} {levels : Nat} {record : Record Reader Draft α}
    {get : Draft → Option β} {set : Draft → β → Draft} {name : String} {reader : Reader β}
    {value : Value} {part : β}
    (hfield : record.field? name = some (.ofReader name get set reader))
    (hreads : Reads levels value reader part) :
    (ofPart get set name value part).Fits levels record := by
  refine ⟨_, hfield, rfl, ?_⟩
  intro draft text rest hread
  simp only [Field.ofReader, hreads text rest hread, bind, Except.bind]
  rfl

/-- Two entries fill in different parts of a draft. -/
structure Apart (one other : Filling Draft) : Prop where
  unset : ∀ draft, one.isSet (other.fill draft) = one.isSet draft
  unset_other : ∀ draft, other.isSet (one.fill draft) = other.isSet draft
  commute : ∀ draft, one.fill (other.fill draft) = other.fill (one.fill draft)

theorem Apart.symm {one other : Filling Draft} (hapart : Apart one other) : Apart other one :=
  ⟨hapart.unset_other, hapart.unset, fun draft => (hapart.commute draft).symm⟩

instance : Std.Symm (@Apart Draft) := ⟨fun _ _ => Apart.symm⟩

end Filling

/-- The draft after entries have been filled in, in their order. -/
def filled (fillings : List (Filling Draft)) (draft : Draft) : Draft :=
  fillings.foldl (fun draft filling => filling.fill draft) draft

theorem filled_perm {fillings other : List (Filling Draft)}
    (hapart : other.Pairwise Filling.Apart) (hperm : fillings.Perm other) (draft : Draft) :
    filled fillings draft = filled other draft := by
  apply hperm.foldl_eq'
  intro one hone another hanother draft
  by_cases hsame : one = another
  · rw [hsame]
  · have hmembers := hapart.forall (hperm.mem_iff.1 hone) (hperm.mem_iff.1 hanother) hsame
    exact (hmembers.commute draft).symm

/-- Entries that the record has fields for fill in a draft in which these are not set. -/
theorem readEntries_fillings {levels : Nat} {record : Record Reader Draft α}
    {fillings : List (Filling Draft)} (hapart : fillings.Pairwise Filling.Apart) {draft : Draft}
    (hfits : ∀ filling ∈ fillings, filling.Fits levels record ∧ filling.isSet draft = false)
    {first : Bool} {fuel : Nat} {text rest : List Char}
    (hlisted : readListed (readAsListed levels) first fuel text =
      .ok (fillings.map Filling.entry, rest)) :
    readEntries (readField record) first fuel draft text = .ok (filled fillings draft, rest) := by
  induction fuel generalizing first fillings draft text with
  | zero => cases hlisted
  | succ fuel ih =>
      obtain ⟨hkey, hnone⟩ |
          ⟨key, start, afterColon, read, after, later, hkey, hcolon, hvalue, hlater, hsome⟩ :=
        readListed_succ_iff.1 hlisted
      · obtain rfl : fillings = [] := List.map_eq_nil_iff.1 hnone
        exact readEntries_succ_iff.2 (.inl ⟨hkey, rfl⟩)
      · cases fillings with
        | nil => cases hsome
        | cons filling fillings =>
            obtain ⟨hentry, rfl⟩ := List.cons.inj hsome
            obtain ⟨hfirst, hothers⟩ := List.pairwise_cons.1 hapart
            obtain ⟨⟨⟨field, hfield, hisSet, hreads⟩, hunset⟩, hfitsLater⟩ :=
              List.forall_mem_cons.1 hfits
            rw [hentry] at hfield hreads
            have hstep : readField record draft key start = .ok (filling.fill draft, after) := by
              have hfresh : field.isSet draft = false := by rw [hisSet, hunset]
              simp only [readField, hfield, hfresh, hcolon, Bool.false_eq_true, if_false, bind,
                Except.bind]
              exact hreads draft _ _ hvalue
            -- the parts are apart, so the later ones are still unset in the next draft
            have hfitsNext : ∀ other ∈ fillings, other.Fits levels record ∧
                other.isSet (filling.fill draft) = false := by
              intro other member
              obtain ⟨hfit, hother⟩ := hfitsLater other member
              exact ⟨hfit, ((hfirst other member).unset_other draft).trans hother⟩
            exact readEntries_succ_iff.2
              (.inr ⟨key, start, _, after, hkey, hstep, ih hothers hfitsNext hlater⟩)

/-- A record is read from an object whose entries fill it in, in whatever order they stand. -/
theorem readRecord_reads {levels : Nat} {record : Record Reader Draft α}
    {fillings : List (Filling Draft)} (hapart : fillings.Pairwise Filling.Apart)
    (hfits : ∀ filling ∈ fillings, filling.Fits levels record)
    (hblank : ∀ filling ∈ fillings, filling.isSet record.blank = false)
    {listed : List (String × Value)} (hlisted : listed.Perm (fillings.map Filling.entry))
    {result : α} (hfinish : record.finish (filled fillings record.blank) = .ok result) :
    Reads (levels + 1) (.object listed) (readRecord record) result := by
  -- the fillings are put in the order in which their entries are listed
  have hentries : List.Forall₂ (fun entry filling => entry = filling.entry)
      (fillings.map Filling.entry) fillings := by
    rw [List.forall₂_map_left_iff]
    exact List.forall₂_same.2 fun _ _ => rfl
  obtain ⟨order, horder, hperm⟩ := List.perm_comp_forall₂ hlisted hentries
  obtain rfl : listed = order.map Filling.entry := by
    rw [← List.forall₂_eq_eq_eq, List.forall₂_map_right_iff]
    exact horder
  have hapartOrder : order.Pairwise Filling.Apart :=
    hapart.perm hperm.symm fun hapart => hapart.symm
  intro text rest hread
  obtain ⟨after, afterEntries, hbrace, hentries, hclose⟩ := readAsListed_eq_object hread
  have hfilled := readEntries_fillings hapartOrder
    (fun filling member => ⟨hfits filling (hperm.mem_iff.1 member),
      hblank filling (hperm.mem_iff.1 member)⟩) hentries
  rw [filled_perm hapart hperm] at hfilled
  exact (readRecord_brace_iff hbrace).2 ⟨_, afterEntries, hfilled, hfinish, hclose⟩

/-- The same, where some of the entries may be left out. -/
theorem readRecord_parts {levels : Nat} {record : Record Reader Draft α}
    {parts : List (Option (Filling Draft))}
    (hapart : parts.Pairwise fun one other => ∀ filling ∈ one, ∀ another ∈ other,
      filling.Apart another)
    (hfits : ∀ part ∈ parts, ∀ filling ∈ part, filling.Fits levels record ∧
      filling.isSet record.blank = false)
    {listed : List (String × Value)}
    (hlisted : listed.Perm (parts.reduceOption.map Filling.entry))
    {result : α} (hfinish : record.finish (filled parts.reduceOption record.blank) = .ok result) :
    Reads (levels + 1) (.object listed) (readRecord record) result := by
  have hmember {filling : Filling Draft} (member : filling ∈ parts.reduceOption) :=
    hfits _ (List.reduceOption_mem_iff.1 member) filling rfl
  apply readRecord_reads _ (fun filling member => (hmember member).1)
    (fun filling member => (hmember member).2) hlisted hfinish
  exact List.pairwise_filterMap.2 hapart

end

end Lifeline.Json
