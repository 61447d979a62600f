import Lifeline.Proofs.Envelope.RoundTrip
import Lifeline.Proofs.Json.Listing

/-!
# Two ways to read an envelope

An envelope is taken out of the object that a text holds, or it is gathered from
the entries of the text one by one.  Both are folds over the same listing, and
what is gathered at any time is the table of these entries with its action set
apart (`SetsApart`).  They part only where the action is repeated: the object
keeps the last, and the gatherer refuses (`flat_reading_agrees`).
-/

namespace Lifeline.Envelope

open Json

/-- What an entry adds to a draft; the action comes once and is a text. -/
def Draft.add? (draft : Draft) (entry : String × Value) : Option Draft :=
  if entry.1 = actionKey then
    match draft.action, entry.2 with
    | none, .text action => some { draft with action := some action }
    | _, _ => none
  else some { draft with fields := draft.fields.insert entry.1 entry.2 }

theorem Draft.add?_action_iff {draft next : Draft} {value : Value} :
    draft.add? (actionKey, value) = some next ↔
      draft.action = none ∧ ∃ action, value = .text action ∧
        next = { draft with action := some action } := by
  obtain ⟨action, fields⟩ := draft
  cases action <;> cases value <;> simp [Draft.add?, eq_comm]

theorem Draft.add?_field (draft : Draft) {key : String} (hkey : key ≠ actionKey) (value : Value) :
    draft.add? (key, value) = some { draft with fields := draft.fields.insert key value } :=
  if_neg hkey

theorem readFlatEntry_adds : Adds (readValue (levelLimit - 1)) readFlatEntry Draft.add? := by
  intro draft key text next rest
  by_cases hkey : key = actionKey
  · subst hkey
    simp only [readFlatEntry, if_true, Draft.add?_action_iff]
    cases hdraft : draft.action with
    | some earlier => simp
    | none =>
        constructor
        · intro hread
          obtain ⟨afterColon, hcolon, hread⟩ := bind_eq_ok.1 hread
          obtain ⟨⟨action, afterAction⟩, haction, hread⟩ := bind_eq_ok.1 hread
          cases hread
          have hvalue := (readScalar_text_iff (levelLimit - 1)).1 haction
          exact ⟨afterColon, .text action, hcolon, hvalue, rfl, action, rfl, rfl⟩
        · rintro ⟨afterColon, read, hcolon, hvalue, -, action, rfl, rfl⟩
          have haction := (readScalar_text_iff (levelLimit - 1)).2 hvalue
          exact bind_eq_ok.2 ⟨afterColon, hcolon, bind_eq_ok.2 ⟨_, haction, rfl⟩⟩
  · simp only [readFlatEntry, if_neg hkey, draft.add?_field hkey, Option.some.injEq]
    constructor
    · intro hread
      obtain ⟨⟨fields, afterEntry⟩, hentry, hread⟩ := bind_eq_ok.1 hread
      cases hread
      obtain ⟨afterColon, read, hcolon, hvalue, hfields⟩ := (storeEntry_adds _ _ _ _ _ _).1 hentry
      cases hfields
      exact ⟨afterColon, read, hcolon, hvalue, rfl⟩
    · rintro ⟨afterColon, read, hcolon, hvalue, rfl⟩
      have hentry : storeEntry (readValue (levelLimit - 1)) draft.fields key text =
          .ok (draft.fields.insert key read, rest) :=
        (storeEntry_adds _ _ _ _ _ _).2 ⟨afterColon, read, hcolon, hvalue, rfl⟩
      exact bind_eq_ok.2 ⟨_, hentry, rfl⟩

/-! ## Drafts and tables -/

/-- A draft holds what a table does, with the action set apart. -/
structure SetsApart (draft : Draft) (table : Object) : Prop where
  sorted : Table.Sorted table
  action : table.get? actionKey = draft.action.map Value.text
  fields : draft.fields = table.erase actionKey

theorem setsApart_nil : SetsApart ⟨none, []⟩ [] := ⟨Table.sorted_nil, rfl, rfl⟩

theorem SetsApart.add {draft next : Draft} {table : Object} (hdraft : SetsApart draft table)
    {entry : String × Value} (hadd : draft.add? entry = some next) :
    SetsApart next (Table.insert table entry.1 entry.2) := by
  obtain ⟨key, value⟩ := entry
  by_cases hkey : key = actionKey
  · subst hkey
    obtain ⟨-, action, rfl, rfl⟩ := Draft.add?_action_iff.1 hadd
    constructor
    · exact hdraft.sorted.insert actionKey _
    · rw [Table.get?_insert, if_pos rfl]
      rfl
    · rw [hdraft.sorted.erase_insert]
      exact hdraft.fields
  · rw [draft.add?_field hkey] at hadd
    cases hadd
    constructor
    · exact hdraft.sorted.insert key value
    · rw [Table.get?_insert, if_neg (Ne.symm hkey)]
      exact hdraft.action
    · rw [hdraft.sorted.erase_insert_of_ne hkey, ← hdraft.fields]

theorem SetsApart.fold {listed : List (String × Value)} {draft last : Draft} {table : Object}
    (hdraft : SetsApart draft table) (hfold : listed.foldlM Draft.add? draft = some last) :
    SetsApart last
      (listed.foldl (fun table entry => Table.insert table entry.1 entry.2) table) := by
  induction listed generalizing draft table with
  | nil =>
      cases hfold
      exact hdraft
  | cons entry rest ih =>
      rw [List.foldlM_cons, Option.bind_eq_bind, Option.bind_eq_some_iff] at hfold
      obtain ⟨next, hadd, hfold⟩ := hfold
      exact ih (hdraft.add hadd) hfold

/-! ## The action among the entries -/

/-- How often a key stands in a list of entries. -/
def occurrences (key : String) (listed : List (String × Value)) : Nat :=
  (listed.map Prod.fst).count key

theorem occurrences_action_cons (value : Value) (listed : List (String × Value)) :
    occurrences actionKey ((actionKey, value) :: listed) = occurrences actionKey listed + 1 := by
  simp [occurrences]

theorem occurrences_cons_of_ne {key other : String} (hkey : key ≠ other) (value : Value)
    (listed : List (String × Value)) :
    occurrences other ((key, value) :: listed) = occurrences other listed := by
  simp [occurrences, hkey]

theorem get?_reverse_of_occurrences {key : String} {listed : List (String × Value)}
    (hnone : occurrences key listed = 0) : Table.get? listed.reverse key = none := by
  have habsent : key ∉ listed.map Prod.fst := List.count_eq_zero.1 hnone
  apply Table.get?_eq_none
  rintro entry hentry rfl
  exact habsent (List.mem_map_of_mem (List.mem_reverse.1 hentry))

/-- The action of a draft and those among the entries that it takes make the action at the end. -/
theorem occurrences_of_fold {listed : List (String × Value)} {draft last : Draft}
    (hfold : listed.foldlM Draft.add? draft = some last) :
    occurrences actionKey listed + draft.action.toList.length = last.action.toList.length := by
  induction listed generalizing draft with
  | nil =>
      cases hfold
      exact Nat.zero_add _
  | cons entry rest ih =>
      obtain ⟨key, value⟩ := entry
      rw [List.foldlM_cons, Option.bind_eq_bind, Option.bind_eq_some_iff] at hfold
      obtain ⟨next, hadd, hfold⟩ := hfold
      have hrest := ih hfold
      by_cases hkey : key = actionKey
      · subst hkey
        obtain ⟨hnone, action, -, rfl⟩ := Draft.add?_action_iff.1 hadd
        rw [occurrences_action_cons, hnone]
        exact hrest
      · rw [draft.add?_field hkey] at hadd
        cases hadd
        rw [occurrences_cons_of_ne hkey]
        exact hrest

/-- Where the action stands only once and is a text, no entry is refused. -/
theorem exists_fold {listed : List (String × Value)} {draft : Draft} {table : Object}
    (hdraft : SetsApart draft table)
    (honce : occurrences actionKey listed + draft.action.toList.length ≤ 1) {action : String}
    (haction : Table.get? (listed.foldl (fun table entry => Table.insert table entry.1 entry.2)
      table) actionKey = some (.text action)) :
    ∃ last, listed.foldlM Draft.add? draft = some last := by
  induction listed generalizing draft table with
  | nil => exact ⟨draft, rfl⟩
  | cons entry rest ih =>
      suffices ∃ next, draft.add? entry = some next ∧
          occurrences actionKey rest + next.action.toList.length ≤ 1 by
        obtain ⟨next, hadd, hrest⟩ := this
        obtain ⟨last, hfold⟩ := ih (hdraft.add hadd) hrest haction
        refine ⟨last, ?_⟩
        rw [List.foldlM_cons, hadd]
        exact hfold
      obtain ⟨key, value⟩ := entry
      by_cases hkey : key = actionKey
      · subst hkey
        rw [occurrences_action_cons] at honce
        -- no later entry replaces this one
        have hlater : occurrences actionKey rest = 0 := by omega
        have hnone : draft.action = none := by
          rw [← Option.toList_eq_nil_iff, ← List.length_eq_zero_iff]
          omega
        rw [List.foldl_cons, Table.get?_foldl_insert, get?_reverse_of_occurrences hlater,
          Table.get?_insert, if_pos rfl, Option.none_or, Option.some.injEq] at haction
        refine ⟨_, Draft.add?_action_iff.2 ⟨hnone, action, haction, rfl⟩, ?_⟩
        rw [hlater]
        exact Nat.le_refl 1
      · rw [occurrences_cons_of_ne hkey] at honce
        exact ⟨_, draft.add?_field hkey value, honce⟩

/-! ## Envelopes -/

/-- An envelope is gathered if the entries of an object fill a draft with an action. -/
theorem readFlat_eq_ok_iff {text rest : List Char} {envelope : Envelope} :
    readFlat text = .ok (envelope, rest) ↔
      ∃ listed, readListing (levelLimit - 1) text = .ok (listed, rest) ∧
        listed.foldlM Draft.add? ⟨none, []⟩ = some ⟨some envelope.action, envelope.fields⟩ := by
  constructor
  · intro hread
    unfold readFlat at hread
    split at hread
    · next after hbrace =>
        obtain ⟨⟨draft, afterEntries⟩, hentries, hread⟩ := bind_eq_ok.1 hread
        obtain ⟨listed, hlisted, hfold⟩ := (readEntries_eq_ok_iff readFlatEntry_adds).1 hentries
        dsimp only at hread
        split at hread
        · next action haction =>
            obtain ⟨last, hclose, hread⟩ := bind_eq_ok.1 hread
            cases hread
            refine ⟨listed, ?_, ?_⟩
            · rw [readListing_brace _ hbrace]
              exact bind_eq_ok.2 ⟨_, hlisted, bind_eq_ok.2 ⟨_, hclose, rfl⟩⟩
            · rw [hfold, ← haction]
        · cases hread
    · exact absurd hread readScalar_never
  · rintro ⟨listed, hread, hfold⟩
    obtain ⟨after, hbrace⟩ := brace_of_readListing hread
    rw [readListing_brace _ hbrace] at hread
    obtain ⟨⟨taken, afterEntries⟩, hlisted, hread⟩ := bind_eq_ok.1 hread
    obtain ⟨last, hclose, hread⟩ := bind_eq_ok.1 hread
    cases hread
    have hentries := (readEntries_eq_ok_iff readFlatEntry_adds).2 ⟨taken, hlisted, hfold⟩
    rw [readFlat, hbrace]
    exact bind_eq_ok.2 ⟨_, hentries, bind_eq_ok.2 ⟨_, hclose, rfl⟩⟩

theorem ofFlatJson_eq_ok_iff {raw : String} {envelope : Envelope} :
    ofFlatJson raw = .ok envelope ↔
      ∃ listed, listing raw = .ok listed ∧
        listed.foldlM Draft.add? ⟨none, []⟩ = some ⟨some envelope.action, envelope.fields⟩ := by
  rw [ofFlatJson, readAll_eq_ok_iff]
  constructor
  · rintro ⟨rest, hread, hend⟩
    obtain ⟨listed, hlisted, hfold⟩ := readFlat_eq_ok_iff.1 hread
    exact ⟨listed, readAll_eq_ok_iff.2 ⟨rest, hlisted, hend⟩, hfold⟩
  · rintro ⟨listed, hlisting, hfold⟩
    obtain ⟨rest, hlisted, hend⟩ := readAll_eq_ok_iff.1 hlisting
    exact ⟨rest, readFlat_eq_ok_iff.2 ⟨listed, hlisted, hfold⟩, hend⟩

/-- What is gathered from the entries of a text is what the object of the text holds. -/
theorem ofJson_of_ofFlatJson {raw : String} {envelope : Envelope}
    (hflat : ofFlatJson raw = .ok envelope) : ofJson raw = .ok envelope := by
  obtain ⟨listed, hlisting, hfold⟩ := ofFlatJson_eq_ok_iff.1 hflat
  have hapart := setsApart_nil.fold hfold
  have hparse : parse raw = .ok (.object (Table.ofList listed)) :=
    parse_eq_object_iff.2 ⟨listed, hlisting, rfl⟩
  have haction : Table.get? (Table.ofList listed) actionKey = some (.text envelope.action) :=
    hapart.action
  have hfields : envelope.fields = Table.erase (Table.ofList listed) actionKey := hapart.fields
  simp only [ofJson, hparse, ofValue, ofTable, haction, ← hfields]

/-- Where the action stands once, what the object of a text holds is gathered from its entries. -/
theorem ofFlatJson_of_ofJson {raw : String} {envelope : Envelope}
    (hjson : ofJson raw = .ok envelope) {listed : List (String × Value)}
    (hlisting : listing raw = .ok listed) (honce : occurrences actionKey listed = 1) :
    ofFlatJson raw = .ok envelope := by
  obtain ⟨entries, hparse, htable⟩ := ofJson_eq_ok hjson
  have hlisted : parse raw = .ok (.object (Table.ofList listed)) :=
    parse_eq_object_iff.2 ⟨listed, hlisting, rfl⟩
  obtain rfl : entries = Table.ofList listed := by simpa [hparse] using hlisted
  obtain ⟨haction, hfields⟩ := ofTable_eq_ok htable
  obtain ⟨last, hfold⟩ := exists_fold setsApart_nil (Nat.le_of_eq honce) haction
  have hapart := setsApart_nil.fold hfold
  have hlast : last = ⟨some envelope.action, envelope.fields⟩ := by
    obtain ⟨action, fields⟩ := last
    have hsame : action.map Value.text = some (.text envelope.action) := by
      rw [← haction]
      exact hapart.action.symm
    have hrest : fields = envelope.fields := by
      rw [hfields]
      exact hapart.fields
    cases action <;> simp_all
  exact ofFlatJson_eq_ok_iff.2 ⟨listed, hlisting, hlast ▸ hfold⟩

/-- What is gathered entry by entry is the envelope of the object that was parsed; the other way
round this holds exactly if the action stands only once in the text.  In both ways only an object
with a text for its action is accepted. -/
theorem flat_reading_agrees (raw : String) :
    (∀ envelope, ofFlatJson raw = .ok envelope → ofJson raw = .ok envelope) ∧
    (∀ envelope, ofJson raw = .ok envelope →
      (ofFlatJson raw = .ok envelope ↔
        ∃ listed, listing raw = .ok listed ∧ occurrences actionKey listed = 1)) ∧
    (∀ envelope, ofJson raw = .ok envelope ∨ ofFlatJson raw = .ok envelope →
      ∃ entries, parse raw = .ok (.object entries) ∧
        Table.get? entries actionKey = some (.text envelope.action)) := by
  refine ⟨fun envelope => ofJson_of_ofFlatJson, ?_, ?_⟩
  · intro envelope hjson
    constructor
    · intro hflat
      obtain ⟨listed, hlisting, hfold⟩ := ofFlatJson_eq_ok_iff.1 hflat
      exact ⟨listed, hlisting, occurrences_of_fold hfold⟩
    · rintro ⟨listed, hlisting, honce⟩
      exact ofFlatJson_of_ofJson hjson hlisting honce
  · rintro envelope haccepted
    have hjson : ofJson raw = .ok envelope := haccepted.elim id ofJson_of_ofFlatJson
    obtain ⟨entries, hparse, htable⟩ := ofJson_eq_ok hjson
    exact ⟨entries, hparse, (ofTable_eq_ok htable).1⟩

/-- A field may be repeated in both readings; a repeated action is taken in one of them only. -/
theorem repeated_action_told_apart :
    let fieldTwice := "\x7b\"b\":1,\"action\":\"x\",\"b\":2\x7d"
    let actionTwice := "\x7b\"action\":\"x\",\"action\":\"y\"\x7d"
    ofJson fieldTwice = .ok ⟨"x", [("b", .ofNat 2)]⟩ ∧
      ofJson actionTwice = .ok ⟨"y", []⟩ ∧
      ofFlatJson actionTwice ≠ .ok ⟨"y", []⟩ := by
  intro fieldTwice actionTwice
  have hflat : ofFlatJson fieldTwice = .ok ⟨"x", [("b", .ofNat 2)]⟩ := by decide +kernel
  have hread : (ofJson actionTwice).toOption = some ⟨"y", []⟩ := by decide +kernel
  have hjson : ofJson actionTwice = .ok ⟨"y", []⟩ := by
    cases hresult : ofJson actionTwice with
    | error error => simp [hresult, Except.toOption] at hread
    | ok envelope => simpa [hresult, Except.toOption] using hread
  have hlisting : listing actionTwice = .ok [("action", .text "x"), ("action", .text "y")] := by
    decide +kernel
  refine ⟨(flat_reading_agrees fieldTwice).1 _ hflat, hjson, fun hsame => ?_⟩
  obtain ⟨listed, htaken, honce⟩ := ((flat_reading_agrees actionTwice).2.1 _ hjson).1 hsame
  rw [hlisting] at htaken
  cases htaken
  exact absurd honce (by decide)

end Lifeline.Envelope
