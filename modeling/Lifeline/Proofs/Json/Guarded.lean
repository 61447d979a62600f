import Lifeline.Proofs.Json.Records
import Mathlib.Data.List.Forall2

/-!
# Readers with a guard

A reader is guarded by a test if it takes what another reader takes and the test
passes (`Guards`).  One guarded scalar in a record guards the record, as it does
every record around that: a draft is kept as long as each value passes, and one
entry more keeps it exactly if the new value passes as well (`Keeps`).  So it does
not matter that values are tested while the entries are read and not afterwards
(`guards_readRecord`).
-/

namespace Lifeline.Json

/-- The strict reader takes what the lax one takes, as long as the value passes. -/
def Guards {α : Type} (passes : α → Prop) (strict lax : Reader α) : Prop :=
  ∀ text value rest, strict text = .ok (value, rest) ↔ lax text = .ok (value, rest) ∧ passes value

theorem guards_self {α : Type} (reader : Reader α) : Guards (fun _ => True) reader reader :=
  fun text value rest => by rw [and_true]

theorem Guards.readAll {α : Type} {passes : α → Prop} {strict lax : Reader α}
    (hguards : Guards passes strict lax) {text : List Char} {value : α} :
    Json.readAll strict text = .ok value ↔ Json.readAll lax text = .ok value ∧ passes value := by
  rw [readAll_eq_ok_iff, readAll_eq_ok_iff]
  constructor
  · rintro ⟨rest, hread, hend⟩
    obtain ⟨hlax, hpasses⟩ := (hguards _ _ _).1 hread
    exact ⟨⟨rest, hlax, hend⟩, hpasses⟩
  · rintro ⟨⟨rest, hlax, hend⟩, hpasses⟩
    exact ⟨rest, (hguards _ _ _).2 ⟨hlax, hpasses⟩, hend⟩

/-- A scalar that refuses zero. -/
def Scalar.nonzero (name : String) (scalar : Scalar Nat) : Scalar Nat :=
  fun found => match scalar found with
    | .ok 0 => .error (.wrongValue found ("a nonzero " ++ name))
    | result => result

theorem guards_nonzero (name : String) (scalar : Scalar Nat) :
    Guards (· ≠ 0) (readScalar (scalar.nonzero name)) (readScalar scalar) := by
  intro text value rest
  have hscalar (found : Found) :
      scalar.nonzero name found = .ok value ↔ scalar found = .ok value ∧ value ≠ 0 := by
    unfold Scalar.nonzero
    split
    · next hzero => simp [hzero, eq_comm]
    · next hresult =>
        have hnonzero : scalar found ≠ .ok 0 := fun hzero => hresult hzero
        constructor
        · intro hvalue
          refine ⟨hvalue, ?_⟩
          rintro rfl
          exact hnonzero hvalue
        · exact And.left
  simp only [readScalar_eq_ok_iff, hscalar, ← and_assoc, exists_and_right]

/-! ## Drafts -/

section

variable {Draft α : Type} {kept : Draft → Prop}

/-- From a draft that is kept the strict reader goes where the lax one goes, as long as the draft
is kept there too. -/
def Keeps (kept : Draft → Prop) (draft : Draft) (strict lax : Reader Draft) : Prop :=
  ∀ text next rest, kept draft ∧ strict text = .ok (next, rest) ↔
    lax text = .ok (next, rest) ∧ kept next

/-- A reader that leaves the draft as it is. -/
theorem keeps_unchanged {draft : Draft} {reader : Reader Draft}
    (hsame : ∀ text next rest, reader text = .ok (next, rest) → next = draft) :
    Keeps kept draft reader reader := by
  intro text next rest
  constructor
  · rintro ⟨hkept, hread⟩
    obtain rfl := hsame text next rest hread
    exact ⟨hread, hkept⟩
  · rintro ⟨hread, hkept⟩
    obtain rfl := hsame text next rest hread
    exact ⟨hkept, hread⟩

theorem keeps_readEntries {strict lax : Draft → String → Reader Draft}
    (hstep : ∀ draft key, Keeps kept draft (strict draft key) (lax draft key))
    (first : Bool) (fuel : Nat) (draft : Draft) :
    Keeps kept draft (readEntries strict first fuel draft) (readEntries lax first fuel draft) := by
  induction fuel generalizing first draft with
  | zero => simp [Keeps, readEntries]
  | succ fuel ih =>
      intro text last rest
      rw [readEntries_succ_iff, readEntries_succ_iff]
      constructor
      · rintro ⟨hkept, ⟨hkey, rfl⟩ | ⟨key, start, next, after, hkey, hentry, hlater⟩⟩
        · exact ⟨.inl ⟨hkey, rfl⟩, hkept⟩
        · obtain ⟨hlax, hnext⟩ := (hstep _ _ _ _ _).1 ⟨hkept, hentry⟩
          obtain ⟨hlater, hlast⟩ := (ih _ _ _ _ _).1 ⟨hnext, hlater⟩
          exact ⟨.inr ⟨key, start, next, after, hkey, hlax, hlater⟩, hlast⟩
      · rintro ⟨⟨hkey, rfl⟩ | ⟨key, start, next, after, hkey, hentry, hlater⟩, hlast⟩
        · exact ⟨hlast, .inl ⟨hkey, rfl⟩⟩
        · obtain ⟨hnext, hlater⟩ := (ih _ _ _ _ _).2 ⟨hlater, hlast⟩
          obtain ⟨hkept, hstrict⟩ := (hstep _ _ _ _ _).2 ⟨hentry, hnext⟩
          exact ⟨hkept, .inr ⟨key, start, next, after, hkey, hstrict, hlater⟩⟩

/-! ## Records -/

/-- The strict field reads what the lax one does, except that it keeps the draft. -/
structure Field.Guards (kept : Draft → Prop) (strict lax : Field Reader Draft) : Prop where
  name_eq : strict.name = lax.name
  isSet_eq : strict.isSet = lax.isSet
  keeps : ∀ draft, lax.isSet draft = false → Keeps kept draft (strict.read draft) (lax.read draft)

/-- One field leaves another one unset. -/
def Field.Spares (field other : Field Reader Draft) : Prop :=
  ∀ draft text next rest, field.read draft text = .ok (next, rest) →
    other.isSet next = other.isSet draft

/-- Records that differ in their fields only, which are guarded one by one. -/
structure Record.Guards (kept : Draft → Prop) (passes : α → Prop)
    (strict lax : Record Reader Draft α) : Prop where
  closed_eq : strict.closed = lax.closed
  blank_eq : strict.blank = lax.blank
  finish_eq : strict.finish = lax.finish
  fields : List.Forall₂ (Field.Guards kept) strict.fields lax.fields
  spare : lax.fields.Pairwise Field.Spares
  unset : ∀ field ∈ lax.fields, field.isSet lax.blank = false
  kept_blank : kept lax.blank
  passes_iff : ∀ draft value, lax.finish draft = .ok value → (kept draft ↔ passes value)

theorem Field.guards_ofReader {β : Type} {passes : β → Prop} {get : Draft → Option β}
    {set : Draft → β → Draft} {strict lax : Reader β} {name : String}
    (hguards : Json.Guards passes strict lax)
    (hkept : ∀ draft value, get draft = none →
      (kept (set draft value) ↔ kept draft ∧ passes value)) :
    Field.Guards kept (.ofReader name get set strict) (.ofReader name get set lax) := by
  refine ⟨rfl, rfl, ?_⟩
  intro draft hunset text next rest
  have hnone : get draft = none := Option.isNone_iff_eq_none.1 (by simpa [ofReader] using hunset)
  constructor
  · rintro ⟨hdraft, hread⟩
    obtain ⟨⟨value, afterValue⟩, hvalue, hread⟩ := bind_eq_ok.1 hread
    cases hread
    obtain ⟨hlax, hpasses⟩ := (hguards _ _ _).1 hvalue
    exact ⟨bind_eq_ok.2 ⟨_, hlax, rfl⟩, (hkept draft value hnone).2 ⟨hdraft, hpasses⟩⟩
  · rintro ⟨hread, hnext⟩
    obtain ⟨⟨value, afterValue⟩, hvalue, hread⟩ := bind_eq_ok.1 hread
    cases hread
    obtain ⟨hdraft, hpasses⟩ := (hkept draft value hnone).1 hnext
    exact ⟨hdraft, bind_eq_ok.2 ⟨_, (hguards _ _ _).2 ⟨hvalue, hpasses⟩, rfl⟩⟩

theorem Field.spares_ofReader {β : Type} {get : Draft → Option β} {set : Draft → β → Draft}
    {reader : Reader β} {name : String} {other : Field Reader Draft}
    (hset : ∀ draft value, other.isSet (set draft value) = other.isSet draft) :
    (Field.ofReader name get set reader).Spares other := by
  intro draft text next rest hread
  obtain ⟨⟨value, afterValue⟩, -, hread⟩ := bind_eq_ok.1 hread
  cases hread
  exact hset draft value

/-- The next field takes the next item, unless the list is at its end. -/
theorem readFieldsInOrder_cons_iff {field : Field Reader Draft} {others : List (Field Reader Draft)}
    {first : Bool} {draft last : Draft} {text rest : List Char} :
    readFieldsInOrder first (field :: others) draft text = .ok (last, rest) ↔
      (nextItem first text = .ok (false, rest) ∧ draft = last) ∨
      ∃ start next after, nextItem first text = .ok (true, start) ∧
        field.read draft start = .ok (next, after) ∧
        readFieldsInOrder false others next after = .ok (last, rest) := by
  rw [readFieldsInOrder, bind_eq_ok]
  constructor
  · rintro ⟨⟨more, start⟩, hmore, hread⟩
    cases more with
    | false =>
        cases hread
        exact .inl ⟨hmore, rfl⟩
    | true =>
        obtain ⟨⟨next, after⟩, hitem, hlater⟩ := bind_eq_ok.1 hread
        exact .inr ⟨start, next, after, hmore, hitem, hlater⟩
  · rintro (⟨hmore, rfl⟩ | ⟨start, next, after, hmore, hitem, hlater⟩)
    · exact ⟨_, hmore, rfl⟩
    · exact ⟨_, hmore, bind_eq_ok.2 ⟨_, hitem, hlater⟩⟩

theorem keeps_readFieldsInOrder {strict lax : List (Field Reader Draft)}
    (hfields : List.Forall₂ (Field.Guards kept) strict lax) (hspare : lax.Pairwise Field.Spares)
    (first : Bool) {draft : Draft} (hunset : ∀ field ∈ lax, field.isSet draft = false) :
    Keeps kept draft (readFieldsInOrder first strict draft)
      (readFieldsInOrder first lax draft) := by
  induction hfields generalizing first draft with
  | nil =>
      apply keeps_unchanged
      intro text next rest hread
      cases hread
      rfl
  | @cons strict lax stricts laxes hfield _ ih =>
      intro text last rest
      obtain ⟨hfirst, hothers⟩ := List.pairwise_cons.1 hspare
      obtain ⟨hfree, hunsetLater⟩ := List.forall_mem_cons.1 hunset
      -- a field that has been read leaves the later ones unset, so that each is guarded in its turn
      have hunsetNext {start after : List Char} {next : Draft}
          (hitem : lax.read draft start = .ok (next, after)) :
          ∀ other ∈ laxes, other.isSet next = false := fun other member =>
        (hfirst other member draft start next after hitem).trans (hunsetLater other member)
      rw [readFieldsInOrder_cons_iff, readFieldsInOrder_cons_iff]
      constructor
      · rintro ⟨hkept, ⟨hmore, rfl⟩ | ⟨start, next, after, hmore, hitem, hlater⟩⟩
        · exact ⟨.inl ⟨hmore, rfl⟩, hkept⟩
        · obtain ⟨hlax, hnext⟩ := (hfield.keeps draft hfree _ _ _).1 ⟨hkept, hitem⟩
          obtain ⟨hlater, hlast⟩ := (ih hothers false (hunsetNext hlax) _ _ _).1 ⟨hnext, hlater⟩
          exact ⟨.inr ⟨start, next, after, hmore, hlax, hlater⟩, hlast⟩
      · rintro ⟨⟨hmore, rfl⟩ | ⟨start, next, after, hmore, hitem, hlater⟩, hlast⟩
        · exact ⟨hlast, .inl ⟨hmore, rfl⟩⟩
        · obtain ⟨hnext, hlater⟩ := (ih hothers false (hunsetNext hitem) _ _ _).2 ⟨hlater, hlast⟩
          obtain ⟨hkept, hstrict⟩ := (hfield.keeps draft hfree _ _ _).2 ⟨hitem, hnext⟩
          exact ⟨hkept, .inr ⟨start, next, after, hmore, hstrict, hlater⟩⟩

section

variable {passes : α → Prop} {strict lax : Record Reader Draft α}
  (hguards : Record.Guards kept passes strict lax)

include hguards

theorem Record.Guards.field?_rel (key : String) :
    Option.Rel (Field.Guards kept) (strict.field? key) (lax.field? key) := by
  have hfields := hguards.fields
  unfold Record.field?
  generalize strict.fields = stricts, lax.fields = laxes at hfields
  induction hfields with
  | nil => exact .none
  | cons hfield _ ih =>
      rw [List.find?_cons, List.find?_cons, hfield.name_eq]
      split
      · exact .some hfield
      · exact ih

theorem Record.Guards.fieldNames_eq : strict.fieldNames = lax.fieldNames := by
  rw [← List.forall₂_eq_eq_eq, fieldNames, fieldNames, List.forall₂_map_left_iff,
    List.forall₂_map_right_iff]
  exact hguards.fields.imp fun _ _ hfield => hfield.name_eq

theorem keeps_readField (draft : Draft) (key : String) :
    Keeps kept draft (readField strict draft key) (readField lax draft key) := by
  have hrel := hguards.field?_rel key
  generalize hstrict : strict.field? key = strictField, hlax : lax.field? key = laxField at hrel
  cases hrel with
  | none =>
      have hsame : readField strict draft key = readField lax draft key := by
        unfold readField
        rw [hstrict, hlax, hguards.closed_eq, hguards.fieldNames_eq]
      rw [hsame]
      apply keeps_unchanged
      intro text next rest hread
      simp only [readField, hlax] at hread
      split at hread
      · cases hread
      · obtain ⟨afterColon, -, hread⟩ := bind_eq_ok.1 hread
        obtain ⟨afterValue, -, hread⟩ := bind_eq_ok.1 hread
        cases hread
        rfl
  | some hfield =>
      intro text next rest
      simp only [readField, hstrict, hlax, hfield.isSet_eq]
      split
      · simp
      · next hunset =>
          have hkeeps := hfield.keeps draft (by simpa using hunset)
          constructor
          · rintro ⟨hkept, hread⟩
            obtain ⟨afterColon, hcolon, hread⟩ := bind_eq_ok.1 hread
            obtain ⟨hread, hnext⟩ := (hkeeps _ _ _).1 ⟨hkept, hread⟩
            exact ⟨bind_eq_ok.2 ⟨_, hcolon, hread⟩, hnext⟩
          · rintro ⟨hread, hnext⟩
            obtain ⟨afterColon, hcolon, hread⟩ := bind_eq_ok.1 hread
            obtain ⟨hkept, hread⟩ := (hkeeps _ _ _).2 ⟨hread, hnext⟩
            exact ⟨hkept, bind_eq_ok.2 ⟨_, hcolon, hread⟩⟩

/-- Where a draft is kept, the record that completes it passes. -/
theorem Record.Guards.finish_iff {strictDraft laxDraft : Reader Draft}
    (hkeeps : Keeps kept lax.blank strictDraft laxDraft)
    (close : List Char → Except Fault (List Char)) {text rest : List Char} {value : α} :
    (∃ draft after, strictDraft text = .ok (draft, after) ∧ strict.finish draft = .ok value ∧
        close after = .ok rest) ↔
      (∃ draft after, laxDraft text = .ok (draft, after) ∧ lax.finish draft = .ok value ∧
        close after = .ok rest) ∧ passes value := by
  rw [hguards.finish_eq]
  constructor
  · rintro ⟨draft, after, hread, hfinish, hclose⟩
    obtain ⟨hread, hkept⟩ := (hkeeps _ _ _).1 ⟨hguards.kept_blank, hread⟩
    exact ⟨⟨draft, after, hread, hfinish, hclose⟩, (hguards.passes_iff draft value hfinish).1 hkept⟩
  · rintro ⟨⟨draft, after, hread, hfinish, hclose⟩, hpasses⟩
    have hkept := (hguards.passes_iff draft value hfinish).2 hpasses
    exact ⟨draft, after, ((hkeeps _ _ _).2 ⟨hread, hkept⟩).2, hfinish, hclose⟩

/-- A record is guarded as its fields are. -/
theorem guards_readRecord : Guards passes (readRecord strict) (readRecord lax) := by
  intro text value rest
  by_cases hbrace : ∃ after, skipGap text = '{' :: after
  · obtain ⟨after, hbrace⟩ := hbrace
    rw [readRecord_brace_iff hbrace, readRecord_brace_iff hbrace, hguards.blank_eq]
    exact hguards.finish_iff (keeps_readEntries (keeps_readField hguards) _ _ _) _
  by_cases hbracket : ∃ after, skipGap text = '[' :: after
  · obtain ⟨after, hbracket⟩ := hbracket
    rw [readRecord_bracket_iff hbracket, readRecord_bracket_iff hbracket, hguards.blank_eq]
    exact hguards.finish_iff
      (keeps_readFieldsInOrder hguards.fields hguards.spare _ hguards.unset) _
  · have hnever (record : Record Reader Draft α) : readRecord record text ≠ .ok (value, rest) := by
      intro hread
      obtain ⟨after, hbrace' | hbracket'⟩ := opens_of_readRecord hread
      · exact hbrace ⟨after, hbrace'⟩
      · exact hbracket ⟨after, hbracket'⟩
    simp only [hnever, false_and]

end

end

end Lifeline.Json
