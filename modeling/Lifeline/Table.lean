/-!
# Tables ordered by key

A table is a list of entries whose keys increase strictly in the order of their
code points, which is also the order of their UTF-8 bytes.  The operations keep
that order (`Sorted.insert`, `Sorted.erase`, `sorted_ofList`), and each is
described by what it does to a look-up (`get?_insert`, `get?_erase`).  Two sorted
tables with the same look-ups are equal (`Sorted.eq_of_get?_eq`), so the entries
of a table are its canonical form.
-/

namespace Lifeline

abbrev Table (α : Type) := List (String × α)

namespace Table

variable {α : Type}

def get? (table : Table α) (key : String) : Option α :=
  match table with
  | [] => none
  | (k, value) :: rest => if k = key then some value else get? rest key

/-- Adds an entry, or replaces the value of the entry that has the key. -/
def insert (table : Table α) (key : String) (value : α) : Table α :=
  match table with
  | [] => [(key, value)]
  | (k, old) :: rest =>
      if key < k then (key, value) :: (k, old) :: rest
      else if key = k then (key, value) :: rest
      else (k, old) :: insert rest key value

def erase (table : Table α) (key : String) : Table α :=
  match table with
  | [] => []
  | (k, value) :: rest => if k = key then rest else (k, value) :: erase rest key

def keys (table : Table α) : List String := table.map Prod.fst

def contains (table : Table α) (key : String) : Bool := (table.get? key).isSome

/-- Later entries replace earlier ones with the same key. -/
def ofList (entries : List (String × α)) : Table α :=
  entries.foldl (fun table entry => table.insert entry.1 entry.2) []

/-- Every key is smaller than the keys after it. -/
def Sorted (table : Table α) : Prop := table.keys.Pairwise (· < ·)

instance (table : Table α) : Decidable (Sorted table) :=
  inferInstanceAs (Decidable (table.keys.Pairwise (· < ·)))

/-- Adding an entry changes the look-up of its key and no other. -/
theorem get?_insert (table : Table α) (key : String) (value : α) (sought : String) :
    (table.insert key value).get? sought =
      if sought = key then some value else table.get? sought := by
  induction table with
  | nil => grind [insert, get?]
  | cons entry rest ih => grind [insert, get?]

theorem mem_insert {table : Table α} {key : String} {value : α} {entry : String × α}
    (member : entry ∈ table.insert key value) : entry = (key, value) ∨ entry ∈ table := by
  induction table with
  | nil => simpa [insert] using member
  | cons head rest ih => grind [insert]

theorem mem_erase {table : Table α} {key : String} {entry : String × α}
    (member : entry ∈ table.erase key) : entry ∈ table := by
  induction table with
  | nil => simp [erase] at member
  | cons head rest ih => grind [erase]

theorem forall_insert {table : Table α} {property : α → Prop} {value : α} (hvalue : property value)
    (htable : ∀ entry ∈ table, property entry.2) (key : String) :
    ∀ entry ∈ table.insert key value, property entry.2 := by
  intro entry member
  rcases mem_insert member with rfl | member
  · exact hvalue
  · exact htable entry member

/-- Where a key has no entry there is none to erase. -/
theorem erase_of_get?_eq_none {table : Table α} {key : String} (absent : table.get? key = none) :
    table.erase key = table := by
  induction table with
  | nil => rfl
  | cons head rest ih => grind [get?, erase]

theorem sorted_nil : Sorted ([] : Table α) := List.Pairwise.nil

theorem sorted_cons {entry : String × α} {rest : Table α} :
    Sorted (entry :: rest) ↔ (∀ other ∈ rest, entry.1 < other.1) ∧ Sorted rest := by
  simp [Sorted, keys]

theorem Sorted.insert {table : Table α} (sorted : Sorted table) (key : String) (value : α) :
    Sorted (table.insert key value) := by
  induction table with
  | nil => simp [Table.insert, Sorted, keys]
  | cons head rest ih =>
      obtain ⟨first, old⟩ := head
      obtain ⟨below, sorted⟩ := sorted_cons.1 sorted
      unfold Table.insert
      split
      · next less =>
          refine sorted_cons.2 ⟨fun other member => ?_, sorted_cons.2 ⟨below, sorted⟩⟩
          rcases List.mem_cons.1 member with rfl | member
          · exact less
          · exact String.lt_trans less (below other member)
      · next notLess =>
          split
          · next equal => exact sorted_cons.2 ⟨equal ▸ below, sorted⟩
          · next different =>
              refine sorted_cons.2 ⟨fun other member => ?_, ih sorted⟩
              rcases mem_insert member with rfl | member
              · exact Std.lt_of_le_of_ne (String.not_lt.1 notLess) (Ne.symm different)
              · exact below other member

theorem Sorted.erase {table : Table α} (sorted : Sorted table) (key : String) :
    Sorted (table.erase key) := by
  induction table with
  | nil => exact sorted
  | cons head rest ih =>
      obtain ⟨below, sorted⟩ := sorted_cons.1 sorted
      unfold Table.erase
      split
      · exact sorted
      · exact sorted_cons.2 ⟨fun other member => below other (mem_erase member), ih sorted⟩

theorem get?_eq_none {table : Table α} {key : String} (absent : ∀ entry ∈ table, key ≠ entry.1) :
    table.get? key = none := by
  induction table with
  | nil => rfl
  | cons head rest ih => grind [get?]

/-- Erasing an entry changes the look-up of its key and no other. -/
theorem get?_erase {table : Table α} (sorted : Sorted table) (key sought : String) :
    (table.erase key).get? sought = if sought = key then none else table.get? sought := by
  induction table with
  | nil => simp [erase, get?]
  | cons head rest ih =>
      obtain ⟨below, sorted⟩ := sorted_cons.1 sorted
      have absent : Table.get? rest head.1 = none := get?_eq_none fun other member equal =>
        String.lt_irrefl _ (equal ▸ below other member)
      grind [erase, get?]

theorem sorted_ofList (entries : List (String × α)) : Sorted (ofList entries) := by
  suffices ∀ table : Table α, Sorted table →
      Sorted (entries.foldl (fun table entry => table.insert entry.1 entry.2) table) from
    this [] sorted_nil
  induction entries with
  | nil => exact fun table sorted => sorted
  | cons entry rest ih => exact fun table sorted => ih _ (sorted.insert entry.1 entry.2)

theorem Sorted.get?_eq_none_of_le {key first : String} {value : α} {rest : Table α}
    (sorted : Sorted ((first, value) :: rest)) (below : key ≤ first) : get? rest key = none :=
  get?_eq_none fun _ member equal =>
    String.not_lt.2 below (equal ▸ (sorted_cons.1 sorted).1 _ member)

/-- A sorted table is determined by its look-ups. -/
theorem Sorted.eq_of_get?_eq {left right : Table α} (hleft : Sorted left) (hright : Sorted right)
    (same : ∀ key, left.get? key = right.get? key) : left = right := by
  induction left generalizing right with
  | nil =>
      cases right with
      | nil => rfl
      | cons head rest => simpa [get?] using same head.1
  | cons head rest ih =>
      obtain ⟨key, value⟩ := head
      cases right with
      | nil => simpa [get?] using same key
      | cons other others =>
          obtain ⟨otherKey, otherValue⟩ := other
          have hkeys : key = otherKey := by
            rcases Std.lt_trichotomy key otherKey with less | equal | greater
            · have absent := hright.get?_eq_none_of_le (String.not_lt.1 (String.lt_asymm less))
              have found := same key
              grind [get?]
            · exact equal
            · have absent := hleft.get?_eq_none_of_le (String.not_lt.1 (String.lt_asymm greater))
              have found := same otherKey
              grind [get?]
          subst hkeys
          have hvalues : value = otherValue := by simpa [get?] using same key
          have hrests : rest = others := by
            refine ih (sorted_cons.1 hleft).2 (sorted_cons.1 hright).2 fun sought => ?_
            by_cases equal : key = sought
            · subst equal
              rw [hleft.get?_eq_none_of_le (String.le_refl key),
                hright.get?_eq_none_of_le (String.le_refl key)]
            · simpa [get?, equal] using same sought
          rw [hvalues, hrests]

/-- Erasing takes back what was added, and what it replaced. -/
theorem Sorted.erase_insert {table : Table α} (sorted : Sorted table) (key : String) (value : α) :
    (table.insert key value).erase key = table.erase key := by
  refine (Sorted.erase (sorted.insert key value) key).eq_of_get?_eq (sorted.erase key) ?_
  intro sought
  rw [get?_erase (sorted.insert key value), get?_erase sorted, get?_insert]
  split <;> rfl

theorem Sorted.erase_insert_of_ne {table : Table α} (sorted : Sorted table) {key other : String}
    (different : key ≠ other) (value : α) :
    (table.insert key value).erase other = (table.erase other).insert key value := by
  apply Sorted.eq_of_get?_eq ((sorted.insert key value).erase other)
    ((sorted.erase other).insert key value)
  intro sought
  rw [get?_erase (sorted.insert key value), get?_insert, get?_insert, get?_erase sorted]
  grind

/-- Adding puts back what was erased. -/
theorem Sorted.insert_erase {table : Table α} (sorted : Sorted table) {key : String} {value : α}
    (found : table.get? key = some value) : (table.erase key).insert key value = table := by
  apply Sorted.eq_of_get?_eq ((sorted.erase key).insert key value) sorted
  intro sought
  rw [get?_insert, get?_erase sorted]
  split
  · next equal => rw [equal, found]
  · rfl

/-- An entry that is there already changes nothing. -/
theorem Sorted.insert_of_get?_eq_some {table : Table α} (sorted : Sorted table) {key : String}
    {value : α} (found : table.get? key = some value) : table.insert key value = table := by
  apply (sorted.insert key value).eq_of_get?_eq sorted
  intro sought
  rw [get?_insert]
  split
  · next equal => rw [equal, found]
  · rfl

/-- An entry beyond all others is added at the end. -/
theorem insert_of_forall_lt {table : Table α} {key : String} (value : α)
    (beyond : ∀ entry ∈ table, entry.1 < key) :
    table.insert key value = table ++ [(key, value)] := by
  induction table with
  | nil => rfl
  | cons head rest ih =>
      have hless : head.1 < key := beyond head List.mem_cons_self
      have hdifferent : key ≠ head.1 := fun equal => String.lt_irrefl key (equal ▸ hless)
      have hrest := ih fun entry member => beyond entry (List.mem_cons_of_mem _ member)
      rw [insert, if_neg (String.lt_asymm hless), if_neg hdifferent, hrest]
      rfl

theorem get?_append (earlier later : List (String × α)) (key : String) :
    get? (earlier ++ later) key = (get? earlier key).or (get? later key) := by
  induction earlier with
  | nil => rfl
  | cons head rest ih => grind [get?]

/-- Where entries are stored one by one, the last entry of a key is found. -/
theorem get?_foldl_insert (entries : List (String × α)) (table : Table α) (key : String) :
    get? (entries.foldl (fun table entry => table.insert entry.1 entry.2) table) key =
      (get? entries.reverse key).or (table.get? key) := by
  induction entries generalizing table with
  | nil => rfl
  | cons entry rest ih =>
      rw [List.foldl_cons, ih, List.reverse_cons, get?_append, get?_insert]
      grind [get?]

/-- Storing the entries of a table one by one gives the table. -/
theorem Sorted.ofList_eq {table : Table α} (sorted : Sorted table) : ofList table = table := by
  suffices ∀ rest earlier : Table α, Sorted (earlier ++ rest) →
      rest.foldl (fun table entry => table.insert entry.1 entry.2) earlier = earlier ++ rest from
    this table [] sorted
  intro rest
  induction rest with
  | nil => exact fun earlier _ => (List.append_nil earlier).symm
  | cons entry rest ih =>
      intro earlier sorted
      have hbeyond : ∀ other ∈ earlier, other.1 < entry.1 := fun other member => by
        have hpairs := List.pairwise_append.1 (List.pairwise_map.1 sorted)
        exact hpairs.2.2 other member entry List.mem_cons_self
      rw [List.foldl_cons, insert_of_forall_lt entry.2 hbeyond, ih _ (by simpa using sorted)]
      simp

theorem Sorted.get?_reverse {table : Table α} (sorted : Sorted table) (key : String) :
    get? table.reverse key = table.get? key := by
  have hstored := get?_foldl_insert table [] key
  rw [show get? ([] : Table α) key = none from rfl, Option.or_none] at hstored
  rw [← hstored]
  exact congrArg (get? · key) sorted.ofList_eq

/-- An entry stored ahead of a table stays only where the table has none for its key. -/
theorem Sorted.ofList_cons {table : Table α} (sorted : Sorted table) (key : String) (value : α) :
    ofList ((key, value) :: table) =
      if table.contains key then table else table.insert key value := by
  have hsorted : Sorted (if table.contains key then table else table.insert key value) := by
    split
    · exact sorted
    · exact sorted.insert key value
  apply (sorted_ofList _).eq_of_get?_eq hsorted
  intro sought
  rw [ofList, List.foldl_cons, get?_foldl_insert, sorted.get?_reverse]
  cases hfound : table.get? key <;> grind [get?_insert, get?, contains]

/-- Replacing a value leaves the entries before and after it. -/
theorem Sorted.exists_split {table : Table α} (sorted : Sorted table) {key : String} {value : α}
    (found : table.get? key = some value) :
    ∃ earlier later, table = earlier ++ (key, value) :: later ∧
      ∀ other, table.insert key other = earlier ++ (key, other) :: later := by
  induction table with
  | nil => simp [get?] at found
  | cons head rest ih =>
      obtain ⟨first, old⟩ := head
      by_cases equal : first = key
      · subst equal
        simp only [get?, if_true, Option.some.injEq] at found
        subst found
        refine ⟨[], rest, rfl, fun other => ?_⟩
        simp [Table.insert]
      · simp only [get?, if_neg equal] at found
        obtain ⟨earlier, later, hrest, hinsert⟩ := ih (sorted_cons.1 sorted).2 found
        have hless : first < key := by
          apply (sorted_cons.1 sorted).1 (key, value)
          rw [hrest]
          exact List.mem_append_right earlier List.mem_cons_self
        refine ⟨(first, old) :: earlier, later, by rw [hrest, List.cons_append], fun other => ?_⟩
        rw [Table.insert, if_neg (String.lt_asymm hless), if_neg (Ne.symm equal), hinsert,
          List.cons_append]

end Table

end Lifeline
