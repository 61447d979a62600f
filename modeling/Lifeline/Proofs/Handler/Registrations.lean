import Lifeline.Handler.Basic
import Lifeline.Proofs.Text.Order

/-!
# Registrations

A registry is filled by registrations, one after the other, and a later one for
an action takes the place of an earlier one.  So a look-up finds the handler that
was registered last (`get?_ofList_eq_some_iff`), a registration returns the
handler that was the last until then, and the actions are listed once each, in
the order of their bytes (`sorted_actions`).
-/

namespace Lifeline

namespace Table

variable {α : Type}

/-- A look-up finds the first entry of a key. -/
theorem get?_eq_some_iff {table : Table α} {key : String} {value : α} :
    table.get? key = some value ↔
      ∃ earlier later, table = earlier ++ (key, value) :: later ∧
        ∀ entry ∈ earlier, entry.1 ≠ key := by
  induction table with
  | nil => simp [get?]
  | cons head rest ih =>
      obtain ⟨first, old⟩ := head
      rw [get?]
      constructor
      · intro hfound
        split at hfound
        · next hsame =>
            obtain rfl := Option.some.inj hfound
            exact ⟨[], rest, by rw [hsame, List.nil_append], List.forall_mem_nil _⟩
        · next hdifferent =>
            obtain ⟨earlier, later, rfl, hnone⟩ := ih.1 hfound
            exact ⟨(first, old) :: earlier, later, rfl, List.forall_mem_cons.2 ⟨hdifferent, hnone⟩⟩
      · rintro ⟨earlier, later, hsplit, hnone⟩
        cases earlier with
        | nil =>
            cases hsplit
            exact if_pos rfl
        | cons entry earlier =>
            obtain ⟨rfl, rfl⟩ := List.cons.inj hsplit
            obtain ⟨hdifferent, hnone⟩ := List.forall_mem_cons.1 hnone
            rw [if_neg hdifferent]
            exact ih.2 ⟨earlier, later, rfl, hnone⟩

theorem mem_keys_iff {table : Table α} {key : String} :
    key ∈ table.keys ↔ (table.get? key).isSome = true := by
  induction table with
  | nil => simp [keys, get?]
  | cons head rest ih =>
      rw [keys, List.map_cons, List.mem_cons, ← keys, ih, get?]
      split
      · next hsame => simp [hsame]
      · next hdifferent => simp [Ne.symm hdifferent]

end Table

namespace Registry

variable {H : Type}

/-- The registry after some registrations. -/
def ofList (registrations : List (String × H)) : Registry H :=
  registrations.foldl (fun registry entry => (registry.register entry.1 entry.2).2) .empty

/-- The last of the registrations for an action brought this handler. -/
def IsLast (registrations : List (String × H)) (action : String) (handler : H) : Prop :=
  ∃ earlier later, registrations = earlier ++ (action, handler) :: later ∧
    ∀ entry ∈ later, entry.1 ≠ action

theorem handlers_ofList (registrations : List (String × H)) :
    (ofList registrations).handlers = Table.ofList registrations := by
  suffices ∀ table : Table H,
      (registrations.foldl (fun registry entry => (registry.register entry.1 entry.2).2)
          (⟨table⟩ : Registry H)).handlers =
        registrations.foldl (fun table entry => table.insert entry.1 entry.2) table from
    this []
  induction registrations with
  | nil => exact fun table => rfl
  | cons entry rest ih => exact fun table => ih _

theorem get?_ofList (registrations : List (String × H)) (action : String) :
    (ofList registrations).get? action = Table.get? registrations.reverse action := by
  rw [get?, handlers_ofList, Table.ofList, Table.get?_foldl_insert]
  exact Option.or_none

theorem get?_ofList_eq_some_iff {registrations : List (String × H)} {action : String}
    {handler : H} :
    (ofList registrations).get? action = some handler ↔ IsLast registrations action handler := by
  rw [get?_ofList, Table.get?_eq_some_iff]
  constructor
  · rintro ⟨later, earlier, hsplit, hnone⟩
    refine ⟨earlier.reverse, later.reverse, ?_, fun entry hmember => ?_⟩
    · rw [List.reverse_eq_iff.1 hsplit]
      simp
    · exact hnone entry (List.mem_reverse.1 hmember)
  · rintro ⟨earlier, later, rfl, hnone⟩
    refine ⟨later.reverse, earlier.reverse, by simp, fun entry hmember => ?_⟩
    exact hnone entry (List.mem_reverse.1 hmember)

theorem mem_actions_iff {registry : Registry H} {action : String} :
    action ∈ registry.actions ↔ (registry.get? action).isSome = true :=
  Table.mem_keys_iff

theorem mem_actions_ofList_iff {registrations : List (String × H)} {action : String} :
    action ∈ (ofList registrations).actions ↔ ∃ entry ∈ registrations, entry.1 = action := by
  rw [mem_actions_iff, get?_ofList, ← Table.mem_keys_iff, Table.keys, List.map_reverse,
    List.mem_reverse, List.mem_map]

theorem get?_ofList_eq_none_iff {registrations : List (String × H)} {action : String} :
    (ofList registrations).get? action = none ↔ ∀ entry ∈ registrations, entry.1 ≠ action := by
  rw [← Option.not_isSome_iff_eq_none, ← mem_actions_iff, mem_actions_ofList_iff]
  constructor
  · exact fun hnone entry hmember hsame => hnone ⟨entry, hmember, hsame⟩
  · rintro hnone ⟨entry, hmember, hsame⟩
    exact hnone entry hmember hsame

/-- The actions are listed in the order of their bytes, none of them twice. -/
theorem sorted_actions (registrations : List (String × H)) :
    ((ofList registrations).actions.map Text.bytes).Pairwise (· < ·) := by
  have hsorted : (ofList registrations).actions.Pairwise (· < ·) := by
    rw [actions, handlers_ofList]
    exact Table.sorted_ofList registrations
  exact List.pairwise_map.2 (hsorted.imp Text.bytes_lt_bytes)

/-- What a registry tells of the registrations that filled it. -/
structure Reflects (registry : Registry H) (registrations : List (String × H)) : Prop where
  replaced : ∀ action handler old,
    (registry.register action handler).1 = some old ↔ IsLast registrations action old
  replaces : ∀ action handler,
    (registry.register action handler).1.isSome = true ↔ ∃ entry ∈ registrations, entry.1 = action
  listed : ∀ action, action ∈ registry.actions ↔ ∃ entry ∈ registrations, entry.1 = action
  ordered : (registry.actions.map Text.bytes).Pairwise (· < ·)

theorem reflects_ofList (registrations : List (String × H)) :
    (ofList registrations).Reflects registrations where
  replaced := fun _ _ _ => get?_ofList_eq_some_iff
  replaces := fun _ _ => mem_actions_iff.symm.trans mem_actions_ofList_iff
  listed := fun _ => mem_actions_ofList_iff
  ordered := sorted_actions registrations

end Registry

end Lifeline
