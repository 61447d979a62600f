import Lifeline.Decimal.Binary64
import Lifeline.Table

/-!
# Json values

A number is a whole number that fits in sixty-four bits, signed or unsigned, or
a double.  An object is a list of entries; the reader and every operation of
this library build it as a table, which `Value.Canonical` states for a whole
tree.
-/

namespace Lifeline.Json

/-- The whole numbers that are kept exactly. -/
def Fits (n : Int) : Prop := -9223372036854775808 ≤ n ∧ n < 18446744073709551616

instance (n : Int) : Decidable (Fits n) := inferInstanceAs (Decidable (_ ∧ _))

inductive Number
  | whole (value : Int) (fits : Fits value)
  | float (value : Binary64)
  deriving DecidableEq

inductive Value
  | null
  | boolean (value : Bool)
  | number (value : Number)
  | text (value : String)
  | array (items : List Value)
  | object (entries : List (String × Value))
  deriving Inhabited

abbrev Object := Table Value

namespace Value

/-- The number of a count below two to the sixty-fourth; larger counts wrap. -/
def ofNat (n : Nat) : Value :=
  .number (.whole (n % 18446744073709551616 : Nat) (by constructor <;> omega))

def whole? (n : Int) : Option Value :=
  if fits : Fits n then some (.number (.whole n fits)) else none

mutual

/-- Equality of values, decided entry by entry. -/
def same : Value → Value → Bool
  | .null, .null => true
  | .boolean a, .boolean b => a == b
  | .number a, .number b => a == b
  | .text a, .text b => a == b
  | .array as, .array bs => sameItems as bs
  | .object as, .object bs => sameEntries as bs
  | _, _ => false
termination_by structural value => value

def sameItems : List Value → List Value → Bool
  | [], [] => true
  | a :: as, b :: bs => same a b && sameItems as bs
  | _, _ => false
termination_by structural items => items

def sameEntries : List (String × Value) → List (String × Value) → Bool
  | [], [] => true
  | (k, a) :: as, (l, b) :: bs => k == l && same a b && sameEntries as bs
  | _, _ => false
termination_by structural entries => entries

end

instance : BEq Value := ⟨same⟩

mutual

theorem same_iff : ∀ a b : Value, same a b = true ↔ a = b
  | .null, b => by cases b <;> simp [same]
  | .boolean a, b => by cases b <;> simp [same]
  | .number a, b => by cases b <;> simp [same]
  | .text a, b => by cases b <;> simp [same]
  | .array as, b => by
      cases b <;> simp [same]
      exact sameItems_iff as _
  | .object as, b => by
      cases b <;> simp [same]
      exact sameEntries_iff as _

theorem sameItems_iff : ∀ as bs : List Value, sameItems as bs = true ↔ as = bs
  | [], bs => by cases bs <;> simp [sameItems]
  | a :: as, [] => by simp [sameItems]
  | a :: as, b :: bs => by simp [sameItems, same_iff a b, sameItems_iff as bs]

theorem sameEntries_iff : ∀ as bs : List (String × Value), sameEntries as bs = true ↔ as = bs
  | [], bs => by cases bs <;> simp [sameEntries]
  | (k, a) :: as, [] => by simp [sameEntries]
  | (k, a) :: as, (l, b) :: bs => by
      simp [sameEntries, same_iff a b, sameEntries_iff as bs]

end

instance : DecidableEq Value := fun a b =>
  if same_ab : same a b = true then .isTrue ((same_iff a b).1 same_ab)
  else .isFalse fun equal => same_ab ((same_iff a b).2 equal)

mutual

/-- Every object in the tree is a table. -/
def Canonical : Value → Prop
  | .array items => CanonicalItems items
  | .object entries => Table.Sorted entries ∧ CanonicalEntries entries
  | _ => True
termination_by structural value => value

def CanonicalItems : List Value → Prop
  | [] => True
  | item :: rest => Canonical item ∧ CanonicalItems rest
termination_by structural items => items

def CanonicalEntries : List (String × Value) → Prop
  | [] => True
  | (_, value) :: rest => Canonical value ∧ CanonicalEntries rest
termination_by structural entries => entries

end

mutual

/-- How many arrays and objects lie around the innermost value. -/
def depth : Value → Nat
  | .array items => depthItems items + 1
  | .object entries => depthEntries entries + 1
  | _ => 0
termination_by structural value => value

def depthItems : List Value → Nat
  | [] => 0
  | item :: rest => max (depth item) (depthItems rest)
termination_by structural items => items

def depthEntries : List (String × Value) → Nat
  | [] => 0
  | (_, value) :: rest => max (depth value) (depthEntries rest)
termination_by structural entries => entries

end

mutual

/-- No number in the tree is a double. -/
def Exact : Value → Prop
  | .number (.float _) => False
  | .array items => ExactItems items
  | .object entries => ExactEntries entries
  | _ => True
termination_by structural value => value

def ExactItems : List Value → Prop
  | [] => True
  | item :: rest => Exact item ∧ ExactItems rest
termination_by structural items => items

def ExactEntries : List (String × Value) → Prop
  | [] => True
  | (_, value) :: rest => Exact value ∧ ExactEntries rest
termination_by structural entries => entries

end

/-! ## Trees by their parts -/

@[simp]
theorem canonicalItems_iff {items : List Value} :
    CanonicalItems items ↔ ∀ item ∈ items, Canonical item := by
  induction items with
  | nil => simp [CanonicalItems]
  | cons item rest ih => simp [CanonicalItems, ih]

@[simp]
theorem canonicalEntries_iff {entries : List (String × Value)} :
    CanonicalEntries entries ↔ ∀ entry ∈ entries, Canonical entry.2 := by
  induction entries with
  | nil => simp [CanonicalEntries]
  | cons entry rest ih => simp [CanonicalEntries, ih]

@[simp]
theorem depthItems_le_iff {items : List Value} {levels : Nat} :
    depthItems items ≤ levels ↔ ∀ item ∈ items, depth item ≤ levels := by
  induction items with
  | nil => simp [depthItems]
  | cons item rest ih => simp only [depthItems, Nat.max_le, ih, List.forall_mem_cons]

@[simp]
theorem depthEntries_le_iff {entries : List (String × Value)} {levels : Nat} :
    depthEntries entries ≤ levels ↔ ∀ entry ∈ entries, depth entry.2 ≤ levels := by
  induction entries with
  | nil => simp [depthEntries]
  | cons entry rest ih => simp only [depthEntries, Nat.max_le, ih, List.forall_mem_cons]

@[simp]
theorem exactItems_iff {items : List Value} :
    ExactItems items ↔ ∀ item ∈ items, Exact item := by
  induction items with
  | nil => simp [ExactItems]
  | cons item rest ih => simp [ExactItems, ih]

@[simp]
theorem exactEntries_iff {entries : List (String × Value)} :
    ExactEntries entries ↔ ∀ entry ∈ entries, Exact entry.2 := by
  induction entries with
  | nil => simp [ExactEntries]
  | cons entry rest ih => simp [ExactEntries, ih]

end Value

end Lifeline.Json
