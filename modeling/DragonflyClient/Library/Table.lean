import Mathlib.Algebra.GroupWithZero.Nat
import Mathlib.Data.List.AList

/-!
Finite tables: association lists whose type carries the distinctness of the
keys.  Lookups after an update are stated by cases on the key, the form in
which the invariant proofs consume them.
-/

namespace DragonflyClient.Library

abbrev Table (Key Value : Type) := AList fun _ : Key => Value

namespace Table

variable {Key Value : Type} [DecidableEq Key]

theorem lookup_insert_eq (table : Table Key Value) (key other : Key) (value : Value) :
    (table.insert key value).lookup other =
      if other = key then some value else table.lookup other := by
  split
  next same =>
    subst same
    exact AList.lookup_insert table
  next different => exact AList.lookup_insert_ne different

theorem lookup_erase_eq (table : Table Key Value) (key other : Key) :
    (table.erase key).lookup other = if other = key then none else table.lookup other := by
  split
  next same =>
    subst same
    exact AList.lookup_erase _ table
  next different => exact AList.lookup_erase_ne different

variable {table : Table Key Value}

theorem mem_iff_lookup {key} : key ∈ table ↔ ∃ value, table.lookup key = some value := by
  rw [← AList.lookup_isSome, Option.isSome_iff_exists]

/-- Some entry satisfies a predicate: the `values().any(..)` of a hash map. -/
def anyEntry (table : Table Key Value) (predicate : Key → Value → Bool) : Bool :=
  table.entries.any fun entry => predicate entry.1 entry.2

theorem anyEntry_iff {predicate} :
    anyEntry table predicate = true ↔
      ∃ key value, table.lookup key = some value ∧ predicate key value = true := by
  simp only [anyEntry, List.any_eq_true]
  constructor
  · rintro ⟨⟨key, value⟩, member, holds⟩
    exact ⟨key, value, AList.mem_lookup_iff.mpr member, holds⟩
  · rintro ⟨key, value, found, holds⟩
    exact ⟨⟨key, value⟩, AList.mem_lookup_iff.mp found, holds⟩

theorem anyEntry_eq_false_iff {predicate} :
    anyEntry table predicate = false ↔
      ∀ key value, table.lookup key = some value → predicate key value = false := by
  rw [← Bool.not_eq_true, anyEntry_iff]
  push Not
  simp only [ne_eq, Bool.not_eq_true]

def valueSum (table : Table Key Nat) : Nat :=
  (table.entries.map fun entry => entry.2).sum

theorem sum_kerase (key : Key) (entries : List (Sigma fun _ : Key => Nat)) :
    ((entries.kerase key).map fun entry => entry.2).sum + (entries.dlookup key).getD 0 =
      (entries.map fun entry => entry.2).sum := by
  induction entries with
  | nil => rfl
  | cons entry rest ih =>
    obtain ⟨entryKey, count⟩ := entry
    by_cases same : key = entryKey
    · subst same
      simp [Nat.add_comm]
    · simp [List.kerase_cons_ne, List.dlookup_cons_ne, same, Nat.add_assoc, ih]

theorem valueSum_erase (table : Table Key Nat) (key : Key) :
    valueSum (table.erase key) + (table.lookup key).getD 0 = valueSum table :=
  sum_kerase key table.entries

theorem valueSum_insert (table : Table Key Nat) (key : Key) (count : Nat) :
    valueSum (table.insert key count) + (table.lookup key).getD 0 = valueSum table + count := by
  have erased := sum_kerase key table.entries
  simp only [valueSum, AList.entries_insert, List.map_cons, List.sum_cons, AList.lookup]
  omega

end Table

end DragonflyClient.Library
