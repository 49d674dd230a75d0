import Mathlib.Algebra.GroupWithZero.Nat
import Mathlib.Data.List.Nodup

/-!
The least recently used cache (`cache/lru_cache.rs`) as what it is for: its entries in the order
of their last use.
-/

namespace DragonflyClient.Storage

open List

/-- `LruCache`, as the list of its entries from the most to the least recently used. -/
structure LruCache (Key Value : Type) where
  capacity : Nat
  entries : List (Key × Value)

namespace LruCache

variable {Key Value : Type} [DecidableEq Key]

def new (capacity : Nat) : LruCache Key Value := ⟨capacity, []⟩

def peek (cache : LruCache Key Value) (key : Key) : Option Value :=
  (cache.entries.find? (·.1 = key)).map (·.2)

/-- The entry goes to the front. -/
def get (cache : LruCache Key Value) (key : Key) : Option Value × LruCache Key Value :=
  match cache.peek key with
  | some value =>
    (some value,
      { cache with entries := (key, value) :: cache.entries.filter (·.1 ≠ key) })
  | none => (none, cache)

def contains (cache : LruCache Key Value) (key : Key) : Bool := (cache.peek key).isSome

/-- The entry goes to the front; a full cache loses its last entry for a new key. -/
def put (cache : LruCache Key Value) (key : Key) (value : Value) :
    Option Value × LruCache Key Value :=
  match cache.peek key with
  | some old =>
    (some old, { cache with entries := (key, value) :: cache.entries.filter (·.1 ≠ key) })
  | none =>
    if cache.capacity ≤ cache.entries.length then
      (cache.entries.getLast?.map (·.2),
        { cache with entries := (key, value) :: cache.entries.dropLast })
    else (none, { cache with entries := (key, value) :: cache.entries })

def popLru (cache : LruCache Key Value) : Option (Key × Value) × LruCache Key Value :=
  (cache.entries.getLast?, { cache with entries := cache.entries.dropLast })

def pop (cache : LruCache Key Value) (key : Key) : Option (Key × Value) × LruCache Key Value :=
  (cache.entries.find? (·.1 = key), { cache with entries := cache.entries.filter (·.1 ≠ key) })

/-- A change of a value behind its shared reference. -/
def modify (cache : LruCache Key Value) (key : Key) (change : Value → Value) : LruCache Key Value :=
  { cache with
    entries := cache.entries.map fun entry =>
      if entry.1 = key then (key, change entry.2) else entry }

theorem peek_get (cache : LruCache Key Value) (key other : Key) :
    (cache.get key).2.peek other = cache.peek other := by
  unfold get
  split
  next value found =>
    by_cases same : other = key
    · subst same
      simp [peek, ← found]
    · have passes (entry : Key × Value) :
          (!decide (entry.1 = key) && decide (entry.1 = other)) = decide (entry.1 = other) := by
        by_cases here : entry.1 = other <;> simp [here, same]
      simp [peek, Ne.symm same, find?_filter, passes]
  next => rfl

theorem get_fst (cache : LruCache Key Value) (key : Key) : (cache.get key).1 = cache.peek key := by
  unfold get
  split
  next found => exact found.symm
  next missing => exact missing.symm

theorem peek_modify (cache : LruCache Key Value) (key other : Key) (change : Value → Value) :
    (cache.modify key change).peek other =
      if other = key then (cache.peek key).map change else cache.peek other := by
  simp only [peek, modify]
  induction cache.entries with
  | nil => simp
  | cons entry entries ih =>
    by_cases here : entry.1 = key
    · by_cases same : other = key
      · simp [here, same]
      · simpa [here, same, Ne.symm same] using ih
    · by_cases found : entry.1 = other
      · have different : other ≠ key := found ▸ here
        simp [found, different]
      · simpa [here, found] using ih

section Split

variable {left right entries : List (Key × Value)} {key : Key} {value : Value}

theorem find_absent (absent : ∀ entry ∈ entries, entry.1 ≠ key) :
    entries.find? (·.1 = key) = none :=
  find?_eq_none.mpr (by simpa using absent)

theorem filter_absent (absent : ∀ entry ∈ entries, entry.1 ≠ key) :
    entries.filter (·.1 ≠ key) = entries :=
  filter_eq_self.mpr fun entry listed => decide_eq_true (absent entry listed)

theorem find_append_cons (keys : ((left ++ (key, value) :: right).map (·.1)).Nodup) :
    (left ++ (key, value) :: right).find? (·.1 = key) = some (key, value) := by
  have before : ∀ entry ∈ left, entry.1 ≠ key := by
    rw [map_append, nodup_append] at keys
    exact fun entry listed same =>
      keys.2.2 _ (mem_map_of_mem listed) _ mem_cons_self same
  rw [find?_append, find_absent before, Option.none_or]
  simp

theorem filter_append_cons (keys : ((left ++ (key, value) :: right).map (·.1)).Nodup) :
    (left ++ (key, value) :: right).filter (·.1 ≠ key) = left ++ right := by
  rw [map_append, map_cons, nodup_middle, nodup_cons, mem_append, not_or] at keys
  have others {part : List (Key × Value)} (absent : key ∉ part.map (·.1)) :
      ∀ entry ∈ part, entry.1 ≠ key := by
    rintro entry listed rfl
    exact absent (mem_map_of_mem listed)
  rw [filter_append, filter_cons_of_neg (by simp), filter_absent (others keys.1.1),
    filter_absent (others keys.1.2)]

end Split

def Distinct (cache : LruCache Key Value) : Prop := (cache.entries.map (·.1)).Nodup

section Entries

variable {cache : LruCache Key Value} {key : Key} {value : Value}

theorem find_of_peek (found : cache.peek key = some value) :
    cache.entries.find? (·.1 = key) = some (key, value) := by
  obtain ⟨entry, here, rfl⟩ := Option.map_eq_some_iff.mp found
  have same : entry.1 = key := by simpa using find?_some here
  rw [here, ← same]

theorem mem_of_peek (found : cache.peek key = some value) : (key, value) ∈ cache.entries :=
  mem_of_find?_eq_some (find_of_peek found)

theorem Distinct.perm_cons (distinct : cache.Distinct) (found : cache.peek key = some value) :
    cache.entries.Perm ((key, value) :: cache.entries.filter (·.1 ≠ key)) := by
  obtain ⟨left, right, split⟩ := append_of_mem (mem_of_peek found)
  rw [Distinct, split] at distinct
  rw [split, filter_append_cons distinct]
  exact perm_middle

theorem peek_eq_none (missing : cache.peek key = none) :
    ∀ entry ∈ cache.entries, entry.1 ≠ key := by
  simpa [peek] using missing

theorem Distinct.get_perm (distinct : cache.Distinct) (key : Key) :
    (cache.get key).2.entries.Perm cache.entries := by
  rw [get]
  split
  next found => exact (distinct.perm_cons found).symm
  next => exact .refl _

omit [DecidableEq Key] in
theorem Distinct.of_perm {after : LruCache Key Value} (distinct : cache.Distinct)
    (entries : after.entries.Perm cache.entries) : after.Distinct :=
  (entries.map _).nodup_iff.mpr distinct

theorem Distinct.put (distinct : cache.Distinct) (key : Key) (value : Value) :
    (cache.put key value).2.Distinct := by
  rw [LruCache.put]
  split
  next old found =>
    exact ((distinct.perm_cons found).map Prod.fst).nodup_iff.mp distinct
  next missing =>
    have absent : key ∉ cache.entries.map (·.1) := by
      intro listed
      obtain ⟨entry, here, same⟩ := mem_map.mp listed
      exact peek_eq_none missing entry here same
    have shorter : (cache.entries.dropLast.map (·.1)).Sublist (cache.entries.map (·.1)) :=
      (dropLast_sublist _).map _
    split
    next =>
      exact nodup_cons.mpr
        ⟨fun listed => absent (shorter.subset listed), distinct.sublist shorter⟩
    next => exact nodup_cons.mpr ⟨absent, distinct⟩

theorem Distinct.sum_put (distinct : cache.Distinct) (weight : Value → Nat) (key : Key)
    (value : Value) :
    ((cache.put key value).2.entries.map (weight ·.2)).sum + (cache.put key value).1.elim 0 weight =
      weight value + (cache.entries.map (weight ·.2)).sum := by
  rw [LruCache.put]
  split
  next old found =>
    rw [((distinct.perm_cons found).map (weight ·.2)).sum_nat]
    simp only [map_cons, sum_cons, Option.elim_some]
    omega
  next =>
    split
    next =>
      rcases eq_nil_or_concat' cache.entries with empty | ⟨before, last, entries⟩
      · rw [empty]
        rfl
      · rw [entries, getLast?_concat, dropLast_concat, map_cons, sum_cons,
          map_append, sum_append_nat, Nat.add_assoc]
        rfl
    next => rfl

theorem mem_of_put {lost} (returned : (cache.put key value).1 = some lost) :
    ∃ entry ∈ cache.entries, entry.2 = lost := by
  rw [put] at returned
  split at returned
  next old found =>
    cases returned
    exact ⟨_, mem_of_peek found, rfl⟩
  next =>
    split at returned
    next =>
      obtain ⟨entry, last, rfl⟩ := Option.map_eq_some_iff.mp returned
      exact ⟨entry, mem_of_getLast? last, rfl⟩
    next => cases returned

theorem put_fst_eq_none_iff (room : cache.entries.length < cache.capacity) :
    (cache.put key value).1 = none ↔ cache.peek key = none := by
  rw [put]
  split
  next old found => simp [found]
  next missing => simp [missing, Nat.not_le.mpr room]

theorem mem_put {entry} (listed : entry ∈ (cache.put key value).2.entries) :
    entry = (key, value) ∨ entry ∈ cache.entries := by
  rw [put] at listed
  split at listed
  next =>
    exact (mem_cons.mp listed).imp_right fun other => (mem_filter.mp other).1
  next =>
    split at listed
    next => exact (mem_cons.mp listed).imp_right (dropLast_subset _ ·)
    next => exact mem_cons.mp listed

theorem mem_get {entry} (listed : entry ∈ (cache.get key).2.entries) :
    entry ∈ cache.entries := by
  rw [get] at listed
  split at listed
  next found =>
    rcases mem_cons.mp listed with rfl | other
    · exact mem_of_peek found
    · exact (mem_filter.mp other).1
  next => exact listed

theorem mem_pop {entry} (listed : entry ∈ (cache.pop key).2.entries) :
    entry ∈ cache.entries ∧ entry.1 ≠ key :=
  (mem_filter.mp listed).imp_right of_decide_eq_true

theorem put_capacity (cache : LruCache Key Value) (key : Key) (value : Value) :
    (cache.put key value).2.capacity = cache.capacity := by
  rw [put]
  split
  next => rfl
  next => split <;> rfl

theorem get_capacity (cache : LruCache Key Value) (key : Key) :
    (cache.get key).2.capacity = cache.capacity := by
  rw [get]
  split <;> rfl

theorem keys_modify (cache : LruCache Key Value) (key : Key) (change : Value → Value) :
    (cache.modify key change).entries.map (·.1) = cache.entries.map (·.1) := by
  rw [modify, map_map]
  refine map_congr_left fun entry _ => ?_
  by_cases same : entry.1 = key <;> simp [same]

end Entries

inductive Call (Key Value : Type) where
  | get (key : Key)
  | put (key : Key) (value : Value)
  | peek (key : Key)
  | contains (key : Key)
  | popLru
  | pop (key : Key)
  deriving DecidableEq, Repr

inductive Reply (Key Value : Type) where
  | value (found : Option Value)
  | entry (found : Option (Key × Value))
  | found (present : Bool)
  deriving DecidableEq, Repr

def answer (cache : LruCache Key Value) :
    Call Key Value → Reply Key Value × LruCache Key Value
  | .get key => (.value (cache.get key).1, (cache.get key).2)
  | .put key value => (.value (cache.put key value).1, (cache.put key value).2)
  | .peek key => (.value (cache.peek key), cache)
  | .contains key => (.found (cache.contains key), cache)
  | .popLru => (.entry cache.popLru.1, cache.popLru.2)
  | .pop key => (.entry (cache.pop key).1, (cache.pop key).2)

def answers : LruCache Key Value → List (Call Key Value) →
    List (Reply Key Value) × LruCache Key Value
  | cache, [] => ([], cache)
  | cache, call :: calls =>
    ((cache.answer call).1 :: ((cache.answer call).2.answers calls).1,
      ((cache.answer call).2.answers calls).2)

theorem answer_capacity (cache : LruCache Key Value) (call : Call Key Value) :
    (cache.answer call).2.capacity = cache.capacity := by
  cases call with
  | get key => exact get_capacity cache key
  | put key value => exact put_capacity cache key value
  | peek | contains | popLru | pop => rfl

theorem answers_capacity (cache : LruCache Key Value) (calls : List (Call Key Value)) :
    (cache.answers calls).2.capacity = cache.capacity := by
  induction calls generalizing cache with
  | nil => rfl
  | cons call calls ih =>
    exact (ih _).trans (answer_capacity cache call)

end LruCache

end DragonflyClient.Storage
