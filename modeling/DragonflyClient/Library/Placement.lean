import Mathlib.Data.List.Perm.Subperm

/-!
Sorting by placement: every item names its own cell of a table, and a table whose cells
are named once each ends up in order, whatever the order of the items.
-/

namespace DragonflyClient.Library

open List

variable {Item Value : Type}

def fill (place : Item → Nat) (value : Item → Value) (items : List Item)
    (cells : List (Option Value)) : List (Option Value) :=
  items.foldl (fun cells item => cells.set (place item) (some (value item))) cells

variable {place : Item → Nat} {value : Item → Value} {items : List Item}
  {cells : List (Option Value)}

@[simp]
theorem fill_nil (place : Item → Nat) (value : Item → Value) (cells : List (Option Value)) :
    fill place value [] cells = cells := rfl

@[simp]
theorem fill_cons (place : Item → Nat) (value : Item → Value) (item : Item) (items : List Item)
    (cells : List (Option Value)) :
    fill place value (item :: items) cells =
      fill place value items (cells.set (place item) (some (value item))) := rfl

@[simp]
theorem length_fill (place : Item → Nat) (value : Item → Value) (items : List Item)
    (cells : List (Option Value)) : (fill place value items cells).length = cells.length := by
  induction items generalizing cells with
  | nil => rfl
  | cons item rest ih => simp [ih]

theorem getElem?_fill_of_forall_ne {index} (elsewhere : ∀ item ∈ items, place item ≠ index) :
    (fill place value items cells)[index]? = cells[index]? := by
  induction items generalizing cells with
  | nil => rfl
  | cons item rest ih =>
    rw [fill_cons, ih fun other later =>
      elsewhere other (mem_cons_of_mem _ later)]
    exact getElem?_set_ne (elsewhere item mem_cons_self)

theorem getElem?_fill (distinct : (items.map place).Nodup) {item} (listed : item ∈ items)
    (inside : place item < cells.length) :
    (fill place value items cells)[place item]? = some (some (value item)) := by
  induction items generalizing cells with
  | nil => cases listed
  | cons first rest ih =>
    rw [map_cons, nodup_cons] at distinct
    rw [fill_cons]
    rcases mem_cons.mp listed with rfl | later
    · rw [getElem?_fill_of_forall_ne fun other later same =>
        distinct.1 (mem_map.mpr ⟨other, later, same⟩)]
      simp [inside]
    · exact ih distinct.2 later (by simpa using inside)

/-- As many different numbers below a bound as the bound has are all of them. -/
theorem perm_range_of_nodup {numbers : List Nat} {bound} (distinct : numbers.Nodup)
    (below : ∀ number ∈ numbers, number < bound) (enough : numbers.length = bound) :
    numbers.Perm (List.range bound) := by
  apply (subperm_of_subset distinct fun number listed =>
    mem_range.mpr (below number listed)).perm_of_length_le
  simp [enough]

theorem map_some_filterMap (full : ∀ cell ∈ cells, cell.isSome = true) :
    cells = (cells.filterMap id).map some := by
  induction cells with
  | nil => rfl
  | cons cell rest ih =>
    cases cell with
    | none => cases full none mem_cons_self
    | some found =>
      have later := ih fun cell listed =>
        full cell (mem_cons_of_mem _ listed)
      exact congrArg (some found :: ·) later

theorem fill_of_perm_range (covers : (items.map place).Perm (List.range cells.length)) :
    ∃ values : List Value, fill place value items cells = values.map some ∧
      values.length = cells.length ∧ ∀ item ∈ items, values[place item]? = some (value item) := by
  have distinct : (items.map place).Nodup := covers.nodup_iff.mpr nodup_range
  have inside : ∀ item ∈ items, place item < cells.length := fun item listed =>
    mem_range.mp (covers.subset (mem_map_of_mem listed))
  have full : ∀ cell ∈ fill place value items cells, cell.isSome = true := by
    intro cell listed
    obtain ⟨index, found⟩ := mem_iff_getElem?.mp listed
    have below : index < cells.length := by
      rw [← length_fill place value items cells]
      exact (List.getElem?_eq_some_iff.mp found).1
    obtain ⟨item, placed, rfl⟩ := mem_map.mp (covers.symm.subset (mem_range.mpr below))
    rw [getElem?_fill distinct placed (inside item placed)] at found
    rw [← Option.some.inj found]
    rfl
  have values := map_some_filterMap full
  refine ⟨_, values, ?_, ?_⟩
  · rw [← length_map some, ← values, length_fill]
  · intro item listed
    have filled : (fill place value items cells)[place item]? = some (some (value item)) :=
      getElem?_fill distinct listed (inside item listed)
    rw [values, getElem?_map, Option.map_eq_some_iff] at filled
    obtain ⟨found, lookup, same⟩ := filled
    rw [lookup, Option.some.inj same]

end DragonflyClient.Library
