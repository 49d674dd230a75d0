import Mathlib.Data.List.Sort

/-!
Stable sorting by a key, as a relation: the items are in the order of their keys, and those of one
key are in their old order.
-/

namespace DragonflyClient.Library

open List

variable {Item Key : Type} [LinearOrder Key] {key : Item → Key}

structure StableSort (key : Item → Key) (items sorted : List Item) : Prop where
  ordered : sorted.Pairwise fun first second => key first ≤ key second
  same : ∀ shared, sorted.filter (key · = shared) = items.filter (key · = shared)

namespace StableSort

variable {items sorted other : List Item}

theorem mem (sort : StableSort key items sorted) {item} (here : item ∈ sorted) :
    item ∈ items := by
  have filtered : item ∈ sorted.filter (key · = key item) := by simp [here]
  rw [sort.same] at filtered
  exact mem_of_mem_filter filtered

theorem symm_same (sort : StableSort key items sorted) (again : StableSort key items other) :
    StableSort key sorted other where
  ordered := again.ordered
  same shared := (again.same shared).trans (sort.same shared).symm

theorem head_le {first} (ordered : (first :: items).Pairwise (key · ≤ key ·))
    (sort : StableSort key (first :: items) sorted) {item} (here : item ∈ sorted) :
    key first ≤ key item := by
  rcases mem_cons.mp (sort.mem here) with rfl | later
  · exact le_rfl
  · exact rel_of_pairwise_cons ordered later

theorem eq_of_ordered (ordered : items.Pairwise (key · ≤ key ·))
    (sort : StableSort key items sorted) : sorted = items := by
  induction items generalizing sorted with
  | nil => exact eq_nil_iff_forall_not_mem.mpr fun item here => nomatch sort.mem here
  | cons first items ih =>
    have kept := sort.same (key first)
    rw [filter_cons_of_pos (by simp)] at kept
    cases sorted with
    | nil => cases kept
    | cons head sorted =>
      have back : StableSort key (head :: sorted) (first :: items) :=
        ⟨ordered, fun shared => (sort.same shared).symm⟩
      have equal : key head = key first :=
        le_antisymm (head_le sort.ordered back (mem_cons_self ..))
          (head_le ordered sort (mem_cons_self ..))
      rw [filter_cons_of_pos (by simp [equal])] at kept
      obtain ⟨rfl, rest⟩ := List.cons.inj kept
      congr 1
      refine ih ordered.tail ⟨sort.ordered.tail, fun shared => ?_⟩
      by_cases own : key head = shared
      · exact own ▸ rest
      · simpa [filter_cons, own] using sort.same shared

theorem unique (sort : StableSort key items sorted) (again : StableSort key items other) :
    other = sorted :=
  eq_of_ordered sort.ordered (sort.symm_same again)

/-- A list with the same items of each key has the same stable sorts. -/
theorem of_same (sort : StableSort key items sorted)
    (same : ∀ shared, items.filter (key · = shared) = other.filter (key · = shared)) :
    StableSort key other sorted :=
  ⟨sort.ordered, fun shared => (sort.same shared).trans (same shared)⟩

end StableSort

theorem stableSort_mergeSort (key : Item → Key) (items : List Item) :
    StableSort key items (items.mergeSort fun first second => decide (key first ≤ key second)) := by
  have transitive : ∀ first second third : Item, decide (key first ≤ key second) = true →
      decide (key second ≤ key third) = true → decide (key first ≤ key third) = true := by
    intro first second third
    simpa using le_trans
  have total : ∀ first second : Item,
      (decide (key first ≤ key second) || decide (key second ≤ key first)) = true := by
    intro first second
    simpa using le_total (key first) (key second)
  refine ⟨by simpa using pairwise_mergeSort transitive total items, fun shared => ?_⟩
  -- The items of one key are a sublist of both lists, and as many in both.
  have ordered : (items.filter (key · = shared)).Pairwise
      fun first second => decide (key first ≤ key second) = true := by
    refine pairwise_of_forall_mem_list fun first one second two => ?_
    simp only [mem_filter, decide_eq_true_eq] at one two
    exact decide_eq_true (one.2.trans two.2.symm).le
  have kept := (sublist_mergeSort transitive total ordered filter_sublist).filter
    (key · = shared)
  rw [filter_filter, filter_congr (fun _ _ => Bool.and_self _)] at kept
  exact (kept.eq_of_length ((mergeSort_perm items _).filter _).length_eq.symm).symm

end DragonflyClient.Library
