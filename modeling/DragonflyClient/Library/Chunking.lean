import Mathlib.Tactic.Ring

/-!
Cutting a length into chunks of one size, the last one possibly short.

`Covers` characterises the number of chunks by its two inequalities, so that two
computations of it can be compared without unfolding either.
-/

namespace DragonflyClient.Library

open List Nat

/-- `count` chunks of `size` cover `length`, and none of them is empty. -/
structure Covers (length size count : Nat) : Prop where
  reaches : length ≤ count * size
  starts : ∀ chunk < count, chunk * size < length

def chunkLength (length size chunk : Nat) : Nat := min size (length - chunk * size)

namespace Covers

variable {length size count : Nat}

theorem positive (covers : Covers length size count) (nonempty : 0 < length) : 0 < count := by
  have reaches := covers.reaches
  by_contra none
  rw [Nat.eq_zero_of_not_pos none, Nat.zero_mul] at reaches
  omega

theorem of_div (length : Nat) (sized : 0 < size) :
    Covers length size ((length + size - 1) / size) where
  reaches := by
    have split := div_add_mod (length + size - 1) size
    have small := mod_lt (length + size - 1) sized
    rw [mul_comm] at split
    omega
  starts chunk inside := by
    have below := mul_le_mul_right size (succ_le_of_lt inside)
    have quotient := div_mul_le_self (length + size - 1) size
    rw [succ_mul] at below
    omega

theorem count_le (covers : Covers length size count) (sized : 0 < size) : count ≤ length := by
  by_contra more
  have starts := covers.starts length (by omega)
  have grows := Nat.le_mul_of_pos_right length sized
  omega

theorem unique (covers : Covers length size count) {other} (covers' : Covers length size other) :
    count = other := by
  by_contra different
  rcases lt_or_gt_of_ne different with less | more
  · exact absurd covers.reaches (not_le.mpr (covers'.starts count less))
  · exact absurd covers'.reaches (not_le.mpr (covers.starts other more))

theorem drop (covers : Covers length size count) {start} (within : start ≤ count) :
    Covers (length - start * size) size (count - start) where
  reaches := by
    have reaches := covers.reaches
    rw [Nat.sub_mul]
    omega
  starts chunk earlier := by
    have inside := covers.starts (start + chunk) (by omega)
    rw [Nat.add_mul] at inside
    omega

theorem chunkLength_drop (length size start chunk : Nat) :
    chunkLength (length - start * size) size chunk = chunkLength length size (start + chunk) := by
  rw [chunkLength, chunkLength, Nat.add_mul, Nat.sub_sub]

theorem chunkLength_pos (covers : Covers length size count) (sized : 0 < size) {chunk}
    (inside : chunk < count) : 0 < chunkLength length size chunk := by
  have starts := covers.starts chunk inside
  unfold chunkLength
  omega

theorem sum_chunkLength (length size count : Nat) :
    ((List.range count).map (chunkLength length size)).sum = min length (count * size) := by
  induction count with
  | zero => simp
  | succ count ih =>
    rw [range_succ, map_append, sum_append_nat, ih, succ_mul]
    simp only [map_cons, map_nil, sum_cons, sum_nil, chunkLength]
    omega

theorem sum_run (length size start count : Nat) :
    ((List.range' start count).map (chunkLength length size)).sum =
      min (length - start * size) (count * size) := by
  rw [← sum_chunkLength, range'_eq_map_range, map_map]
  congr 2
  funext chunk
  exact (chunkLength_drop length size start chunk).symm

theorem sum_eq (covers : Covers length size count) :
    ((List.range count).map (chunkLength length size)).sum = length := by
  rw [sum_chunkLength, min_eq_left covers.reaches]

end Covers

theorem flatMap_filter_eq {Item Value : Type} (items : List Item) {keep}
    {part whole : Item → List Value}
    (kept : ∀ item ∈ items, keep item = true → part item = whole item)
    (dropped : ∀ item ∈ items, keep item = false → whole item = []) :
    (items.filter keep).flatMap part = items.flatMap whole := by
  induction items with
  | nil => rfl
  | cons item items ih =>
    rw [forall_mem_cons] at kept dropped
    have rest := ih kept.2 dropped.2
    cases keeps : keep item with
    | true =>
      rw [filter_cons_of_pos keeps, flatMap_cons, flatMap_cons, rest, kept.1 keeps]
    | false =>
      rw [filter_cons_of_neg (by simp [keeps]), flatMap_cons, rest, dropped.1 keeps, nil_append]

/-- What a window shows up to a point, and from there to a later one, is what it shows up to the
later one. -/
theorem window_split {start stop} (later : start ≤ stop) (first last : Nat) :
    List.range' first (min start last - first) ++
        List.range' (max start first) (min stop last - max start first) =
      List.range' first (min stop last - first) := by
  by_cases behind : start ≤ first
  · -- The window has not begun yet.
    have nothing : min start last - first = 0 := by omega
    rw [nothing, range'_zero, nil_append, Nat.max_eq_right behind]
  · rw [Nat.max_eq_left (by omega)]
    by_cases within : start ≤ last
    · have reached : first + (start - first) = start := by omega
      have joined := range'_append_1 (s := first) (m := start - first)
        (n := min stop last - start)
      rw [reached] at joined
      rw [Nat.min_eq_left within, joined]
      congr 1
      omega
    · -- The window ends before this point.
      rw [Nat.min_eq_right (by omega : last ≤ start), Nat.min_eq_right (by omega : last ≤ stop),
        Nat.sub_eq_zero_of_le (by omega : last ≤ start), range'_zero, append_nil]

/-- What a window from `first` to `last` shows of each chunk adds up to the window, up to
the end of the chunks. -/
theorem flatMap_window (length size first last count : Nat) :
    (List.range count).flatMap (fun chunk =>
        List.range' (max (chunk * size) first)
          (min (chunk * size + chunkLength length size chunk) last - max (chunk * size) first)) =
      List.range' first (min (min (count * size) length) last - first) := by
  induction count with
  | zero => simp
  | succ count ih =>
    rw [range_succ, flatMap_append, ih]
    simp only [flatMap_cons, flatMap_nil, append_nil, chunkLength, Nat.succ_mul]
    generalize count * size = start
    rcases Nat.le_total start length with inside | past
    · have stop : start + min size (length - start) = min (start + size) length := by omega
      rw [stop, Nat.min_eq_left inside]
      exact window_split (by omega) first last
    · -- The length ends before this chunk.
      have nothing : min start last - max start first = 0 := by omega
      rw [Nat.sub_eq_zero_of_le past, Nat.min_zero, Nat.add_zero, nothing, range'_zero,
        append_nil, Nat.min_eq_right past,
        Nat.min_eq_right (by omega : length ≤ start + size)]

end DragonflyClient.Library
