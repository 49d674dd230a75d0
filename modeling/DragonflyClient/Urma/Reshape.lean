import DragonflyClient.Urma.Leasing

/-!
The shape of a TX lease: what an acquire gives, and what `reshape` makes of it.
-/

namespace DragonflyClient.Urma

open Library List TxLeaseLayout

/-- Elementwise no larger than a beginning of the other list. -/
inductive Narrows : List Nat → List Nat → Prop where
  | nil (wide : List Nat) : Narrows [] wide
  | cons {length capacity narrow wide} (fits : length ≤ capacity) (rest : Narrows narrow wide) :
      Narrows (length :: narrow) (capacity :: wide)

theorem Narrows.length_le {narrow wide} (narrows : Narrows narrow wide) :
    narrow.length ≤ wide.length := by
  induction narrows with
  | nil wide => exact Nat.zero_le _
  | cons fits rest ih => simpa using ih

theorem Narrows.exists_capacity {narrow wide} (narrows : Narrows narrow wide) {length}
    (member : length ∈ narrow) : ∃ capacity ∈ wide, length ≤ capacity := by
  induction narrows with
  | nil wide => cases member
  | @cons first capacity narrow wide fits rest ih =>
    rcases mem_cons.mp member with rfl | later
    · exact ⟨capacity, mem_cons_self, fits⟩
    · obtain ⟨found, listed, within⟩ := ih later
      exact ⟨found, mem_cons_of_mem _ listed, within⟩

def RegisteredSpan.resize (length : Nat) (span : RegisteredSpan) : RegisteredSpan :=
  { span with length }

def TxLeaseLayout.resize (length : Nat) (layout : TxLeaseLayout) : TxLeaseLayout :=
  { layout with length }

namespace TxWindowLease

/-- Spans, layouts and total length of a lease agree on its chunk lengths. -/
structure Shaped (lease : TxWindowLease) (lengths : List Nat) : Prop where
  spans : lease.spans.map RegisteredSpan.length = lengths
  layouts : lease.layouts.map TxLeaseLayout.length = lengths
  total : lease.length = lengths.sum
  small : ∀ length ∈ lengths, length < 2 ^ 32

theorem narrow_eq {lengths spans layouts} (total : Nat)
    (fits : Narrows lengths (spans.map RegisteredSpan.length))
    (fits' : Narrows lengths (layouts.map TxLeaseLayout.length))
    (positive : ∀ length ∈ lengths, 0 < length) (small : ∀ length ∈ lengths, length < 2 ^ 32)
    (bounded : total + lengths.sum < 2 ^ 64) :
    ∃ spans' layouts', narrow lengths spans layouts total =
        (spans', layouts', .ok (total + lengths.sum)) ∧
      (spans'.take lengths.length).map RegisteredSpan.length = lengths ∧
      (layouts'.take lengths.length).map TxLeaseLayout.length = lengths := by
  induction lengths generalizing spans layouts total with
  | nil => exact ⟨spans, layouts, rfl, rfl, rfl⟩
  | cons length lengths ih =>
    cases spans with
    | nil => cases fits
    | cons span spans =>
      cases layouts with
      | nil => cases fits'
      | cons layout layouts =>
        obtain _ | ⟨within, fits⟩ := fits
        obtain _ | ⟨within', fits'⟩ := fits'
        rw [forall_mem_cons] at positive small
        rw [sum_cons] at bounded
        have added : checkedAdd total length = some (total + length) := by
          rw [checkedAdd, if_pos (by omega)]
        obtain ⟨spans', layouts', looped, ofSpans, ofLayouts⟩ := ih
          (total + length) fits fits' positive.2 small.2 (by omega)
        refine ⟨{ span with length } :: spans', { layout with length } :: layouts', ?_,
          by rw [length_cons, take_succ_cons, map_cons, ofSpans],
          by rw [length_cons, take_succ_cons, map_cons, ofLayouts]⟩
        simp only [narrow, if_neg (show ¬ (length = 0 ∨ length > span.length) by omega),
          if_neg (Nat.not_le.mpr small.1), added, looped, sum_cons, Nat.add_assoc]

theorem Shaped.reshape {lease : TxWindowLease} {wide lengths} (shaped : lease.Shaped wide)
    (narrows : Narrows lengths wide) (nonempty : lengths ≠ [])
    (positive : ∀ length ∈ lengths, 0 < length) (bounded : lengths.sum < 2 ^ 64) :
    ∃ reshaped, lease.reshape lengths = (reshaped, .ok ()) ∧ reshaped.Shaped lengths ∧
      reshaped.core = lease.core := by
  have small : ∀ length ∈ lengths, length < 2 ^ 32 := by
    intro length member
    obtain ⟨capacity, listed, fits⟩ := narrows.exists_capacity member
    exact lt_of_le_of_lt fits (shaped.small capacity listed)
  have room : ¬ (lengths = [] ∨ lengths.length > lease.layouts.length) := by
    have within := narrows.length_le
    rw [← shaped.layouts, length_map] at within
    rintro (empty | exceeding)
    · exact nonempty empty
    · omega
  obtain ⟨spans, layouts, looped, ofSpans, ofLayouts⟩ := narrow_eq 0
    (shaped.spans.symm ▸ narrows) (shaped.layouts.symm ▸ narrows) positive small (by omega)
  simp only [TxWindowLease.reshape, if_neg room, looped]
  exact ⟨_, rfl, ⟨ofSpans, ofLayouts, Nat.zero_add _, small⟩, rfl⟩

/-- The chunk lengths that the loop of `reshape` accepts before it stops. -/
def accepted : List Nat → List Nat → List Nat
  | length :: lengths, capacity :: capacities =>
    if length = 0 ∨ length > capacity then [] else length :: accepted lengths capacities
  | _, _ => []

def overwrite {Item : Type} (write : Nat → Item → Item) : List Nat → List Item → List Item
  | length :: lengths, item :: items => write length item :: overwrite write lengths items
  | _, items => items

section Overwrite

variable {Item : Type} {write : Nat → Item → Item} {read : Item → Nat}

theorem take_overwrite (reads : ∀ length item, read (write length item) = length) {lengths items}
    (narrows : Narrows lengths (items.map read)) :
    ((overwrite write lengths items).take lengths.length).map read = lengths := by
  induction lengths generalizing items with
  | nil => rfl
  | cons length lengths ih =>
    cases items with
    | nil => cases narrows
    | cons item items =>
      obtain _ | ⟨-, rest⟩ := narrows
      simp [overwrite, reads, ih rest]

theorem map_overwrite {Other : Type} {other : Item → Other}
    (keeps : ∀ length item, other (write length item) = other item) (lengths : List Nat)
    (items : List Item) : (overwrite write lengths items).map other = items.map other := by
  fun_induction overwrite write lengths items with
  | case1 length lengths item items ih => simp [keeps, ih]
  | case2 => rfl

end Overwrite

/-- The layouts mirror the spans, and the length of the lease is their sum.  The bounds are those
of the source's types: a layout's length is a `u32`, the lease's length a `usize`. -/
structure Mirrored (lease : TxWindowLease) : Prop where
  mirror : lease.layouts.map (fun layout => (layout.offset, layout.length)) =
    lease.spans.map fun span => (span.data, span.length)
  total : lease.length = (lease.spans.map RegisteredSpan.length).sum
  encoded : ∀ layout ∈ lease.layouts, layout.length < 2 ^ 32
  bounded : lease.length < 2 ^ 64

/-- The lease has the given chunk lengths, each within the old span at the same offset. -/
structure Reshaped (before after : TxWindowLease) (lengths : List Nat) : Prop where
  spans : after.spans.map RegisteredSpan.length = lengths
  layouts : after.layouts.map TxLeaseLayout.length = lengths
  within : Narrows lengths (before.spans.map RegisteredSpan.length)
  data : after.spans.map RegisteredSpan.data <+: before.spans.map RegisteredSpan.data
  offsets : after.layouts.map (fun layout => (layout.slot, layout.offset)) <+:
    before.layouts.map fun layout => (layout.slot, layout.offset)
  total : after.length = lengths.sum

theorem Mirrored.lengths {lease : TxWindowLease} (mirrored : lease.Mirrored) :
    lease.layouts.map TxLeaseLayout.length = lease.spans.map RegisteredSpan.length := by
  have lengths := congrArg (List.map Prod.snd) mirrored.mirror
  simpa only [map_map, Function.comp_def] using lengths

theorem Mirrored.reshaped {lease : TxWindowLease} (mirrored : lease.Mirrored) {lengths}
    (narrows : Narrows lengths (lease.spans.map RegisteredSpan.length)) :
    lease.Reshaped
      { lease with
        spans := (overwrite RegisteredSpan.resize lengths lease.spans).take lengths.length
        layouts := (overwrite resize lengths lease.layouts).take lengths.length
        length := lengths.sum } lengths where
  spans := take_overwrite (fun _ _ => rfl) narrows
  layouts := take_overwrite (fun _ _ => rfl) (mirrored.lengths.symm ▸ narrows)
  within := narrows
  data := by
    rw [map_take, map_overwrite fun length span => by rfl]
    exact take_prefix _ _
  offsets := by
    rw [map_take, map_overwrite fun length layout => by rfl]
    exact take_prefix _ _
  total := rfl

/-- A lease of two 64-byte slots, as the first acquire of pool 1 gives it. -/
def pair : TxWindowLease where
  spans := [⟨0, 64⟩, ⟨64, 64⟩]
  layouts := [⟨⟨0, 1⟩, 0, 64⟩, ⟨⟨1, 1⟩, 64, 64⟩]
  length := 128
  core := ⟨1, 1⟩

end TxWindowLease

namespace BufferPool

theorem totalLength_eq_ok {lengths start total} (added : totalLength lengths start = .ok total) :
    total = start + lengths.sum := by
  induction lengths generalizing start with
  | nil => simpa [totalLength] using (Except.ok.inj added).symm
  | cons length lengths ih =>
    rw [totalLength] at added
    split at added
    · cases added
    next sum found =>
      unfold checkedAdd at found
      split at found
      · cases found
        rw [ih added, sum_cons, Nat.add_assoc]
      · cases found

theorem lengths_of_prepareTxWindow_ok {pool : BufferPool} {lengths prepared total}
    (checked : pool.prepareTxWindow lengths = .ok (prepared, total)) :
    prepared.map PreparedTx.length = lengths ∧ total = lengths.sum ∧
      ∀ length ∈ lengths, length < 2 ^ 32 := by
  obtain ⟨small, added, -⟩ := checks_of_prepareTxWindow_ok checked
  refine ⟨(of_prepareTxWindow_ok checked).2.1, ?_, small⟩
  rw [totalLength_eq_ok added, Nat.zero_add]

theorem shaped_of_acquire_ok {pool : BufferPool} {lengths lease}
    (acquired : (pool.acquireTxWindowChunks lengths).2 = .ok lease) : lease.Shaped lengths := by
  unfold acquireTxWindowChunks at acquired
  split at acquired
  · cases acquired
  next prepared total checked =>
    obtain ⟨sameLengths, sameTotal, small⟩ := lengths_of_prepareTxWindow_ok checked
    dsimp only at acquired
    split at acquired
    · cases acquired
      exact ⟨by rw [map_map]; exact sameLengths, by rw [map_map]; exact sameLengths,
        sameTotal, small⟩
    · split at acquired <;> cases acquired

end BufferPool

end DragonflyClient.Urma
