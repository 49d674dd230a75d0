import DragonflyClient.Library.Placement
import DragonflyClient.Urma.Receive

/-!
`reorder_receive_window_completions` sorts: the immediate of each completion names the
chunk its bytes are, and the leases leave in the order of the chunks.

A completion is judged by itself (`Acceptable`) and put into the cell of its chunk; what
remains of the loop is a placement of distinct items into a table.
-/

namespace DragonflyClient.Urma

open Library Rendezvous List Option RegisteredRxCompletion TransferShape
open ReceiveWindowRoutingStats

namespace RegisteredRxCompletion

/-- The transfer and the chunk that the immediate of a completion names. -/
def identity (completion : RegisteredRxCompletion) : Option (TransferId × Nat) :=
  match decodeTransferSequence completion.immData with
  | .error _ => none
  | .ok (transferId, chunk) => some (transferId, chunk.toNat)

def cell (window : ReceiveWindow) (completion : RegisteredRxCompletion) : Nat :=
  match completion.identity with
  | none => 0
  | some (_, chunk) => chunk - window.startChunk.toNat

/-- The sequence under which the receive was posted names a transfer. -/
def PostedForTransfer (completion : RegisteredRxCompletion) : Prop :=
  ∀ sequence, completion.postedSequence = some sequence →
    ∃ posted, decodeTransferSequence sequence = .ok posted

def moved (transferId : TransferId) (completion : RegisteredRxCompletion) :
    ReceiveWindowRoutingStats :=
  { reorderedChunkCount :=
      if completion.postedSequence = some completion.immData then 0 else 1
    crossTransferChunkCount :=
      match completion.postedSequence.map decodeTransferSequence with
      | some (.ok (postedTransferId, _)) => if postedTransferId = transferId then 0 else 1
      | _ => 1 }

end RegisteredRxCompletion

namespace ReceiveWindowRoutingStats

def add (left right : ReceiveWindowRoutingStats) : ReceiveWindowRoutingStats :=
  { reorderedChunkCount := left.reorderedChunkCount + right.reorderedChunkCount
    crossTransferChunkCount := left.crossTransferChunkCount + right.crossTransferChunkCount }

end ReceiveWindowRoutingStats

/-- A completion that the loop accepts if the cell of its chunk is still empty. -/
structure Acceptable (laneId : UInt16) (transferId : TransferId) (shape : TransferShape)
    (window : ReceiveWindow) (completion : RegisteredRxCompletion) : Prop where
  lane : completion.laneId = laneId
  posted : ∃ sequence posted, completion.postedSequence = some sequence ∧
    decodeTransferSequence sequence = .ok posted
  identity : ∃ chunk, decodeTransferSequence completion.immData = .ok (transferId, chunk) ∧
    window.startChunk.toNat ≤ chunk.toNat ∧
    chunk.toNat < window.startChunk.toNat + window.chunkCount.toNat ∧
    shape.chunkLen chunk = .ok completion.lease.length

namespace Acceptable

variable {laneId : UInt16} {transferId : TransferId} {shape : TransferShape}
  {window : ReceiveWindow} {completion : RegisteredRxCompletion}

theorem identity_eq (acceptable : Acceptable laneId transferId shape window completion) :
    completion.identity = some (transferId, window.startChunk.toNat + completion.cell window) := by
  obtain ⟨chunk, decoded, after, -⟩ := acceptable.identity
  simp only [RegisteredRxCompletion.cell, RegisteredRxCompletion.identity, decoded]
  rw [Nat.add_sub_cancel' after]

theorem cell_lt (acceptable : Acceptable laneId transferId shape window completion) :
    completion.cell window < window.chunkCount.toNat := by
  obtain ⟨chunk, decoded, after, before, -⟩ := acceptable.identity
  simp only [RegisteredRxCompletion.cell, RegisteredRxCompletion.identity, decoded]
  omega

end Acceptable

namespace Reordering

section Loop

variable (laneId : UInt16) (transferId : TransferId) (shape : TransferShape)
  (window : ReceiveWindow)

def accept (reordering : Reordering) (completion : RegisteredRxCompletion) : Reordering :=
  { leasesByChunk :=
      reordering.leasesByChunk.set (completion.cell window) (some completion.lease)
    routing := reordering.routing.add (completion.moved transferId) }

theorem place_eq_ok_iff (reordering after : Reordering) (completion : RegisteredRxCompletion) :
    reordering.place laneId transferId shape window completion = .ok after ↔
      Acceptable laneId transferId shape window completion ∧
        reordering.leasesByChunk[completion.cell window]?.join = none ∧
        after = reordering.accept transferId window completion := by
  constructor
  · intro placed
    unfold place at placed
    split at placed
    · cases placed
    next lane =>
    split at placed
    · cases placed
    next sequence posted =>
    split at placed
    · cases placed
    · cases placed
    next postedTransferId postedChunk receivedTransferId receivedChunk decodedPosted decoded =>
    split at placed
    · cases placed
    next same =>
    split at placed
    · cases placed
    next inside =>
    split at placed
    · cases placed
    next expectedLen length =>
    dsimp only at placed
    split at placed
    · cases placed
    next sameLength =>
    split at placed
    · cases placed
    next vacant =>
    rw [not_not] at lane same sameLength
    subst same
    rw [not_or, Nat.not_le, UInt64.not_lt, UInt64.le_iff_toNat_le] at inside
    have cell : completion.cell window = (receivedChunk - window.startChunk).toNat := by
      rw [UInt64.toNat_sub_of_le _ _ (UInt64.le_iff_toNat_le.mpr inside.1)]
      simp only [cell, identity, decoded]
    refine ⟨⟨lane, ⟨_, _, posted, decodedPosted⟩,
      ⟨receivedChunk, decoded, inside.1, inside.2, sameLength ▸ length⟩⟩, ?_, ?_⟩
    · rw [cell]
      simpa using vacant
    · rw [← Except.ok.inj placed, accept, cell]
      simp [add, moved, posted, decodedPosted]
  · rintro ⟨⟨lane, ⟨sequence, ⟨postedTransferId, postedChunk⟩, posted, decodedPosted⟩,
      ⟨chunk, decoded, started, ends, length⟩⟩, vacant, rfl⟩
    have cell : completion.cell window = (chunk - window.startChunk).toNat := by
      rw [UInt64.toNat_sub_of_le _ _ (UInt64.le_iff_toNat_le.mpr started)]
      simp only [cell, identity, decoded]
    have inside : ¬ (chunk < window.startChunk ∨
        chunk.toNat ≥ window.startChunk.toNat + window.chunkCount.toNat) := by
      rw [not_or, Nat.not_le, UInt64.not_lt, UInt64.le_iff_toNat_le]
      exact ⟨started, ends⟩
    rw [cell] at vacant
    simp only [place, lane, posted, decodedPosted, decoded, inside, length, vacant, ne_eq,
      not_true_eq_false, if_false, isSome_none, Bool.false_eq_true]
    rw [accept, cell]
    simp [add, moved, posted, decodedPosted]

/-- The whole loop: every completion is acceptable, no two have the same cell, and no cell was
taken before. -/
theorem placeAll_eq_ok_iff (completions : List RegisteredRxCompletion)
    (reordering after : Reordering)
    (sized : reordering.leasesByChunk.length = window.chunkCount.toNat) :
    placeAll laneId transferId shape window reordering completions = .ok after ↔
      (∀ completion ∈ completions, Acceptable laneId transferId shape window completion) ∧
        (completions.map (·.cell window)).Nodup ∧
        (∀ completion ∈ completions,
          reordering.leasesByChunk[completion.cell window]?.join = none) ∧
        after.leasesByChunk = fill (·.cell window) (·.lease) completions reordering.leasesByChunk ∧
        after.routing = (completions.map (·.moved transferId)).foldl
          add reordering.routing := by
  induction completions generalizing reordering with
  | nil =>
    simp only [placeAll, Except.ok.injEq]
    constructor
    · rintro rfl
      simp
    · rintro ⟨-, -, -, leases, routing⟩
      cases after
      cases reordering
      simp_all
  | cons completion rest ih =>
    have step := reordering.place_eq_ok_iff laneId transferId shape window
    rw [placeAll]
    cases placed : reordering.place laneId transferId shape window completion with
    | error failure =>
      simp only [reduceCtorEq, false_iff]
      rintro ⟨acceptable, -, vacant, -⟩
      have accepted := (step _ completion).mpr ⟨acceptable completion List.mem_cons_self,
        vacant completion List.mem_cons_self, rfl⟩
      rw [placed] at accepted
      cases accepted
    | ok next =>
      obtain ⟨acceptable, vacant, rfl⟩ := (step next completion).mp placed
      have inside := acceptable.cell_lt
      rw [← sized] at inside
      have elsewhere : ∀ other : RegisteredRxCompletion,
          (accept transferId window reordering completion).leasesByChunk[
            other.cell window]?.join = none ↔
          other.cell window ≠ completion.cell window ∧
            reordering.leasesByChunk[other.cell window]?.join = none := by
        intro other
        rw [accept, List.getElem?_set]
        by_cases same : completion.cell window = other.cell window
        · simp [← same, inside]
        · simp [same, Ne.symm same]
      have stillSized : (accept transferId window reordering completion).leasesByChunk.length =
          window.chunkCount.toNat := by
        simp [accept, sized]
      rw [ih _ stillSized]
      simp only [elsewhere, List.mem_cons, forall_eq_or_imp, List.map_cons, List.nodup_cons,
        List.mem_map, not_exists, not_and, fill_cons, List.foldl_cons, acceptable, vacant,
        true_and]
      constructor
      · rintro ⟨later, distinct, free, leases, routing⟩
        exact ⟨later, ⟨fun other listed => (free other listed).1, distinct⟩,
          fun other listed => (free other listed).2, leases, routing⟩
      · rintro ⟨later, ⟨apart, distinct⟩, free, leases, routing⟩
        exact ⟨later, distinct, fun other listed => ⟨apart other listed, free other listed⟩,
          leases, routing⟩

end Loop

theorem missing_eq_nil {window} {reordering : Reordering} {leases : List RegisteredRxWindowLease}
    (full : reordering.leasesByChunk = leases.map some) : reordering.missing window = [] := by
  rw [missing, filterMap_eq_nil_iff]
  rintro ⟨chunk, lease⟩ listed
  have member := (of_mem_zip listed).2
  rw [full] at member
  obtain ⟨found, -, rfl⟩ := mem_map.mp member
  rfl

end Reordering

/-- The completions are all on the lane, carry a posted sequence, and their immediates name
each chunk of the window once, with a lease of the length of the chunk. -/
structure PermutesWindow (laneId : UInt16) (transferId : TransferId) (shape : TransferShape)
    (window : ReceiveWindow) (completions : List RegisteredRxCompletion) : Prop where
  lane : ∀ completion ∈ completions, completion.laneId = laneId
  posted : ∀ completion ∈ completions, completion.postedSequence.isSome = true
  identities : (completions.map (·.identity)).Perm
    ((List.range window.chunkCount.toNat).map fun index =>
      some (transferId, window.startChunk.toNat + index))
  lengths : ∀ completion ∈ completions, ∀ transfer chunk,
    decodeTransferSequence completion.immData = .ok (transfer, chunk) →
      shape.chunkLen chunk = .ok completion.lease.length

section Window

variable {laneId : UInt16} {transferId : TransferId} {shape : TransferShape}
  {window : ReceiveWindow} {completions others : List RegisteredRxCompletion}

namespace PermutesWindow

theorem acceptable (permutes : PermutesWindow laneId transferId shape window completions)
    (transfers : ∀ completion ∈ completions, completion.PostedForTransfer) :
    ∀ completion ∈ completions, Acceptable laneId transferId shape window completion := by
  intro completion listed
  obtain ⟨sequence, posted⟩ := isSome_iff_exists.mp (permutes.posted completion listed)
  obtain ⟨found, decodedPosted⟩ := transfers completion listed sequence posted
  refine ⟨permutes.lane completion listed, ⟨sequence, found, posted, decodedPosted⟩, ?_⟩
  have named := permutes.identities.subset (mem_map_of_mem listed)
  obtain ⟨index, below, identity⟩ := mem_map.mp named
  rw [mem_range] at below
  unfold RegisteredRxCompletion.identity at identity
  split at identity
  · cases identity
  next transfer chunk decoded =>
    simp only [some.injEq, Prod.mk.injEq] at identity
    obtain ⟨rfl, place⟩ := identity
    exact ⟨chunk, decoded, by omega, by omega, permutes.lengths completion listed _ _ decoded⟩

theorem cells (permutes : PermutesWindow laneId transferId shape window completions) :
    (completions.map (·.cell window)).Perm (List.range window.chunkCount.toNat) := by
  let cellOf : Option (TransferId × Nat) → Nat := fun
    | none => 0
    | some (_, chunk) => chunk - window.startChunk.toNat
  have moved := permutes.identities.map cellOf
  rw [List.map_map, List.map_map] at moved
  have inOrder : (List.range window.chunkCount.toNat).map
      (cellOf ∘ fun index => some (transferId, window.startChunk.toNat + index)) =
      List.range window.chunkCount.toNat := by
    conv_rhs => rw [← List.map_id (List.range window.chunkCount.toNat)]
    apply List.map_congr_left
    intro index _
    exact Nat.add_sub_cancel_left _ _
  rw [inOrder] at moved
  exact moved

theorem ofAcceptable
    (acceptable : ∀ completion ∈ completions, Acceptable laneId transferId shape window completion)
    (distinct : (completions.map (·.cell window)).Nodup)
    (enough : completions.length = window.chunkCount.toNat) :
    PermutesWindow laneId transferId shape window completions := by
  constructor
  case lane => exact fun completion listed => (acceptable completion listed).lane
  case posted =>
    intro completion listed
    obtain ⟨sequence, -, posted, -⟩ := (acceptable completion listed).posted
    simp [posted]
  case identities =>
    have cells : (completions.map (·.cell window)).Perm (List.range window.chunkCount.toNat) := by
      apply perm_range_of_nodup distinct
      · intro index named
        obtain ⟨completion, listed, rfl⟩ := mem_map.mp named
        exact (acceptable completion listed).cell_lt
      · rw [length_map, enough]
    have named : completions.map (·.identity) = (completions.map (·.cell window)).map
        fun index => some (transferId, window.startChunk.toNat + index) := by
      rw [List.map_map]
      exact map_congr_left fun completion listed => (acceptable completion listed).identity_eq
    rw [named]
    exact cells.map _
  case lengths =>
    intro completion listed transfer chunk decoded
    obtain ⟨found, decoded', -, -, length⟩ := (acceptable completion listed).identity
    obtain ⟨-, rfl⟩ := Prod.mk.inj (Except.ok.inj (decoded.symm.trans decoded'))
    exact length

theorem filled (permutes : PermutesWindow laneId transferId shape window completions) :
    ∃ leases : List RegisteredRxWindowLease,
      fill (·.cell window) (·.lease) completions
          (List.replicate window.chunkCount.toNat none) = leases.map some ∧
        leases.length = window.chunkCount.toNat ∧
        ∀ completion ∈ completions, leases[completion.cell window]? = some completion.lease := by
  have covers : (completions.map (·.cell window)).Perm (List.range (List.replicate
      window.chunkCount.toNat (none : Option RegisteredRxWindowLease)).length) := by
    rw [length_replicate]
    exact permutes.cells
  obtain ⟨leases, full, length, placed⟩ := fill_of_perm_range covers
  exact ⟨leases, full, length.trans length_replicate, placed⟩

theorem perm (permutes : PermutesWindow laneId transferId shape window completions)
    (same : others.Perm completions) : PermutesWindow laneId transferId shape window others where
  lane completion listed := permutes.lane completion (same.subset listed)
  posted completion listed := permutes.posted completion (same.subset listed)
  identities := (same.map _).trans permutes.identities
  lengths completion listed := permutes.lengths completion (same.subset listed)

end PermutesWindow

/-- Every chunk of the window has its length, so `window_len` is the sum of them. -/
theorem PermutesWindow.windowLen
    (permutes : PermutesWindow laneId transferId shape window completions)
    (nonempty : window.chunkCount ≠ 0) :
    shape.windowLen window = .ok (Regular.lengths shape window).sum := by
  have chunk : ∀ index < window.chunkCount.toNat, ∃ completion ∈ completions, ∃ chunk,
      chunk.toNat = window.startChunk.toNat + index ∧
        shape.chunkLen chunk = .ok completion.lease.length := by
    intro index below
    have named := permutes.identities.symm.subset
      (mem_map_of_mem (mem_range.mpr below))
    obtain ⟨completion, listed, identity⟩ := mem_map.mp named
    unfold RegisteredRxCompletion.identity at identity
    split at identity
    · cases identity
    next transfer chunk decoded =>
      simp only [some.injEq, Prod.mk.injEq] at identity
      exact ⟨completion, listed, chunk, identity.2, permutes.lengths completion listed _ _ decoded⟩
  have positive : 0 < window.chunkCount.toNat := by
    rw [Nat.pos_iff_ne_zero]
    exact fun zero => nonempty (UInt32.toNat_inj.mp zero)
  have within : window.startChunk.toNat + window.chunkCount.toNat ≤ shape.chunkCount.toNat := by
    obtain ⟨completion, -, last, place, length⟩ := chunk (window.chunkCount.toNat - 1) (by omega)
    have inside := (Regular.of_chunkLen_ok length).2
    omega
  have bounded := shape.chunkCount.toNat_lt
  apply Regular.windowLen_of_collect nonempty within
  rw [chunks_eq]
  apply Regular.collect_lengths (by omega)
  intro number listed
  obtain ⟨place, inside, rfl⟩ := mem_map.mp listed
  rw [mem_range'_1] at inside
  obtain ⟨completion, -, found, same, length⟩ := chunk (place - window.startChunk.toNat) (by omega)
  have isFound : UInt64.ofNat place = found := by
    apply UInt64.toNat_inj.mp
    rw [toNat_ofNat (by omega), same]
    omega
  exact ⟨_, isFound ▸ length⟩

theorem of_windowLen_ok {length} (found : shape.windowLen window = .ok length) :
    window.chunkCount ≠ 0 ∧ window.startChunk.toNat + window.chunkCount.toNat < 2 ^ 64 := by
  unfold windowLen at found
  split at found
  · cases found
  split at found
  · cases found
  next valid =>
  split at found
  · cases found
  next inRange =>
  refine ⟨?_, Nat.not_le.mp inRange⟩
  rintro empty
  simp [ReceiveWindow.validate, empty] at valid

structure Reordered (transferId : TransferId) (window : ReceiveWindow)
    (completions : List RegisteredRxCompletion) (leases : List RegisteredRxWindowLease)
    (routing : ReceiveWindowRoutingStats) : Prop where
  placed : leases.map some = fill (·.cell window) (·.lease) completions
    (List.replicate window.chunkCount.toNat none)
  routing : routing = (completions.map (·.moved transferId)).foldl
    add { reorderedChunkCount := 0, crossTransferChunkCount := 0 }

theorem reorder_eq_ok_iff (leases : List RegisteredRxWindowLease)
    (routing : ReceiveWindowRoutingStats) :
    reorderReceiveWindowCompletions laneId transferId shape window completions =
        .ok (leases, routing) ↔
      window.chunkCount ≠ 0 ∧ PermutesWindow laneId transferId shape window completions ∧
        (∀ completion ∈ completions, completion.PostedForTransfer) ∧
        Reordered transferId window completions leases routing := by
  have loop := Reordering.placeAll_eq_ok_iff laneId transferId shape window completions
    { leasesByChunk := List.replicate window.chunkCount.toNat none
      routing := { reorderedChunkCount := 0, crossTransferChunkCount := 0 } }
  constructor
  · intro returned
    unfold reorderReceiveWindowCompletions at returned
    split at returned
    · cases returned
    next length measured =>
    dsimp only at returned
    split at returned
    · cases returned
    next enough =>
    split at returned
    · cases returned
    split at returned
    · cases returned
    next reordering placed =>
    split at returned
    · cases returned
    next complete =>
    obtain ⟨acceptable, distinct, -, filled, counted⟩ :=
      (loop reordering length_replicate).mp placed
    rw [not_not] at enough
    have permutes := PermutesWindow.ofAcceptable acceptable distinct enough
    obtain ⟨values, full, -⟩ := permutes.filled
    cases returned
    refine ⟨(of_windowLen_ok measured).1, permutes, ?_, ?_, counted⟩
    · intro completion listed sequence posted
      obtain ⟨other, found, posted', decoded⟩ := (acceptable completion listed).posted
      obtain rfl := some.inj (posted.symm.trans posted')
      exact ⟨found, decoded⟩
    · rw [filled, full]
      simp [filterMap_map]
  · rintro ⟨nonempty, permutes, transfers, reordered⟩
    have measured := permutes.windowLen nonempty
    have enough : completions.length = window.chunkCount.toNat := by
      simpa using permutes.identities.length_eq
    have placed := (loop ⟨leases.map some, routing⟩ length_replicate).mpr
      ⟨permutes.acceptable transfers, permutes.cells.nodup_iff.mpr nodup_range,
        fun completion listed => by
          simp [(permutes.acceptable transfers completion listed).cell_lt],
        reordered.placed, reordered.routing⟩
    have complete : (⟨leases.map some, routing⟩ : Reordering).missing window = [] :=
      Reordering.missing_eq_nil rfl
    simp only [reorderReceiveWindowCompletions, measured, enough, ne_eq, not_true_eq_false,
      if_false, Nat.not_le.mpr (of_windowLen_ok measured).2, placed, complete]
    simp [filterMap_map]

theorem Reordered.filled {leases routing}
    (reordered : Reordered transferId window completions leases routing)
    (permutes : PermutesWindow laneId transferId shape window completions) :
    leases.length = window.chunkCount.toNat ∧
      ∀ completion ∈ completions, leases[completion.cell window]? = some completion.lease := by
  obtain ⟨values, full, length, placed⟩ := permutes.filled
  rw [← reordered.placed] at full
  rw [map_injective_iff.mpr (some_injective _) full]
  exact ⟨length, placed⟩

theorem PermutesWindow.exists_cell
    (permutes : PermutesWindow laneId transferId shape window completions) {index}
    (below : index < window.chunkCount.toNat) :
    ∃ completion ∈ completions, completion.cell window = index := by
  have named := permutes.cells.symm.subset (mem_range.mpr below)
  exact mem_map.mp named

theorem Reordered.unique {leases otherLeases routing otherRouting}
    (reordered : Reordered transferId window completions leases routing)
    (other : Reordered transferId window others otherLeases otherRouting)
    (permutes : PermutesWindow laneId transferId shape window completions)
    (same : others.Perm completions) : otherLeases = leases ∧ otherRouting = routing := by
  obtain ⟨length, placed⟩ := reordered.filled permutes
  obtain ⟨otherLength, otherPlaced⟩ := other.filled (permutes.perm same)
  constructor
  · apply ext_getElem? fun index => ?_
    by_cases below : index < window.chunkCount.toNat
    · obtain ⟨completion, listed, rfl⟩ := permutes.exists_cell below
      rw [placed completion listed, otherPlaced completion (same.symm.subset listed)]
    · rw [getElem?_eq_none (by omega), getElem?_eq_none (by omega)]
  · rw [reordered.routing, other.routing]
    apply (same.map _).foldl_eq'
    intro first _ second _ total
    simp only [add, Nat.add_right_comm]

end Window

namespace RegisteredRxWindowLease

theorem mergeInto_eq {leases merged} (unpermitted : ∀ lease ∈ leases, lease.pipelinePermit = false)
    (small : merged.length + (leases.map length).sum < 2 ^ 64)
    (bare : merged.pipelinePermit = false) :
    mergeInto merged leases = .ok
      { spans := merged.spans ++ leases.flatMap spans
        length := merged.length + (leases.map length).sum
        cores := merged.cores ++ leases.flatMap cores
        pipelinePermit := false } := by
  induction leases generalizing merged with
  | nil =>
    cases merged
    simp_all [mergeInto]
  | cons lease rest ih =>
    rw [map_cons, sum_cons] at small
    have fits : merged.length + lease.length < 2 ^ 64 := by omega
    rw [mergeInto, if_neg (by simp [unpermitted lease mem_cons_self]), checkedAdd, if_pos fits]
    dsimp only
    rw [ih (fun other later => unpermitted other (mem_cons_of_mem _ later))
      (by dsimp only; omega) rfl]
    simp [Nat.add_assoc]

theorem merge_eq {leases} (nonempty : leases ≠ [])
    (unpermitted : ∀ lease ∈ leases, lease.pipelinePermit = false)
    (small : (leases.map length).sum < 2 ^ 64) :
    merge leases = .ok
      { spans := leases.flatMap spans
        length := (leases.map length).sum
        cores := leases.flatMap cores
        pipelinePermit := false } := by
  rw [merge, if_neg nonempty, mergeInto_eq unpermitted (by simpa using small) rfl]
  simp

end RegisteredRxWindowLease

section Window

variable {laneId : UInt16} {transferId : TransferId} {shape : TransferShape}
  {window : ReceiveWindow} {completions : List RegisteredRxCompletion}

theorem Reordered.lengths {leases routing}
    (reordered : Reordered transferId window completions leases routing)
    (permutes : PermutesWindow laneId transferId shape window completions)
    (transfers : ∀ completion ∈ completions, completion.PostedForTransfer) :
    leases.map (·.length) = Regular.lengths shape window := by
  obtain ⟨length, placed⟩ := reordered.filled permutes
  apply ext_getElem? fun index => ?_
  rw [Regular.lengths, getElem?_map, getElem?_map]
  by_cases below : index < window.chunkCount.toNat
  · obtain ⟨completion, listed, rfl⟩ := permutes.exists_cell below
    have acceptable := permutes.acceptable transfers completion listed
    obtain ⟨chunk, decoded, -, -, measured⟩ := acceptable.identity
    have identity := acceptable.identity_eq
    simp only [RegisteredRxCompletion.identity, decoded, some.injEq, Prod.mk.injEq,
      true_and] at identity
    rw [placed completion listed, getElem?_range' below, Nat.one_mul, ← identity]
    exact congrArg some (Regular.of_chunkLen_ok measured).1
  · rw [getElem?_eq_none (by omega), getElem?_eq_none (by simpa using below)]
    rfl

/-- Reordering succeeds exactly on the permutations of a window that is not empty, posted
under sequences of transfers.  Then each lease stands at the offset of the chunk that its
immediate names, the order of the completions does not matter, and leases without a permit
merge into one of the length of the window with the parts of its chunks in order. -/
theorem reorder_sorts (laneId : UInt16) (transferId : TransferId) (shape : TransferShape)
    (window : ReceiveWindow) (completions : List RegisteredRxCompletion) :
    ((∃ leases routing, reorderReceiveWindowCompletions laneId transferId shape window
          completions = .ok (leases, routing)) ↔
        window.chunkCount ≠ 0 ∧ PermutesWindow laneId transferId shape window completions ∧
          ∀ completion ∈ completions, completion.PostedForTransfer) ∧
      ∀ leases routing, reorderReceiveWindowCompletions laneId transferId shape window
          completions = .ok (leases, routing) →
        leases.length = window.chunkCount.toNat ∧
        (∀ completion ∈ completions, ∀ index,
          completion.identity = some (transferId, window.startChunk.toNat + index) →
            leases[index]? = some completion.lease) ∧
        (∀ others, others.Perm completions → reorderReceiveWindowCompletions laneId transferId
          shape window others = .ok (leases, routing)) ∧
        ((∀ completion ∈ completions, completion.lease.pipelinePermit = false) →
          ∃ merged length, RegisteredRxWindowLease.merge leases = .ok merged ∧
            shape.windowLen window = .ok length ∧ merged.length = length ∧
            merged.spans = leases.flatMap (·.spans)) := by
  constructor
  · constructor
    · rintro ⟨leases, routing, returned⟩
      obtain ⟨nonempty, permutes, transfers, -⟩ := (reorder_eq_ok_iff leases routing).mp returned
      exact ⟨nonempty, permutes, transfers⟩
    · rintro ⟨nonempty, permutes, transfers⟩
      obtain ⟨leases, full, -⟩ := permutes.filled
      exact ⟨leases, _, (reorder_eq_ok_iff leases _).mpr
        ⟨nonempty, permutes, transfers, ⟨full.symm, rfl⟩⟩⟩
  intro leases routing returned
  obtain ⟨nonempty, permutes, transfers, reordered⟩ :=
    (reorder_eq_ok_iff leases routing).mp returned
  obtain ⟨length, placed⟩ := reordered.filled permutes
  refine ⟨length, ?_, ?_, ?_⟩
  · intro completion listed index named
    have identity := (permutes.acceptable transfers completion listed).identity_eq
    rw [named, some.injEq, Prod.mk.injEq] at identity
    rw [Nat.add_left_cancel identity.2]
    exact placed completion listed
  · intro others same
    have otherPermutes := permutes.perm same
    obtain ⟨otherLeases, full, -⟩ := otherPermutes.filled
    have other : Reordered transferId window others otherLeases _ := ⟨full.symm, rfl⟩
    obtain ⟨rfl, stats⟩ := reordered.unique other permutes same
    exact (reorder_eq_ok_iff otherLeases routing).mpr ⟨nonempty, otherPermutes,
      fun completion listed => transfers completion (same.subset listed), stats ▸ other⟩
  · intro unpermitted
    have measured := permutes.windowLen nonempty
    have lengths := reordered.lengths permutes transfers
    have longest := shape.metadata.length.toNat_lt
    have small : (leases.map (·.length)).sum < 2 ^ 64 := by
      rw [lengths, Regular.lengths, Covers.sum_run]
      omega
    have some : leases ≠ [] := by
      rintro rfl
      exact nonempty (UInt32.toNat_inj.mp length.symm)
    have merged := RegisteredRxWindowLease.merge_eq some (fun lease listed => ?_) small
    · exact ⟨_, _, merged, measured, congrArg List.sum lengths, rfl⟩
    · obtain ⟨index, found⟩ := mem_iff_getElem?.mp listed
      have below : index < window.chunkCount.toNat := by
        rw [← length]
        exact (List.getElem?_eq_some_iff.mp found).1
      obtain ⟨completion, received, rfl⟩ := permutes.exists_cell below
      rw [placed completion received] at found
      rw [← Option.some.inj found]
      exact unpermitted completion received

end Window

/-- The only chunk of an eight-byte Piece under transfer 1, received on lane 1. -/
def onlyChunk (postedSequence : UInt64) (permit : Bool) : RegisteredRxCompletion where
  laneId := 1
  postedSequence := some postedSequence
  immData := 0x100000000
  slot := ⟨1, 1⟩
  lease := { spans := [], length := 8, cores := [], pipelinePermit := permit }

theorem decode_onlyChunk : decodeTransferSequence 0x100000000 = .ok (1, 0) := by
  decide

theorem permutesWindow_onlyChunk (postedSequence : UInt64) (permit : Bool) :
    PermutesWindow 1 1 (.ofMetadata ⟨0, 8, "", 8, 1⟩) ⟨0, 1⟩
      [onlyChunk postedSequence permit] := by
  constructor
  case lane => simp [onlyChunk]
  case posted => simp [onlyChunk]
  case identities =>
    have identity : (onlyChunk postedSequence permit).identity = some (1, 0) := by
      simp [identity, onlyChunk, decode_onlyChunk]
    simp [identity]
  case lengths =>
    intro completion listed transfer chunk decoded
    rw [mem_singleton] at listed
    subst listed
    obtain ⟨-, rfl⟩ := Prod.mk.inj (Except.ok.inj (decode_onlyChunk.symm.trans decoded))
    rfl

/-- The permutation of an empty window is refused, and so is a receive posted under a sequence
without a transfer; a lease that owns a pipeline permit is put in order but not merged. -/
theorem reorder_refuses_permutations :
    let shape := ofMetadata ⟨0, 8, "", 8, 1⟩
    (PermutesWindow 1 1 shape ⟨0, 0⟩ [] ∧
        ∀ result, reorderReceiveWindowCompletions 1 1 shape ⟨0, 0⟩ [] ≠ .ok result) ∧
      (PermutesWindow 1 1 shape ⟨0, 1⟩ [onlyChunk 0 false] ∧
        ∀ result, reorderReceiveWindowCompletions 1 1 shape ⟨0, 1⟩ [onlyChunk 0 false] ≠
          .ok result) ∧
      PermutesWindow 1 1 shape ⟨0, 1⟩ [onlyChunk 0x100000000 true] ∧
        ∃ leases routing, reorderReceiveWindowCompletions 1 1 shape ⟨0, 1⟩
            [onlyChunk 0x100000000 true] = .ok (leases, routing) ∧
          ∀ merged, RegisteredRxWindowLease.merge leases ≠ .ok merged := by
  refine ⟨⟨⟨by simp, by simp, .refl _, by simp⟩, fun result => ?_⟩,
    ⟨permutesWindow_onlyChunk _ _, fun result => ?_⟩, permutesWindow_onlyChunk _ _, ?_⟩
  · exact nofun
  · exact nofun
  · exact ⟨_, _, rfl, fun merged => nofun⟩

end DragonflyClient.Urma
