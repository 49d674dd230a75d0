import DragonflyClient.Urma.PoolCalls

/-!
Acquiring a TX window takes every slot it asks for or none.

The acquire reserves its slots without `allocate`, and if no lease can be issued it gives
them back through the transitions of a lease that is recycled.
-/

namespace DragonflyClient.Urma

open Library List BufferSlot

def BufferSlot.freed (slot : BufferSlot) : BufferSlot := { slot with state := .free }

/-- A slot apart from its generation. -/
def BufferSlot.anonymous (slot : BufferSlot) : BufferSlot := { slot with generation := 0 }

namespace BufferPool

section Reserve

variable {prepared : List PreparedTx} {pool : BufferPool}

def PreparedTx.leased (item : PreparedTx) (slot : BufferSlot) : BufferSlot :=
  { slot with generation := item.id.generation, state := .leasedTx }

theorem leases_leaseTxSlots (prepared : List PreparedTx) (pool : BufferPool) :
    (prepared.foldl leaseTxSlot pool).leases = pool.leases := by
  induction prepared generalizing pool with
  | nil => rfl
  | cons item others ih => exact ih _

theorem slots_leaseTxSlots_of_notMem {index} (outside : index ∉ prepared.map PreparedTx.index) :
    (prepared.foldl leaseTxSlot pool).slots[index]? = pool.slots[index]? := by
  induction prepared generalizing pool with
  | nil => rfl
  | cons item others ih =>
    rw [map_cons, mem_cons, not_or] at outside
    rw [foldl_cons, ih outside.2]
    simp [leaseTxSlot, Ne.symm outside.1]

theorem slots_leaseTxSlots_of_mem (distinct : (prepared.map PreparedTx.index).Nodup) {item}
    (member : item ∈ prepared) :
    (prepared.foldl leaseTxSlot pool).slots[item.index]? =
      pool.slots[item.index]?.map item.leased := by
  induction prepared generalizing pool with
  | nil => cases member
  | cons first others ih =>
    rw [map_cons, nodup_cons] at distinct
    rw [foldl_cons]
    rcases mem_cons.mp member with rfl | later
    · rw [slots_leaseTxSlots_of_notMem distinct.1]
      simp [leaseTxSlot]
      rfl
    · have different : first.index ≠ item.index := by
        intro same
        exact distinct.1 (same ▸ mem_map_of_mem later)
      rw [ih distinct.2 later]
      simp [leaseTxSlot, different]

end Reserve

section GiveBack

variable {pool : BufferPool}

def LeasedTx (pool : BufferPool) (id : SlotId) : Prop :=
  ∃ slot, pool.slots[slotIndex id]? = some slot ∧ slot.kind = .tx ∧ slot.state = .leasedTx ∧
    slot.generation = id.generation

theorem recycleSlot_of_leasedTx {id} (leased : pool.LeasedTx id) :
    ∃ after, recycleSlot .tx pool id = (after, .ok ()) ∧
      ∀ index, after.slots[index]? =
        if index = slotIndex id then pool.slots[index]?.map freed
        else pool.slots[index]? := by
  obtain ⟨slot, present, kind, state, generation⟩ := leased
  have inside := (List.getElem?_eq_some_iff.mp present).1
  have current : pool.generationAt id.index.toNat = some id.generation := by
    simp [generationAt, present, generation]
  have idle : pool.stateAt id.index.toNat = some .leasedTx := by simp [stateAt, present, state]
  have moved := transition_eq .allocated current idle
  have passing : (pool.setState id.index.toNat .allocated).stateAt id.index.toNat =
      some .allocated := by simp [stateAt_setState, inside]
  have sameKind : (pool.setState id.index.toNat .allocated).kindAt id.index.toNat = some .tx := by
    simp [kindAt, present, kind, setState]
  have released := release_eq (by rwa [generationAt_setState]) passing rfl sameKind
  have recycled : recycleSlot .tx pool id =
      (((pool.setState id.index.toNat .allocated).setState id.index.toNat .free).addFree .tx
        id.index.toNat, .ok ()) := by
    simp only [recycleSlot, leasedState, recycledState, moved, commit_ok, andThen_ok, released]
  refine ⟨_, recycled, fun index => ?_⟩
  simp only [slots_addFree, setState, List.getElem?_modify, slotIndex, eq_comm]
  cases pool.slots[index]? with
  | none => simp
  | some found => split <;> rfl

theorem recycleSlots_of_leasedTx {ids} (distinct : (ids.map slotIndex).Nodup)
    (leased : ∀ id ∈ ids, pool.LeasedTx id) :
    ∃ after, tryEach (recycleSlot .tx) ids pool = (after, .ok ()) ∧
      ∀ index, after.slots[index]? =
        if index ∈ ids.map slotIndex then pool.slots[index]?.map freed
        else pool.slots[index]? := by
  induction ids generalizing pool with
  | nil => exact ⟨pool, rfl, by simp⟩
  | cons id rest ih =>
    rw [map_cons, nodup_cons] at distinct
    rw [forall_mem_cons] at leased
    obtain ⟨between, first, slots⟩ := recycleSlot_of_leasedTx leased.1
    have stillLeased : ∀ other ∈ rest, between.LeasedTx other := by
      intro other member
      have different : slotIndex other ≠ slotIndex id := by
        intro same
        exact distinct.1 (same ▸ mem_map_of_mem member)
      rw [LeasedTx, slots, if_neg different]
      exact leased.2 other member
    obtain ⟨after, others, final⟩ := ih distinct.2 stillLeased
    refine ⟨after, by rw [tryEach, first, andThen_ok, others], ?_⟩
    intro index
    rw [final, slots, map_cons]
    by_cases same : index = slotIndex id
    · rw [if_neg (same ▸ distinct.1), if_pos same, if_pos (by simp [same])]
    · simp [same]

end GiveBack

/-- What an acquired window took: for each chunk a free TX slot of its own, at the offset
of the slot and under its next generation. -/
structure Acquires (pool after : BufferPool) (chunkLengths : List Nat) (lease : TxWindowLease) :
    Prop where
  lengths : lease.layouts.map TxLeaseLayout.length = chunkLengths
  spans : lease.spans = lease.layouts.map fun layout => ⟨layout.offset, layout.length⟩
  distinct : (lease.layouts.map fun layout => slotIndex layout.slot).Nodup
  taken : ∀ layout ∈ lease.layouts, ∃ slot, pool.slots[slotIndex layout.slot]? = some slot ∧
    slot.kind = .tx ∧ slot.state = .free ∧ layout.offset = slot.offset ∧
    layout.slot.generation = nextGeneration slot.generation ∧ layout.slot.generation ≠ 0 ∧
    after.slots[slotIndex layout.slot]? =
      some { slot with generation := layout.slot.generation, state := .leasedTx }
  others : ∀ index, index ∉ (lease.layouts.map fun layout => slotIndex layout.slot) →
    after.slots[index]? = pool.slots[index]?

/-- The same slots are free, every slot is in the state it was in, and the same leases are
active.  The generation of a slot that was taken and given back has moved on. -/
structure Restores (pool after : BufferPool) : Prop where
  free : ∀ kind index, index ∈ after.freeOf kind ↔ index ∈ pool.freeOf kind
  slots : after.slots.map anonymous = pool.slots.map anonymous
  active : after.leases.active = pool.leases.active

/-- In two pools with exact free lists the free slots follow from the slots. -/
theorem Restores.of_slots {pool after} (listed : pool.FreeListed) (listed' : after.FreeListed)
    (slots : ∀ index : Nat, after.slots[index]?.map BufferSlot.anonymous =
      pool.slots[index]?.map BufferSlot.anonymous)
    (active : after.leases.active = pool.leases.active) : Restores pool after := by
  refine ⟨fun kind index => ?_, ?_, active⟩
  · have state : after.stateAt index = pool.stateAt index := by
      have mapped := congrArg (Option.map BufferSlot.state) (slots index)
      rwa [Option.map_map, Option.map_map] at mapped
    have sameKind : after.kindAt index = pool.kindAt index := by
      have mapped := congrArg (Option.map BufferSlot.kind) (slots index)
      rwa [Option.map_map, Option.map_map] at mapped
    rw [listed'.members, listed.members, state, sameKind]
  · apply ext_getElem?
    simpa using slots

/-- The pool in which the prepared slots are reserved and no lease was issued yet. -/
structure Reserves (pool reserved : BufferPool) (prepared : List PreparedTx) : Prop where
  prepares : ∀ item ∈ prepared, pool.Prepares item
  distinct : (prepared.map fun item => slotIndex item.id).Nodup
  leases : reserved.leases = pool.leases
  leased : ∀ item ∈ prepared, reserved.slots[slotIndex item.id]? =
    pool.slots[slotIndex item.id]?.map item.leased
  others : ∀ index, index ∉ (prepared.map fun item => slotIndex item.id) →
    reserved.slots[index]? = pool.slots[index]?

theorem FreeListed.reserves {pool} (listed : pool.FreeListed) {prepared rest}
    (top : pool.freeTx = prepared.map PreparedTx.index ++ rest)
    (prepares : ∀ item ∈ prepared, pool.Prepares item) :
    Reserves pool (prepared.foldl leaseTxSlot { pool with freeTx := rest }) prepared := by
  have distinct : (prepared.map PreparedTx.index).Nodup := by
    have nodup := listed.nodup .tx
    rw [freeOf, top] at nodup
    exact nodup.of_append_left
  have indices : (prepared.map fun item => slotIndex item.id) = prepared.map PreparedTx.index :=
    map_congr_left fun item member => (prepares item member).indexed
  constructor
  case prepares => exact prepares
  case distinct => rwa [indices]
  case leases => exact leases_leaseTxSlots _ _
  case leased =>
    intro item member
    rw [(prepares item member).indexed, slots_leaseTxSlots_of_mem distinct member]
  case others =>
    intro index outside
    rw [slots_leaseTxSlots_of_notMem (indices ▸ outside)]

namespace Reserves

variable {pool reserved : BufferPool} {prepared : List PreparedTx}

theorem acquires (reserves : Reserves pool reserved prepared) (leases : LeaseBook) (length : Nat)
    (core : LeaseRecycle) :
    Acquires pool { reserved with leases } (prepared.map PreparedTx.length)
      { spans := prepared.map fun slot => { data := slot.offset, length := slot.length }
        layouts := prepared.map fun slot =>
          { slot := slot.id, offset := slot.offset, length := slot.length }
        length
        core } := by
  constructor
  case lengths => simp [Function.comp_def]
  case spans => simp [Function.comp_def]
  case distinct => simpa only [map_map, Function.comp_def] using reserves.distinct
  case taken =>
    simp only [forall_mem_map]
    intro item member
    obtain ⟨indexed, fresh, slot, present, kind, state, offset, generation⟩ :=
      reserves.prepares item member
    rw [← indexed] at present
    refine ⟨slot, present, kind, state, offset, generation, fresh, ?_⟩
    rw [reserves.leased item member, present]
    rfl
  case others => simpa only [map_map, Function.comp_def] using reserves.others

theorem restores (reserves : Reserves pool reserved prepared) (listed : pool.FreeListed)
    (listed' : reserved.FreeListed) :
    ∃ after, tryEach (recycleSlot .tx) (prepared.map PreparedTx.id) reserved = (after, .ok ()) ∧
      Restores pool after := by
  have idle : ∀ id ∈ prepared.map PreparedTx.id, reserved.LeasedTx id := by
    rw [forall_mem_map]
    intro item member
    obtain ⟨indexed, -, slot, present, kind, -⟩ := reserves.prepares item member
    refine ⟨item.leased slot, ?_, kind, rfl, rfl⟩
    rw [reserves.leased item member, indexed, present, Option.map_some]
  have indices : (prepared.map PreparedTx.id).map slotIndex =
      prepared.map fun item => slotIndex item.id := by simp [Function.comp_def]
  obtain ⟨after, released, slots⟩ := recycleSlots_of_leasedTx (indices ▸ reserves.distinct) idle
  have final := listed'.recycleSlots .tx (prepared.map PreparedTx.id)
  have leases := leases_recycleSlots .tx (prepared.map PreparedTx.id) reserved
  rw [released] at final leases
  refine ⟨after, released, .of_slots listed final (fun index => ?_) ?_⟩
  · rw [slots, indices]
    split
    next taken =>
      obtain ⟨item, member, rfl⟩ := mem_map.mp taken
      obtain ⟨indexed, -, slot, present, -, state, -⟩ := reserves.prepares item member
      rw [reserves.leased item member, indexed, present]
      simp [anonymous, freed, PreparedTx.leased, state]
    next outside => rw [reserves.others index outside]
  · rw [leases, reserves.leases]

end Reserves

/-- An acquire takes one slot for each chunk, or returns an error and the pool is as before. -/
theorem acquire_tx_window_all_or_nothing {pool : BufferPool} (listed : pool.FreeListed)
    (chunkLengths : List Nat) :
    (∀ after lease, pool.acquireTxWindowChunks chunkLengths = (after, .ok lease) →
      Acquires pool after chunkLengths lease) ∧
    ∀ after error, pool.acquireTxWindowChunks chunkLengths = (after, .error error) →
      Restores pool after := by
  unfold acquireTxWindowChunks
  cases checked : pool.prepareTxWindow chunkLengths with
  | error error =>
    refine ⟨by simp, ?_⟩
    rintro _ _ ⟨⟩
    exact ⟨fun _ _ => Iff.rfl, rfl, rfl⟩
  | ok answer =>
    obtain ⟨prepared, length⟩ := answer
    obtain ⟨top, lengths, prepares⟩ := of_prepareTxWindow_ok checked
    have reserves := listed.reserves top prepares
    have listed' := listed.leaseTxSlots top fun item member => (prepares item member).fresh
    dsimp only
    generalize prepared.foldl leaseTxSlot _ = reserved at reserves listed' ⊢
    cases reserved.leases.issue .tx (prepared.map PreparedTx.id) with
    | ok answer =>
      refine ⟨?_, by simp⟩
      rintro _ _ ⟨⟩
      rw [← lengths]
      exact reserves.acquires _ _ _
    | error error =>
      obtain ⟨after, released, restores⟩ := reserves.restores listed listed'
      have looped : tryEach (fun pool slot =>
          andThen (commit pool (pool.transition slot .leasedTx .allocated)) fun pool =>
            commit pool (pool.release slot)) (prepared.map PreparedTx.id) reserved =
          (after, .ok ()) := released
      simp only [looped]
      refine ⟨by simp, ?_⟩
      rintro _ _ ⟨⟩
      exact restores

/-- Two chunks take both TX slots of a pool; a third slot is refused with the pool as it was. -/
theorem acquire_tx_window_two_slots :
    ∃ pool after lease, create ⟨64, 2, 1, 4096⟩ 0 (.ok ()) = .ok pool ∧
      pool.acquireTxWindowChunks [10, 20] = (after, .ok lease) ∧
      Acquires pool after [10, 20] lease ∧
      Restores pool (pool.acquireTxWindowChunks [10, 20, 30]).1 := by
  have created : create ⟨64, 2, 1, 4096⟩ 0 (.ok ()) =
      .ok ((create ⟨64, 2, 1, 4096⟩ 0 (.ok ())).toOption.get rfl) := rfl
  have listed := freeListed_create created
  exact ⟨_, _, _, created, rfl, (acquire_tx_window_all_or_nothing listed [10, 20]).1 _ _ rfl,
    (acquire_tx_window_all_or_nothing listed [10, 20, 30]).2 _ _ rfl⟩

end BufferPool

end DragonflyClient.Urma
