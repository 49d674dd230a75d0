import DragonflyClient.Urma.Window

/-!
Leases and the custody map: issuing receive and send leases, and recycling
them.  `Distinct` is the only fact about the lease book these results need.
-/

namespace DragonflyClient.Urma

open Library List Function BufferPool

namespace LeaseBook

def Distinct (book : LeaseBook) : Prop :=
  ∀ leaseId record, book.active.lookup leaseId = some record →
    (record.slots.map slotIndex).Nodup

def issued (book : LeaseBook) (kind : LeaseKind) (slots : List SlotId) : LeaseBook :=
  { book with
    nextLeaseId := book.nextLeaseId + 1
    active := book.active.insert book.nextLeaseId { kind, slots } }

theorem of_issue_ok {book after : LeaseBook} {kind slots token}
    (granted : book.issue kind slots = .ok (after, token)) :
    slots ≠ [] ∧ after = book.issued kind slots ∧
      token = { poolId := book.poolId, leaseId := book.nextLeaseId } := by
  unfold issue checkedAdd at granted
  split at granted
  · cases granted
  next nonempty =>
    split at granted
    · cases granted
    next next bounded =>
      cases granted
      refine ⟨nonempty, ?_, rfl⟩
      split at bounded
      · rw [← Option.some.inj bounded]
        rfl
      · cases bounded

theorem of_record_ok {book : LeaseBook} {token record} (found : book.record token = .ok record) :
    token.poolId = book.poolId ∧ book.active.lookup token.leaseId = some record := by
  unfold LeaseBook.record at found
  split at found
  · cases found
  next own =>
    split at found
    · cases found
    next same => exact ⟨not_not.mp own, by rw [same, Except.ok.inj found]⟩

theorem Distinct.issued {book : LeaseBook} (distinct : book.Distinct) (kind : LeaseKind) {slots}
    (nodup : (slots.map slotIndex).Nodup) :
    (book.issued kind slots).Distinct := by
  intro leaseId record found
  simp only [LeaseBook.issued, Table.lookup_insert_eq] at found
  split at found
  · rw [← Option.some.inj found]
    exact nodup
  · exact distinct leaseId record found

theorem Distinct.erase {book : LeaseBook} (distinct : book.Distinct) (leaseId : Nat) :
    Distinct { book with active := book.active.erase leaseId } := by
  intro other record found
  simp only [Table.lookup_erase_eq] at found
  split at found
  · cases found
  · exact distinct other record found

end LeaseBook

/-- A recycle that succeeded: the record is gone and its slots are free. -/
structure Recycled (custody : Nat → Custody) (tables : OwnerTables) (token : LeaseRecycle)
    (record : LeaseRecord) (pool : BufferPool) : Prop where
  found : tables.pool.leases.record token = .ok record
  held : HoldsAll custody tables.pool record.slots (.leased record.kind)
  agrees : Agrees (assign custody record.slots .free) { tables with pool }
  same : SamePool
    { tables.pool with leases := { tables.pool.leases with
        active := tables.pool.leases.active.erase token.leaseId } } pool

def TxWindowLease.slots (lease : TxWindowLease) : List SlotId :=
  lease.layouts.map TxLeaseLayout.slot

/-- A TX window was leased: its slots were free and are now covered by a new
record of the book. -/
structure Acquired (custody : Nat → Custody) (tables : OwnerTables)
    (chunkLengths : List Nat) (lease : TxWindowLease) (pool : BufferPool) : Prop where
  lengths : lease.layouts.map TxLeaseLayout.length = chunkLengths
  agrees : Agrees (assign custody lease.slots (.leased .tx)) { tables with pool }
  held : HoldsAll (assign custody lease.slots (.leased .tx)) pool lease.slots (.leased .tx)
  core : lease.core =
    { poolId := tables.pool.leases.poolId, leaseId := tables.pool.leases.nextLeaseId }
  frame : SameFrame { tables.pool with leases := tables.pool.leases.issued .tx lease.slots } pool
  wereFree : ∀ id ∈ lease.slots, custody (slotIndex id) = .free
  generation : ∀ index, index ∉ lease.slots.map slotIndex →
    pool.generationAt index = tables.pool.generationAt index

namespace Agrees

variable {custody : Nat → Custody} {tables : OwnerTables}

section

variable (agrees : Agrees custody tables)
include agrees

theorem holds_of_leasedState {id kind}
    (generation : tables.pool.generationAt (slotIndex id) = some id.generation)
    (state : tables.pool.stateAt (slotIndex id) = some (Custody.leased kind).state) :
    Holds custody tables.pool id (.leased kind) := by
  refine ⟨generation, ?_⟩
  have inside : slotIndex id < tables.pool.slots.length := by
    simp only [BufferPool.stateAt, Option.map_eq_some_iff] at state
    obtain ⟨slot, found, -⟩ := state
    exact (List.getElem?_eq_some_iff.mp found).1
  exact Custody.eq_leased_of_state _
    (Option.some.inj ((agrees.state _ inside).symm.trans state))

theorem checkRecycle {kind slots} (checked : tables.pool.checkRecycle kind slots = .ok ()) :
    ∀ id ∈ slots, Holds custody tables.pool id (.leased kind) := by
  induction slots with
  | nil => simp
  | cons id rest ih =>
    simp only [BufferPool.checkRecycle] at checked
    split at checked
    · cases checked
    next slot fields =>
      split at checked
      next leased =>
        refine forall_mem_cons.mpr ⟨?_, ih checked⟩
        obtain ⟨generation, state⟩ := of_slotFields_ok fields
        refine agrees.holds_of_leasedState generation ?_
        rw [state, leased.2]
        cases kind <;> rfl
      next => cases checked

theorem recycleSlots (kind : LeaseKind)
    (slots : List SlotId) (all : HoldsAll custody tables.pool slots (.leased kind)) :
    ∃ pool, tryEach (recycleSlot kind) slots tables.pool = (pool, .ok ()) ∧
      Agrees (assign custody slots .free) { tables with pool } ∧
      SamePool tables.pool pool := by
  induction slots generalizing custody tables with
  | nil => exact ⟨tables.pool, rfl, by simpa using agrees, .refl _⟩
  | cons id rest ih =>
    -- the state between the two writes: Allocated for TX, RecvCompleted for RX
    obtain ⟨between, step, releasable, leasedState, recycledState⟩ :
        ∃ between : Custody, (Custody.leased kind).Moves between ∧
          releasable between.state = true ∧
          (Custody.leased kind).state = leasedState kind ∧
          between.state = recycledState kind := by
      cases kind with
      | rx => exact ⟨.completed .recv, ⟨by simp, by simp, rfl, rfl, fun _ fits => fits⟩,
          rfl, rfl, rfl⟩
      | tx => exact ⟨.reserved .tx, ⟨by simp, by simp, rfl, rfl, fun _ fits => fits⟩, rfl, rfl, rfl⟩
    have moved := agrees.transition between all.head step
    have held : Holds (update custody (slotIndex id) between)
        (tables.pool.setState (slotIndex id) between.state) id between :=
      ⟨by simpa using all.head.generation, update_self ..⟩
    obtain ⟨released, freed, agrees', same⟩ :=
      (agrees.move all.head.custody step).release held releasable
    rw [update_idem] at agrees'
    have since := (SamePool.setState _ _ _).trans same
    obtain ⟨pool, looped, final, same'⟩ := ih agrees' (all.tail since .free)
    refine ⟨pool, ?_, ?_, since.trans same'⟩
    · rw [leasedState, recycledState] at moved
      rw [recycledState] at freed looped
      simp only [tryEach, recycleSlot, moved, commit_ok, andThen_ok, freed]
      exact looped
    · rwa [assign_update] at final

theorem recycle_checked (distinct : tables.pool.leases.Distinct) {token : LeaseRecycle} {record}
    (found : tables.pool.leases.record token = .ok record)
    (checked : tables.pool.checkRecycle record.kind record.slots = .ok ()) :
    ∃ pool, tables.pool.recycle token record.kind = (pool, .ok record.slots.length) ∧
      Recycled custody tables token record pool := by
  have held : HoldsAll custody tables.pool record.slots (.leased record.kind) :=
    ⟨distinct _ _ (LeaseBook.of_record_ok found).2, agrees.checkRecycle checked⟩
  obtain ⟨pool, looped, final, same⟩ :=
    (agrees.congr_pool { tables.pool with leases := { tables.pool.leases with
      active := tables.pool.leases.active.erase token.leaseId } } rfl rfl rfl).recycleSlots
      record.kind record.slots ⟨held.distinct, fun id member =>
        ⟨(held.held id member).generation, (held.held id member).custody⟩⟩
  refine ⟨pool, ?_, found, held, final, same⟩
  simp only [recycle, found, ne_eq, not_true_eq_false, if_false, checked, LeaseBook.finish, looped]
  rfl

theorem recycle (distinct : tables.pool.leases.Distinct)
    (token : LeaseRecycle) (expected : LeaseKind) :
    (∃ error, tables.pool.recycle token expected = (tables.pool, .error error)) ∨
    ∃ record pool, record.kind = expected ∧
      tables.pool.recycle token expected = (pool, .ok record.slots.length) ∧
      Recycled custody tables token record pool := by
  cases found : tables.pool.leases.record token with
  | error error => exact .inl ⟨error, by simp only [BufferPool.recycle, found]⟩
  | ok record =>
    by_cases sameKind : record.kind = expected
    · subst sameKind
      cases checked : tables.pool.checkRecycle record.kind record.slots with
      | error error =>
        exact .inl ⟨error, by simp only [BufferPool.recycle, found, ne_eq, not_true_eq_false,
          if_false, checked]⟩
      | ok =>
        obtain ⟨pool, freed, recycled⟩ := agrees.recycle_checked distinct found checked
        exact .inr ⟨record, pool, rfl, freed, recycled⟩
    · exact .inl ⟨_, by simp only [BufferPool.recycle, found, if_pos sameKind, ne_eq]; rfl⟩

theorem leaseCompletedRxWindow (completions : List (SlotId × Nat))
    (all : HoldsAll custody tables.pool (completions.map Prod.fst) (.completed .recv)) :
    (∃ error pool, tables.pool.leaseCompletedRxWindow completions = (pool, .error error) ∧
      Agrees custody { tables with pool } ∧ SamePool tables.pool pool) ∨
    ∃ pool lease, tables.pool.leaseCompletedRxWindow completions = (pool, .ok lease) ∧
      Agrees (assign custody (completions.map Prod.fst) (.leased .rx)) { tables with pool } ∧
      lease.cores = [{ poolId := tables.pool.leases.poolId
                       leaseId := tables.pool.leases.nextLeaseId }] ∧
      SamePool { tables.pool with
        leases := tables.pool.leases.issued .rx (completions.map Prod.fst) } pool := by
  have unchanged : ∀ error, ∃ failure pool,
      (tables.pool, (Except.error error : Result RegisteredRxWindowLease)) =
        (pool, .error failure) ∧
      Agrees custody { tables with pool } ∧ SamePool tables.pool pool := fun error =>
    ⟨error, tables.pool, rfl, agrees, .refl _⟩
  unfold BufferPool.leaseCompletedRxWindow
  split
  · exact .inl (unchanged _)
  cases tables.pool.segmentLength with
  | error error => exact .inl (unchanged error)
  | ok registeredLen =>
    dsimp only
    cases tables.pool.rxLeaseSpans registeredLen completions [] 0 none with
    | error error => exact .inl (unchanged error)
    | ok spans =>
      have step : (Custody.completed .recv).Moves (.leased .rx) :=
        ⟨by simp, by simp, rfl, rfl, fun _ fits => fits⟩
      obtain ⟨pool, moved, leased, same⟩ := agrees.moveAll all step
      rw [show (Custody.completed .recv).state = SlotState.recvCompleted from rfl,
        show (Custody.leased .rx).state = SlotState.leasedRx from rfl] at moved
      simp only [moved]
      cases granted : pool.leases.issue .rx (completions.map Prod.fst) with
      | error error =>
        have back : (Custody.leased .rx).Moves (.completed .recv) :=
          ⟨by simp, by simp, rfl, rfl, fun _ fits => fits⟩
        obtain ⟨pool', restored, agrees', same'⟩ :=
          leased.moveAll (all.assigned same (.leased .rx)) back
        rw [show (Custody.completed .recv).state = SlotState.recvCompleted from rfl,
          show (Custody.leased .rx).state = SlotState.leasedRx from rfl] at restored
        rw [assign_assign, all.assign_self] at agrees'
        refine .inl ⟨error, pool', ?_, agrees', same.trans same'⟩
        simp only [restored]
      | ok answer =>
        obtain ⟨leases, token⟩ := answer
        obtain ⟨-, rfl, rfl⟩ := LeaseBook.of_issue_ok granted
        rw [same.leases]
        exact .inr ⟨_, _, rfl, leased.congr_pool _ rfl rfl rfl, rfl, same.withLeases _⟩

theorem leaseTxSlots {prepared : List BufferPool.PreparedTx} {rest}
    (top : tables.pool.freeTx = prepared.map BufferPool.PreparedTx.index ++ rest)
    (identities : ∀ item ∈ prepared, slotIndex item.id = item.index ∧ item.id.generation ≠ 0) :
    let slots := prepared.map BufferPool.PreparedTx.id
    let pool := prepared.foldl BufferPool.leaseTxSlot { tables.pool with freeTx := rest }
    Claimed custody tables (.leased .tx) slots pool := by
  induction prepared generalizing custody tables with
  | nil =>
    have same : { tables.pool with freeTx := rest } = tables.pool := by
      rw [show rest = tables.pool.freeTx from top.symm]
    rw [foldl_nil, same]
    exact .nil agrees _
  | cons item others ih =>
    obtain ⟨indexed, fresh⟩ := identities item mem_cons_self
    have member : slotIndex item.id ∈ tables.pool.freeOf .tx := by
      simp [BufferPool.freeOf, top, indexed]
    have claimed := ih (agrees.claim (.leased .tx) member fresh (by simp) rfl rfl)
      (by simp [BufferPool.claim, top, indexed])
      (fun other later => identities other (mem_cons_of_mem _ later))
    refine .cons agrees member ?_ (by simp)
    rw [indexed] at claimed ⊢
    exact claimed

end

end Agrees

variable {pool : BufferPool}

theorem of_freeTxCandidates_ok {count indices} (found : pool.freeTxCandidates count = .ok indices) :
    indices = pool.freeTx.take count ∧ count ≤ pool.freeTx.length := by
  unfold freeTxCandidates at found
  by_cases accepting : pool.accepting = true
  · simp only [accepting, if_true] at found
    split at found
    · cases found
    next enough =>
      rw [not_or, Nat.not_lt] at enough
      exact ⟨(Except.ok.inj found).symm, enough.2⟩
  · simp only [accepting, Bool.false_eq_true, if_false] at found
    split at found
    · cases found
    next enough => omega

/-- A prepared slot: a free TX slot, its own offset and its next identity. -/
structure BufferPool.Prepares (pool : BufferPool) (item : PreparedTx) : Prop where
  indexed : slotIndex item.id = item.index
  fresh : item.id.generation ≠ 0
  found : ∃ slot, pool.slots[item.index]? = some slot ∧ slot.kind = .tx ∧ slot.state = .free ∧
    item.offset = slot.offset ∧ item.id.generation = nextGeneration slot.generation

theorem of_prepareTx_ok {registeredLen candidate item}
    (found : pool.prepareTx registeredLen candidate = .ok item) :
    (item.index, item.length) = candidate ∧ pool.Prepares item := by
  unfold prepareTx at found
  dsimp only at found
  split at found
  · cases found
  next slot present =>
  split at found
  · cases found
  next usable =>
  simp only [ne_eq, not_or, not_not] at usable
  split at found
  · cases found
  split at found
  · cases found
  split at found
  · cases found
  next identity named =>
  cases found
  unfold SlotId.new at named
  rw [if_neg (nextGeneration_ne_zero _)] at named
  split at named
  next small =>
    cases named
    exact ⟨rfl, by simp [slotIndex]; omega, nextGeneration_ne_zero _, slot, present, usable.1,
      usable.2, rfl, rfl⟩
  next => cases named

theorem checks_of_prepareTxWindow_ok {chunkLengths prepared length}
    (checked : pool.prepareTxWindow chunkLengths = .ok (prepared, length)) :
    (∀ chunk ∈ chunkLengths, chunk < 2 ^ 32) ∧
      totalLength chunkLengths 0 = .ok length ∧
      chunkLengths.length ≤ pool.freeTx.length ∧
      ∃ registeredLen, collect (pool.prepareTx registeredLen)
        ((pool.freeTx.take chunkLengths.length).zip chunkLengths) = .ok prepared := by
  unfold prepareTxWindow at checked
  split at checked
  · cases checked
  split at checked
  · cases checked
  dsimp only at checked
  split at checked
  · cases checked
  split at checked
  · cases checked
  next small =>
  split at checked
  · cases checked
  next total added =>
  split at checked
  · cases checked
  next registeredLen _ =>
  split at checked
  · cases checked
  next indices candidates =>
  obtain ⟨rfl, available⟩ := of_freeTxCandidates_ok candidates
  cases collected : collect (pool.prepareTx registeredLen)
      ((pool.freeTx.take chunkLengths.length).zip chunkLengths) with
  | error error =>
    rw [collected] at checked
    cases checked
  | ok items =>
    rw [collected] at checked
    cases checked
    exact ⟨by simpa using small, added, available, registeredLen, collected⟩

/-- The slots that `acquire_tx_window_chunks` validated are the top of the free
stack, each with a live identity. -/
theorem of_prepareTxWindow_ok {chunkLengths prepared length}
    (checked : pool.prepareTxWindow chunkLengths = .ok (prepared, length)) :
    pool.freeTx = prepared.map PreparedTx.index ++ pool.freeTx.drop chunkLengths.length ∧
      prepared.map PreparedTx.length = chunkLengths ∧
      ∀ item ∈ prepared, pool.Prepares item := by
  obtain ⟨-, -, available, registeredLen, collected⟩ := checks_of_prepareTxWindow_ok checked
  obtain ⟨shape, identities⟩ := collect_ok
    (fun item : PreparedTx => (item.index, item.length)) id
    pool.Prepares (fun _ _ found => of_prepareTx_ok found) collected
  rw [map_id] at shape
  refine ⟨?_, ?_, identities⟩
  · have indices := congrArg (List.map Prod.fst) shape
    rw [map_map, map_fst_zip (by simp [available])] at indices
    conv_lhs => rw [← take_append_drop chunkLengths.length pool.freeTx]
    rw [← indices]
    rfl
  · have lengths := congrArg (List.map Prod.snd) shape
    rw [map_map, map_snd_zip (by simp [available])] at lengths
    exact lengths

namespace Agrees

variable {custody : Nat → Custody} {tables : OwnerTables}

theorem acquireTxWindowChunks (agrees : Agrees custody tables) (chunkLengths : List Nat) :
    (∃ error pool, tables.pool.acquireTxWindowChunks chunkLengths = (pool, .error error) ∧
      Agrees custody { tables with pool } ∧ SameFrame tables.pool pool ∧
      ∀ index, custody index ≠ .free → pool.generationAt index = tables.pool.generationAt index) ∨
    ∃ pool lease, tables.pool.acquireTxWindowChunks chunkLengths = (pool, .ok lease) ∧
      Acquired custody tables chunkLengths lease pool := by
  unfold BufferPool.acquireTxWindowChunks
  cases checked : tables.pool.prepareTxWindow chunkLengths with
  | error error =>
    exact .inl ⟨error, tables.pool, rfl, agrees, .refl _, fun _ _ => rfl⟩
  | ok answer =>
    obtain ⟨prepared, length⟩ := answer
    obtain ⟨top, lengths, identities⟩ := of_prepareTxWindow_ok checked
    obtain ⟨leased, held, frame, wereFree, generation⟩ := agrees.leaseTxSlots top fun item member =>
      ⟨(identities item member).indexed, (identities item member).fresh⟩
    dsimp only
    generalize reservedEq : prepared.foldl BufferPool.leaseTxSlot
      { tables.pool with freeTx := tables.pool.freeTx.drop chunkLengths.length } = reserved
    rw [reservedEq] at leased held frame generation
    cases granted : reserved.leases.issue .tx (prepared.map BufferPool.PreparedTx.id) with
    | ok answer =>
      obtain ⟨leases, token⟩ := answer
      obtain ⟨-, rfl, rfl⟩ := LeaseBook.of_issue_ok granted
      refine .inr ⟨_, _, rfl, ?_⟩
      have slots : TxWindowLease.slots
          { spans := prepared.map fun slot => ⟨slot.offset, slot.length⟩
            layouts := prepared.map fun slot => ⟨slot.id, slot.offset, slot.length⟩
            length
            core := ⟨reserved.leases.poolId, reserved.leases.nextLeaseId⟩ } =
          prepared.map BufferPool.PreparedTx.id := by
        simp [TxWindowLease.slots, comp_def]
      exact
        { lengths := by
            rw [← lengths, map_map]
            rfl
          agrees := by
            rw [slots]
            exact leased.congr_pool _ rfl rfl rfl
          held := by
            rw [slots]
            exact ⟨held.distinct, fun id member =>
              ⟨(held.held id member).generation, (held.held id member).custody⟩⟩
          core := by rw [frame.leases]
          frame := by
            rw [slots, frame.leases]
            exact frame.withLeases _
          wereFree := by rwa [slots]
          generation := by rwa [slots] }
    | error error =>
      obtain ⟨pool, released, agrees', same⟩ := leased.recycleSlots _ _ held
      have restored : assign (assign custody (prepared.map BufferPool.PreparedTx.id)
          (.leased .tx)) (prepared.map BufferPool.PreparedTx.id) .free = custody := by
        funext index
        simp only [assign]
        split
        next listed =>
          obtain ⟨id, member, rfl⟩ := mem_map.mp listed
          exact (wereFree id member).symm
        next => rfl
      rw [restored] at agrees'
      refine .inl ⟨error, pool, ?_, agrees', frame.trans same.toSameFrame, ?_⟩
      · have looped : tryEach (fun pool slot =>
            andThen (commit pool (pool.transition slot .leasedTx .allocated)) fun pool =>
              commit pool (pool.release slot)) (prepared.map BufferPool.PreparedTx.id)
            reserved = (pool, .ok ()) := released
        simp only [looped]
      · intro index busy
        rw [same.generation]
        refine generation index fun listed => ?_
        obtain ⟨id, member, rfl⟩ := mem_map.mp listed
        exact busy (wereFree id member)

end Agrees

end DragonflyClient.Urma
