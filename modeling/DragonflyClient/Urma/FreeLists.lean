import DragonflyClient.Urma.Leasing

/-!
The free lists of the buffer pool under arbitrary calls.

Whatever slot ids, tokens and lengths the calls are given, a pool changes in three ways
only: a slot in use changes its state and stays in use, a slot in use goes back to the
free list of its kind, or a listed slot is taken under a new generation.
-/

namespace DragonflyClient.Urma

open Library Option BufferPool

namespace BufferPool

/-- Each free list holds the free slots of its kind, once each, and every slot in use has
a live generation. -/
structure FreeListed (pool : BufferPool) : Prop where
  nodup : ∀ kind, (pool.freeOf kind).Nodup
  members : ∀ kind index, index ∈ pool.freeOf kind ↔
    pool.stateAt index = some .free ∧ pool.kindAt index = some kind
  live : ∀ index state, pool.stateAt index = some state → state ≠ .free →
    ∃ generation, pool.generationAt index = some generation ∧ generation ≠ 0

theorem lt_of_stateAt {pool : BufferPool} {index state} (found : pool.stateAt index = some state) :
    index < pool.slots.length := by
  obtain ⟨slot, present, -⟩ := map_eq_some_iff.mp found
  exact (List.getElem?_eq_some_iff.mp present).1

theorem of_release_ok {pool after : BufferPool} {id} (released : pool.release id = .ok after) :
    ∃ state kind, pool.generationAt id.index.toNat = some id.generation ∧
      pool.stateAt id.index.toNat = some state ∧ releasable state = true ∧
      pool.kindAt id.index.toNat = some kind ∧
      after = (pool.setState id.index.toNat .free).addFree kind id.index.toNat := by
  cases present : pool.slots[id.index.toNat]? with
  | none => simp [release, present] at released
  | some slot =>
    have state : pool.stateAt id.index.toNat = some slot.state := by simp [stateAt, present]
    have kind : pool.kindAt id.index.toNat = some slot.kind := by simp [kindAt, present]
    by_cases current : slot.generation = id.generation
    · have generation : pool.generationAt id.index.toNat = some id.generation := by
        simp [generationAt, present, current]
      by_cases allowed : releasable slot.state = true
      · rw [release_eq generation state allowed kind] at released
        exact ⟨_, _, generation, state, allowed, kind, (Except.ok.inj released).symm⟩
      · simp [release, present, current, allowed] at released
    · simp [release, present, current] at released

theorem of_transition_ok_eq {pool after : BufferPool} {id source target}
    (moved : pool.transition id source target = .ok after) :
    pool.generationAt id.index.toNat = some id.generation ∧
      pool.stateAt id.index.toNat = some source ∧
      after = pool.setState id.index.toNat target := by
  obtain ⟨generation, state⟩ := of_transition_ok moved
  rw [transition_eq target generation state] at moved
  exact ⟨generation, state, (Except.ok.inj moved).symm⟩

namespace FreeListed

variable {pool : BufferPool}

section

variable (listed : pool.FreeListed)
include listed

theorem congr {after : BufferPool} (slots : after.slots = pool.slots)
    (freeTx : after.freeTx = pool.freeTx) (freeRx : after.freeRx = pool.freeRx) :
    after.FreeListed := by
  have freeOf : after.freeOf = pool.freeOf := by
    funext kind
    cases kind <;> assumption
  constructor
  case nodup => simpa only [freeOf] using listed.nodup
  case members => simpa only [freeOf, stateAt, kindAt, slots] using listed.members
  case live => simpa only [stateAt, generationAt, slots] using listed.live

theorem move {index : Nat} {source target} (found : pool.stateAt index = some source)
    (busy : source ≠ .free) (stillBusy : target ≠ .free) :
    (pool.setState index target).FreeListed := by
  have inside := lt_of_stateAt found
  constructor
  case nodup => simpa using listed.nodup
  case members =>
    intro kind other
    rw [freeOf_setState, listed.members, stateAt_setState, kindAt_setState]
    by_cases same : other = index
    · subst same
      simp [inside, found, busy, stillBusy]
    · simp [same]
  case live =>
    intro other state later inUse
    rw [generationAt_setState]
    rw [stateAt_setState] at later
    by_cases same : other = index
    · subst same
      exact listed.live _ _ found busy
    · rw [if_neg (by simp [same])] at later
      exact listed.live other state later inUse

theorem free {index : Nat} {state kind} (found : pool.stateAt index = some state)
    (busy : state ≠ .free) (sameKind : pool.kindAt index = some kind) :
    ((pool.setState index .free).addFree kind index).FreeListed := by
  have inside := lt_of_stateAt found
  have absent : ∀ kind, index ∉ pool.freeOf kind := by
    intro kind member
    rw [listed.members, found] at member
    exact busy (some.inj member.1)
  constructor
  case nodup =>
    intro other
    apply nodup_freeOf_addFree
    · simpa using absent kind
    · simpa using listed.nodup other
  case members =>
    intro other candidate
    rw [mem_freeOf_addFree, freeOf_setState, listed.members]
    rw [stateAt_addFree, kindAt_addFree, stateAt_setState, kindAt_setState]
    by_cases same : candidate = index
    · subst same
      simp [inside, found, busy, sameKind, eq_comm]
    · simp [same]
  case live =>
    intro other state later inUse
    rw [generationAt_addFree, generationAt_setState]
    rw [stateAt_addFree, stateAt_setState] at later
    by_cases same : other = index
    · subst same
      rw [if_pos ⟨rfl, inside⟩] at later
      exact absurd (some.inj later).symm inUse
    · rw [if_neg (by simp [same])] at later
      exact listed.live other state later inUse

theorem claim {kind : SlotKind} {index generation state} (member : index ∈ pool.freeOf kind)
    (fresh : generation ≠ 0) (busy : state ≠ .free) :
    (pool.claim kind index generation state).FreeListed := by
  obtain ⟨found, sameKind⟩ := (listed.members kind index).mp member
  have inside := lt_of_stateAt found
  constructor
  case nodup =>
    intro other
    rw [freeOf_claim]
    split
    · exact (listed.nodup other).erase index
    · exact listed.nodup other
  case members =>
    intro other candidate
    have erased : candidate ∈ (pool.claim kind index generation state).freeOf other ↔
        candidate ≠ index ∧ candidate ∈ pool.freeOf other := by
      rw [freeOf_claim]
      split
      next same => rw [(listed.nodup other).mem_erase_iff]
      next different =>
        refine ⟨fun stays => ⟨?_, stays⟩, And.right⟩
        rintro rfl
        have other' := ((listed.members other candidate).mp stays).2
        exact different (some.inj (other'.symm.trans sameKind))
    rw [erased, listed.members, stateAt_claim, kindAt_claim]
    by_cases same : candidate = index
    · subst same
      simp [inside, busy]
    · simp [same]
  case live =>
    intro other otherState later inUse
    rw [generationAt_claim]
    rw [stateAt_claim] at later
    by_cases same : other = index
    · subst same
      exact ⟨generation, by simp [inside], fresh⟩
    · rw [if_neg (by simp [same])] at later ⊢
      exact listed.live other otherState later inUse

theorem transition (id : SlotId) {source target : SlotState}
    (busy : source ≠ .free) (stillBusy : target ≠ .free) :
    (commit pool (pool.transition id source target)).1.FreeListed := by
  cases moved : pool.transition id source target with
  | error error => exact listed
  | ok after =>
    obtain ⟨-, found, rfl⟩ := of_transition_ok_eq moved
    exact listed.move found busy stillBusy

theorem release (id : SlotId) : (commit pool (pool.release id)).1.FreeListed := by
  cases released : pool.release id with
  | error error => exact listed
  | ok after =>
    obtain ⟨state, kind, -, found, allowed, sameKind, rfl⟩ := of_release_ok released
    apply listed.free found _ sameKind
    rintro rfl
    simp [releasable] at allowed

/-- Taking the first slot of a free list is a claim, also when its index has no identity. -/
theorem take (kind : SlotKind) {index rest} (first : pool.freeOf kind = index :: rest) :
    (allocate.take (match kind with
      | .tx => { pool with freeTx := rest }
      | .rx => { pool with freeRx := rest }) index).1.FreeListed := by
  have member : index ∈ pool.freeOf kind := by simp [first]
  obtain ⟨found, -⟩ := (listed.members kind index).mp member
  obtain ⟨slot, present, -⟩ := map_eq_some_iff.mp found
  have claimed := listed.claim member (nextGeneration_ne_zero slot.generation)
    (show SlotState.allocated ≠ .free by decide)
  have modified : pool.slots.set index
      { slot with generation := nextGeneration slot.generation, state := .allocated } =
      pool.slots.modify index fun slot' =>
        { slot' with generation := nextGeneration slot.generation, state := .allocated } := by
    rw [List.modify_eq_set_getElem?, present]
    rfl
  cases kind with
  | tx =>
    rw [show pool.freeOf .tx = pool.freeTx from rfl] at first
    simpa [allocate.take, present, modified, BufferPool.claim, first] using claimed
  | rx =>
    rw [show pool.freeOf .rx = pool.freeRx from rfl] at first
    simpa [allocate.take, present, modified, BufferPool.claim, first] using claimed

theorem allocate (kind : SlotKind) : (pool.allocate kind).1.FreeListed := by
  unfold BufferPool.allocate
  split
  · cases kind with
    | tx =>
      cases first : pool.freeTx with
      | nil => exact listed
      | cons index rest => exact listed.take .tx first
    | rx =>
      cases first : pool.freeRx with
      | nil => exact listed
      | cons index rest => exact listed.take .rx first
  · exact listed

theorem allocateRx (count : Nat) : (allocateRx count pool).1.FreeListed := by
  induction count generalizing pool with
  | zero => exact listed
  | succ count ih =>
    have taken := listed.allocate .rx
    unfold allocateRx
    split
    next failed =>
      rw [failed] at taken
      exact taken
    next allocated =>
      rw [allocated] at taken
      exact ih taken

theorem allocateRxWindow (count : Nat) : (pool.allocateRxWindow count).1.FreeListed := by
  unfold BufferPool.allocateRxWindow
  split
  · exact listed
  split
  · exact listed
  · exact listed.allocateRx count

theorem releaseUnpostedRxWindow (slots : List SlotId) :
    (pool.releaseUnpostedRxWindow slots).1.FreeListed :=
  tryEach_invariant FreeListed (fun _ slot _ kept => kept.release slot) listed

theorem leaseCompletedRxWindow (completions : List (SlotId × Nat)) :
    (pool.leaseCompletedRxWindow completions).1.FreeListed := by
  -- a loop of transitions keeps the lists even when it stops half way
  have moves : ∀ source target : SlotState, source ≠ .free → target ≠ .free →
      ∀ {pool : BufferPool}, pool.FreeListed → ∀ slots : List SlotId,
        (tryEach (fun pool slot => commit pool (pool.transition slot source target))
          slots pool).1.FreeListed := by
    intro source target busy stillBusy pool listed slots
    exact tryEach_invariant FreeListed
      (fun _ slot _ kept => kept.transition slot busy stillBusy) listed
  have leased := moves .recvCompleted .leasedRx (by decide) (by decide) listed
    (completions.map Prod.fst)
  unfold BufferPool.leaseCompletedRxWindow
  split
  · exact listed
  split
  · exact listed
  split
  · exact listed
  dsimp only
  split
  · exact leased
  split
  · have restored := moves .leasedRx .recvCompleted (by decide) (by decide) leased
      (completions.map Prod.fst)
    split <;> exact restored
  · exact leased.congr rfl rfl rfl

/-- Reserving the prepared slots of a TX window is one claim after the other. -/
theorem leaseTxSlots {prepared : List PreparedTx} {rest}
    (top : pool.freeTx = prepared.map PreparedTx.index ++ rest)
    (fresh : ∀ item ∈ prepared, item.id.generation ≠ 0) :
    (prepared.foldl leaseTxSlot { pool with freeTx := rest }).FreeListed := by
  induction prepared generalizing pool with
  | nil => exact listed.congr rfl top.symm rfl
  | cons item others ih =>
    rw [List.forall_mem_cons] at fresh
    have member : item.index ∈ pool.freeOf .tx := by simp [freeOf, top]
    have claimed := listed.claim member fresh.1 (show SlotState.leasedTx ≠ .free by decide)
    exact ih claimed (by simp [BufferPool.claim, top]) fresh.2

theorem recycleSlot (kind : LeaseKind) (slot : SlotId) :
    (recycleSlot kind pool slot).1.FreeListed := by
  apply andThen_invariant FreeListed
  · apply listed.transition <;> cases kind <;> decide
  · intro between kept
    exact kept.release slot

theorem recycleSlots (kind : LeaseKind) (slots : List SlotId) :
    (tryEach (BufferPool.recycleSlot kind) slots pool).1.FreeListed :=
  tryEach_invariant FreeListed (fun _ slot _ kept => kept.recycleSlot kind slot) listed

theorem acquireTxWindowChunks (chunkLengths : List Nat) :
    (pool.acquireTxWindowChunks chunkLengths).1.FreeListed := by
  unfold BufferPool.acquireTxWindowChunks
  split
  · exact listed
  next prepared length checked =>
    obtain ⟨top, -, identities⟩ := of_prepareTxWindow_ok checked
    have reserved := listed.leaseTxSlots top fun item member => (identities item member).fresh
    dsimp only
    split
    · exact reserved.congr rfl rfl rfl
    · have restored := reserved.recycleSlots .tx (prepared.map PreparedTx.id)
      split <;> exact restored

theorem recycle (token : LeaseRecycle) (expected : LeaseKind) :
    (pool.recycle token expected).1.FreeListed := by
  unfold BufferPool.recycle
  split
  · exact listed
  split
  · exact listed
  split
  · exact listed
  split
  · exact listed
  · apply recycleSlots
    exact listed.congr rfl rfl rfl

theorem recycleRxCores (count : Nat) (cores : List LeaseRecycle) :
    (pool.recycleRxCores count cores).1.FreeListed := by
  induction cores generalizing pool count with
  | nil => exact listed
  | cons core rest ih =>
    have recycled := listed.recycle core .rx
    unfold recycleRxCores
    split
    next refused =>
      rw [refused] at recycled
      exact recycled
    next freed =>
      rw [freed] at recycled
      split
      · exact recycled
      · exact ih recycled _

end

end FreeListed

inductive Call where
  | allocate (kind : SlotKind)
  | allocateRxWindow (count : Nat)
  | releaseUnpostedRxWindow (slots : List SlotId)
  | release (id : SlotId)
  | recvPostLayout (id : SlotId)
  | markPosted (id : SlotId) (kind : SlotKind)
  | rollbackPost (id : SlotId) (kind : SlotKind)
  | txLeaseLayouts (lease : TxWindowLease)
  | markTxLeasePosted (id : SlotId)
  | rollbackTxLeasePost (id : SlotId)
  | completeTxLeaseSend (id : SlotId)
  | completeError (id : SlotId) (operation : OperationType)
  | completeRecvLeased (id : SlotId) (length : Nat)
  | leaseCompletedRxWindow (completions : List (SlotId × Nat))
  | acquireTxWindow (length : Nat)
  | acquireTxWindowChunks (chunkLengths : List Nat)
  | recycleRxLease (lease : RegisteredRxWindowLease)
  | recycleTxLease (lease : TxWindowLease)
  | recycleDroppedLease (token : LeaseRecycle)
  | stop
  | close (unregistered : Except FfiError Unit)

/-- The pool after a call, and whether the call returned `Ok` (`Some` for `allocate`). -/
def call (pool : BufferPool) : Call → BufferPool × Bool
  | .allocate kind => ((pool.allocate kind).1, (pool.allocate kind).2.isSome)
  | .allocateRxWindow count => reported (pool.allocateRxWindow count)
  | .releaseUnpostedRxWindow slots => reported (pool.releaseUnpostedRxWindow slots)
  | .release id => reported (commit pool (pool.release id))
  | .recvPostLayout id => (pool, (pool.recvPostLayout id).isOk)
  | .markPosted id kind => reported (commit pool (pool.markPosted id kind))
  | .rollbackPost id kind => reported (commit pool (pool.rollbackPost id kind))
  | .txLeaseLayouts lease => (pool, (pool.txLeaseLayouts lease).isOk)
  | .markTxLeasePosted id => reported (commit pool (pool.markTxLeasePosted id))
  | .rollbackTxLeasePost id => reported (commit pool (pool.rollbackTxLeasePost id))
  | .completeTxLeaseSend id => reported (commit pool (pool.completeTxLeaseSend id))
  | .completeError id operation => reported (commit pool (pool.completeError id operation))
  | .completeRecvLeased id length => reported (commit pool (pool.completeRecvLeased id length))
  | .leaseCompletedRxWindow completions => reported (pool.leaseCompletedRxWindow completions)
  | .acquireTxWindow length => reported (pool.acquireTxWindow length)
  | .acquireTxWindowChunks chunkLengths => reported (pool.acquireTxWindowChunks chunkLengths)
  | .recycleRxLease lease => reported ((pool.recycleRxLease lease).map id Prod.fst)
  | .recycleTxLease lease => reported ((pool.recycleTxLease lease).map id Prod.fst)
  | .recycleDroppedLease token => reported (pool.recycleDroppedLease token)
  | .stop => (pool.stop, true)
  | .close unregistered => reported (pool.close unregistered)
where
  reported {Value : Type} (outcome : BufferPool × Result Value) : BufferPool × Bool :=
    (outcome.1, outcome.2.isOk)

theorem FreeListed.call {pool : BufferPool} (listed : pool.FreeListed) (call : Call) :
    (pool.call call).1.FreeListed := by
  cases call with
  | allocate kind => exact listed.allocate kind
  | allocateRxWindow count => exact listed.allocateRxWindow count
  | releaseUnpostedRxWindow slots => exact listed.releaseUnpostedRxWindow slots
  | release id => exact listed.release id
  | recvPostLayout | txLeaseLayouts => exact listed
  | markPosted id kind =>
    simp only [BufferPool.call, call.reported, markPosted]
    split
    · exact listed
    split
    · exact listed
    · apply listed.transition <;> cases kind <;> decide
  | rollbackPost id kind => apply listed.transition <;> cases kind <;> decide
  | markTxLeasePosted id => exact listed.transition id (by decide) (by decide)
  | rollbackTxLeasePost id => exact listed.transition id (by decide) (by decide)
  | completeTxLeaseSend id => exact listed.transition id (by decide) (by decide)
  | completeError id operation => cases operation <;> apply listed.transition <;> decide
  | completeRecvLeased id length =>
    simp only [BufferPool.call, call.reported, completeRecvLeased]
    split
    · exact listed
    split
    · exact listed
    split
    · exact listed
    · apply listed.transition <;> decide
  | leaseCompletedRxWindow completions => exact listed.leaseCompletedRxWindow completions
  | acquireTxWindow length => exact listed.acquireTxWindowChunks [length]
  | acquireTxWindowChunks chunkLengths => exact listed.acquireTxWindowChunks chunkLengths
  | recycleRxLease lease => exact listed.recycleRxCores 0 lease.cores
  | recycleTxLease lease =>
    have recycled := listed.recycle lease.core .tx
    simp only [BufferPool.call, call.reported, recycleTxLease]
    split <;> simp_all
  | recycleDroppedLease token =>
    simp only [BufferPool.call, call.reported, recycleDroppedLease]
    split
    · exact listed
    · exact listed.recycle token _
  | stop => exact listed.congr rfl rfl rfl
  | close unregistered =>
    simp only [BufferPool.call, call.reported, BufferPool.close]
    split
    · exact listed.congr rfl rfl rfl
    split
    · exact listed.congr rfl rfl rfl
    split <;> exact listed.congr rfl rfl rfl

end BufferPool

end DragonflyClient.Urma
