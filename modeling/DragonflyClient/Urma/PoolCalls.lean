import DragonflyClient.Urma.FreeLists
import DragonflyClient.Urma.Owner

/-!
What a call of the buffer pool needs of the slots it names.

A call that succeeds found every slot under its current identity and in an allowed state.
Calls over several slots check some of them only after others were freed; that cannot
help a slot that was unfit before.
-/

namespace DragonflyClient.Urma

open Library List Option

namespace BufferPool

/-- What a call asks of one slot: a current identity and one of these states. -/
structure Need where
  id : SlotId
  allowed : List SlotState

def Meets (pool : BufferPool) (need : Need) : Prop :=
  pool.generationAt (slotIndex need.id) = some need.id.generation ∧
    ∃ state ∈ need.allowed, pool.stateAt (slotIndex need.id) = some state

/-- The slots of the record that a token names, in the state of an idle lease. -/
def recordNeeds (pool : BufferPool) (token : LeaseRecycle) : List Need :=
  match pool.leases.record token with
  | .error _ => []
  | .ok record => record.slots.map (⟨·, [leasedState record.kind]⟩)

/-- The slots a call names, each with the states from which the call may take it. -/
def Call.needs (pool : BufferPool) : Call → List Need
  | .allocate _ | .allocateRxWindow _ | .acquireTxWindow _ | .acquireTxWindowChunks _ | .stop
  | .close _ => []
  | .releaseUnpostedRxWindow slots =>
    slots.map (⟨·, [.allocated, .recvCompleted, .sendCompleted]⟩)
  | .release id => [⟨id, [.allocated, .recvCompleted, .sendCompleted]⟩]
  | .recvPostLayout id => [⟨id, [.allocated]⟩]
  | .markPosted id _ => [⟨id, [.allocated]⟩]
  | .rollbackPost id kind => [⟨id, [postedState kind]⟩]
  | .txLeaseLayouts lease => lease.slots.map (⟨·, [.leasedTx]⟩)
  | .markTxLeasePosted id => [⟨id, [.leasedTx]⟩]
  | .rollbackTxLeasePost id => [⟨id, [.sendPosted]⟩]
  | .completeTxLeaseSend id => [⟨id, [.sendPosted]⟩]
  | .completeError id .send => [⟨id, [.sendPosted]⟩]
  | .completeError id .recv => [⟨id, [.postedRecv]⟩]
  | .completeRecvLeased id _ => [⟨id, [.postedRecv]⟩]
  | .leaseCompletedRxWindow completions =>
    completions.map fun completion => ⟨completion.1, [.recvCompleted]⟩
  | .recycleRxLease lease => lease.cores.flatMap pool.recordNeeds
  | .recycleTxLease lease => pool.recordNeeds lease.core
  | .recycleDroppedLease token => pool.recordNeeds token

variable {pool after : BufferPool} {token : LeaseRecycle} {id : SlotId} {expected : LeaseKind}
  {count : Nat}

theorem mem_recordNeeds {need} :
    need ∈ pool.recordNeeds token ↔ ∃ record, pool.leases.record token = .ok record ∧
      ∃ id ∈ record.slots, need = ⟨id, [leasedState record.kind]⟩ := by
  unfold recordNeeds
  cases pool.leases.record token with
  | error error => simp
  | ok record => simp [eq_comm]

theorem meets_of_transition_ok {source target}
    (moved : pool.transition id source target = .ok after) :
    pool.Meets ⟨id, [source]⟩ := by
  obtain ⟨generation, state⟩ := of_transition_ok moved
  exact ⟨generation, source, mem_singleton_self _, state⟩

theorem meets_of_slotFields_ok {slot} (fields : pool.slotFields id = .ok slot) :
    pool.Meets ⟨id, [slot.state]⟩ := by
  obtain ⟨generation, state⟩ := of_slotFields_ok fields
  exact ⟨generation, slot.state, mem_singleton_self _, state⟩

theorem meets_of_release_ok (released : pool.release id = .ok after) :
    pool.Meets ⟨id, [.allocated, .recvCompleted, .sendCompleted]⟩ := by
  obtain ⟨state, kind, generation, found, allowed, -⟩ := of_release_ok released
  refine ⟨generation, state, ?_, found⟩
  cases state <;> simp_all [releasable]

/-- Slots only became free from one pool to the other. -/
structure Wanes (pool after : BufferPool) : Prop where
  generation : ∀ index, after.generationAt index = pool.generationAt index
  state : ∀ index state, after.stateAt index = some state →
    state = .free ∨ pool.stateAt index = some state

namespace Wanes

variable {pool between after : BufferPool}

theorem refl (pool : BufferPool) : Wanes pool pool :=
  ⟨fun _ => rfl, fun _ _ => .inr⟩

theorem trans (first : Wanes pool between) (second : Wanes between after) :
    Wanes pool after where
  generation index := (second.generation index).trans (first.generation index)
  state index state found := by
    rcases second.state index state found with free | earlier
    · exact .inl free
    · exact first.state index state earlier

theorem release {id} (released : pool.release id = .ok after) : Wanes pool after := by
  obtain ⟨state, kind, -, -, -, -, rfl⟩ := of_release_ok released
  constructor
  · simp
  · intro index state found
    rw [stateAt_addFree, stateAt_setState] at found
    split at found
    · exact .inl (some.inj found).symm
    · exact .inr found

theorem meets (wanes : Wanes pool after) {need} (busy : .free ∉ need.allowed)
    (meets : after.Meets need) : pool.Meets need := by
  obtain ⟨generation, state, allowed, found⟩ := meets
  refine ⟨(wanes.generation _).symm.trans generation, state, allowed, ?_⟩
  exact (wanes.state _ _ found).resolve_left fun free => busy (free ▸ allowed)

theorem recycleSlot {kind id} (recycled : BufferPool.recycleSlot kind pool id = (after, .ok ())) :
    Wanes pool after := by
  unfold BufferPool.recycleSlot at recycled
  cases moved : pool.transition id (leasedState kind) (recycledState kind) with
  | error error => simp [moved] at recycled
  | ok between =>
    rw [moved, commit_ok, andThen_ok] at recycled
    cases released : between.release id with
    | error error => simp [released] at recycled
    | ok freed =>
      rw [released, commit_ok] at recycled
      obtain ⟨-, -, rfl⟩ := of_transition_ok_eq moved
      obtain ⟨state, slotKind, -, -, -, -, rfl⟩ := of_release_ok released
      obtain rfl := (Prod.mk.inj recycled).1
      constructor
      · simp
      · intro index state found
        simp only [stateAt_addFree, stateAt_setState, length_setState] at found
        split at found
        · exact .inl (some.inj found).symm
        · exact .inr found

end Wanes

theorem wanes_of_tryEach_ok {Item : Type} {update : BufferPool → Item → BufferPool × Result Unit}
    (each : ∀ {pool item after}, update pool item = (after, .ok ()) → Wanes pool after) {items}
    (looped : tryEach update items pool = (after, .ok ())) : Wanes pool after := by
  induction items generalizing pool with
  | nil =>
    obtain rfl := (Prod.mk.inj looped).1
    exact .refl _
  | cons item rest ih =>
    rw [tryEach] at looped
    cases first : update pool item with
    | mk between result =>
      cases result with
      | error error => simp [first] at looped
      | ok =>
        rw [first, andThen_ok] at looped
        exact (each first).trans (ih looped)

theorem meets_of_releaseUnpostedRxWindow_ok {slots}
    (released : (pool.releaseUnpostedRxWindow slots).2 = .ok ()) :
    ∀ id ∈ slots, pool.Meets ⟨id, [.allocated, .recvCompleted, .sendCompleted]⟩ := by
  induction slots generalizing pool with
  | nil => simp
  | cons slot rest ih =>
    unfold releaseUnpostedRxWindow at released
    rw [tryEach] at released
    cases first : pool.release slot with
    | error error => simp [first] at released
    | ok between =>
      rw [first, commit_ok, andThen_ok] at released
      refine forall_mem_cons.mpr ⟨meets_of_release_ok first, ?_⟩
      intro id member
      exact (Wanes.release first).meets (by simp) (ih released id member)

theorem meets_of_checkRecycle_ok {kind slots} (checked : pool.checkRecycle kind slots = .ok ()) :
    ∀ id ∈ slots, pool.Meets ⟨id, [leasedState kind]⟩ := by
  induction slots with
  | nil => simp
  | cons slot rest ih =>
    unfold checkRecycle at checked
    split at checked
    · cases checked
    next fields =>
    split at checked
    next leased =>
      exact forall_mem_cons.mpr
        ⟨leased.2 ▸ meets_of_slotFields_ok fields, ih checked⟩
    · cases checked

theorem leases_recycleSlots (kind : LeaseKind) (slots : List SlotId) (pool : BufferPool) :
    (tryEach (recycleSlot kind) slots pool).1.leases = pool.leases := by
  refine tryEach_invariant (fun after : BufferPool => after.leases = pool.leases) ?_ rfl
  intro state slot _ kept
  apply andThen_invariant (fun after : BufferPool => after.leases = pool.leases)
  · cases moved : state.transition slot (leasedState kind) (recycledState kind) with
    | error error => exact kept
    | ok after =>
      obtain ⟨-, -, rfl⟩ := of_transition_ok_eq moved
      exact kept
  · intro between kept
    cases released : between.release slot with
    | error error => exact kept
    | ok after =>
      obtain ⟨_, slotKind, -, -, -, -, rfl⟩ := of_release_ok released
      cases slotKind <;> exact kept

/-- A recycle that succeeds finds every slot of the record leased, frees slots only, and leaves
the other records alone. -/
theorem of_recycle_ok (recycled : pool.recycle token expected = (after, .ok count)) :
    ∃ record, pool.leases.record token = .ok record ∧ record.kind = expected ∧
      (∀ id ∈ record.slots, pool.Meets ⟨id, [leasedState record.kind]⟩) ∧ Wanes pool after ∧
      after.leases = { pool.leases with active := pool.leases.active.erase token.leaseId } := by
  unfold recycle at recycled
  split at recycled
  · cases recycled
  next record found =>
  split at recycled
  · cases recycled
  next sameKind =>
  split at recycled
  · cases recycled
  next checked =>
  rw [not_not] at sameKind
  subst sameKind
  simp only [LeaseBook.finish, found] at recycled
  obtain ⟨rfl, freed⟩ := Prod.mk.inj recycled
  refine ⟨record, found, rfl, meets_of_checkRecycle_ok checked, ?_, leases_recycleSlots _ _ _⟩
  generalize looped : tryEach (recycleSlot record.kind) record.slots { pool with
    leases := { pool.leases with active := pool.leases.active.erase token.leaseId } } = outcome
  rw [looped] at freed
  obtain ⟨after, result⟩ := outcome
  cases result with
  | error error => cases freed
  | ok =>
    have wanes := wanes_of_tryEach_ok Wanes.recycleSlot looped
    exact ⟨wanes.generation, wanes.state⟩

theorem meets_of_recycle_ok (recycled : pool.recycle token expected = (after, .ok count)) :
    ∀ need ∈ pool.recordNeeds token, pool.Meets need := by
  intro need member
  obtain ⟨record, found, id, listed, rfl⟩ := mem_recordNeeds.mp member
  obtain ⟨_, found', -, meets, -⟩ := of_recycle_ok recycled
  obtain rfl := Except.ok.inj (found.symm.trans found')
  exact meets id listed

theorem record_of_recycle_ok {other} (recycled : pool.recycle token expected = (after, .ok count))
    (different : other.leaseId ≠ token.leaseId) :
    after.leases.record other = pool.leases.record other := by
  obtain ⟨_, -, -, -, -, leases⟩ := of_recycle_ok recycled
  simp only [LeaseBook.record, leases, Table.lookup_erase_eq, if_neg different]

theorem meets_of_recycleRxCores_ok {cores total}
    (recycled : (pool.recycleRxCores count cores).2.1 = .ok total) :
    ∀ core ∈ cores, ∀ need ∈ pool.recordNeeds core, pool.Meets need := by
  induction cores generalizing pool count with
  | nil => simp
  | cons first rest ih =>
    unfold recycleRxCores at recycled
    split at recycled
    · cases recycled
    next after slots freed =>
    split at recycled
    · cases recycled
    next sum _ =>
    obtain ⟨record, found, -, meets, wanes, -⟩ := of_recycle_ok freed
    refine forall_mem_cons.mpr ⟨meets_of_recycle_ok freed, ?_⟩
    intro core member need needed
    obtain ⟨other, found', id, listed, rfl⟩ := mem_recordNeeds.mp needed
    by_cases same : core.leaseId = first.leaseId
    · -- the token is named twice; its record was checked the first time
      have lookup := (LeaseBook.of_record_ok found').2
      rw [same, (LeaseBook.of_record_ok found).2] at lookup
      cases lookup
      exact meets id listed
    · have later := ih recycled core member _
        (mem_recordNeeds.mpr ⟨other, by rw [record_of_recycle_ok freed same, found'], id,
          listed, rfl⟩)
      exact wanes.meets (by cases other.kind <;> simp [leasedState]) later

theorem meets_of_rxLeaseSpans_ok {registeredLen completions spans total previousEnd lease}
    (checked : pool.rxLeaseSpans registeredLen completions spans total previousEnd = .ok lease) :
    ∀ completion ∈ completions, pool.Meets ⟨completion.1, [.recvCompleted]⟩ := by
  induction completions generalizing spans total previousEnd with
  | nil => simp
  | cons completion rest ih =>
    obtain ⟨id, length⟩ := completion
    unfold rxLeaseSpans at checked
    split at checked
    · cases checked
    next slot fields =>
    split at checked
    · cases checked
    next received =>
    rw [not_or, not_not, not_not] at received
    have own : pool.Meets ⟨id, [.recvCompleted]⟩ := received.2 ▸ meets_of_slotFields_ok fields
    refine forall_mem_cons.mpr ⟨own, ?_⟩
    split at checked
    · cases checked
    split at checked
    · cases checked
    split at checked
    · cases checked
    split at checked
    · cases checked
    split at checked
    · cases checked
    split at checked
    · cases checked
    · exact ih checked

theorem meets_of_leaseCompletedRxWindow_ok {completions lease}
    (leased : (pool.leaseCompletedRxWindow completions).2 = .ok lease) :
    ∀ completion ∈ completions, pool.Meets ⟨completion.1, [.recvCompleted]⟩ := by
  unfold leaseCompletedRxWindow at leased
  split at leased
  · cases leased
  split at leased
  · cases leased
  split at leased
  · cases leased
  next checked => exact meets_of_rxLeaseSpans_ok checked

theorem meets_of_txLeaseLayouts_ok {lease layouts}
    (checked : pool.txLeaseLayouts lease = .ok layouts) :
    ∀ id ∈ lease.slots, pool.Meets ⟨id, [.leasedTx]⟩ := by
  unfold txLeaseLayouts at checked
  split at checked
  · cases checked
  · have found := collect_ok Prod.fst TxLeaseLayout.slot
      (fun layout => pool.Meets ⟨layout.1, [.leasedTx]⟩) ?_ checked
    · intro id member
      rw [TxWindowLease.slots, ← found.1] at member
      obtain ⟨layout, listed, rfl⟩ := mem_map.mp member
      exact found.2 layout listed
    · intro layout found passed
      split at passed
      · cases passed
      next slot fields =>
      split at passed
      · cases passed
      next leased =>
      rw [not_or, not_not, not_not] at leased
      cases passed
      exact ⟨rfl, leased.2 ▸ meets_of_slotFields_ok fields⟩

theorem exists_of_isOk {Value : Type} {result : Result Value} (ok : result.isOk = true) :
    ∃ value, result = .ok value := by
  cases result with
  | error error => cases ok
  | ok value => exact ⟨value, rfl⟩

theorem exists_of_commit_isOk {result : Result BufferPool}
    (ok : (call.reported (commit pool result)).2 = true) : ∃ after, result = .ok after := by
  cases result with
  | error error => cases ok
  | ok after => exact ⟨after, rfl⟩

theorem meets_of_call {call : Call} (succeeded : (pool.call call).2 = true) :
    ∀ need ∈ call.needs pool, pool.Meets need := by
  cases call with
  | allocate | allocateRxWindow | acquireTxWindow | acquireTxWindowChunks | stop | close =>
    simp [Call.needs]
  | releaseUnpostedRxWindow slots =>
    obtain ⟨_, released⟩ := exists_of_isOk succeeded
    simpa [Call.needs] using meets_of_releaseUnpostedRxWindow_ok released
  | release id =>
    obtain ⟨after, released⟩ := exists_of_commit_isOk succeeded
    simpa [Call.needs] using meets_of_release_ok released
  | recvPostLayout id =>
    obtain ⟨layout, checked⟩ := exists_of_isOk succeeded
    unfold recvPostLayout at checked
    split at checked
    · cases checked
    next slot fields =>
    split at checked
    · cases checked
    next allocated =>
    rw [not_or, not_not, not_not] at allocated
    have meets := meets_of_slotFields_ok fields
    rw [allocated.2] at meets
    simpa [Call.needs] using meets
  | markPosted id kind =>
    obtain ⟨after, posted⟩ := exists_of_commit_isOk succeeded
    unfold markPosted at posted
    split at posted
    · cases posted
    split at posted
    · cases posted
    · simpa [Call.needs] using meets_of_transition_ok posted
  | rollbackPost id kind =>
    obtain ⟨after, moved⟩ := exists_of_commit_isOk succeeded
    simpa [Call.needs] using meets_of_transition_ok moved
  | txLeaseLayouts lease =>
    obtain ⟨layouts, checked⟩ := exists_of_isOk succeeded
    simpa [Call.needs] using meets_of_txLeaseLayouts_ok checked
  | markTxLeasePosted id | rollbackTxLeasePost id | completeTxLeaseSend id =>
    obtain ⟨after, moved⟩ := exists_of_commit_isOk succeeded
    simpa [Call.needs] using meets_of_transition_ok moved
  | completeError id operation =>
    obtain ⟨after, moved⟩ := exists_of_commit_isOk succeeded
    cases operation <;> simpa [Call.needs] using meets_of_transition_ok moved
  | completeRecvLeased id length =>
    obtain ⟨after, received⟩ := exists_of_commit_isOk succeeded
    unfold completeRecvLeased at received
    split at received
    · cases received
    split at received
    · cases received
    split at received
    · cases received
    · simpa [Call.needs] using meets_of_transition_ok received
  | leaseCompletedRxWindow completions =>
    obtain ⟨lease, leased⟩ := exists_of_isOk succeeded
    have meets := meets_of_leaseCompletedRxWindow_ok leased
    intro need member
    obtain ⟨completion, listed, rfl⟩ := mem_map.mp member
    exact meets completion listed
  | recycleRxLease lease =>
    obtain ⟨count, recycled⟩ := exists_of_isOk succeeded
    have meets := meets_of_recycleRxCores_ok recycled
    intro need member
    obtain ⟨core, listed, needed⟩ := mem_flatMap.mp member
    exact meets core listed need needed
  | recycleTxLease lease =>
    simp only [BufferPool.call, call.reported, recycleTxLease] at succeeded
    split at succeeded
    · cases succeeded
    next freed => exact meets_of_recycle_ok freed
  | recycleDroppedLease token =>
    simp only [BufferPool.call, call.reported, recycleDroppedLease] at succeeded
    split at succeeded
    · cases succeeded
    next record found =>
      cases freed : pool.recycle token record.kind with
      | mk after result =>
        rw [freed] at succeeded
        cases result with
        | error error => cases succeeded
        | ok count => exact meets_of_recycle_ok freed

end BufferPool

theorem Custody.state_eq_free {custody : Custody} : custody.state = .free ↔ custody = .free := by
  cases custody with
  | free => simp [state]
  | reserved => simp [state]
  | marked operation | completed operation => cases operation <;> simp [state]
  | posted operation => cases operation <;> simp [state]
  | leased kind => cases kind <;> simp [state]

theorem Agrees.freeListed {custody : Nat → Custody} {tables} (agrees : Agrees custody tables) :
    tables.pool.FreeListed := by
  have states : ∀ {index state}, tables.pool.stateAt index = some state →
      state = (custody index).state := by
    intro index state found
    rw [agrees.state index (BufferPool.lt_of_stateAt found)] at found
    exact (some.inj found).symm
  constructor
  case nodup => exact fun kind => (agrees.free kind).1
  case members =>
    intro kind index
    rw [(agrees.free kind).2]
    refine and_congr_left fun sameKind => ?_
    obtain ⟨slot, present, -⟩ := map_eq_some_iff.mp sameKind
    rw [agrees.state index (List.getElem?_eq_some_iff.mp present).1, Option.some.injEq,
      Custody.state_eq_free]
  case live =>
    intro index state found busy
    apply agrees.live
    rw [states found] at busy
    exact fun free => busy (Custody.state_eq_free.mpr free)

namespace BufferPool

theorem freeListed_create {config poolId registered pool}
    (created : create config poolId registered = .ok pool) : pool.FreeListed := by
  unfold create at created
  split at created
  · cases created
  next totalLen checked =>
  split at created
  · cases created
  have agrees : Agrees (fun _ => .free) ⟨pool, Small.started.tables.router⟩ := by
    rw [← Except.ok.inj created]
    exact .create checked rfl
  exact agrees.freeListed

def run (pool : BufferPool) (calls : List Call) : BufferPool :=
  calls.foldl (fun pool call => (pool.call call).1) pool

theorem FreeListed.run {pool : BufferPool} (listed : pool.FreeListed) (calls : List Call) :
    (pool.run calls).FreeListed := by
  induction calls generalizing pool with
  | nil => exact listed
  | cons call rest ih => exact ih (listed.call call)

/-- From any created pool, after any calls with any arguments, the free lists are exact, every
slot in use has a live generation, and a call is refused that names a slot by a stale identity
or finds it in a state from which the call may not take it. -/
theorem free_lists_exact {config : BufferPoolConfig} {poolId : Nat}
    {registered : Except FfiError Unit} {pool : BufferPool}
    (created : create config poolId registered = .ok pool) (calls : List Call) :
    (pool.run calls).FreeListed ∧
      ∀ call, ∀ need ∈ call.needs (pool.run calls), ¬ (pool.run calls).Meets need →
        ((pool.run calls).call call).2 = false := by
  refine ⟨(freeListed_create created).run calls, ?_⟩
  intro call need needed unmet
  rw [← Bool.not_eq_true]
  exact fun succeeded => unmet (meets_of_call succeeded need needed)

/-- A receive is posted and released after its completion; its identity is stale after that. -/
theorem free_lists_exact_small :
    ∃ pool, create Small.config.bufferPool 0 (.ok ()) = .ok pool ∧
      let after := pool.run [.allocate .rx, .markPosted ⟨1, 1⟩ .rx, .completeRecvLeased ⟨1, 1⟩ 8,
        .release ⟨1, 1⟩]
      after.FreeListed ∧ after.freeRx = [1] ∧ (after.call (.release ⟨1, 1⟩)).2 = false := by
  have created : create Small.config.bufferPool 0 (.ok ()) = .ok Small.started.tables.pool := rfl
  obtain ⟨listed, refused⟩ := free_lists_exact created [.allocate .rx, .markPosted ⟨1, 1⟩ .rx,
    .completeRecvLeased ⟨1, 1⟩ 8, .release ⟨1, 1⟩]
  refine ⟨_, created, listed, rfl, refused (.release ⟨1, 1⟩) _ mem_cons_self ?_⟩
  rintro ⟨-, state, allowed, found⟩
  obtain rfl : state = .free := (some.inj found).symm
  simp at allowed

end BufferPool

end DragonflyClient.Urma
