import DragonflyClient.Urma.Poll

/-!
The owner thread as a transition system.

A command carries its arguments and everything the provider answers during it,
so a statement about all commands is a statement about all callers and all
providers.  `Sound` is the invariant of every run.
-/

namespace DragonflyClient.Urma

open Library List BufferPool CompletionRouter

/-- One step of the owner.  `failPending` may happen at any time. -/
inductive OwnerCommand where
  | createLane (config : JettyConfig) (input : CreateInput)
  | bindLane (laneId : UInt16) (descriptor : JettyDescriptor)
      (imported bound : Except FfiError Unit)
  | grantSendCredit (laneId : UInt16) (count : Nat)
  | postReceiveWindowRegistered (laneId : UInt16) (sequences : List UInt64)
      (completionTxs : List ChannelId) (shims : Nat → ShimPost)
  | sendRegisteredWindow (laneId : UInt16) (lease : TxWindowLease) (sequences : List UInt64)
      (completion : ChannelId) (shims : Nat → ShimPost)
  | acquireTxWindowChunks (chunkLengths : List Nat)
  | recycleTxWindow (lease : TxWindowLease)
  | recycleRxWindow (lease : RegisteredRxWindowLease)
  | recycleDroppedLease (token : LeaseRecycle)
  | abortLane (laneId : UInt16) (marked : Except FfiError Unit) (input : ReapInput)
  | pollOnce (input : PollInput)
  | failPending (error : Error)

namespace UrmaRuntime

def perform (runtime : UrmaRuntime) : OwnerCommand → UrmaRuntime
  | .createLane config input => (runtime.createLane config input).1
  | .bindLane laneId descriptor imported bound =>
    (runtime.bindLane laneId descriptor imported bound).1
  | .grantSendCredit laneId count => (runtime.grantSendCredit laneId count).1
  | .postReceiveWindowRegistered laneId sequences completionTxs shims =>
    (runtime.postReceiveWindowRegistered laneId sequences completionTxs shims).runtime
  | .sendRegisteredWindow laneId lease sequences completion shims =>
    (runtime.sendRegisteredWindow laneId lease sequences completion shims).runtime
  | .acquireTxWindowChunks chunkLengths => (runtime.acquireTxWindowChunks chunkLengths).1
  | .recycleTxWindow lease => (runtime.recycleTxWindow lease).1
  | .recycleRxWindow lease => (runtime.recycleRxWindow lease).1
  | .recycleDroppedLease token => (runtime.recycleDroppedLease token).1
  | .abortLane laneId marked input => (runtime.abortLane laneId marked input).1
  | .pollOnce input => (runtime.pollOnce input).1
  | .failPending error =>
    runtime.withRouter (runtime.tables.router.failPending error)

def Started (runtime : UrmaRuntime) : Prop :=
  ∃ config capability poolId, start config capability poolId = .ok runtime

def Reached : UrmaRuntime → Prop :=
  Reachable Started fun runtime command after => after = runtime.perform command

end UrmaRuntime

namespace Consistent

variable {custody after : Nat → Custody} {tables : OwnerTables}

section

variable (consistent : Consistent custody tables)
include consistent

theorem withRouter {router} (same : SameCounts tables.router router)
    (outstanding : router.outstanding = tables.router.outstanding) :
    Consistent custody { tables with router } := by
  refine ⟨consistent.agrees.congr_router fun index => ?_,
    consistent.counted.congr same outstanding, consistent.settled⟩
  rw [outstandingAt, outstanding, outstandingAt]

theorem postReceive {lane window posting pairs}
    (outcome : ReceivePosted lane custody tables window posting pairs after) :
    Consistent after posting.tables := by
  refine ⟨outcome.agrees, ?_, fun index => ?_⟩
  · rw [outcome.router]
    refine consistent.counted.recordRecvs (fun pair => outcome.decoded) (fun pair member => ?_)
      outcome.distinct
    rw [consistent.agrees.tracked, (outcome.posted pair member).1]
    rfl
  · by_cases free : custody index = .free
    · rcases outcome.free index free with still | ⟨pair, member, rfl⟩
      · rw [still]
        trivial
      · rw [(outcome.posted pair member).2]
        trivial
    · rw [(outcome.busy index free).1]
      exact consistent.settled index

theorem send {lane window inner messages pairs pool} (outcome : SendOutcome lane window custody
      { tables with router := UrmaLane.openWindow tables.router inner } messages pairs after pool) :
    Consistent after
      { pool
        router := recordSends lane window (UrmaLane.openWindow tables.router inner) pairs } := by
  refine ⟨outcome.agrees, ?_, fun index => ?_⟩
  · refine ((SameTracking.openWindow _ _).counted consistent.counted).recordSends
      (fun pair => outcome.decoded) (fun pair member => ?_) outcome.distinct
    rw [SameTracking.outstandingAt (.openWindow _ _), consistent.agrees.tracked,
      (outcome.posted pair member).1]
    rfl
  · by_cases leased : custody index = .leased .tx
    · rcases outcome.leased index leased with still | ⟨pair, member, rfl⟩
      · rw [still]
        trivial
      · rw [(outcome.posted pair member).2]
        trivial
    · rw [outcome.other index leased]
      exact consistent.settled index

theorem assign {ids value pool}
    (agrees : Agrees (Urma.assign custody ids value) { tables with pool })
    (settled : value.settled) :
    Consistent (Urma.assign custody ids value) { tables with pool } := by
  refine ⟨agrees, consistent.counted, fun index => ?_⟩
  unfold Urma.assign
  split
  · exact settled
  · exact consistent.settled index

end

end Consistent

structure Sound (tables : OwnerTables) : Prop where
  consistent : ∃ custody, Consistent custody tables
  segment : tables.pool.segment.isSome
  distinct : tables.pool.leases.Distinct

namespace Sound

variable {tables : OwnerTables}

variable {router : CompletionRouter} {laneId : UInt16}

theorem withRouter (sound : Sound tables) (same : SameCounts tables.router router)
    (outstanding : router.outstanding = tables.router.outstanding) :
    Sound { tables with router } := by
  obtain ⟨custody, consistent⟩ := sound.consistent
  exact ⟨⟨custody, consistent.withRouter same outstanding⟩, sound.segment, sound.distinct⟩

theorem tracking (sound : Sound tables)
    (same : SameTracking tables.router router) : Sound { tables with router } :=
  sound.withRouter same.toSameCounts same.outstanding

theorem registerLane (sound : Sound tables) {jettyId jfrId}
    (registered : tables.router.registerLane laneId jettyId jfrId = .ok router) :
    Sound { tables with router } := by
  unfold CompletionRouter.registerLane at registered
  split at registered
  · cases registered
  split at registered
  · cases registered
  rw [← Except.ok.inj registered]
  exact sound.withRouter ⟨rfl, rfl, rfl, rfl⟩ rfl

theorem beginLaneRetirement (sound : Sound tables)
    (retired : tables.router.beginLaneRetirement laneId = .ok router) :
    Sound { tables with router } := by
  unfold CompletionRouter.beginLaneRetirement at retired
  split at retired
  · cases retired
  rw [← Except.ok.inj retired]
  exact sound.withRouter ⟨rfl, rfl, rfl, rfl⟩ rfl

theorem unregisterLane (sound : Sound tables)
    (unregistered : tables.router.unregisterLane laneId = .ok router) :
    Sound { tables with router } := by
  unfold CompletionRouter.unregisterLane at unregistered
  split at unregistered
  · cases unregistered
  split at unregistered
  · cases unregistered
  rw [← Except.ok.inj unregistered]
  exact sound.withRouter ⟨rfl, rfl, rfl, rfl⟩ rfl

theorem postReceiveWindowRegistered (sound : Sound tables) (lane : UrmaLane)
    (sequences : List UInt64) (completionTxs : List ChannelId) (shims : Nat → ShimPost) :
    Sound (lane.postReceiveWindowRegistered tables sequences completionTxs shims).tables := by
  obtain ⟨custody, consistent⟩ := sound.consistent
  obtain ⟨pairs, after, outcome⟩ :=
    consistent.agrees.postReceiveWindowRegistered sound.segment lane sequences completionTxs shims
  exact ⟨⟨after, consistent.postReceive outcome⟩, outcome.frame.segment ▸ sound.segment,
    outcome.frame.leases ▸ sound.distinct⟩

theorem sendRegisteredWindow (sound : Sound tables) (lane : UrmaLane) (lease : TxWindowLease)
    (sequences : List UInt64) (completion : ChannelId) (shims : Nat → ShimPost) :
    Sound (lane.sendRegisteredWindow tables lease sequences completion shims).tables := by
  obtain ⟨custody, consistent⟩ := sound.consistent
  cases checked : lane.checkSendWindow tables.pool lease sequences with
  | error error =>
    simp only [UrmaLane.sendRegisteredWindow, checked]
    exact sound.tracking (.emit _ _)
  | ok layouts =>
    obtain ⟨pairs, after, pool, failure, outcome, sent, -⟩ :=
      consistent.agrees.sendRegisteredWindow sound.segment completion shims checked
    rw [sent]
    refine Sound.tracking ?_
      (SameTracking.finishWindow _ _ _)
    exact ⟨⟨after, consistent.send outcome⟩, outcome.same.segment ▸ sound.segment,
      outcome.same.leases ▸ sound.distinct⟩

theorem acquireTxWindowChunks (sound : Sound tables) (chunkLengths : List Nat) :
    Sound { tables with pool := (tables.pool.acquireTxWindowChunks chunkLengths).1 } := by
  obtain ⟨custody, consistent⟩ := sound.consistent
  rcases consistent.agrees.acquireTxWindowChunks chunkLengths with
    ⟨error, pool, refused, agrees', frame, -⟩ | ⟨pool, lease, granted, acquired⟩
  · rw [refused]
    exact ⟨⟨custody, agrees', consistent.counted, consistent.settled⟩,
      frame.segment ▸ sound.segment, frame.leases ▸ sound.distinct⟩
  · rw [granted]
    exact ⟨⟨_, consistent.assign acquired.agrees trivial⟩, acquired.frame.segment ▸ sound.segment,
      acquired.frame.leases ▸ sound.distinct.issued .tx acquired.held.distinct⟩

theorem recycle (sound : Sound tables) (token : LeaseRecycle) (expected : LeaseKind) :
    Sound { tables with pool := (tables.pool.recycle token expected).1 } := by
  obtain ⟨custody, consistent⟩ := sound.consistent
  rcases consistent.agrees.recycle sound.distinct token expected with
    ⟨error, refused⟩ | ⟨record, pool, -, freed, recycled⟩
  · rw [refused]
    exact sound
  · rw [freed]
    exact ⟨⟨_, consistent.assign recycled.agrees trivial⟩, recycled.same.segment ▸ sound.segment,
      recycled.same.leases ▸ sound.distinct.erase token.leaseId⟩

theorem recycleRxCores (sound : Sound tables) (count : Nat) (cores : List LeaseRecycle) :
    Sound { tables with pool := (tables.pool.recycleRxCores count cores).1 } := by
  induction cores generalizing tables count with
  | nil => exact sound
  | cons core rest ih =>
    have recycled := sound.recycle core .rx
    unfold recycleRxCores
    generalize tables.pool.recycle core .rx = outcome at recycled ⊢
    obtain ⟨pool, result⟩ := outcome
    cases result with
    | error error => exact recycled
    | ok slots =>
      dsimp only
      cases checkedAdd count slots with
      | none => exact recycled
      | some count => exact ih recycled count

theorem recycleTxLease (sound : Sound tables) (lease : TxWindowLease) :
    Sound { tables with pool := (tables.pool.recycleTxLease lease).1 } := by
  have recycled := sound.recycle lease.core .tx
  unfold BufferPool.recycleTxLease
  generalize tables.pool.recycle lease.core .tx = outcome at recycled ⊢
  obtain ⟨pool, result⟩ := outcome
  cases result <;> exact recycled

theorem recycleDroppedLease (sound : Sound tables) (token : LeaseRecycle) :
    Sound { tables with pool := (tables.pool.recycleDroppedLease token).1 } := by
  unfold BufferPool.recycleDroppedLease
  cases tables.pool.leases.record token with
  | error error => exact sound
  | ok record => exact sound.recycle token record.kind

theorem routed {custody after recvQueue record outcome}
    (holds : tables.pool.segment.isSome ∧ tables.pool.leases.Distinct)
    (routed : Routed custody tables recvQueue record after outcome) :
    outcome.1.pool.segment.isSome ∧ outcome.1.pool.leases.Distinct := by
  cases routed with
  | refused | flushed => exact holds
  | send names operation agrees same =>
    rw [OwnerTables.deliverTo_pool]
    exact ⟨same.segment ▸ holds.1, same.leases ▸ holds.2⟩
  | recv names operation settled =>
    cases settled with
    | unclaimed _ same => exact ⟨same.segment ▸ holds.1, same.leases ▸ holds.2⟩
    | failed _ _ _ same => exact ⟨same.segment ▸ holds.1, same.leases ▸ holds.2⟩
    | delivered _ _ _ same =>
      exact ⟨same.segment ▸ holds.1, same.leases ▸ holds.2.issued .rx (by simp)⟩

theorem pollOnce (sound : Sound tables) (polled : OwnerTables.Polled) :
    Sound (tables.pollOnce polled).1 := by
  obtain ⟨custody, consistent⟩ := sound.consistent
  obtain ⟨after, progress⟩ := consistent.pollOnce polled
  obtain ⟨consistent', segment, distinct⟩ := progress.invariant
    (fun _ tables => tables.pool.segment.isSome ∧ tables.pool.leases.Distinct)
    (fun _ holds => Sound.routed holds) consistent ⟨sound.segment, sound.distinct⟩
  exact ⟨⟨after, consistent'⟩, segment, distinct⟩

theorem failPending (sound : Sound tables) (error : Error) :
    Sound { tables with router := tables.router.failPending error } := by
  obtain ⟨custody, consistent⟩ := sound.consistent
  exact ⟨⟨_, (consistent.failPending error).1⟩, sound.segment, sound.distinct⟩

end Sound

namespace UrmaRuntime

variable {runtime : UrmaRuntime}

section

variable (sound : Sound runtime.tables)
include sound

theorem sound_reapLane (teardown : UInt16 → JettyTeardown)
    (laneId : UInt16) : Sound (runtime.reapLane teardown laneId).1.tables := by
  unfold reapLane
  split
  · exact sound
  split
  · exact sound
  dsimp only
  split
  · exact sound
  next unregistered => exact sound.unregisterLane unregistered

theorem sound_reapDrainedLanes (input : ReapInput) :
    Sound (runtime.reapDrainedLanes input).1.tables :=
  tryEach_invariant (fun runtime : UrmaRuntime => Sound runtime.tables)
    (fun _ laneId _ sound => sound_reapLane sound input.teardown laneId) sound

theorem sound_pollOnce (input : PollInput) : Sound (runtime.pollOnce input).1.tables := by
  refine sound_reapDrainedLanes ?_ _
  have progressed := sound.pollOnce input.polled
  generalize runtime.tables.pollOnce input.polled = progress at progressed ⊢
  obtain ⟨tables, result⟩ := progress
  cases result with
  | ok => exact progressed
  | error error => exact progressed.failPending error

theorem sound_abortLane (laneId : UInt16) (marked : Except FfiError Unit) (input : ReapInput) :
    Sound (runtime.abortLane laneId marked input).1.tables := by
  unfold abortLane
  split
  · exact sound
  next router retired =>
  have retiring := sound.beginLaneRetirement retired
  dsimp only
  split
  · exact retiring
  split
  · exact retiring
  · exact sound_reapDrainedLanes retiring _

theorem sound_createLane (config : JettyConfig)
    (input : CreateInput) : Sound (runtime.createLane config input).1.tables := by
  unfold createLane
  split
  · exact sound
  split
  · exact sound
  dsimp only
  split
  · exact sound
  split
  · exact sound
  split
  · exact sound
  next registered => exact sound.registerLane registered

theorem sound_bindLane (laneId : UInt16)
    (descriptor : JettyDescriptor) (imported bound : Except FfiError Unit) :
    Sound (runtime.bindLane laneId descriptor imported bound).1.tables := by
  unfold bindLane
  split
  · exact sound
  split
  · exact sound
  split <;> exact sound

theorem sound_grantSendCredit (laneId : UInt16) (count : Nat) :
    Sound (runtime.grantSendCredit laneId count).1.tables := by
  unfold grantSendCredit
  split
  · exact sound
  split <;> exact sound

theorem sound_postReceiveWindowRegistered (laneId : UInt16)
    (sequences : List UInt64) (completionTxs : List ChannelId) (shims : Nat → ShimPost) :
    Sound (runtime.postReceiveWindowRegistered laneId sequences completionTxs
      shims).runtime.tables := by
  unfold postReceiveWindowRegistered
  split
  · exact sound
  · exact sound.postReceiveWindowRegistered _ _ _ _

theorem sound_sendRegisteredWindow (laneId : UInt16) (lease : TxWindowLease)
    (sequences : List UInt64) (completion : ChannelId) (shims : Nat → ShimPost) :
    Sound (runtime.sendRegisteredWindow laneId lease sequences completion
      shims).runtime.tables := by
  unfold sendRegisteredWindow
  split
  · exact sound.tracking (.emit _ _)
  · exact sound.sendRegisteredWindow _ _ _ _ _

/-- Every command keeps the tables sound, whatever its arguments and whatever
the provider answers. -/
theorem sound_perform (command : OwnerCommand) : Sound (runtime.perform command).tables := by
  cases command with
  | createLane config input => exact sound_createLane sound config input
  | bindLane laneId descriptor imported bound =>
    exact sound_bindLane sound laneId descriptor imported bound
  | grantSendCredit laneId count => exact sound_grantSendCredit sound laneId count
  | postReceiveWindowRegistered laneId sequences completionTxs shims =>
    exact sound_postReceiveWindowRegistered sound laneId sequences completionTxs shims
  | sendRegisteredWindow laneId lease sequences completion shims =>
    exact sound_sendRegisteredWindow sound laneId lease sequences completion shims
  | acquireTxWindowChunks chunkLengths => exact sound.acquireTxWindowChunks chunkLengths
  | recycleTxWindow lease => exact (sound.recycleTxLease lease).tracking (.emit _ _)
  | recycleRxWindow lease => exact (sound.recycleRxCores 0 lease.cores).tracking (.emit _ _)
  | recycleDroppedLease token => exact sound.recycleDroppedLease token
  | abortLane laneId marked input => exact sound_abortLane sound laneId marked input
  | pollOnce input => exact sound_pollOnce sound input
  | failPending error => exact sound.failPending error

end

theorem of_start_ok {config capability poolId}
    (started : start config capability poolId = .ok runtime) :
    ∃ totalLen router, config.bufferPool.totalLen = .ok totalLen ∧
      new 16 = .ok router ∧
      runtime.tables =
        { pool :=
            { segment := some totalLen
              slots := initialSlots config.bufferPool
              freeTx := List.range config.bufferPool.txSlotCount
              freeRx := (List.range config.bufferPool.rxSlotCount).map
                (config.bufferPool.txSlotCount + ·)
              leases := LeaseBook.new poolId
              accepting := true }
          router } ∧ runtime.lanes = ∅ ∧ runtime.nextLaneId = 1 := by
  unfold start at started
  split at started
  · cases started
  unfold create at started
  cases checked : config.bufferPool.totalLen with
  | error error =>
    rw [checked] at started
    cases started
  | ok totalLen =>
    simp only [checked] at started
    split at started
    · cases started
    next router created =>
      rw [← Except.ok.inj started]
      exact ⟨totalLen, router, rfl, created, rfl, rfl, rfl⟩

end UrmaRuntime

structure BufferPoolConfig.Fits (config : BufferPoolConfig) (totalLen : Nat) : Prop where
  slotSize : 0 < config.slotSize
  tx : 0 < config.txSlotCount
  rx : 0 < config.rxSlotCount
  few : config.txSlotCount + config.rxSlotCount ≤ 65536
  total : totalLen = config.slotSize * (config.txSlotCount + config.rxSlotCount)
  bounded : totalLen < 2 ^ 64

theorem BufferPoolConfig.of_totalLen_ok {config : BufferPoolConfig} {totalLen}
    (checked : config.totalLen = .ok totalLen) : config.Fits totalLen := by
  unfold BufferPoolConfig.totalLen checkedAdd checkedMul at checked
  split at checked
  · cases checked
  next slotSize =>
  split at checked
  · cases checked
  next counts =>
  split at checked
  · cases checked
  split at checked
  · cases checked
  next slots added =>
  split at checked
  · cases checked
  next few =>
  split at checked
  · cases checked
  next product multiplied =>
  rw [Option.ite_none_right_eq_some, Option.some.injEq] at added multiplied
  obtain ⟨-, rfl⟩ := added
  obtain ⟨bounded, rfl⟩ := multiplied
  cases checked
  exact ⟨by omega, by omega, by omega, by omega, rfl, bounded⟩

namespace BufferPool

theorem length_initialSlots (config : BufferPoolConfig) :
    (initialSlots config).length = config.txSlotCount + config.rxSlotCount := by
  simp [initialSlots]

theorem getElem?_initialSlots {config index} {slot : BufferSlot}
    (found : (initialSlots config)[index]? = some slot) :
    slot = ⟨if index < config.txSlotCount then .tx else .rx, config.slotSize * index,
      config.slotSize, .free, 0⟩ := by
  rw [initialSlots, getElem?_append] at found
  simp only [length_map, length_range] at found
  split at found
  next inside =>
    simp only [getElem?_map, Option.map_eq_some_iff] at found
    obtain ⟨position, placed, rfl⟩ := found
    obtain ⟨_, same⟩ := List.getElem?_eq_some_iff.mp placed
    subst same
    simp [inside]
  next outside =>
    simp only [getElem?_map, Option.map_eq_some_iff] at found
    obtain ⟨position, placed, rfl⟩ := found
    obtain ⟨_, same⟩ := List.getElem?_eq_some_iff.mp placed
    rw [getElem_range] at same
    simp [outside]
    omega

theorem kind_initialSlots (config : BufferPoolConfig) (index : Nat) :
    (initialSlots config)[index]?.map BufferSlot.kind =
      if index < config.txSlotCount then some .tx
      else if index < config.txSlotCount + config.rxSlotCount then some .rx else none := by
  have length := length_initialSlots config
  cases found : (initialSlots config)[index]? with
  | none =>
    have outside := getElem?_eq_none_iff.mp found
    simp only [Option.map_none]
    rw [if_neg (by omega), if_neg (by omega)]
  | some slot =>
    have inside := (List.getElem?_eq_some_iff.mp found).1
    rw [getElem?_initialSlots found, Option.map_some]
    split
    · rfl
    · rw [if_pos (by omega)]

end BufferPool

variable {router : CompletionRouter} {runtime : UrmaRuntime}

theorem CompletionRouter.of_new_ok {batch} (created : new batch = .ok router) :
    router.batch = batch ∧ router.outstanding = [] ∧ router.outstandingTotal = 0 ∧
      router.outstandingSend = 0 ∧ router.outstandingRecv = 0 ∧
      router.outstandingByLane = ∅ ∧ router.retirementByLane = ∅ ∧
      router.laneByJettyId = ∅ ∧ router.registeredRxByIdentity = ∅ ∧ router.windows = [] ∧
      router.outbox = [] := by
  unfold new at created
  split at created
  · cases created
  · rw [← Except.ok.inj created]
    exact ⟨rfl, rfl, rfl, rfl, rfl, rfl, rfl, rfl, rfl, rfl, rfl⟩

theorem Agrees.create {config : BufferPoolConfig} {totalLen poolId}
    (checked : config.totalLen = .ok totalLen) (empty : router.outstanding = []) :
    Agrees (fun _ => .free)
      { pool :=
          { segment := some totalLen
            slots := BufferPool.initialSlots config
            freeTx := List.range config.txSlotCount
            freeRx := (List.range config.rxSlotCount).map (config.txSlotCount + ·)
            leases := LeaseBook.new poolId
            accepting := true }
        router } := by
  have small := (BufferPoolConfig.of_totalLen_ok checked).few
  have length := BufferPool.length_initialSlots config
  constructor
  case bounded => exact length ▸ small
  case state =>
    intro index inside
    have slot := BufferPool.getElem?_initialSlots (getElem?_eq_getElem inside)
    simp only [BufferPool.stateAt, getElem?_eq_getElem inside, Option.map_some, slot]
    rfl
  case kind => exact fun _ _ _ => trivial
  case live => exact fun _ busy => absurd rfl busy
  case tracked => simp [outstandingAt, empty, Custody.wr]
  case stamped =>
    intro index kind wr posted
    cases posted
  case free =>
    intro kind
    simp only [BufferPool.kindAt, BufferPool.kind_initialSlots, true_and]
    cases kind with
    | tx =>
      refine ⟨nodup_range, fun index => ?_⟩
      simp only [BufferPool.freeOf, mem_range]
      split <;> simp_all
    | rx =>
      refine ⟨nodup_range.map (fun _ _ same => Nat.add_left_cancel same), fun index => ?_⟩
      simp only [BufferPool.freeOf, mem_map, mem_range]
      constructor
      · rintro ⟨offset, inside, rfl⟩
        rw [if_neg (by omega), if_pos (by omega)]
      · intro isRx
        split at isRx
        · cases isRx
        split at isRx
        · exact ⟨index - config.txSlotCount, by omega, by omega⟩
        · cases isRx

theorem Counted.empty (outstanding : router.outstanding = [])
    (total : router.outstandingTotal = 0) (send : router.outstandingSend = 0)
    (recv : router.outstandingRecv = 0) (byLane : router.outstandingByLane = ∅) :
    Counted router := by
  have none : ∀ predicate, router.tally predicate = 0 := fun predicate => by
    rw [tally, outstanding]
    rfl
  exact
    { total := total.trans (none _).symm
      send := send.trans (none _).symm
      recv := recv.trans (none _).symm
      lane := fun laneId => by
        rw [none, laneCount, byLane]
        rfl
      present := by simp [byLane] }

theorem UrmaRuntime.Started.sound (started : runtime.Started) : Sound runtime.tables := by
  obtain ⟨config, capability, poolId, returned⟩ := started
  obtain ⟨totalLen, router, checked, created, tables, -⟩ := of_start_ok returned
  obtain ⟨-, outstanding, total, send, recv, byLane, -⟩ := of_new_ok created
  rw [tables]
  refine ⟨⟨_, .create checked outstanding,
    .empty outstanding total send recv byLane, fun _ => trivial⟩, rfl, ?_⟩
  intro leaseId record found
  cases found

theorem UrmaRuntime.Reached.sound (reached : runtime.Reached) : Sound runtime.tables := by
  refine Reachable.invariant (fun runtime => Sound runtime.tables) (fun _ => Started.sound) ?_
    reached
  rintro _ command _ sound rfl
  exact sound_perform sound command

theorem UrmaRuntime.Reached.perform (reached : runtime.Reached)
    (command : OwnerCommand) : (runtime.perform command).Reached :=
  .next reached rfl

/-! The smallest runtime: one slot of each kind.  Concrete runs start here. -/

namespace Small

def config : RuntimeConfig where
  sendJfcDepth := 4
  recvJfcDepth := 4
  bufferPool := { slotSize := 8, txSlotCount := 1, rxSlotCount := 1, alignment := 8 }

def capability : UrmaDeviceCapability where
  transportType := 0
  maxJfc := 2
  maxJfs := 4
  maxJfr := 4
  maxJetty := 4
  maxJfcDepth := 4
  maxJfsDepth := 4
  maxJfrDepth := 4
  maxJfsSge := 1
  maxJfsRsge := 1
  maxJfrSge := 1
  maxMsgSize := 8

def jetty : JettyConfig where
  sendDepth := 1
  recvDepth := 1
  maxSendSge := 1
  maxRecvSge := 1
  postListSize := 1
  pipelineDepth := 1

def descriptor : JettyDescriptor where
  version := 1
  transportType := 0
  eidIndex := 0
  jettyId := 9
  opaqueLen := 1
  opaqueData := [0]

def accepting (count : Nat) : Nat → ShimPost :=
  fun _ => { status := 0, posted := count }

def started : UrmaRuntime where
  capability := capability
  maxPostListSize := 1
  tables :=
    { pool :=
        { segment := some 16
          slots := initialSlots config.bufferPool
          freeTx := [0]
          freeRx := [1]
          leases := LeaseBook.new 0
          accepting := true }
      router :=
        { batch := 16
          outstanding := []
          outstandingTotal := 0
          outstandingSend := 0
          outstandingRecv := 0
          outstandingByLane := ∅
          retirementByLane := ∅
          laneByJettyId := ∅
          registeredRxByIdentity := ∅
          windows := []
          outbox := [] } }
  accepting := true
  poisoned := false
  nextLaneId := 1
  lanes := ∅

/-- Lane 1 is created on Jetty 9 and bound. -/
def connected : UrmaRuntime :=
  (started.perform (.createLane jetty ⟨.ok (), .ok (9, 10), .ok descriptor⟩)).perform
    (.bindLane 1 descriptor (.ok ()) (.ok ()))

theorem started_reached : started.Reached :=
  .start ⟨config, capability, 0, rfl⟩

theorem connected_reached : connected.Reached :=
  (started_reached.perform _).perform _

end Small

end DragonflyClient.Urma
