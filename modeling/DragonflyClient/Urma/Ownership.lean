import DragonflyClient.Urma.Owner

/-!
Slot and work-request ownership: the pool and the router agree on what the
provider owns, in every state the owner can reach.
-/

namespace DragonflyClient.Urma

open Library List

def OperationType.slotState : OperationType → SlotState
  | .send => .sendPosted
  | .recv => .postedRecv

/-- The pool and the router agree on every slot the provider owns. -/
structure SlotWrAgreement (tables : OwnerTables) : Prop where
  /-- A slot is in a posted state exactly when a work request is tracked for it. -/
  posted : ∀ index,
    (tables.pool.stateAt index = some .postedRecv ∨
      tables.pool.stateAt index = some .sendPosted) ↔
    (tables.router.outstandingAt index).isSome
  /-- Its `user_ctx` names the slot, its current generation and its operation. -/
  names : ∀ index wr, tables.router.outstandingAt index = some wr →
    ∃ token, WrToken.decode wr.userCtx = .ok token ∧ token.slot.index.toNat = index ∧
      tables.pool.generationAt index = some token.slot.generation ∧
      tables.pool.stateAt index = some token.operation.slotState

/-- Every entry the provider accepted is tracked: each call of the tracking
function counted one more work request and stored it under the entry's slot. -/
structure Tracks (before after : OwnerTables) (accepted : List PostEntry) : Prop where
  total : after.router.outstandingTotal = before.router.outstandingTotal + accepted.length
  stored : ∀ entry ∈ accepted, ∃ token wr, WrToken.decode entry.userCtx = .ok token ∧
    after.router.outstandingAt token.slot.index.toNat = some wr ∧
    wr.userCtx = entry.userCtx ∧
    before.router.outstandingAt token.slot.index.toNat = none

theorem Consistent.slotWrAgreement {custody tables} (consistent : Consistent custody tables) :
    SlotWrAgreement tables := by
  have agrees := consistent.agrees
  constructor
  case posted =>
    intro index
    rw [agrees.tracked]
    constructor
    · intro posted
      have inside : index < tables.pool.slots.length := by
        by_contra outside
        simp [BufferPool.stateAt, getElem?_eq_none (Nat.le_of_not_lt outside)] at posted
      rw [agrees.state index inside] at posted
      have settled := consistent.settled index
      cases held : custody index with
      | posted operation wr => rfl
      | free => simp [held, Custody.state] at posted
      | leased kind => cases kind <;> simp [held, Custody.state] at posted
      | reserved | marked | completed => simp [held, Custody.settled] at settled
    · intro tracked
      obtain ⟨wr, tracked⟩ := Option.isSome_iff_exists.mp tracked
      obtain ⟨operation, held⟩ := Custody.wr_eq_some.mp tracked
      rw [agrees.stateAt held (by simp)]
      cases operation <;> simp [Custody.state]
  case names =>
    intro index wr tracked
    rw [agrees.tracked] at tracked
    obtain ⟨operation, held⟩ := Custody.wr_eq_some.mp tracked
    obtain ⟨laneId, laneGeneration, generation, nonzero, nonzero', current, word⟩ :=
      (agrees.stamped index operation wr held).token
    obtain ⟨generation', found, live⟩ := agrees.live index (by simp [held])
    obtain rfl : generation = generation' := Option.some.inj (current.symm.trans found)
    have inside := agrees.inside index (by simp [held])
    have bounded := agrees.bounded
    refine ⟨_, by rw [word, WrToken.decode_word nonzero nonzero' live], ?_, current, ?_⟩
    · simp only [UInt16.toNat_ofNat']
      omega
    · rw [agrees.stateAt held (by simp)]
      cases operation <;> rfl

theorem total_recordRecvs (lane : UrmaLane) (router : CompletionRouter)
    (pairs : List (PendingRecv × PostEntry)) :
    (recordRecvs lane router pairs).outstandingTotal = router.outstandingTotal + pairs.length := by
  induction pairs generalizing router with
  | nil => rfl
  | cons pair rest ih =>
    refine (ih _).trans ?_
    simp only [CompletionRouter.recordRx, length_cons]
    omega

theorem total_recordSends (lane : UrmaLane) (window : WindowId) (router : CompletionRouter)
    (pairs : List (UrmaLane.PendingSend × PostEntry)) :
    (recordSends lane window router pairs).outstandingTotal =
      router.outstandingTotal + pairs.length := by
  induction pairs generalizing router with
  | nil => rfl
  | cons pair rest ih =>
    refine (ih _).trans ?_
    simp only [CompletionRouter.recordTx, length_cons]
    omega

theorem Sound.tracks_postReceive {tables} (sound : Sound tables) (lane : UrmaLane)
    (sequences : List UInt64) (completionTxs : List ChannelId) (shims : Nat → ShimPost) :
    Tracks tables (lane.postReceiveWindowRegistered tables sequences completionTxs shims).tables
      (lane.postReceiveWindowRegistered tables sequences completionTxs shims).accepted := by
  obtain ⟨custody, agrees, -, -⟩ := sound.consistent
  obtain ⟨pairs, after, outcome⟩ :=
    agrees.postReceiveWindowRegistered sound.segment lane sequences completionTxs shims
  refine ⟨?_, fun entry accepted => ?_⟩
  · rw [outcome.router, outcome.accepted, total_recordRecvs, length_map]
  · rw [outcome.accepted, mem_map] at accepted
    obtain ⟨pair, member, rfl⟩ := accepted
    obtain ⟨wasFree, posted⟩ := outcome.posted pair member
    refine ⟨_, (recvWr pair).2, outcome.decoded member, ?_, rfl, ?_⟩
    · exact (outcome.agrees.tracked _).trans (congrArg Custody.wr posted)
    · exact (agrees.tracked _).trans (congrArg Custody.wr wasFree)

theorem Sound.tracks_send {tables} (sound : Sound tables) (lane : UrmaLane) (lease : TxWindowLease)
    (sequences : List UInt64) (completion : ChannelId) (shims : Nat → ShimPost) :
    Tracks tables (lane.sendRegisteredWindow tables lease sequences completion shims).tables
      (lane.sendRegisteredWindow tables lease sequences completion shims).accepted := by
  obtain ⟨custody, agrees, -, -⟩ := sound.consistent
  cases checked : lane.checkSendWindow tables.pool lease sequences with
  | error error =>
    simp only [UrmaLane.sendRegisteredWindow, checked]
    exact ⟨rfl, by simp⟩
  | ok layouts =>
    obtain ⟨pairs, after, pool, failure, outcome, sent, -⟩ :=
      agrees.sendRegisteredWindow sound.segment completion shims checked
    rw [sent]
    have finished := SameTracking.finishWindow
      { pool
        router := recordSends lane tables.router.windows.length
          (UrmaLane.openWindow tables.router
            (TxWindowInner.new lane.id sequences lease completion)) pairs }
      tables.router.windows.length failure
    refine ⟨?_, fun entry accepted => ?_⟩
    · refine finished.total.trans ?_
      rw [total_recordSends, length_map]
      rfl
    · rw [mem_map] at accepted
      obtain ⟨pair, member, rfl⟩ := accepted
      obtain ⟨wasLeased, posted⟩ := outcome.posted pair member
      refine ⟨_, (sendWr tables.router.windows.length pair).2, outcome.decoded member, ?_, rfl, ?_⟩
      · exact (finished.outstandingAt _).trans
          ((outcome.agrees.tracked _).trans (congrArg Custody.wr posted))
      · exact (agrees.tracked _).trans (congrArg Custody.wr wasLeased)

/-- In every reachable state the pool and the router agree on the slots the
provider owns, and a window posted there has every accepted entry tracked. -/
theorem UrmaRuntime.Reached.ownership {runtime : UrmaRuntime} (reached : runtime.Reached) :
    SlotWrAgreement runtime.tables ∧
    (∀ laneId sequences completionTxs shims,
      let posted := runtime.postReceiveWindowRegistered laneId sequences completionTxs shims
      Tracks runtime.tables posted.runtime.tables posted.accepted) ∧
    ∀ laneId lease sequences completion shims,
      let posted := runtime.sendRegisteredWindow laneId lease sequences completion shims
      Tracks runtime.tables posted.runtime.tables posted.accepted := by
  have sound := reached.sound
  obtain ⟨custody, consistent⟩ := sound.consistent
  refine ⟨consistent.slotWrAgreement, ?_, ?_⟩
  · intro laneId sequences completionTxs shims
    unfold postReceiveWindowRegistered
    split
    · exact ⟨rfl, by simp⟩
    · exact sound.tracks_postReceive _ _ _ _
  · intro laneId lease sequences completion shims
    unfold sendRegisteredWindow
    split
    · exact ⟨rfl, by simp⟩
    · exact sound.tracks_send _ _ _ _ _

/-- One posted receive: its slot is in `PostedRecv` and its work request is
tracked. -/
theorem ownership_posted_receive :
    let runtime :=
      Small.connected.perform (.postReceiveWindowRegistered 1 [5] [0] (Small.accepting 1))
    (runtime.tables.router.outstandingAt 1).isSome ∧
      runtime.tables.pool.stateAt 1 = some .postedRecv ∧ SlotWrAgreement runtime.tables :=
  ⟨by decide +kernel, by decide +kernel, (Small.connected_reached.perform _).ownership.1⟩

end DragonflyClient.Urma
