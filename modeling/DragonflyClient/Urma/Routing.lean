import DragonflyClient.Urma.Leasing

/-!
Completions and the custody map: a routed completion ends the provider's
custody of exactly one slot, and a failed one still frees it or gives it back to
its lease.
-/

namespace DragonflyClient.Urma

open Library Function

namespace Agrees

variable {custody : Nat → Custody} {tables : OwnerTables}

theorem decode_posted (agrees : Agrees custody tables) {index operation wr}
    (posted : custody index = .posted operation wr) {token}
    (decoded : WrToken.decode wr.userCtx = .ok token) :
    token.operation = operation ∧ slotIndex token.slot = index ∧
      tables.pool.generationAt index = some token.slot.generation := by
  obtain ⟨laneId, laneGeneration, generation, nonzero, nonzero', current, word⟩ :=
    (agrees.stamped index operation wr posted).token
  obtain ⟨generation', found, live⟩ := agrees.live index (by simp [posted])
  obtain rfl : generation = generation' := Option.some.inj (current.symm.trans found)
  have inside := agrees.inside index (by simp [posted])
  have bounded := agrees.bounded
  rw [word, WrToken.decode_word nonzero nonzero' live] at decoded
  cases decoded
  exact ⟨rfl, by simp [slotIndex]; omega, current⟩

theorem forget (agrees : Agrees custody tables) {token wr}
    (posted : custody (slotIndex token.slot) = .posted token.operation wr) (count total : Nat) :
    Agrees (update custody (slotIndex token.slot) (.marked token.operation))
      { tables with
        router := CompletionRouter.forget
          { tables.router with outstandingTotal := total } token count } := by
  refine agrees.retrack (by simp [posted]) (by simp) ?_ ?_
    (fun other => CompletionRouter.join_putOutstanding _ _ _ _) nofun
  · rw [posted]
    cases token.operation <;> rfl
  · intro kind fits
    rw [posted] at fits
    revert fits
    cases token.operation <;> exact fun fits => fits

theorem marked_moves_completed (operation : OperationType) :
    (Custody.marked operation).Moves (.completed operation) := by
  refine ⟨by simp, by simp, rfl, rfl, fun kind fits => ?_⟩
  cases operation <;> exact fits

theorem retireSlot (agrees : Agrees custody tables) (token : WrToken)
    (held : Holds custody tables.pool token.slot (.marked token.operation)) :
    ∃ pool, OwnerTables.retireSlot tables.pool token false = (pool, .ok ()) ∧
      Agrees (update custody (slotIndex token.slot) .free) { tables with pool } ∧
      SamePool tables.pool pool := by
  have step := marked_moves_completed token.operation
  have moved := agrees.transition (.completed token.operation) held step
  have nowHeld : Holds (update custody (slotIndex token.slot)
      (.completed token.operation)) (tables.pool.setState (slotIndex token.slot)
      (Custody.completed token.operation).state) token.slot (.completed token.operation) :=
    ⟨by simpa using held.generation, update_self ..⟩
  obtain ⟨pool, released, agrees', same⟩ :=
    (agrees.move held.custody step).release nowHeld (by cases token.operation <;> rfl)
  rw [update_idem] at agrees'
  refine ⟨pool, ?_, agrees', (SamePool.setState _ _ _).trans same⟩
  have completed : tables.pool.completeError token.slot token.operation =
      .ok (tables.pool.setState (slotIndex token.slot)
        (Custody.completed token.operation).state) := by
    rw [← moved]
    cases token.operation <;> rfl
  simp only [OwnerTables.retireSlot, Bool.false_eq_true, if_false, completed, commit_ok,
    andThen_ok, released]

theorem completeTxLeaseSend (agrees : Agrees custody tables) {slot}
    (held : Holds custody tables.pool slot (.marked .send)) :
    ∃ pool, tables.pool.completeTxLeaseSend slot = .ok pool ∧
      Agrees (update custody (slotIndex slot) (.leased .tx)) { tables with pool } ∧
      SamePool tables.pool pool := by
  have step : (Custody.marked .send).Moves (.leased .tx) :=
    ⟨by simp, by simp, rfl, rfl, fun _ fits => fits⟩
  exact ⟨_, agrees.transition (.leased .tx) held step, agrees.move held.custody step,
    .setState _ _ _⟩

end Agrees

def sendResult (record : CompletionRecord) (recvQueue : Bool) (wr : OutstandingWr) :
    Result RoutedCompletion :=
  if recvQueue = true ∨ record.isRecv ≠ recvQueue ∨ ¬ record.isJetty then
    .error (.protocol "CQE queue/operation flags disagree")
  else if record.status ≠ 0 then
    .error (.completion record.status record.opcode record.userCtx wr.sequence none)
  else if wr.completion.isSome then
    .ok .registeredTx
  else
    .error (.protocol "SEND CQE has no registered TX owner")

/-- The outcome of settling a send: its slot goes back to the lease of its
window, or is freed when the window is gone. -/
structure SendSettled (custody : Nat → Custody) (tables : OwnerTables) (token : WrToken)
    (wr : OutstandingWr) (record : CompletionRecord) (recvQueue : Bool)
    (outcome : OwnerTables × Option CompletionTarget × Result RoutedCompletion) : Prop where
  agrees : Agrees (update custody (slotIndex token.slot)
    (if wr.completion.isSome then .leased .tx else .free)) outcome.1
  pool : SamePool tables.pool outcome.1.pool
  router : outcome.1.router = tables.router.decrementOperation .send
  target : outcome.2.1 = wr.completion.map CompletionTarget.registeredTx
  result : outcome.2.2 = sendResult record recvQueue wr

/-- The outcome of settling a receive: a lease for the waiter of its immediate
data, or a freed slot and an error.  The index is the custody the slot ends in. -/
inductive RecvSettled (custody : Nat → Custody) (tables : OwnerTables) (token : WrToken)
    (record : CompletionRecord) :
    Custody → OwnerTables × Option CompletionTarget × Result RoutedCompletion → Prop where
  | unclaimed {pool error} (agrees : Agrees (update custody (slotIndex token.slot) .free)
        { pool, router := tables.router.decrementOperation .recv })
      (same : SamePool tables.pool pool) (fatal : record.status = 0 → error.isCompletion = false) :
      RecvSettled custody tables token record .free
        ({ pool, router := tables.router.decrementOperation .recv }, none, .error error)
  | failed {pool router channel error} (success : record.status = 0)
      (taken : (tables.router.decrementOperation .recv).takeRegisteredRx token.laneId
        record.immData = .ok (router, channel))
      (agrees : Agrees (update custody (slotIndex token.slot) .free) { pool, router })
      (same : SamePool tables.pool pool) :
      RecvSettled custody tables token record .free
        ({ pool, router }, some (.registeredRx channel), .error error)
  | delivered {pool router channel completion} (success : record.status = 0)
      (taken : (tables.router.decrementOperation .recv).takeRegisteredRx token.laneId
        record.immData = .ok (router, channel))
      (agrees : Agrees (update custody (slotIndex token.slot) (.leased .rx)) { pool, router })
      (same : SamePool
        { tables.pool with leases := tables.pool.leases.issued .rx [token.slot] } pool)
      (core : completion.lease.cores =
        [{ poolId := tables.pool.leases.poolId
           leaseId := tables.pool.leases.nextLeaseId }])
      (identity : completion.laneId = token.laneId ∧ completion.immData = record.immData ∧
        completion.slot = token.slot) :
      RecvSettled custody tables token record (.leased .rx)
        ({ pool, router }, some (.registeredRx channel), .ok (.registeredRx completion))

namespace Agrees

variable {custody : Nat → Custody} {tables : OwnerTables}

section

variable (agrees : Agrees custody tables)
include agrees

theorem decrementOperation (operation : OperationType) :
    Agrees custody { tables with router := tables.router.decrementOperation operation } :=
  agrees.congr_router fun index => by cases operation <;> rfl

/-- Every branch of a send completion retires the slot in the same way. -/
theorem retireSend {token} (send : token.operation = .send)
    (held : Holds custody tables.pool token.slot (.marked .send)) (registeredTx : Bool) :
    ∃ pool, OwnerTables.retireSlot tables.pool token registeredTx = (pool, .ok ()) ∧
      Agrees (update custody (slotIndex token.slot)
        (if registeredTx then .leased .tx else .free)) { tables with pool } ∧
      SamePool tables.pool pool := by
  cases registeredTx with
  | false => exact agrees.retireSlot _ (send.symm ▸ held)
  | true =>
    obtain ⟨pool, completed, agrees', same⟩ := agrees.completeTxLeaseSend held
    exact ⟨pool, by simp [OwnerTables.retireSlot, completed], agrees', same⟩

theorem settleSend {token} (send : token.operation = .send)
    (held : Holds custody tables.pool token.slot (.marked .send)) (wr : OutstandingWr)
    (record : CompletionRecord) (recvQueue : Bool) :
    SendSettled custody tables token wr record recvQueue
      (tables.settle record recvQueue token wr) := by
  obtain ⟨pool, retired, agrees', same⟩ :=
    (agrees.decrementOperation .send).retireSend send held wr.completion.isSome
  have queue : (false ≠ recvQueue ∨ record.isRecv ≠ recvQueue ∨ ¬ record.isJetty = true) ↔
      (recvQueue = true ∨ record.isRecv ≠ recvQueue ∨ ¬ record.isJetty = true) := by
    cases recvQueue <;> simp
  unfold OwnerTables.settle
  simp only [send, reduceCtorEq, decide_false, retired, OwnerTables.thenFail]
  split
  next disagree =>
    exact ⟨agrees', same, rfl, rfl, by rw [sendResult, if_pos (queue.mp disagree)]⟩
  next agree =>
  have agree' := fun flags => agree (queue.mpr flags)
  split
  next failed => exact ⟨agrees', same, rfl, rfl, by rw [sendResult, if_neg agree', if_pos failed]⟩
  next succeeded =>
    have result : sendResult record recvQueue wr =
        if wr.completion.isSome then .ok .registeredTx
        else .error (.protocol "SEND CQE has no registered TX owner") := by
      rw [sendResult, if_neg agree', if_neg succeeded]
    unfold OwnerTables.settleSend
    cases registered : wr.completion.isSome with
    | true =>
      rw [registered] at retired agrees' result
      simp only [OwnerTables.retireSlot, if_true] at retired
      cases completed : tables.pool.completeTxLeaseSend token.slot with
      | error error => simp [completed] at retired
      | ok pool' =>
        simp only [completed, commit_ok, Prod.mk.injEq, and_true] at retired
        subst retired
        exact ⟨by simpa [registered] using agrees', same, rfl, rfl, result.symm⟩
    | false =>
      rw [registered] at retired agrees' result
      simp only [Bool.false_eq_true, if_false, retired, OwnerTables.thenFail]
      exact ⟨by simpa [registered] using agrees', same, rfl, rfl, result.symm⟩

/-- A receive completion either fails its length check or completes the slot. -/
theorem completeRecvLeased {slot} (held : Holds custody tables.pool slot (.marked .recv))
    (length : Nat) :
    (∃ error, tables.pool.completeRecvLeased slot length = .error error) ∨
    ∃ pool, tables.pool.completeRecvLeased slot length = .ok pool ∧
      Agrees (update custody (slotIndex slot) (.completed .recv)) { tables with pool } ∧
      SamePool tables.pool pool := by
  have step := marked_moves_completed .recv
  have moved := agrees.transition (.completed .recv) held step
  unfold BufferPool.completeRecvLeased
  split
  · exact .inl ⟨_, rfl⟩
  split
  · exact .inl ⟨_, rfl⟩
  split
  · exact .inl ⟨_, rfl⟩
  · exact .inr ⟨_, moved, agrees.move held.custody step, .setState _ _ _⟩

theorem takeRegisteredRx {laneId immData router channel}
    (taken : tables.router.takeRegisteredRx laneId immData = .ok (router, channel)) :
    Agrees custody { tables with router } := by
  unfold CompletionRouter.takeRegisteredRx at taken
  split at taken
  · cases taken
  · cases taken
    exact agrees.congr_router fun _ => rfl

end

theorem of_validateRecvImmediate_ok {record immData}
    (valid : validateRecvImmediate record = .ok immData) : immData = record.immData := by
  unfold validateRecvImmediate at valid
  split at valid
  · cases valid
  · exact (Except.ok.inj valid).symm

theorem of_validateRecvImmediate_error {record error}
    (refused : validateRecvImmediate record = .error error) : error.isCompletion = false := by
  unfold validateRecvImmediate at refused
  split at refused
  · rw [← Except.error.inj refused]
    rfl
  · cases refused

theorem of_takeRegisteredRx_error {router : CompletionRouter} {laneId immData error}
    (refused : router.takeRegisteredRx laneId immData = .error error) :
    error.isCompletion = false := by
  unfold CompletionRouter.takeRegisteredRx at refused
  split at refused
  · rw [← Except.error.inj refused]
    rfl
  · cases refused

theorem settleRecv (agrees : Agrees custody tables) {token : WrToken}
    (recv : token.operation = .recv) (held : Holds custody tables.pool token.slot (.marked .recv))
    {wr} (untargeted : wr.completion = none) (record : CompletionRecord) (recvQueue : Bool) :
    ∃ value, RecvSettled custody tables token record value
      (tables.settle record recvQueue token wr) := by
  have agrees' := agrees.decrementOperation .recv
  obtain ⟨pool, retired, freed, same⟩ := agrees'.retireSlot token (recv.symm ▸ held)
  unfold OwnerTables.settle
  simp only [recv, untargeted, Option.map_none, Option.isSome_none, Option.or_none, retired,
    OwnerTables.thenFail]
  split
  · exact ⟨_, .unclaimed freed same fun _ => rfl⟩
  split
  next failed => exact ⟨_, .unclaimed freed same fun success => absurd success failed⟩
  next success =>
  rw [not_not] at success
  unfold OwnerTables.settleRecv
  cases valid : validateRecvImmediate record with
  | error error =>
    simp only [retired, OwnerTables.thenFail]
    exact ⟨_, .unclaimed freed same fun _ => of_validateRecvImmediate_error valid⟩
  | ok immData =>
    obtain rfl := of_validateRecvImmediate_ok valid
    dsimp only
    cases taken : (tables.router.decrementOperation .recv).takeRegisteredRx token.laneId
        record.immData with
    | error error =>
      simp only [retired, OwnerTables.thenFail]
      exact ⟨_, .unclaimed freed same fun _ => of_takeRegisteredRx_error taken⟩
    | ok answer =>
      have claimed := agrees'.takeRegisteredRx taken
      rcases claimed.completeRecvLeased held record.completionLen with
        ⟨error, refused⟩ | ⟨completed, accepted, nowCompleted, same'⟩
      · simp only [refused, retired, OwnerTables.thenFail]
        exact ⟨_, .failed success taken (freed.takeRegisteredRx taken) same⟩
      · simp only [accepted]
        have nowHeld : Holds (update custody (slotIndex token.slot)
            (.completed .recv)) completed token.slot (.completed .recv) :=
          ⟨(same'.generation _).trans held.generation, update_self ..⟩
        rcases nowCompleted.leaseCompletedRxWindow
            [(token.slot, record.completionLen)]
            ⟨by simp, by simpa using nowHeld⟩ with
          ⟨error, pool', refused, stillCompleted, since⟩ | ⟨pool', lease, granted, leased, core, since⟩
        · obtain ⟨released, freed', agrees'', after⟩ := stillCompleted.release
            ⟨(since.generation _).trans nowHeld.generation, nowHeld.custody⟩ rfl
          rw [update_idem] at agrees''
          simp only [refused, freed', commit_ok]
          exact ⟨_, .failed success taken agrees'' ((same'.trans since).trans after)⟩
        · have assigned : assign (update custody (slotIndex token.slot)
              (.completed .recv)) [token.slot] (.leased .rx) =
              update custody (slotIndex token.slot) (.leased .rx) := by
            funext index
            simp only [assign, update_apply, List.map_cons, List.map_nil, List.mem_singleton]
            split <;> simp_all
          simp only [granted]
          simp only [List.map_cons, List.map_nil, assigned] at leased since
          rw [same'.leases] at since core
          exact ⟨_, .delivered success taken leased ((same'.withLeases _).trans since) core
            ⟨rfl, rfl, rfl⟩⟩

end Agrees

end DragonflyClient.Urma
