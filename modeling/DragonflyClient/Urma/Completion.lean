import DragonflyClient.Urma.Buffer

/-!
The completion router (`urma/completion.rs`): the single consumer of both
completion queues.

A `oneshot` sender is named by the channel it resolves.  What the owner thread
sends, and the recycle tokens that dropped leases return, are appended to
`outbox`; the fabric delivers them.  The shared window states
(`Arc<Mutex<RegisteredTxWindowInner>>`) live in `windows` and are referenced by
position; the last reference to a window going away drops a lease still in it.
Statistics are not modelled.
-/

namespace DragonflyClient.Urma

open Library

inductive CompletionEventKind where
  | workRequest
  | suspendDone
  | flushErrorDone
  | unknown (kind : UInt8)
  deriving DecidableEq, Repr

structure CompletionRecord where
  status : Int := 0
  opcode : UInt32 := 0
  userCtx : UInt64 := 0
  immData : UInt64 := 0
  completionLen : Nat := 0
  localId : UInt32 := 0
  isRecv : Bool := false
  isJetty : Bool := false
  userCtxValid : Bool := false
  immDataValid : Bool := false
  eventKind : CompletionEventKind := .workRequest
  deriving DecidableEq, Repr

def crOpcodeSendWithImm : UInt32 := 1

abbrev ChannelId := Nat

abbrev WindowId := Nat

structure RegisteredRxCompletion where
  laneId : UInt16
  postedSequence : Option UInt64
  immData : UInt64
  slot : SlotId
  lease : RegisteredRxWindowLease
  deriving DecidableEq, Repr

structure RegisteredTxCompletion where
  laneId : UInt16
  sequences : List UInt64
  lease : TxWindowLease
  deriving DecidableEq, Repr

/-- What leaves the owner thread: a resolved `oneshot` or a returned token. -/
inductive Effect where
  | rx (channel : ChannelId) (result : Result RegisteredRxCompletion)
  | tx (channel : ChannelId) (result : Result RegisteredTxCompletion)
  | dropped (token : LeaseRecycle)
  deriving DecidableEq, Repr

structure TxWindowInner where
  pending : Nat
  postingFinished : Bool
  firstError : Option Error
  laneId : UInt16
  sequences : List UInt64
  lease : Option TxWindowLease
  completion : Option ChannelId
  deriving DecidableEq, Repr

namespace TxWindowInner

def new (laneId : UInt16) (sequences : List UInt64) (lease : TxWindowLease)
    (completion : ChannelId) : TxWindowInner where
  pending := 0
  postingFinished := false
  firstError := none
  laneId := laneId
  sequences := sequences
  lease := some lease
  completion := some completion

def posted (inner : TxWindowInner) : TxWindowInner :=
  { inner with pending := inner.pending + 1 }

def droppedLease (inner : TxWindowInner) : List Effect :=
  inner.lease.toList.map fun lease => .dropped lease.core

def resolve (inner : TxWindowInner) : TxWindowInner × List Effect :=
  if ¬ inner.postingFinished ∨ inner.pending ≠ 0 then
    (inner, [])
  else
    match inner.completion with
    | none => (inner, [])
    | some channel =>
      match inner.firstError with
      | some error =>
        ({ inner with completion := none, firstError := none, lease := none },
          inner.droppedLease ++ [.tx channel (.error error)])
      | none =>
        match inner.lease with
        | none =>
          ({ inner with completion := none },
            [.tx channel (.error (.panicked "registered TX lease is owned"))])
        | some lease =>
          ({ inner with completion := none, lease := none, sequences := [] },
            [.tx channel (.ok
              { laneId := inner.laneId, sequences := inner.sequences, lease })])

def finishPosting (inner : TxWindowInner) (error : Option Error) : TxWindowInner × List Effect :=
  resolve
    { inner with
      postingFinished := true
      firstError := inner.firstError.or error }

/-- `completed`, with the error of the routed result if it has one. -/
def completed (inner : TxWindowInner) (error : Option Error) : TxWindowInner × List Effect :=
  resolve
    { inner with
      pending := inner.pending - 1
      firstError := inner.firstError.or error }

def fail (inner : TxWindowInner) (error : Error) : TxWindowInner × List Effect :=
  ({ inner with
      firstError := inner.firstError.or (some error)
      completion := none },
    inner.completion.toList.map fun channel => .tx channel (.error error))

end TxWindowInner

structure OutstandingWr where
  userCtx : UInt64
  sequence : Option UInt64
  completion : Option WindowId
  deriving DecidableEq, Repr

structure LaneRetirement where
  jettyId : UInt32
  jfrId : UInt32
  waitingForFlush : Bool
  flushDone : Bool
  deriving DecidableEq, Repr

structure CompletionRouter where
  batch : Nat
  outstanding : List (Option OutstandingWr)
  outstandingTotal : Nat
  outstandingSend : Nat
  outstandingRecv : Nat
  outstandingByLane : Table UInt16 Nat
  retirementByLane : Table UInt16 LaneRetirement
  laneByJettyId : Table UInt32 UInt16
  registeredRxByIdentity : Table (UInt16 × UInt64) ChannelId
  windows : List TxWindowInner
  outbox : List Effect
  deriving DecidableEq

def maxPollBatch : Nat := 16

namespace CompletionRouter

def new (batch : Nat) : Result CompletionRouter :=
  if batch = 0 ∨ batch > maxPollBatch then
    .error (.invalidConfiguration s!"completion poll batch must be in 1..={maxPollBatch}")
  else
    .ok
      { batch
        outstanding := []
        outstandingTotal := 0
        outstandingSend := 0
        outstandingRecv := 0
        outstandingByLane := ∅
        retirementByLane := ∅
        laneByJettyId := ∅
        registeredRxByIdentity := ∅
        windows := []
        outbox := [] }

def outstandingAt (router : CompletionRouter) (index : Nat) : Option OutstandingWr :=
  router.outstanding[index]?.join

def registerLane (router : CompletionRouter) (laneId : UInt16) (jettyId jfrId : UInt32) :
    Result CompletionRouter :=
  if laneId ∈ router.retirementByLane then
    .error (.protocol
      s!"duplicate completion lifecycle registration for lane {laneId}")
  else
    match router.laneByJettyId.lookup jettyId with
    | some existing =>
      .error (.protocol s!"native Jetty id {jettyId} is already owned by lane {existing}")
    | none =>
      .ok
        { router with
          laneByJettyId := router.laneByJettyId.insert jettyId laneId
          retirementByLane := router.retirementByLane.insert laneId
            { jettyId, jfrId, waitingForFlush := false, flushDone := false } }

def beginLaneRetirement (router : CompletionRouter) (laneId : UInt16) : Result CompletionRouter :=
  match router.retirementByLane.lookup laneId with
  | none => .error (.protocol s!"lane {laneId} has no completion lifecycle registration")
  | some retirement =>
    .ok
      { router with
        retirementByLane := router.retirementByLane.insert laneId
          { retirement with waitingForFlush := true } }

def laneFlushDone (router : CompletionRouter) (laneId : UInt16) : Bool :=
  match router.retirementByLane.lookup laneId with
  | none => false
  | some retirement => retirement.flushDone

def hasRegisteredRx (router : CompletionRouter) (laneId : UInt16) : Bool :=
  Table.anyEntry router.registeredRxByIdentity fun identity _ => identity.1 = laneId

def unregisterLane (router : CompletionRouter) (laneId : UInt16) : Result CompletionRouter :=
  if router.hasRegisteredRx laneId then
    .error (.protocol s!"cannot unregister lane {laneId} with registered RX identities")
  else
    match router.retirementByLane.lookup laneId with
    | none => .error (.protocol s!"lane {laneId} has no completion lifecycle registration")
    | some retirement =>
      .ok
        { router with
          retirementByLane := router.retirementByLane.erase laneId
          laneByJettyId := router.laneByJettyId.erase retirement.jettyId }

def hasPendingFlush (router : CompletionRouter) : Bool :=
  Table.anyEntry router.retirementByLane fun _ retirement =>
    retirement.waitingForFlush && !retirement.flushDone

/-- `resize_with(index + 1, || None)` when the table is too short, then the
store of one entry. -/
def putOutstanding (entries : List (Option OutstandingWr)) (index : Nat)
    (entry : Option OutstandingWr) : List (Option OutstandingWr) :=
  (entries ++ List.replicate (index + 1 - entries.length) none).set index entry

def laneCount (router : CompletionRouter) (laneId : UInt16) : Nat :=
  (router.outstandingByLane.lookup laneId).getD 0

def recordRx (router : CompletionRouter) (token : WrToken) (userCtx sequence : UInt64)
    (completion : ChannelId) : CompletionRouter :=
  { router with
    outstanding := putOutstanding router.outstanding token.slot.index.toNat
      (some { userCtx, sequence := some sequence, completion := none })
    registeredRxByIdentity :=
      router.registeredRxByIdentity.insert (token.laneId, sequence) completion
    outstandingTotal := router.outstandingTotal + 1
    outstandingRecv := router.outstandingRecv + 1
    outstandingByLane :=
      router.outstandingByLane.insert token.laneId (router.laneCount token.laneId + 1) }

def trackRegisteredRx (router : CompletionRouter) (userCtx : UInt64)
    (sequence : Option UInt64) (completion : ChannelId) : Result CompletionRouter :=
  match WrToken.decode userCtx with
  | .error error => .error error
  | .ok token =>
    if token.operation ≠ .recv then
      .error (.protocol "registered RX completion requires a RECV WR")
    else
      match sequence with
      | none =>
        .error (.invalidConfiguration
          "registered RX completion requires a SEND_IMM identity")
      | some sequence =>
        let laneId := token.laneId
        if (laneId, sequence) ∈ router.registeredRxByIdentity then
          .error (.protocol
            s!"duplicate registered RX identity: lane_id={laneId} sequence={sequence}")
        else if (router.outstandingAt token.slot.index.toNat).isSome then
          .error (.protocol "duplicate outstanding slot")
        else
          .ok (router.recordRx token userCtx sequence completion)

/-- The loop of `validate_registered_rx_identities`; `seen` are the sequences
already inserted into the hash set. -/
def validateIdentities (router : CompletionRouter) (laneId : UInt16) :
    List UInt64 → List UInt64 → Result Unit
  | _, [] => .ok ()
  | seen, sequence :: rest =>
    if sequence ∈ seen then
      .error (.protocol
        s!"duplicate RX identity in registered window: lane_id={laneId} sequence={sequence}")
    else if (laneId, sequence) ∈ router.registeredRxByIdentity then
      .error (.protocol
        s!"registered RX identity is already active: lane_id={laneId} sequence={sequence}")
    else
      validateIdentities router laneId (sequence :: seen) rest

def validateRegisteredRxIdentities (router : CompletionRouter) (laneId : UInt16)
    (sequences : List UInt64) : Result Unit :=
  router.validateIdentities laneId [] sequences

def recordTx (router : CompletionRouter) (token : WrToken) (userCtx sequence : UInt64)
    (window : WindowId) : CompletionRouter :=
  { router with
    windows := router.windows.modify window TxWindowInner.posted
    outstanding := putOutstanding router.outstanding token.slot.index.toNat
      (some { userCtx, sequence := some sequence, completion := some window })
    outstandingTotal := router.outstandingTotal + 1
    outstandingSend := router.outstandingSend + 1
    outstandingByLane :=
      router.outstandingByLane.insert token.laneId (router.laneCount token.laneId + 1) }

def trackRegisteredTx (router : CompletionRouter) (userCtx : UInt64)
    (sequence : UInt64) (window : WindowId) : Result CompletionRouter :=
  match WrToken.decode userCtx with
  | .error error => .error error
  | .ok token =>
    if token.operation ≠ .send then
      .error (.protocol "registered TX completion requires a SEND WR")
    else if (router.outstandingAt token.slot.index.toNat).isSome then
      .error (.protocol "duplicate outstanding slot")
    else
      .ok (router.recordTx token userCtx sequence window)

def takeRegisteredRx (router : CompletionRouter) (laneId : UInt16) (immData : UInt64) :
    Result (CompletionRouter × ChannelId) :=
  match router.registeredRxByIdentity.lookup (laneId, immData) with
  | none =>
    .error (.protocol
      s!"URMA SEND_IMM completion has no registered RX identity: lane_id={laneId} sequence={immData}")
  | some channel =>
    .ok ({ router with
      registeredRxByIdentity := router.registeredRxByIdentity.erase (laneId, immData) },
      channel)

/-- The lane count and the entry of a taken work request; `count` is the lane's
count before. -/
def forget (router : CompletionRouter) (token : WrToken) (count : Nat) : CompletionRouter :=
  { router with
    outstandingByLane :=
      if count - 1 = 0 then router.outstandingByLane.erase token.laneId
      else router.outstandingByLane.insert token.laneId (count - 1)
    outstanding := putOutstanding router.outstanding token.slot.index.toNat none }

/-- `take_outstanding`.  The total is decremented before the lane count is
looked up. -/
def takeOutstanding (router : CompletionRouter) (userCtx : UInt64) :
    CompletionRouter × Result OutstandingWr :=
  match WrToken.decode userCtx with
  | .error error => (router, .error error)
  | .ok token =>
    let index := token.slot.index.toNat
    if router.outstanding.length ≤ index then
      (router, .error (.protocol "CQE slot is outside outstanding table"))
    else
      match router.outstandingAt index with
      | none => (router, .error (.protocol "CQE has no outstanding WR"))
      | some entry =>
        if entry.userCtx ≠ userCtx then
          (router, .error (.protocol "CQE has no outstanding WR"))
        else
          let router := { router with outstandingTotal := router.outstandingTotal - 1 }
          match router.outstandingByLane.lookup token.laneId with
          | none => (router, .error (.protocol "CQE lane has no outstanding WR"))
          | some count => (router.forget token count, .ok entry)

def decrementOperation (router : CompletionRouter) : OperationType → CompletionRouter
  | .send => { router with outstandingSend := router.outstandingSend - 1 }
  | .recv => { router with outstandingRecv := router.outstandingRecv - 1 }

def outstandingForLane (router : CompletionRouter) (laneId : UInt16) : Nat :=
  router.laneCount laneId

def emit (router : CompletionRouter) (effects : List Effect) : CompletionRouter :=
  { router with outbox := router.outbox ++ effects }

def withWindow (router : CompletionRouter) (window : WindowId)
    (update : TxWindowInner → TxWindowInner × List Effect) : CompletionRouter :=
  match router.windows[window]? with
  | none => router
  | some inner =>
    let updated := update inner
    emit { router with windows := router.windows.set window updated.1 } updated.2

def referenced (router : CompletionRouter) (window : WindowId) : Bool :=
  router.outstanding.any fun entry =>
    match entry with
    | some wr => wr.completion = some window
    | none => false

/-- A reference to a window goes out of scope: the last one drops its lease. -/
def dropReference (router : CompletionRouter) (window : WindowId) : CompletionRouter :=
  if router.referenced window then
    router
  else
    router.withWindow window fun inner =>
      ({ inner with lease := none, completion := none }, inner.droppedLease)

end CompletionRouter

/-- The two tables the owner thread keeps in step. -/
structure OwnerTables where
  pool : BufferPool
  router : CompletionRouter
  deriving DecidableEq

inductive CompletionTarget where
  | registeredRx (channel : ChannelId)
  | registeredTx (window : WindowId)
  deriving DecidableEq, Repr

inductive RoutedCompletion where
  | registeredRx (completion : RegisteredRxCompletion)
  | registeredTx
  deriving DecidableEq, Repr

def errorOf {α : Type} : Result α → Option Error
  | .ok _ => none
  | .error error => some error

def validateRecvImmediate (record : CompletionRecord) : Result UInt64 :=
  if record.opcode ≠ crOpcodeSendWithImm ∨ ¬ record.immDataValid then
    let opcode := record.opcode
    let valid := record.immDataValid
    .error (.protocol
      s!"URMA receive CQE lacks SEND_WITH_IMM identity: opcode={opcode} imm_data_valid={valid}")
  else
    .ok record.immData

namespace CompletionRouter

/-- `CompletionTarget::send`. -/
def deliver (router : CompletionRouter) (result : Result RoutedCompletion) :
    CompletionTarget → CompletionRouter
  | .registeredTx window =>
    (router.withWindow window (·.completed (errorOf result))).dropReference window
  | .registeredRx channel =>
    match result with
    | .ok (.registeredRx value) => router.emit [.rx channel (.ok value)]
    | .ok .registeredTx =>
      router.emit [.rx channel (.error
        (.protocol "registered TX completion routed to RX receiver"))]
    | .error error => router.emit [.rx channel (.error error)]

def markFlushed (router : CompletionRouter) (laneId : UInt16) (retirement : LaneRetirement) :
    CompletionRouter :=
  { router with
    retirementByLane := router.retirementByLane.insert laneId
      { retirement with flushDone := true } }

def routeFlushDone (router : CompletionRouter) (record : CompletionRecord)
    (recvQueue : Bool) : Result CompletionRouter :=
  if recvQueue then
    .error (.protocol "WR_FLUSH_ERR_DONE arrived on the receive JFC")
  else
    let localId := record.localId
    match router.laneByJettyId.lookup localId with
    | none =>
      .error (.protocol s!"WR_FLUSH_ERR_DONE references unknown native Jetty {localId}")
    | some laneId =>
      match router.retirementByLane.lookup laneId with
      | none => .error (.panicked "native Jetty map and lane retirement map agree")
      | some retirement =>
        if ¬ retirement.waitingForFlush then
          .error (.protocol
            s!"lane {laneId} received WR_FLUSH_ERR_DONE before retirement")
        else
          .ok (router.markFlushed laneId retirement)

/-- `completion.take()` of one outstanding entry. -/
def orphan (router : CompletionRouter) (index : Nat) (wr : OutstandingWr) : CompletionRouter :=
  { router with
    outstanding := putOutstanding router.outstanding index
      (some { wr with completion := none }) }

/-- `CompletionTarget::fail` for one outstanding entry. -/
def failEntry (error : Error) (router : CompletionRouter) (index : Nat) : CompletionRouter :=
  match router.outstandingAt index with
  | none => router
  | some wr =>
    match wr.completion with
    | none => router
    | some window =>
      ((router.orphan index wr).withWindow window (·.fail error)).dropReference window

/-- Wakes every logical waiter without releasing native WR or buffer ownership. -/
def failPending (router : CompletionRouter) (error : Error) : CompletionRouter :=
  let drained :=
    emit { router with registeredRxByIdentity := ∅ }
      (router.registeredRxByIdentity.entries.map fun entry => .rx entry.2 (.error error))
  (List.range router.outstanding.length).foldl (failEntry error) drained

end CompletionRouter

namespace OwnerTables

/-- Retires the slot of a failed completion: a leased TX slot goes back to its
lease, any other slot is released. -/
def retireSlot (pool : BufferPool) (token : WrToken) (registeredTx : Bool) :
    BufferPool × Result Unit :=
  if registeredTx then
    commit pool (pool.completeTxLeaseSend token.slot)
  else
    andThen (commit pool (pool.completeError token.slot token.operation)) fun pool =>
      commit pool (pool.release token.slot)

/-- `result.and(Err(error))`. -/
def thenFail {α : Type} (retired : BufferPool × Result Unit) (error : Error) :
    BufferPool × Result α :=
  match retired with
  | (pool, .ok ()) => (pool, .error error)
  | (pool, .error failure) => (pool, .error failure)

/-- The RECV arm of a successful completion, with the target it resolved. -/
def settleRecv (tables : OwnerTables) (record : CompletionRecord) (token : WrToken)
    (sequence : Option UInt64) :
    OwnerTables × Option CompletionTarget × Result RoutedCompletion :=
  match validateRecvImmediate record with
  | .error error =>
    let retired := thenFail (retireSlot tables.pool token false) error
    ({ tables with pool := retired.1 }, none, retired.2)
  | .ok immData =>
    match tables.router.takeRegisteredRx token.laneId immData with
    | .error error =>
      let retired := thenFail (retireSlot tables.pool token false) error
      ({ tables with pool := retired.1 }, none, retired.2)
    | .ok (router, channel) =>
      let target := some (CompletionTarget.registeredRx channel)
      match tables.pool.completeRecvLeased token.slot record.completionLen with
      | .error error =>
        let retired := thenFail (retireSlot tables.pool token false) error
        ({ pool := retired.1, router }, target, retired.2)
      | .ok pool =>
        match pool.leaseCompletedRxWindow [(token.slot, record.completionLen)] with
        | (pool, .error error) =>
          let retired := thenFail (commit pool (pool.release token.slot)) error
          ({ pool := retired.1, router }, target, retired.2)
        | (pool, .ok lease) =>
          ({ pool, router }, target,
            .ok (.registeredRx
              { laneId := token.laneId
                postedSequence := sequence
                immData
                slot := token.slot
                lease }))

def settleSend (tables : OwnerTables) (token : WrToken) (registeredTx : Bool) :
    OwnerTables × Result RoutedCompletion :=
  if registeredTx then
    match tables.pool.completeTxLeaseSend token.slot with
    | .error error => (tables, .error error)
    | .ok pool => ({ tables with pool }, .ok .registeredTx)
  else
    let retired := thenFail (retireSlot tables.pool token false)
      (.protocol "SEND CQE has no registered TX owner")
    ({ tables with pool := retired.1 }, retired.2)

/-- The classification of a completion whose WR has been taken. -/
def settle (tables : OwnerTables) (record : CompletionRecord) (recvQueue : Bool)
    (token : WrToken) (wr : OutstandingWr) :
    OwnerTables × Option CompletionTarget × Result RoutedCompletion :=
  let target := wr.completion.map CompletionTarget.registeredTx
  let tables := { tables with router := tables.router.decrementOperation token.operation }
  if decide (token.operation = .recv) ≠ recvQueue ∨ record.isRecv ≠ recvQueue ∨
      ¬ record.isJetty then
    let retired := thenFail (retireSlot tables.pool token wr.completion.isSome)
      (.protocol "CQE queue/operation flags disagree")
    ({ tables with pool := retired.1 }, target, retired.2)
  else if record.status ≠ 0 then
    let retired := thenFail (retireSlot tables.pool token wr.completion.isSome)
      (.completion record.status record.opcode record.userCtx wr.sequence none)
    ({ tables with pool := retired.1 }, target, retired.2)
  else
    match token.operation with
    | .send =>
      let settled := settleSend tables token wr.completion.isSome
      (settled.1, target, settled.2)
    | .recv =>
      let settled := settleRecv tables record token wr.sequence
      (settled.1, settled.2.1.or target, settled.2.2)

/-- A completion error of a retiring lane is the expected flush of its WRs. -/
def ownerResult (retiring : Bool) : Result RoutedCompletion → Result Unit
  | .ok _ => .ok ()
  | .error error =>
    if error.isCompletion ∧ retiring then .ok () else .error error

def retiring (router : CompletionRouter) (laneId : UInt16) : Bool :=
  match router.retirementByLane.lookup laneId with
  | none => false
  | some retirement => retirement.waitingForFlush

def deliverTo (tables : OwnerTables) (result : Result RoutedCompletion) :
    Option CompletionTarget → OwnerTables
  | none => tables
  | some target => { tables with router := tables.router.deliver result target }

def routeWorkRequest (tables : OwnerTables) (record : CompletionRecord)
    (recvQueue : Bool) (token : WrToken) : OwnerTables × Result Unit :=
  if tables.router.laneByJettyId.lookup record.localId ≠ some token.laneId then
    let localId := record.localId
    let laneId := token.laneId
    (tables, .error (.protocol s!"CQE native Jetty {localId} does not belong to lane {laneId}"))
  else
    match tables.router.takeOutstanding record.userCtx with
    | (router, .error error) => ({ tables with router }, .error error)
    | (router, .ok wr) =>
      let (settled, target, result) :=
        settle { tables with router } record recvQueue token wr
      (settled.deliverTo result target,
        ownerResult (retiring tables.router token.laneId) result)

def route (recvQueue : Bool) (tables : OwnerTables) (record : CompletionRecord) :
    OwnerTables × Result Unit :=
  match record.eventKind with
  | .flushErrorDone =>
    match tables.router.routeFlushDone record recvQueue with
    | .error error => (tables, .error error)
    | .ok router => ({ tables with router }, .ok ())
  | .suspendDone =>
    let localId := record.localId
    (tables, .error (.protocol
      s!"unexpected WR_SUSPEND_DONE lifecycle CQE on native object {localId}"))
  | .unknown kind =>
    (tables, .error (.protocol s!"unknown URMA completion event kind {kind}"))
  | .workRequest =>
    if ¬ record.userCtxValid then
      (tables, .error (.completion record.status record.opcode 0 none none))
    else
      match WrToken.decode record.userCtx with
      | .error error => (tables, .error error)
      | .ok token => tables.routeWorkRequest record recvQueue token

/-- A poll consumes the complete batch: every record is routed, the first error
is kept, and the successful ones are counted. -/
def drainBatch (recvQueue : Bool) :
    List CompletionRecord → OwnerTables → OwnerTables × Nat × Option Error
  | [], tables => (tables, 0, none)
  | record :: rest, tables =>
    let routed := route recvQueue tables record
    let drained := drainBatch recvQueue rest routed.1
    match routed.2 with
    | .ok () => (drained.1, drained.2.1 + 1, drained.2.2)
    | .error error => (drained.1, drained.2.1, some error)

/-- `poll_into`: the records of one native poll of at most `batch` entries. -/
def pollInto (batch : Nat) (polled : Except FfiError (List CompletionRecord)) :
    Except FfiError (List CompletionRecord) :=
  match polled with
  | .error error => .error error
  | .ok records =>
    if records.length > batch then
      .error (.contract "provider returned too many completions")
    else
      .ok records

def pollJfc (tables : OwnerTables) (recvQueue : Bool)
    (polled : Except FfiError (List CompletionRecord)) : OwnerTables × Result Nat :=
  match pollInto tables.router.batch polled with
  | .error error => (tables, .error (nativeError "poll_jfc" error))
  | .ok records =>
    match drainBatch recvQueue records tables with
    | (tables, routed, none) => (tables, .ok routed)
    | (tables, _, some error) => (tables, .error error)

structure Polled where
  send : Except FfiError (List CompletionRecord)
  recv : Except FfiError (List CompletionRecord)

def pollOnce (tables : OwnerTables) (polled : Polled) : OwnerTables × Result Nat :=
  let sent :=
    if tables.router.outstandingSend ≠ 0 ∨ tables.router.hasPendingFlush then
      tables.pollJfc false polled.send
    else
      (tables, .ok 0)
  let received :=
    if sent.1.router.outstandingRecv ≠ 0 then
      sent.1.pollJfc true polled.recv
    else
      (sent.1, .ok 0)
  (received.1,
    match sent.2, received.2 with
    | .error error, _ => .error error
    | .ok _, .error error => .error error
    | .ok sends, .ok receives => .ok (sends + receives))
end OwnerTables

end DragonflyClient.Urma
