import DragonflyClient.Urma.Completion

/-!
Peer lanes (`urma/lane.rs`): the lifecycle of one RC Jetty, its send credits,
and the two post paths.

Every native call takes its outcome as an argument, so a statement about all
outcomes is a statement about all provider behaviours.  The post paths also
return the entries the provider accepted, in order; the source learns the same
prefix through `PostBatch`.
-/

namespace DragonflyClient.Urma

open Library

structure JettyDescriptor where
  version : UInt16
  transportType : UInt32
  eidIndex : UInt32
  jettyId : UInt32
  opaqueLen : UInt32
  opaqueData : List UInt8
  deriving DecidableEq, Repr

def jettyDescriptorVersion : UInt16 := 1

def maxJettyDescriptorLen : Nat := 64 * 1024

def JettyDescriptor.validate (descriptor : JettyDescriptor) : Result Unit :=
  let declared := descriptor.opaqueLen.toNat
  if descriptor.version ≠ jettyDescriptorVersion then
    let version := descriptor.version
    .error (.protocol s!"unsupported Jetty descriptor version {version}")
  else if declared = 0 ∨ declared ≠ descriptor.opaqueData.length then
    .error (.protocol "descriptor opaque_len does not match opaque_data")
  else if declared > maxJettyDescriptorLen then
    .error (.protocol s!"descriptor length {declared} exceeds {maxJettyDescriptorLen}")
  else
    .ok ()

namespace JettyDescriptor

def beBytes16 (value : UInt16) : List UInt8 :=
  [(value >>> 8).toUInt8, value.toUInt8]

def beBytes32 (value : UInt32) : List UInt8 :=
  [(value >>> 24).toUInt8, (value >>> 16).toUInt8, (value >>> 8).toUInt8, value.toUInt8]

def ofBeBytes16 (high low : UInt8) : UInt16 :=
  (high.toUInt16 <<< 8) ||| low.toUInt16

def ofBeBytes32 (first second third fourth : UInt8) : UInt32 :=
  (first.toUInt32 <<< 24) ||| (second.toUInt32 <<< 16) ||| (third.toUInt32 <<< 8) |||
    fourth.toUInt32

def serialize (descriptor : JettyDescriptor) : Result (List UInt8) :=
  match descriptor.validate with
  | .error error => .error error
  | .ok () =>
    .ok (beBytes16 descriptor.version ++ beBytes32 descriptor.transportType ++
      beBytes32 descriptor.eidIndex ++ beBytes32 descriptor.jettyId ++
      beBytes32 descriptor.opaqueLen ++ descriptor.opaqueData)

def deserialize : List UInt8 → Result JettyDescriptor
  | v₀ :: v₁ :: t₀ :: t₁ :: t₂ :: t₃ :: e₀ :: e₁ :: e₂ :: e₃ :: j₀ :: j₁ :: j₂ :: j₃ ::
      o₀ :: o₁ :: o₂ :: o₃ :: opaqueData =>
      let descriptor : JettyDescriptor :=
        { version := ofBeBytes16 v₀ v₁
          transportType := ofBeBytes32 t₀ t₁ t₂ t₃
          eidIndex := ofBeBytes32 e₀ e₁ e₂ e₃
          jettyId := ofBeBytes32 j₀ j₁ j₂ j₃
          opaqueLen := ofBeBytes32 o₀ o₁ o₂ o₃
          opaqueData }
      match descriptor.validate with
      | .error error => .error error
      | .ok () => .ok descriptor
  | _ => .error (.protocol "truncated Jetty descriptor")

end JettyDescriptor

/-- The native Jetty as far as its owner tracks it. -/
structure UrmaJetty where
  localJettyId : UInt32
  localJfrId : UInt32
  imported : Bool
  bound : Bool
  deriving DecidableEq, Repr

structure JettyTeardown where
  unbind : Except FfiError Unit
  unimport : Except FfiError Unit
  delete : Except FfiError Unit

namespace UrmaJetty

def importRemote (jetty : UrmaJetty) (descriptor : JettyDescriptor)
    (imported : Except FfiError Unit) : Result UrmaJetty :=
  if jetty.imported then
    .error (.protocol "a remote Jetty is already imported")
  else
    match descriptor.validate with
    | .error error => .error error
    | .ok () =>
      match imported with
      | .error error => .error (nativeError "import_jetty" error)
      | .ok () => .ok { jetty with imported := true }

def bind (jetty : UrmaJetty) (bound : Except FfiError Unit) : Result UrmaJetty :=
  if ¬ jetty.imported then
    .error (.protocol "bind requires an imported Jetty")
  else
    match bound with
    | .error error => .error (nativeError "bind_jetty" error)
    | .ok () => .ok { jetty with bound := true }

def failureOf (operation : String) : Except FfiError Unit → List String
  | .ok () => []
  | .error error => [(nativeError operation error).display]

def succeeded : Except FfiError Unit → Bool
  | .ok () => true
  | .error _ => false

def close (jetty : UrmaJetty) (teardown : JettyTeardown) : UrmaJetty × Result Unit :=
  let unbound := { jetty with bound := jetty.bound && !succeeded teardown.unbind }
  let unbindFailures :=
    if jetty.bound then failureOf "unbind_jetty" teardown.unbind else []
  let mayUnimport := unbound.imported && !unbound.bound
  let unimported :=
    { unbound with imported := unbound.imported && !(mayUnimport && succeeded teardown.unimport) }
  let unimportFailures :=
    if mayUnimport then failureOf "unimport_jetty" teardown.unimport else []
  let deleteFailures :=
    if !unimported.bound && !unimported.imported then
      failureOf "delete_jetty" teardown.delete
    else []
  let failures := unbindFailures ++ unimportFailures ++ deleteFailures
  (unimported, if failures = [] then .ok () else .error (.shutdown failures))

end UrmaJetty

inductive LaneState where
  | jettyCreated
  | descriptorExchanged
  | bound
  | ready
  | draining
  | failed
  | closed
  deriving DecidableEq, Repr

def LaneState.debug : LaneState → String
  | .jettyCreated => "JettyCreated"
  | .descriptorExchanged => "DescriptorExchanged"
  | .bound => "Bound"
  | .ready => "Ready"
  | .draining => "Draining"
  | .failed => "Failed"
  | .closed => "Closed"

structure UrmaLane where
  id : UInt16
  generation : UInt8
  state : LaneState
  transportType : Int
  jetty : UrmaJetty
  remoteReceivesAvailable : Nat
  postListSize : Nat
  retirementArmed : Bool
  deriving DecidableEq, Repr

namespace UrmaLane

def new (id : UInt16) (generation : UInt8) (transportType : Int) (jetty : UrmaJetty)
    (postListSize : Nat) : Result UrmaLane :=
  if id = 0 ∨ generation = 0 then
    .error (.invalidConfiguration "lane id and generation must be non-zero")
  else
    .ok
      { id, generation, state := .jettyCreated, transportType, jetty
        remoteReceivesAvailable := 0, postListSize, retirementArmed := false }

def stateError (lane : UrmaLane) (operation : String) : Error :=
  let id := lane.id
  let state := lane.state.debug
  .protocol s!"cannot {operation} while lane {id} is {state}"

def require (lane : UrmaLane) (expected : LaneState) : Result Unit :=
  if lane.state = expected then
    .ok ()
  else
    let id := lane.id
    let found := lane.state.debug
    let wanted := expected.debug
    .error (.protocol s!"lane {id} is {found}, expected {wanted}")

/-- `exported` is what the native query returned. -/
def exportDescriptor (lane : UrmaLane) (exported : Except FfiError JettyDescriptor) :
    Result (UrmaLane × JettyDescriptor) :=
  if lane.state ≠ .jettyCreated ∧ lane.state ≠ .descriptorExchanged then
    .error (lane.stateError "export descriptor")
  else
    match exported with
    | .error error => .error (nativeError "get_rjetty" error)
    | .ok descriptor =>
      match descriptor.validate with
      | .error error => .error error
      | .ok () => .ok ({ lane with state := .descriptorExchanged }, descriptor)

/-- `imported` and `bound` are the outcomes of the two native calls. -/
def importAndBind (lane : UrmaLane) (descriptor : JettyDescriptor)
    (imported bound : Except FfiError Unit) : UrmaLane × Result Unit :=
  if lane.state ≠ .jettyCreated ∧ lane.state ≠ .descriptorExchanged then
    (lane, .error (lane.stateError "import descriptor"))
  else if lane.transportType < 0 then
    (lane, .error (.protocol "local transport type is negative"))
  else if (descriptor.transportType.toNat : Int) ≠ lane.transportType then
    let remote := descriptor.transportType
    let localType := lane.transportType
    (lane, .error (.protocol
      s!"remote transport type {remote} does not match local {localType}"))
  else
    let lane := { lane with state := .descriptorExchanged }
    match lane.jetty.importRemote descriptor imported with
    | .error error => (lane, .error error)
    | .ok jetty =>
      let lane := { lane with jetty }
      match jetty.bind bound with
      | .error error => (lane, .error error)
      | .ok jetty => ({ lane with jetty, state := .bound }, .ok ())

def markReady (lane : UrmaLane) : Result UrmaLane :=
  match lane.require .bound with
  | .error error => .error error
  | .ok () => .ok { lane with state := .ready }

def grantRemoteReceives (available count : Nat) : Result Nat :=
  if count = 0 then
    .error (.protocol "remote receive credit grant must be non-zero")
  else
    match checkedAdd available count with
    | none => .error (.protocol "remote receive credit overflow")
    | some total => .ok total

def grantSendCredit (lane : UrmaLane) (count : Nat) : Result UrmaLane :=
  match lane.require .ready with
  | .error error => .error error
  | .ok () =>
    match grantRemoteReceives lane.remoteReceivesAvailable count with
    | .error error => .error error
    | .ok available => .ok { lane with remoteReceivesAvailable := available }

def requireRemoteReceives (lane : UrmaLane) (count : Nat) : Result Unit :=
  let available := lane.remoteReceivesAvailable
  if available < count then
    .error (.protocol
      s!"SEND window requires {count} receive credits, only {available} available")
  else
    .ok ()

def consumeRemoteReceives (lane : UrmaLane) (count : Nat) : UrmaLane :=
  { lane with remoteReceivesAvailable := lane.remoteReceivesAvailable - count }

def token (lane : UrmaLane) (operation : OperationType) (slot : SlotId) : WrToken where
  laneId := lane.id
  generation := lane.generation
  operation := operation
  slot := slot

/-- `marked` is the outcome of moving the Jetty to its error state. -/
def beginDraining (lane : UrmaLane) (marked : Except FfiError Unit) : UrmaLane × Result Unit :=
  if lane.state = .closed then
    (lane, .ok ())
  else
    let lane := { lane with state := .draining }
    match marked with
    | .error error => (lane, .error (nativeError "modify_jetty_error" error))
    | .ok () => ({ lane with retirementArmed := true }, .ok ())

def isDraining (lane : UrmaLane) : Bool :=
  lane.state = .draining

def close (lane : UrmaLane) (outstanding : Nat) (teardown : JettyTeardown) :
    UrmaLane × Result Unit :=
  if lane.state = .closed then
    (lane, .ok ())
  else if outstanding ≠ 0 then
    let id := lane.id
    (lane, .error (.protocol s!"cannot close lane {id} with {outstanding} outstanding WRs"))
  else
    match lane.jetty.close teardown with
    | (jetty, .ok ()) =>
      ({ lane with jetty, remoteReceivesAvailable := 0, state := .closed }, .ok ())
    | (jetty, .error error) => ({ lane with jetty, state := .failed }, .error error)

end UrmaLane

structure PostEntry where
  offset : Nat
  length : Nat
  userCtx : UInt64
  immData : Option UInt64
  deriving DecidableEq, Repr

structure ShimPost where
  status : Int
  posted : Nat
  nullHandle : Bool := false
  deriving DecidableEq, Repr

def maxPostList : Nat := 64

/-- `post_list`: the accepted prefix and the error that cut it short. -/
def postList (count : Nat) (shim : ShimPost) : Except FfiError (Nat × Option FfiError) :=
  if count = 0 ∨ count > maxPostList then
    .error (.contract "invalid linked WR post-list length")
  else if shim.posted > count ∨ (shim.status = 0 ∧ shim.posted ≠ count) then
    .error (.contract "invalid posted WR prefix from shim")
  else if shim.nullHandle ∧ shim.posted ≠ 0 then
    .error .nullHandle
  else
    .ok (shim.posted, if shim.status = 0 then none else some (.status shim.status))

structure PendingRecv where
  slot : SlotId
  sequence : UInt64
  completion : ChannelId
  deriving DecidableEq, Repr

/-- The outcome of a post path: the tables as it left them, the entries the
provider accepted and the result it returned. -/
structure Posting where
  tables : OwnerTables
  accepted : List PostEntry
  result : Result Unit
  deriving DecidableEq

namespace UrmaLane

/-- The prepare loop of a receive batch: the entries it marked posted, and the
error that stopped it. -/
def prepareRecv (lane : UrmaLane) :
    List PendingRecv → BufferPool → BufferPool × List PostEntry × Result Unit
  | [], pool => (pool, [], .ok ())
  | pending :: rest, pool =>
    match pool.recvPostLayout pending.slot with
    | .error error => (pool, [], .error error)
    | .ok (offset, length) =>
      match (lane.token .recv pending.slot).encode with
      | .error error => (pool, [], .error error)
      | .ok userCtx =>
        match pool.markPosted pending.slot .rx with
        | .error error => (pool, [], .error error)
        | .ok pool =>
          let prepared := prepareRecv lane rest pool
          (prepared.1, { offset, length, userCtx, immData := none } :: prepared.2.1,
            prepared.2.2)

def rollbackRecv (pool : BufferPool) (pending : List PendingRecv) : BufferPool × Result Unit :=
  tryEach (fun pool pending => commit pool (pool.rollbackPost pending.slot .rx)) pending pool

/-- Undo a receive batch that was not posted and release the window's rest. -/
def abandonRecv (tables : OwnerTables) (marked unposted : List PendingRecv)
    (error : Error) : OwnerTables × Result Unit :=
  let undone := andThen (rollbackRecv tables.pool marked) fun pool =>
    pool.releaseUnpostedRxWindow (unposted.map PendingRecv.slot)
  ({ tables with pool := undone.1 },
    match undone.2 with
    | .ok () => .error error
    | .error failure => .error failure)

/-- The loop after a successful post call: the accepted prefix is tracked, the
rest is rolled back.  A tracking error is remembered, not returned. -/
def trackRecv : List (PendingRecv × PostEntry) → Nat → OwnerTables → Option Error →
    OwnerTables × Result (Option Error)
  | [], _, tables, firstError => (tables, .ok firstError)
  | (pending, _) :: rest, 0, tables, firstError =>
    let undone := andThen (commit tables.pool (tables.pool.rollbackPost pending.slot .rx))
      fun pool => commit pool (pool.release pending.slot)
    match undone.2 with
    | .error error => ({ tables with pool := undone.1 }, .error error)
    | .ok () => trackRecv rest 0 { tables with pool := undone.1 } firstError
  | (pending, entry) :: rest, posted + 1, tables, firstError =>
    match tables.router.trackRegisteredRx entry.userCtx (some pending.sequence)
        pending.completion with
    | .error error => trackRecv rest posted tables (firstError.or (some error))
    | .ok router => trackRecv rest posted { tables with router } firstError

/-- One iteration of the receive loop: `none` goes on to the next batch. -/
def postRecvBatch (lane : UrmaLane) (tables : OwnerTables) (shim : ShimPost)
    (batch later : List PendingRecv) :
    OwnerTables × List PostEntry × Result Unit :=
  match prepareRecv lane batch tables.pool with
  | (pool, entries, .error error) =>
    let abandoned :=
      abandonRecv { tables with pool } (batch.take entries.length) (batch ++ later) error
    (abandoned.1, [], abandoned.2)
  | (pool, entries, .ok ()) =>
    let tables := { tables with pool }
    match pool.segmentLength with
    | .error error => (tables, [], .error error)
    | .ok _ =>
      match postList entries.length shim with
      | .error error =>
        let abandoned := abandonRecv tables batch (batch ++ later)
          (nativeError "post_jetty_recv_wr_list" error)
        (abandoned.1, [], abandoned.2)
      | .ok (posted, postError) =>
        let accepted := entries.take posted
        match trackRecv (batch.zip entries) posted tables
            (postError.map (nativeError "post_jetty_recv_wr_list")) with
        | (tables, .error error) => (tables, accepted, .error error)
        | (tables, .ok none) => (tables, accepted, .ok ())
        | (tables, .ok (some error)) =>
          let released :=
            tables.pool.releaseUnpostedRxWindow (later.map PendingRecv.slot)
          ({ tables with pool := released.1 }, accepted,
            match released.2 with
            | .ok () => .error error
            | .error failure => .error failure)

/-- The receive loop; `shims` numbers the batches. -/
def postRecvBatches (lane : UrmaLane) (shims : Nat → ShimPost) :
    List (List PendingRecv) → Nat → OwnerTables → Posting
  | [], _, tables => { tables, accepted := [], result := .ok () }
  | batch :: later, number, tables =>
    match postRecvBatch lane tables (shims number) batch later.flatten with
    | (tables, accepted, .error error) => { tables, accepted, result := .error error }
    | (tables, accepted, .ok ()) =>
      let rest := postRecvBatches lane shims later (number + 1) tables
      { rest with accepted := accepted ++ rest.accepted }

/-- `completionTxs` are the waiters of the window's identities. -/
def postReceiveWindowRegistered (lane : UrmaLane) (tables : OwnerTables)
    (sequences : List UInt64) (completionTxs : List ChannelId) (shims : Nat → ShimPost) :
    Posting :=
  let refuse (tables : OwnerTables) (error : Error) : Posting :=
    { tables, accepted := [], result := .error error }
  if lane.state ≠ .bound ∧ lane.state ≠ .ready then
    refuse tables (lane.stateError "post registered receive window")
  else if sequences = [] ∨ sequences.length ≠ completionTxs.length then
    refuse tables (.invalidConfiguration
      "registered RX window requires matching non-empty sequences and completions")
  else
    match tables.router.validateRegisteredRxIdentities lane.id sequences with
    | .error error => refuse tables error
    | .ok () =>
      match tables.pool.allocateRxWindow sequences.length with
      | (pool, .error error) => refuse { tables with pool } error
      | (pool, .ok slots) =>
        let pending := (slots.zip (sequences.zip completionTxs)).map fun item =>
          { slot := item.1, sequence := item.2.1, completion := item.2.2 }
        postRecvBatches lane shims (batches lane.postListSize pending) 0
          { tables with pool }

/-- One message of a send window: its leased slot, its span and its identity. -/
structure PendingSend where
  slot : SlotId
  offset : Nat
  length : Nat
  sequence : UInt64
  deriving DecidableEq, Repr

def prepareSend (lane : UrmaLane) :
    List PendingSend → BufferPool → BufferPool × List PostEntry × Result Unit
  | [], pool => (pool, [], .ok ())
  | pending :: rest, pool =>
    match (lane.token .send pending.slot).encode with
    | .error error => (pool, [], .error error)
    | .ok userCtx =>
      match pool.markTxLeasePosted pending.slot with
      | .error error => (pool, [], .error error)
      | .ok pool =>
        let prepared := prepareSend lane rest pool
        (prepared.1,
          { offset := pending.offset, length := pending.length, userCtx
            immData := some pending.sequence } :: prepared.2.1,
          prepared.2.2)

def rollbackSend (pool : BufferPool) (pending : List PendingSend) : BufferPool × Result Unit :=
  tryEach (fun pool pending => commit pool (pool.rollbackTxLeasePost pending.slot))
    pending pool

/-- The loop after a successful post call: the accepted prefix is tracked under
the window, the rest goes back to its lease. -/
def trackSend (window : WindowId) :
    List (PendingSend × PostEntry) → Nat → OwnerTables → Option Error →
      OwnerTables × Result (Option Error)
  | [], _, tables, firstError => (tables, .ok firstError)
  | (pending, _) :: rest, 0, tables, firstError =>
    match tables.pool.rollbackTxLeasePost pending.slot with
    | .error error => (tables, .error error)
    | .ok pool => trackSend window rest 0 { tables with pool } firstError
  | (pending, entry) :: rest, posted + 1, tables, firstError =>
    match tables.router.trackRegisteredTx entry.userCtx pending.sequence window with
    | .error error => trackSend window rest posted tables (firstError.or (some error))
    | .ok router => trackSend window rest posted { tables with router } firstError

/-- The `finish_posting` call and the end of the posting function's own
reference to the window. -/
def finishWindow (tables : OwnerTables) (window : WindowId) (error : Option Error) : OwnerTables :=
  { tables with
    router :=
      (tables.router.withWindow window (·.finishPosting error)).dropReference window }

/-- Leave the send loop with an error, after undoing the marks of a batch. -/
def abandonSend (tables : OwnerTables) (window : WindowId) (marked : List PendingSend)
    (error : Error) : OwnerTables × Result Unit :=
  match rollbackSend tables.pool marked with
  | (pool, .error failure) =>
    ({ pool, router := tables.router.dropReference window }, .error failure)
  | (pool, .ok ()) => (finishWindow { tables with pool } window (some error), .error error)

/-- A send posting also spends credits of its lane. -/
structure SendPosting where
  lane : UrmaLane
  tables : OwnerTables
  accepted : List PostEntry
  result : Result Unit
  deriving DecidableEq

/-- One iteration of the send loop: an `ok` result goes on to the next batch. -/
def postSendBatch (lane : UrmaLane) (tables : OwnerTables) (window : WindowId)
    (shim : ShimPost) (batch : List PendingSend) : SendPosting :=
  match prepareSend lane batch tables.pool with
  | (pool, entries, .error error) =>
    let abandoned :=
      abandonSend { tables with pool } window (batch.take entries.length) error
    { lane, tables := abandoned.1, accepted := [], result := abandoned.2 }
  | (pool, entries, .ok ()) =>
    let tables := { tables with pool }
    match pool.segmentLength with
    | .error error =>
      { lane
        tables := { tables with router := tables.router.dropReference window }
        accepted := []
        result := .error error }
    | .ok _ =>
      match postList entries.length shim with
      | .error error =>
        let abandoned := abandonSend tables window batch
          (nativeError "post_jetty_send_imm_wr_list" error)
        { lane, tables := abandoned.1, accepted := [], result := abandoned.2 }
      | .ok (posted, postError) =>
        let lane := lane.consumeRemoteReceives posted
        let accepted := entries.take posted
        match trackSend window (batch.zip entries) posted tables
            (postError.map (nativeError "post_jetty_send_wr_list")) with
        | (tables, .error error) =>
          { lane
            tables := { tables with router := tables.router.dropReference window }
            accepted
            result := .error error }
        | (tables, .ok (some error)) =>
          { lane, tables := finishWindow tables window (some error), accepted
            result := .error error }
        | (tables, .ok none) => { lane, tables, accepted, result := .ok () }

def postSendBatches (window : WindowId) (shims : Nat → ShimPost) :
    List (List PendingSend) → Nat → UrmaLane → OwnerTables → SendPosting
  | [], _, lane, tables =>
    { lane, tables := finishWindow tables window none, accepted := [], result := .ok () }
  | batch :: later, number, lane, tables =>
    match postSendBatch lane tables window (shims number) batch with
    | { lane, tables, accepted, result := .error error } =>
      { lane, tables, accepted, result := .error error }
    | { lane, tables, accepted, result := .ok () } =>
      let rest := postSendBatches window shims later (number + 1) lane tables
      { rest with accepted := accepted ++ rest.accepted }

def checkSendWindow (lane : UrmaLane) (pool : BufferPool) (lease : TxWindowLease)
    (sequences : List UInt64) : Result (List (SlotId × Nat × Nat)) :=
  match lane.require .ready with
  | .error error => .error error
  | .ok () =>
    if sequences.length ≠ lease.layouts.length ∨ sequences = [] then
      .error (.invalidConfiguration
        "registered TX window requires one sequence per chunk")
    else
      match lane.requireRemoteReceives sequences.length with
      | .error error => .error error
      | .ok () => pool.txLeaseLayouts lease

/-- A new window state takes the next position. -/
def openWindow (router : CompletionRouter) (inner : TxWindowInner) : CompletionRouter :=
  { router with windows := router.windows ++ [inner] }

def messages (layouts : List (SlotId × Nat × Nat)) (sequences : List UInt64) : List PendingSend :=
  (layouts.zip sequences).map fun item =>
    { slot := item.1.1, offset := item.1.2.1, length := item.1.2.2, sequence := item.2 }

/-- A refused window drops its lease, which returns the recycle token. -/
def sendRegisteredWindow (lane : UrmaLane) (tables : OwnerTables) (lease : TxWindowLease)
    (sequences : List UInt64) (completion : ChannelId) (shims : Nat → ShimPost) :
    SendPosting :=
  match lane.checkSendWindow tables.pool lease sequences with
  | .error error =>
    { lane
      tables := { tables with router := tables.router.emit [.dropped lease.core] }
      accepted := []
      result := .error error }
  | .ok layouts =>
    postSendBatches tables.router.windows.length shims
      (batches lane.postListSize (messages layouts sequences)) 0 lane
      { tables with
        router := openWindow tables.router
          (TxWindowInner.new lane.id sequences lease completion) }
end UrmaLane

end DragonflyClient.Urma
