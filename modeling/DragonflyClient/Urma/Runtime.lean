import DragonflyClient.Urma.Lane

/-!
The process runtime (`urma/runtime.rs`): the lanes beside the shared pool and
completion router, lane retirement, and shutdown.

The pool and the queues are present in every state before the end of
`shutdown_inner`, so they are not optional here.  A hash map is iterated in an
order the code does not choose; that order is an argument.
-/

namespace DragonflyClient.Urma

open Library

structure UrmaDeviceCapability where
  transportType : Int
  maxJfc : Nat
  maxJfs : Nat
  maxJfr : Nat
  maxJetty : Nat
  maxJfcDepth : Nat
  maxJfsDepth : Nat
  maxJfrDepth : Nat
  maxJfsSge : Nat
  maxJfsRsge : Nat
  maxJfrSge : Nat
  maxMsgSize : Nat
  deriving DecidableEq, Repr

structure RuntimeConfig where
  sendJfcDepth : Nat
  recvJfcDepth : Nat
  bufferPool : BufferPoolConfig
  deriving DecidableEq, Repr

structure JettyConfig where
  sendDepth : Nat
  recvDepth : Nat
  maxSendSge : Nat
  maxRecvSge : Nat
  postListSize : Nat
  pipelineDepth : Nat
  deriving DecidableEq, Repr

/-- One named bound of a configuration check: `1..=maximum`. -/
def checkBounds (pattern : String → Nat → Nat → String) :
    List (String × Nat × Nat) → Result Unit
  | [] => .ok ()
  | (name, value, maximum) :: rest =>
    if value = 0 ∨ value > maximum then
      .error (.invalidConfiguration (pattern name value maximum))
    else
      checkBounds pattern rest

def validateConfig (config : RuntimeConfig) (capability : UrmaDeviceCapability) : Result Unit :=
  match config.bufferPool.totalLen with
  | .error error => .error error
  | .ok _ =>
    if capability.maxJfc < 2 then
      .error (.invalidConfiguration
        "device reports fewer than two available JFC resources")
    else
      match checkBounds (fun name depth maximum => s!"{name}={depth} is outside 1..={maximum}")
          [("send_jfc_depth", config.sendJfcDepth, capability.maxJfcDepth),
            ("recv_jfc_depth", config.recvJfcDepth, capability.maxJfcDepth)] with
      | .error error => .error error
      | .ok () =>
        let slotSize := config.bufferPool.slotSize
        let maxMsgSize := capability.maxMsgSize
        if slotSize > maxMsgSize then
          .error (.invalidConfiguration
            s!"slot_size={slotSize} exceeds max_msg_size={maxMsgSize}")
        else
          .ok ()

def validateJettyConfig (config : JettyConfig) (capability : UrmaDeviceCapability) : Result Unit :=
  if capability.maxJetty = 0 ∨ capability.maxJfs = 0 ∨ capability.maxJfr = 0 then
    .error (.invalidConfiguration
      "device does not advertise the resources required by a duplex Jetty")
  else
    match checkBounds
        (fun name value maximum => s!"Jetty {name}={value} is outside 1..={maximum}")
        [("send_depth", config.sendDepth, capability.maxJfsDepth),
          ("recv_depth", config.recvDepth, capability.maxJfrDepth),
          ("max_send_sge", config.maxSendSge, capability.maxJfsSge),
          ("max_recv_sge", config.maxRecvSge, capability.maxJfrSge)] with
    | .error error => .error error
    | .ok () =>
      let postListSize := config.postListSize
      let pipelineDepth := config.pipelineDepth
      if capability.maxJfsRsge = 0 then
        .error (.invalidConfiguration
          "device does not advertise an RC remote-SGE capability")
      else if postListSize = 0 ∨ postListSize > maxPostList then
        .error (.invalidConfiguration
          s!"Jetty post_list_size={postListSize} is outside 1..={maxPostList}")
      else if pipelineDepth < 1 ∨ 2 < pipelineDepth then
        .error (.invalidConfiguration
          s!"Jetty pipeline_depth={pipelineDepth} is outside 1..=2")
      else
        .ok ()

structure UrmaRuntime where
  capability : UrmaDeviceCapability
  maxPostListSize : Nat
  tables : OwnerTables
  accepting : Bool
  poisoned : Bool
  nextLaneId : UInt16
  lanes : Table UInt16 UrmaLane
  deriving DecidableEq

/-- The order in which the lane map is iterated and what each Jetty teardown
returns. -/
structure ReapInput where
  order : List UInt16
  teardown : UInt16 → JettyTeardown

structure PollInput where
  polled : OwnerTables.Polled
  reap : ReapInput

/-- What the provider does during one `create_lane`: the ids of the new Jetty
and its exported descriptor. -/
structure CreateInput where
  created : Except FfiError Unit
  localIds : Except FfiError (UInt32 × UInt32)
  exported : Except FfiError JettyDescriptor

namespace UrmaRuntime

/-- `start` with every native call succeeding; a failed start leaves no runtime. -/
def start (config : RuntimeConfig) (capability : UrmaDeviceCapability) (poolId : Nat) :
    Result UrmaRuntime :=
  match validateConfig config capability with
  | .error error => .error error
  | .ok () =>
    match BufferPool.create config.bufferPool poolId (.ok ()) with
    | .error error => .error error
    | .ok pool =>
      match CompletionRouter.new 16 with
      | .error error => .error error
      | .ok router =>
        .ok
          { capability
            maxPostListSize :=
              min (min (min config.sendJfcDepth config.recvJfcDepth)
                config.bufferPool.txSlotCount) config.bufferPool.rxSlotCount
            tables := { pool, router }
            accepting := true
            poisoned := false
            nextLaneId := 1
            lanes := ∅ }

def laneError {α : Type} (laneId : UInt16) : Result α :=
  .error (.protocol s!"unknown URMA lane {laneId}")

/-- The native half of `create_lane`, after the lane id was taken. -/
def buildLane (runtime : UrmaRuntime) (laneId : UInt16) (config : JettyConfig)
    (input : CreateInput) : Result (UrmaLane × JettyDescriptor) :=
  match input.created with
  | .error error => .error (nativeError "create_jetty" error)
  | .ok () =>
    match input.localIds with
    | .error error => .error (nativeError "query_jetty_local_ids" error)
    | .ok (localJettyId, localJfrId) =>
      let postListSize :=
        min (min (min config.postListSize config.sendDepth) config.recvDepth)
          runtime.maxPostListSize
      match UrmaLane.new laneId 1 runtime.capability.transportType
          { localJettyId, localJfrId, imported := false, bound := false }
          postListSize with
      | .error error => .error error
      | .ok lane => lane.exportDescriptor input.exported

def createLane (runtime : UrmaRuntime) (config : JettyConfig) (input : CreateInput) :
    UrmaRuntime × Result (UInt16 × JettyDescriptor) :=
  if ¬ runtime.accepting then
    (runtime, .error (.invalidConfiguration "runtime is no longer accepting operations"))
  else
    match validateJettyConfig config runtime.capability with
    | .error error => (runtime, .error error)
    | .ok () =>
      let laneId := runtime.nextLaneId
      if laneId + 1 = 0 then
        (runtime, .error (.invalidConfiguration "lane id space exhausted"))
      else
        let runtime := { runtime with nextLaneId := laneId + 1 }
        match runtime.buildLane laneId config input with
        | .error error => (runtime, .error error)
        | .ok (lane, descriptor) =>
          match runtime.tables.router.registerLane laneId lane.jetty.localJettyId
              lane.jetty.localJfrId with
          | .error error => (runtime, .error error)
          | .ok router =>
            ({ runtime with
              tables := { runtime.tables with router }
              lanes := runtime.lanes.insert laneId lane }, .ok (laneId, descriptor))

def bindLane (runtime : UrmaRuntime) (laneId : UInt16) (descriptor : JettyDescriptor)
    (imported bound : Except FfiError Unit) : UrmaRuntime × Result Unit :=
  match runtime.lanes.lookup laneId with
  | none => (runtime, laneError laneId)
  | some lane =>
    match lane.importAndBind descriptor imported bound with
    | (lane, .error error) =>
      ({ runtime with lanes := runtime.lanes.insert laneId lane }, .error error)
    | (lane, .ok ()) =>
      match lane.markReady with
      | .error error =>
        ({ runtime with lanes := runtime.lanes.insert laneId lane }, .error error)
      | .ok lane => ({ runtime with lanes := runtime.lanes.insert laneId lane }, .ok ())

def grantSendCredit (runtime : UrmaRuntime) (laneId : UInt16) (count : Nat) :
    UrmaRuntime × Result Unit :=
  match runtime.lanes.lookup laneId with
  | none => (runtime, laneError laneId)
  | some lane =>
    match lane.grantSendCredit count with
    | .error error => (runtime, .error error)
    | .ok lane => ({ runtime with lanes := runtime.lanes.insert laneId lane }, .ok ())

structure Posted where
  runtime : UrmaRuntime
  accepted : List PostEntry
  result : Result Unit
  deriving DecidableEq

def postReceiveWindowRegistered (runtime : UrmaRuntime) (laneId : UInt16)
    (sequences : List UInt64) (completionTxs : List ChannelId) (shims : Nat → ShimPost) :
    Posted :=
  match runtime.lanes.lookup laneId with
  | none => { runtime, accepted := [], result := laneError laneId }
  | some lane =>
    let posting :=
      lane.postReceiveWindowRegistered runtime.tables sequences completionTxs shims
    { runtime := { runtime with tables := posting.tables }
      accepted := posting.accepted
      result := posting.result }

/-- A window for an unknown lane drops its lease. -/
def sendRegisteredWindow (runtime : UrmaRuntime) (laneId : UInt16) (lease : TxWindowLease)
    (sequences : List UInt64) (completion : ChannelId) (shims : Nat → ShimPost) : Posted :=
  match runtime.lanes.lookup laneId with
  | none =>
    { runtime :=
        { runtime with
          tables :=
            { runtime.tables with
              router := runtime.tables.router.emit [.dropped lease.core] } }
      accepted := []
      result := laneError laneId }
  | some lane =>
    let posting := lane.sendRegisteredWindow runtime.tables lease sequences completion shims
    { runtime :=
        { runtime with
          tables := posting.tables
          lanes := runtime.lanes.insert laneId posting.lane }
      accepted := posting.accepted
      result := posting.result }

/-- Both retirement gates of a lane are open. -/
def drained (runtime : UrmaRuntime) (laneId : UInt16) : Bool :=
  match runtime.lanes.lookup laneId with
  | none => false
  | some lane =>
    lane.isDraining && lane.retirementArmed &&
      runtime.tables.router.outstandingForLane laneId == 0 &&
      runtime.tables.router.laneFlushDone laneId

def reapLane (teardown : UInt16 → JettyTeardown) (runtime : UrmaRuntime)
    (laneId : UInt16) : UrmaRuntime × Result Unit :=
  match runtime.lanes.lookup laneId with
  | none => (runtime, laneError laneId)
  | some lane =>
    match lane.close (runtime.tables.router.outstandingForLane laneId) (teardown laneId) with
    | (lane, .error error) =>
      ({ runtime with lanes := runtime.lanes.insert laneId lane }, .error error)
    | (lane, .ok ()) =>
      let runtime := { runtime with lanes := runtime.lanes.insert laneId lane }
      match runtime.tables.router.unregisterLane laneId with
      | .error error => (runtime, .error error)
      | .ok router =>
        ({ runtime with
          tables := { runtime.tables with router }
          lanes := runtime.lanes.erase laneId }, .ok ())

def reapDrainedLanes (runtime : UrmaRuntime) (input : ReapInput) : UrmaRuntime × Result Unit :=
  tryEach (reapLane input.teardown) (input.order.filter runtime.drained) runtime

def pollOnce (runtime : UrmaRuntime) (input : PollInput) : UrmaRuntime × Result Nat :=
  let progress := runtime.tables.pollOnce input.polled
  let tables :=
    match progress.2 with
    | .ok _ => progress.1
    | .error error =>
      { progress.1 with router := progress.1.router.failPending error }
  let reaped := reapDrainedLanes { runtime with tables } input.reap
  (reaped.1,
    match progress.2, reaped.2 with
    | .error error, _ => .error error
    | .ok _, .error error => .error error
    | .ok count, .ok () => .ok count)

/-- `marked` is the outcome of moving the Jetty to its error state. -/
def abortLane (runtime : UrmaRuntime) (laneId : UInt16) (marked : Except FfiError Unit)
    (input : ReapInput) : UrmaRuntime × Result Unit :=
  match runtime.tables.router.beginLaneRetirement laneId with
  | .error error => (runtime, .error error)
  | .ok router =>
    let runtime := { runtime with tables := { runtime.tables with router } }
    match runtime.lanes.lookup laneId with
    | none => (runtime, laneError laneId)
    | some lane =>
      match lane.beginDraining marked with
      | (lane, .error error) =>
        ({ runtime with lanes := runtime.lanes.insert laneId lane }, .error error)
      | (lane, .ok ()) =>
        reapDrainedLanes { runtime with lanes := runtime.lanes.insert laneId lane } input

/-- Close is asynchronous at the provider boundary: it is an abort. -/
def closeLane (runtime : UrmaRuntime) (laneId : UInt16) (marked : Except FfiError Unit)
    (input : ReapInput) : UrmaRuntime × Result Unit :=
  runtime.abortLane laneId marked input

def withPool (runtime : UrmaRuntime) (pool : BufferPool) : UrmaRuntime :=
  { runtime with tables := { runtime.tables with pool } }

def withRouter (runtime : UrmaRuntime) (router : CompletionRouter) : UrmaRuntime :=
  { runtime with tables := { runtime.tables with router } }

def emit (runtime : UrmaRuntime) (effects : List Effect) : UrmaRuntime :=
  { runtime with
    tables := { runtime.tables with router := runtime.tables.router.emit effects } }

def acquireTxWindowChunks (runtime : UrmaRuntime) (chunkLengths : List Nat) :
    UrmaRuntime × Result TxWindowLease :=
  let acquired := runtime.tables.pool.acquireTxWindowChunks chunkLengths
  (runtime.withPool acquired.1, acquired.2)

/-- A token the pool did not accept is returned again when the lease drops. -/
def recycleTxWindow (runtime : UrmaRuntime) (lease : TxWindowLease) : UrmaRuntime × Result Nat :=
  let recycled := runtime.tables.pool.recycleTxLease lease
  ((runtime.withPool recycled.1).emit (recycled.2.2.map .dropped), recycled.2.1)

def recycleRxWindow (runtime : UrmaRuntime) (lease : RegisteredRxWindowLease) :
    UrmaRuntime × Result Nat :=
  let recycled := runtime.tables.pool.recycleRxLease lease
  ((runtime.withPool recycled.1).emit (recycled.2.2.map .dropped), recycled.2.1)

def recycleDroppedLease (runtime : UrmaRuntime) (token : LeaseRecycle) :
    UrmaRuntime × Result (Nat × LeaseKind) :=
  let recycled := runtime.tables.pool.recycleDroppedLease token
  (runtime.withPool recycled.1, recycled.2)

end UrmaRuntime

end DragonflyClient.Urma
