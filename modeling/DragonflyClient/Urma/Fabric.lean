import DragonflyClient.Urma.Runtime

/-!
The fabric (`urma/fabric.rs`): the owner thread with its command queue, and the
asynchronous tasks around it.

A task is present only through what it holds: lease values, TX slot permits and
the commands it has queued.  A value in flight to a task (a command's reply or a
resolved `oneshot`) counts as held; if its receiver is gone, it is dropped at
once, which is a later drop of a held value.  The bound on queued commands
(`command_slots`) and the readiness channel restrict nothing that is stated
about the fabric and are left out.  A run ends where `shutdown_inner` takes the
pool: the lanes are gone or the deadline has passed.
-/

namespace DragonflyClient.Urma

open Library

def maxCommandsPerTick : Nat := 16

inductive FabricCommand where
  | createLane (config : JettyConfig)
  | bindLane (laneId : UInt16) (descriptor : List UInt8)
  | postReceiveWindowRegistered (laneId : UInt16) (sequences : List UInt64)
      (completionTxs : List ChannelId)
  | grantSendCredit (laneId : UInt16) (count : Nat)
  | acquireTxWindow (length txSlots : Nat)
  | acquireTxWindowChunks (chunkLengths : List Nat) (txSlots : Nat)
  | recycleTxWindow (lease : TxWindowLease)
  | recycleRxWindow (lease : RegisteredRxWindowLease)
  | sendRegisteredWindow (laneId : UInt16) (lease : TxWindowLease) (sequences : List UInt64)
      (completion : ChannelId)
  | closeLane (laneId : UInt16)
  | abortLane (laneId : UInt16)
  | recycleLease (recycle : LeaseRecycle)
  | shutdown
  deriving DecidableEq, Repr

structure OwnerInput where
  create : CreateInput
  imported : Except FfiError Unit
  bound : Except FfiError Unit
  shims : Nat → ShimPost
  marked : Except FfiError Unit
  reap : ReapInput

inductive Reply where
  | lane (result : Result (UInt16 × List UInt8))
  | done (result : Result Unit)
  | lease (result : Result TxWindowLease)
  | count (result : Result Nat)
  | silent
  deriving DecidableEq

/-- A handled command: `permits` go back to `tx_slot_admission`. -/
structure Handled where
  runtime : UrmaRuntime
  permits : Nat
  reply : Reply

inductive OwnerControl where
  | continued (handled : Handled)
  | shutdown

def rejectIfPoisoned : Option String → Result Unit
  | some failure => .error (.protocol s!"URMA fabric is poisoned: {failure}")
  | none => .ok ()

namespace FabricCommand

/-- Both acquire commands: the permit is forgotten when the lease was issued, and
dropped otherwise. -/
def acquire (poisoned : Option String) (runtime : UrmaRuntime) (chunkLengths : List Nat)
    (txSlots : Nat) : Handled :=
  match rejectIfPoisoned poisoned with
  | .error error => { runtime, permits := txSlots, reply := .lease (.error error) }
  | .ok () =>
    match runtime.acquireTxWindowChunks chunkLengths with
    | (runtime, .error error) => { runtime, permits := txSlots, reply := .lease (.error error) }
    | (runtime, .ok lease) => { runtime, permits := 0, reply := .lease (.ok lease) }

def handleCreateLane (poisoned : Option String) (input : OwnerInput) (runtime : UrmaRuntime)
    (config : JettyConfig) : Handled :=
  match rejectIfPoisoned poisoned with
  | .error error => { runtime, permits := 0, reply := .lane (.error error) }
  | .ok () =>
    match runtime.createLane config input.create with
    | (runtime, .error error) => { runtime, permits := 0, reply := .lane (.error error) }
    | (runtime, .ok (laneId, descriptor)) =>
      match descriptor.serialize with
      | .ok bytes => { runtime, permits := 0, reply := .lane (.ok (laneId, bytes)) }
      | .error error =>
        { runtime := (runtime.closeLane laneId input.marked input.reap).1
          permits := 0
          reply := .lane (.error error) }

def handleBindLane (poisoned : Option String) (input : OwnerInput) (runtime : UrmaRuntime)
    (laneId : UInt16) (descriptor : List UInt8) : Handled :=
  match rejectIfPoisoned poisoned with
  | .error error => { runtime, permits := 0, reply := .done (.error error) }
  | .ok () =>
    match JettyDescriptor.deserialize descriptor with
    | .error error => { runtime, permits := 0, reply := .done (.error error) }
    | .ok descriptor =>
      let bound := runtime.bindLane laneId descriptor input.imported input.bound
      { runtime := bound.1, permits := 0, reply := .done bound.2 }

/-- A refused window drops its lease. -/
def handleSend (poisoned : Option String) (input : OwnerInput) (runtime : UrmaRuntime)
    (laneId : UInt16) (lease : TxWindowLease) (sequences : List UInt64)
    (completion : ChannelId) : Handled :=
  match rejectIfPoisoned poisoned with
  | .error error =>
    { runtime := runtime.emit [.dropped lease.core], permits := 0
      reply := .done (.error error) }
  | .ok () =>
    let posted := runtime.sendRegisteredWindow laneId lease sequences completion input.shims
    { runtime := posted.runtime, permits := 0, reply := .done posted.result }

def recycledPermits : Result (Nat × LeaseKind) → Nat
  | .ok (count, .tx) => count
  | _ => 0

end FabricCommand

open FabricCommand in
def handleCommand (poisoned : Option String) (input : OwnerInput) (runtime : UrmaRuntime) :
    FabricCommand → OwnerControl
  | .createLane config => .continued (handleCreateLane poisoned input runtime config)
  | .bindLane laneId descriptor =>
    .continued (handleBindLane poisoned input runtime laneId descriptor)
  | .postReceiveWindowRegistered laneId sequences completionTxs =>
    .continued (match rejectIfPoisoned poisoned with
      | .error error => { runtime, permits := 0, reply := .done (.error error) }
      | .ok () =>
        let posted := runtime.postReceiveWindowRegistered laneId sequences completionTxs input.shims
        { runtime := posted.runtime, permits := 0, reply := .done posted.result })
  | .grantSendCredit laneId count =>
    .continued (match rejectIfPoisoned poisoned with
      | .error error => { runtime, permits := 0, reply := .done (.error error) }
      | .ok () =>
        let granted := runtime.grantSendCredit laneId count
        { runtime := granted.1, permits := 0, reply := .done granted.2 })
  | .acquireTxWindow length txSlots => .continued (acquire poisoned runtime [length] txSlots)
  | .acquireTxWindowChunks chunkLengths txSlots =>
    .continued (acquire poisoned runtime chunkLengths txSlots)
  | .recycleTxWindow lease =>
    let recycled := runtime.recycleTxWindow lease
    .continued
      { runtime := recycled.1
        permits := match recycled.2 with
          | .ok count => count
          | .error _ => 0
        reply := .count recycled.2 }
  | .recycleRxWindow lease =>
    let recycled := runtime.recycleRxWindow lease
    .continued { runtime := recycled.1, permits := 0, reply := .count recycled.2 }
  | .sendRegisteredWindow laneId lease sequences completion =>
    .continued (handleSend poisoned input runtime laneId lease sequences completion)
  | .closeLane laneId =>
    let closed := runtime.closeLane laneId input.marked input.reap
    .continued { runtime := closed.1, permits := 0, reply := .done closed.2 }
  | .abortLane laneId =>
    let aborted := runtime.abortLane laneId input.marked input.reap
    .continued { runtime := aborted.1, permits := 0, reply := .done aborted.2 }
  | .recycleLease recycle =>
    let recycled := runtime.recycleDroppedLease recycle
    .continued
      { runtime := recycled.1, permits := recycledPermits recycled.2, reply := .silent }
  | .shutdown => .shutdown

/-- Where `run_owner` is: at the head of its loop, in the command part of a tick
with so many commands left, before `poll_once`, or in `finish_owner` with so many
lanes still to be aborted. -/
inductive OwnerPhase where
  | top
  | tick (remaining : Nat)
  | poll
  | finishing (lanes : List UInt16)
  deriving DecidableEq, Repr

/-- `permits` are the TX slot permits of tasks that wait to queue their acquire
command. -/
structure Fabric where
  runtime : UrmaRuntime
  poisoned : Option String
  phase : OwnerPhase
  txSlotAdmission : Nat
  commands : List FabricCommand
  permits : List Nat
  heldTx : List TxWindowLease
  heldRx : List RegisteredRxWindowLease

/-- The token of a dropped lease, on its way back through the notifier. -/
def Effect.returned : Effect → Option LeaseRecycle
  | .dropped token => some token
  | _ => none

def Effect.txLease : Effect → Option TxWindowLease
  | .tx _ (.ok completion) => some completion.lease
  | _ => none

def Effect.rxLease : Effect → Option RegisteredRxWindowLease
  | .rx _ (.ok completion) => some completion.lease
  | _ => none

def Reply.txLease : Reply → Option TxWindowLease
  | .lease (.ok issued) => some issued
  | _ => none

namespace Fabric

/-- Everything that left the owner arrives: dropped leases are queued as
`RecycleLease`, the others are held by their receivers. -/
def settle (fabric : Fabric) (runtime : UrmaRuntime) : Fabric :=
  let outbox := runtime.tables.router.outbox
  { fabric with
    runtime := runtime.withRouter { runtime.tables.router with outbox := [] }
    commands := fabric.commands ++ (outbox.filterMap Effect.returned).map .recycleLease
    heldTx := fabric.heldTx ++ outbox.filterMap Effect.txLease
    heldRx := fabric.heldRx ++ outbox.filterMap Effect.rxLease }

def handle (fabric : Fabric) (input : OwnerInput) (phase : OwnerPhase) : Option Fabric :=
  match fabric.commands with
  | [] => none
  | command :: rest =>
    match handleCommand fabric.poisoned input fabric.runtime command with
    | .shutdown =>
      some
        { fabric with
          commands := rest
          phase := .finishing fabric.runtime.lanes.keys
          runtime := { fabric.runtime with accepting := false } }
    | .continued handled =>
      some
        (settle
          { fabric with
            commands := rest
            phase := phase
            txSlotAdmission := fabric.txSlotAdmission + handled.permits
            heldTx := fabric.heldTx ++ handled.reply.txLease.toList } handled.runtime)

/-- Only the first failure is kept. -/
def poisonOnce (poisoned : Option String) (failure : String) : Option String :=
  poisoned.or (some failure)

def poll (fabric : Fabric) (input : PollInput) : Fabric :=
  let polled := fabric.runtime.pollOnce input
  settle
    { fabric with
      phase := .top
      poisoned := match polled.2 with
        | .ok _ => fabric.poisoned
        | .error error => poisonOnce fabric.poisoned error.display } polled.1

/-- One lane of the abort loop of `shutdown_inner`; failures are only collected. -/
def abortNext (fabric : Fabric) (lanes : List UInt16) (laneId : UInt16)
    (marked : Except FfiError Unit) (input : ReapInput) : Fabric :=
  settle { fabric with phase := .finishing (lanes.erase laneId) }
    (fabric.runtime.abortLane laneId marked input).1

/-- One iteration of the drain loop of `shutdown_inner`; a failure poisons nothing. -/
def drain (fabric : Fabric) (input : PollInput) : Fabric :=
  settle fabric (fabric.runtime.pollOnce input).1

def queue (fabric : Fabric) (commands : List FabricCommand) : Fabric :=
  { fabric with commands := fabric.commands ++ commands }

end Fabric

def FabricCommand.plain : FabricCommand → Bool
  | .createLane _ | .bindLane _ _ | .postReceiveWindowRegistered _ _ _ | .grantSendCredit _ _
  | .closeLane _ | .abortLane _ | .shutdown => true
  | _ => false

inductive FabricAction where
  /-- A task queues a command. -/
  | submit (command : FabricCommand)
  /-- `acquire_tx_slot_permit`. -/
  | acquireTxSlotPermit (count : Nat)
  /-- A waiting acquire is cancelled. -/
  | dropPermit (count : Nat)
  | acquireTxWindow (length : Nat)
  | acquireTxWindowChunks (chunkLengths : List Nat)
  | sendRegisteredWindow (laneId : UInt16) (lease : TxWindowLease) (sequences : List UInt64)
      (completion : ChannelId)
  | recycleTxWindow (lease : TxWindowLease)
  | recycleRxWindow (lease : RegisteredRxWindowLease)
  | dropTxWindow (lease : TxWindowLease)
  | dropRxWindow (lease : RegisteredRxWindowLease)
  | reshape (lease : TxWindowLease) (chunkLengths : List Nat)
  | merge (leases : List RegisteredRxWindowLease)
  | withPipelinePermit (lease : RegisteredRxWindowLease)
  /-- The owner handles one command. -/
  | handle (input : OwnerInput)
  /-- The owner starts a tick: some work request is outstanding. -/
  | beginTick
  /-- The owner stops handling commands in this tick. -/
  | endTick
  | poll (input : PollInput)
  /-- The owner aborts one lane in `shutdown_inner`. -/
  | abortNext (laneId : UInt16) (marked : Except FfiError Unit) (input : ReapInput)
  /-- The owner polls in `shutdown_inner`. -/
  | drain (input : PollInput)

namespace Fabric

def start (config : RuntimeConfig) (capability : UrmaDeviceCapability) (poolId : Nat) :
    Result Fabric :=
  match UrmaRuntime.start config capability poolId with
  | .error error => .error error
  | .ok runtime =>
    .ok
      { runtime
        poisoned := none
        phase := .top
        txSlotAdmission := config.bufferPool.txSlotCount
        commands := []
        permits := []
        heldTx := []
        heldRx := [] }

def ownerAct (fabric : Fabric) : FabricAction → Option Fabric
  | .handle input =>
    match fabric.phase with
    | .top =>
      -- `blocking_recv`
      if fabric.runtime.tables.router.outstandingTotal = 0 then fabric.handle input .top
      else none
    | .tick (remaining + 1) => fabric.handle input (.tick remaining)
    | _ => none
  | .beginTick =>
    if fabric.phase = .top ∧ fabric.runtime.tables.router.outstandingTotal ≠ 0 then
      some { fabric with phase := .tick maxCommandsPerTick }
    else none
  | .endTick =>
    match fabric.phase with
    | .tick 0 => some { fabric with phase := .poll }
    | .tick (_ + 1) =>
      if fabric.commands = [] then some { fabric with phase := .poll } else none
    | _ => none
  | .poll input => if fabric.phase = .poll then some (fabric.poll input) else none
  | .abortNext laneId marked input =>
    match fabric.phase with
    | .finishing lanes =>
      if laneId ∈ lanes then some (fabric.abortNext lanes laneId marked input) else none
    | _ => none
  | .drain input =>
    if fabric.phase = .finishing [] ∧ fabric.runtime.lanes.entries ≠ [] then
      some (fabric.drain input)
    else none
  | _ => none

def act (fabric : Fabric) : FabricAction → Option Fabric
  | .submit command => if command.plain then some (fabric.queue [command]) else none
  | .acquireTxSlotPermit count =>
    if 0 < count ∧ count < 2 ^ 32 ∧ count ≤ fabric.txSlotAdmission then
      some
        { fabric with
          txSlotAdmission := fabric.txSlotAdmission - count
          permits := count :: fabric.permits }
    else none
  | .dropPermit count =>
    if count ∈ fabric.permits then
      some
        { fabric with
          txSlotAdmission := fabric.txSlotAdmission + count
          permits := fabric.permits.erase count }
    else none
  | .acquireTxWindow length =>
    if 1 ∈ fabric.permits then
      some (queue { fabric with permits := fabric.permits.erase 1 } [.acquireTxWindow length 1])
    else none
  | .acquireTxWindowChunks chunkLengths =>
    if chunkLengths.length ∈ fabric.permits then
      some (queue { fabric with permits := fabric.permits.erase chunkLengths.length }
        [.acquireTxWindowChunks chunkLengths chunkLengths.length])
    else none
  | .sendRegisteredWindow laneId lease sequences completion =>
    if lease ∈ fabric.heldTx then
      some (queue { fabric with heldTx := fabric.heldTx.erase lease }
        [.sendRegisteredWindow laneId lease sequences completion])
    else none
  | .recycleTxWindow lease =>
    if lease ∈ fabric.heldTx then
      some (queue { fabric with heldTx := fabric.heldTx.erase lease } [.recycleTxWindow lease])
    else none
  | .recycleRxWindow lease =>
    if lease ∈ fabric.heldRx then
      some (queue { fabric with heldRx := fabric.heldRx.erase lease } [.recycleRxWindow lease])
    else none
  | .dropTxWindow lease =>
    if lease ∈ fabric.heldTx then
      some (queue { fabric with heldTx := fabric.heldTx.erase lease } [.recycleLease lease.core])
    else none
  | .dropRxWindow lease =>
    if lease ∈ fabric.heldRx then
      some (queue { fabric with heldRx := fabric.heldRx.erase lease }
        (lease.cores.map .recycleLease))
    else none
  | .reshape lease chunkLengths =>
    if lease ∈ fabric.heldTx then
      some
        { fabric with
          heldTx := (lease.reshape chunkLengths).1 :: fabric.heldTx.erase lease }
    else none
  | .merge leases =>
    if leases.Subperm fabric.heldRx then
      match RegisteredRxWindowLease.merge leases with
      | .error _ => none
      | .ok merged =>
        some { fabric with heldRx := merged :: fabric.heldRx.diff leases }
    else none
  | .withPipelinePermit lease =>
    if lease ∈ fabric.heldRx then
      some
        { fabric with
          heldRx := lease.withPipelinePermit :: fabric.heldRx.erase lease }
    else none
  | action => fabric.ownerAct action

def Started (fabric : Fabric) : Prop :=
  ∃ config capability poolId, start config capability poolId = .ok fabric

def Step (fabric : Fabric) (action : FabricAction) (after : Fabric) : Prop :=
  fabric.act action = some after

end Fabric

def OwnerPhase.finishes : OwnerPhase → Bool
  | .finishing _ => true
  | _ => false

inductive OwnerStep (fabric : Fabric) : FabricAction → Fabric → Prop where
  | handle {input phase after} (running : fabric.phase.finishes = false)
      (later : phase.finishes = false) (handled : fabric.handle input phase = some after) :
      OwnerStep fabric (.handle input) after
  /-- The loop goes on without a command or a poll. -/
  | move {action phase} (running : fabric.phase.finishes = false) (later : phase.finishes = false) :
      OwnerStep fabric action { fabric with phase }
  | poll {input} (phase : fabric.phase = .poll) :
      OwnerStep fabric (.poll input) (fabric.poll input)
  | abortNext {lanes laneId marked input} (phase : fabric.phase = .finishing lanes)
      (listed : laneId ∈ lanes) :
      OwnerStep fabric (.abortNext laneId marked input)
        (fabric.abortNext lanes laneId marked input)
  | drain {input} (phase : fabric.phase = .finishing [])
      (remaining : fabric.runtime.lanes.entries ≠ []) :
      OwnerStep fabric (.drain input) (fabric.drain input)

namespace Fabric

theorem ownerStep_of_ownerAct {fabric after action} (step : fabric.ownerAct action = some after) :
    OwnerStep fabric action after := by
  unfold ownerAct at step
  split at step
  · -- a command
    split at step
    next top =>
      split at step
      · exact .handle (by simp [top, OwnerPhase.finishes]) rfl step
      · cases step
    next tick => exact .handle (by simp [tick, OwnerPhase.finishes]) rfl step
    · cases step
  · -- the beginning of a tick
    split at step
    next begins =>
      cases step
      exact .move (by simp [begins.1, OwnerPhase.finishes]) rfl
    · cases step
  · -- the end of its commands
    split at step
    next tick =>
      cases step
      exact .move (by simp [tick, OwnerPhase.finishes]) rfl
    next tick =>
      split at step
      · cases step
        exact .move (by simp [tick, OwnerPhase.finishes]) rfl
      · cases step
    · cases step
  · split at step
    next phase =>
      cases step
      exact .poll phase
    · cases step
  · split at step
    next phase =>
      split at step
      next listed =>
        cases step
        exact .abortNext phase listed
      · cases step
    · cases step
  · split at step
    next drains =>
      cases step
      exact .drain drains.1 drains.2
    · cases step
  · cases step

theorem Step.owner_or_task {fabric after action} (step : fabric.Step action after) :
    OwnerStep fabric action after ∨
      after.runtime = fabric.runtime ∧ after.poisoned = fabric.poisoned ∧
        after.phase = fabric.phase := by
  unfold Step at step
  cases action with
  | handle | beginTick | endTick | poll | abortNext | drain =>
    exact .inl (ownerStep_of_ownerAct step)
  | merge leases =>
    simp only [act, Option.ite_none_right_eq_some] at step
    obtain ⟨-, step⟩ := step
    split at step
    · cases step
    · cases step
      exact .inr ⟨rfl, rfl, rfl⟩
  | _ =>
    simp only [act, Option.ite_none_right_eq_some, Option.some.injEq] at step
    obtain ⟨-, rfl⟩ := step
    exact .inr ⟨rfl, rfl, rfl⟩

end Fabric

end DragonflyClient.Urma
