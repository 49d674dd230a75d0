import DragonflyClient.Library.Sequence
import DragonflyClient.Library.Table
import DragonflyClient.Urma.Token

/-!
The registered buffer pool (`urma/buffer.rs`): fixed-size slots over one
Segment, their states, the free lists, and the leases that lend slots to the
rest of the process.

`free_tx` is a stack in the source; here its top is the head of the list.
`free_rx` is a queue, popped at the head and extended at the end.
-/

namespace DragonflyClient.Urma

open Library

/-- `usize::checked_add` on a 64-bit target. -/
def checkedAdd (left right : Nat) : Option Nat :=
  if left + right < 2 ^ 64 then some (left + right) else none

/-- `usize::checked_mul` on a 64-bit target. -/
def checkedMul (left right : Nat) : Option Nat :=
  if left * right < 2 ^ 64 then some (left * right) else none

structure BufferPoolConfig where
  slotSize : Nat
  txSlotCount : Nat
  rxSlotCount : Nat
  alignment : Nat
  deriving DecidableEq, Repr

namespace BufferPoolConfig

def isPowerOfTwo (value : Nat) : Bool :=
  value ≠ 0 ∧ value &&& (value - 1) = 0

def totalLen (config : BufferPoolConfig) : Result Nat :=
  if config.slotSize = 0 then
    .error (.invalidConfiguration "slot_size must be non-zero")
  else if config.txSlotCount = 0 ∨ config.rxSlotCount = 0 then
    .error (.invalidConfiguration "tx_slot_count and rx_slot_count must be non-zero")
  else if config.alignment < 8 ∨ ¬ isPowerOfTwo config.alignment then
    .error (.invalidConfiguration
      "alignment must be a power of two and at least pointer-sized")
  else
    match checkedAdd config.txSlotCount config.rxSlotCount with
    | none => .error (.invalidConfiguration "slot count overflow")
    | some slots =>
      if slots > 65536 then
        .error (.invalidConfiguration "buffer pool cannot exceed 65536 slots")
      else
        match checkedMul config.slotSize slots with
        | none => .error (.invalidConfiguration "buffer pool size overflow")
        | some total => .ok total

end BufferPoolConfig

inductive SlotKind where
  | tx
  | rx
  deriving DecidableEq, Repr

inductive SlotState where
  | free
  | allocated
  | postedRecv
  | recvCompleted
  | sendPosted
  | sendCompleted
  | leasedRx
  | leasedTx
  deriving DecidableEq, Repr

def SlotState.debug : SlotState → String
  | .free => "Free"
  | .allocated => "Allocated"
  | .postedRecv => "PostedRecv"
  | .recvCompleted => "RecvCompleted"
  | .sendPosted => "SendPosted"
  | .sendCompleted => "SendCompleted"
  | .leasedRx => "LeasedRx"
  | .leasedTx => "LeasedTx"

inductive LeaseKind where
  | rx
  | tx
  deriving DecidableEq, Repr

structure LeaseRecycle where
  poolId : Nat
  leaseId : Nat
  deriving DecidableEq, Repr

structure LeaseRecord where
  kind : LeaseKind
  slots : List SlotId
  deriving DecidableEq, Repr

structure LeaseBook where
  poolId : Nat
  nextLeaseId : Nat
  active : Table Nat LeaseRecord
  deriving DecidableEq

namespace LeaseBook

def new (poolId : Nat) : LeaseBook where
  poolId := poolId
  nextLeaseId := 1
  active := ∅

def issue (book : LeaseBook) (kind : LeaseKind) (slots : List SlotId) :
    Result (LeaseBook × LeaseRecycle) :=
  if slots = [] then
    .error (.invalidConfiguration "registered lease requires at least one slot")
  else
    match checkedAdd book.nextLeaseId 1 with
    | none => .error (.invalidConfiguration "lease id space exhausted")
    | some next =>
      .ok ({ book with
        nextLeaseId := next
        active := book.active.insert book.nextLeaseId { kind, slots } },
        { poolId := book.poolId, leaseId := book.nextLeaseId })

def record (book : LeaseBook) (recycle : LeaseRecycle) : Result LeaseRecord :=
  if recycle.poolId ≠ book.poolId then
    .error (.protocol "registered lease belongs to another pool")
  else
    match book.active.lookup recycle.leaseId with
    | none => .error (.protocol "registered lease was already recycled")
    | some record => .ok record

def finish (book : LeaseBook) (recycle : LeaseRecycle) : Result (LeaseBook × LeaseRecord) :=
  match book.record recycle with
  | .error error => .error error
  | .ok record =>
    .ok ({ book with active := book.active.erase recycle.leaseId }, record)

def ensureEmpty (book : LeaseBook) : Result Unit :=
  if book.active.entries = [] then
    .ok ()
  else
    let count := book.active.entries.length
    .error (.invalidConfiguration
      s!"cannot close registered Segment with {count} active leases")

end LeaseBook

structure RegisteredSpan where
  data : Nat
  length : Nat
  deriving DecidableEq, Repr

/-- A completed receive window.  `cores` holds the recycle tokens that are still
armed; dropping the lease returns each of them. -/
structure RegisteredRxWindowLease where
  spans : List RegisteredSpan
  length : Nat
  cores : List LeaseRecycle
  pipelinePermit : Bool
  deriving DecidableEq, Repr

namespace RegisteredRxWindowLease

def mergeInto (merged : RegisteredRxWindowLease) :
    List RegisteredRxWindowLease → Result RegisteredRxWindowLease
  | [] => .ok merged
  | window :: rest =>
    if window.pipelinePermit then
      .error (.protocol "chunk lease unexpectedly owns a pipeline permit")
    else
      match checkedAdd merged.length window.length with
      | none => .error (.protocol "RX window merge length overflow")
      | some length =>
        mergeInto
          { spans := merged.spans ++ window.spans
            length := length
            cores := merged.cores ++ window.cores
            pipelinePermit := false } rest

def merge (windows : List RegisteredRxWindowLease) : Result RegisteredRxWindowLease :=
  if windows = [] then
    .error (.invalidConfiguration "RX window merge requires at least one lease")
  else
    mergeInto { spans := [], length := 0, cores := [], pipelinePermit := false } windows

def withPipelinePermit (lease : RegisteredRxWindowLease) : RegisteredRxWindowLease :=
  { lease with pipelinePermit := true }

end RegisteredRxWindowLease

structure TxLeaseLayout where
  slot : SlotId
  offset : Nat
  length : Nat
  deriving DecidableEq, Repr

/-- Exclusive ownership of leased TX slots; `core` is the recycle token that a
drop of the lease returns. -/
structure TxWindowLease where
  spans : List RegisteredSpan
  layouts : List TxLeaseLayout
  length : Nat
  core : LeaseRecycle
  deriving DecidableEq, Repr

namespace TxWindowLease

/-- The loop of `reshape`: narrow the leading spans and layouts in step.  A span
is written before its layout is, and nothing is undone on an error. -/
def narrow : List Nat → List RegisteredSpan → List TxLeaseLayout → Nat →
    List RegisteredSpan × List TxLeaseLayout × Result Nat
  | [], spans, layouts, total => (spans, layouts, .ok total)
  | length :: lengths, span :: spans, layout :: layouts, total =>
    if length = 0 ∨ length > span.length then
      (span :: spans, layout :: layouts,
        .error (.invalidConfiguration "TX lease reshape exceeds its original span"))
    else if 2 ^ 32 ≤ length then
      ({ span with length } :: spans, layout :: layouts,
        .error (.invalidConfiguration "TX chunk exceeds u32"))
    else
      match checkedAdd total length with
      | none =>
        ({ span with length } :: spans, { layout with length } :: layouts,
          .error (.invalidConfiguration "TX window length overflow"))
      | some total =>
        let rest := narrow lengths spans layouts total
        ({ span with length } :: rest.1, { layout with length } :: rest.2.1, rest.2.2)
  | _ :: _, spans, layouts, _ => (spans, layouts, .error (.panicked "index out of bounds"))

/-- Narrows a reusable full-size window for a final short window. -/
def reshape (lease : TxWindowLease) (chunkLengths : List Nat) : TxWindowLease × Result Unit :=
  if chunkLengths = [] ∨ chunkLengths.length > lease.layouts.length then
    (lease, .error (.invalidConfiguration "TX lease reshape exceeds its slot count"))
  else
    match narrow chunkLengths lease.spans lease.layouts 0 with
    | (spans, layouts, .error error) => ({ lease with spans, layouts }, .error error)
    | (spans, layouts, .ok total) =>
      ({ lease with
        spans := spans.take chunkLengths.length
        layouts := layouts.take chunkLengths.length
        length := total }, .ok ())

end TxWindowLease

structure BufferSlot where
  kind : SlotKind
  offset : Nat
  len : Nat
  state : SlotState
  generation : UInt16
  deriving DecidableEq, Repr

/-- `segment` is the length of the registered Segment while it is open. -/
structure BufferPool where
  segment : Option Nat
  slots : List BufferSlot
  freeTx : List Nat
  freeRx : List Nat
  leases : LeaseBook
  accepting : Bool
  deriving DecidableEq

/-- The generation of the next allocation of a slot; zero is skipped. -/
def nextGeneration (generation : UInt16) : UInt16 :=
  if generation + 1 = 0 then 1 else generation + 1

theorem nextGeneration_ne_zero (generation : UInt16) : nextGeneration generation ≠ 0 := by
  unfold nextGeneration
  split
  · decide
  · assumption

namespace BufferPool

/-- The slots of `create`.  Their offsets cannot overflow once `total_len`
accepted the configuration. -/
def initialSlots (config : BufferPoolConfig) : List BufferSlot :=
  (List.range config.txSlotCount).map (fun index =>
    { kind := .tx, offset := config.slotSize * index, len := config.slotSize
      state := .free, generation := 0 }) ++
  (List.range config.rxSlotCount).map (fun index =>
    { kind := .rx, offset := config.slotSize * (config.txSlotCount + index)
      len := config.slotSize, state := .free, generation := 0 })

/-- `registered` is the outcome of registering the Segment. -/
def create (config : BufferPoolConfig) (poolId : Nat) (registered : Except FfiError Unit) :
    Result BufferPool :=
  match config.totalLen with
  | .error error => .error error
  | .ok totalLen =>
    match registered with
    | .error error => .error (nativeError "register_segment" error)
    | .ok () =>
      .ok
        { segment := some totalLen
          slots := initialSlots config
          freeTx := List.range config.txSlotCount
          freeRx := (List.range config.rxSlotCount).map (config.txSlotCount + ·)
          leases := LeaseBook.new poolId
          accepting := true }

/-- `allocate` either hands out a fresh identity or changes nothing but the free
list it popped from. -/
def allocate (pool : BufferPool) (kind : SlotKind) : BufferPool × Option SlotId :=
  if pool.accepting then
    match kind with
    | .tx =>
      match pool.freeTx with
      | [] => (pool, none)
      | index :: rest => take { pool with freeTx := rest } index
    | .rx =>
      match pool.freeRx with
      | [] => (pool, none)
      | index :: rest => take { pool with freeRx := rest } index
  else
    (pool, none)
where
  take (pool : BufferPool) (index : Nat) : BufferPool × Option SlotId :=
    match pool.slots[index]? with
    | none => (pool, none)
    | some slot =>
      let generation := nextGeneration slot.generation
      ({ pool with
        slots := pool.slots.set index { slot with generation, state := .allocated } },
        (SlotId.new index generation).toOption)

def allocateRx : Nat → BufferPool → BufferPool × Result (List SlotId)
  | 0, pool => (pool, .ok [])
  | count + 1, pool =>
    match pool.allocate .rx with
    | (pool, none) => (pool, .error (.panicked "free RX count checked before allocation"))
    | (pool, some slot) =>
      let rest := allocateRx count pool
      (rest.1, rest.2.map (slot :: ·))

def allocateRxWindow (pool : BufferPool) (count : Nat) : BufferPool × Result (List SlotId) :=
  if count = 0 then
    (pool, .error (.invalidConfiguration "RX window slot count must be non-zero"))
  else if ¬ pool.accepting ∨ pool.freeRx.length < count then
    (pool, .error (.bufferUnavailable "RX" count
      (if pool.accepting then pool.freeRx.length else 0)))
  else
    allocateRx count pool

def releasable : SlotState → Bool
  | .allocated | .recvCompleted | .sendCompleted => true
  | _ => false

def release (pool : BufferPool) (id : SlotId) : Result BufferPool :=
  let index := id.index.toNat
  match pool.slots[index]? with
  | none => .error (.invalidConfiguration "slot id is outside this buffer pool")
  | some slot =>
    if slot.generation ≠ id.generation then
      .error (.protocol "stale slot generation")
    else if ¬ releasable slot.state then
      .error (.invalidConfiguration
        "slot cannot be released while a WR may still reference it")
    else
      let slots := pool.slots.set index { slot with state := .free }
      match slot.kind with
      | .tx => .ok { pool with slots, freeTx := index :: pool.freeTx }
      | .rx => .ok { pool with slots, freeRx := pool.freeRx ++ [index] }

def releaseUnpostedRxWindow (pool : BufferPool) (slots : List SlotId) : BufferPool × Result Unit :=
  tryEach (fun pool slot => commit pool (pool.release slot)) slots pool

/-- `segment_handle()?.data()`: the length of the open Segment. -/
def segmentLength (pool : BufferPool) : Result Nat :=
  match pool.segment with
  | none => .error (.invalidConfiguration "registered Segment is closed")
  | some length => .ok length

def slotFields (pool : BufferPool) (id : SlotId) : Result BufferSlot :=
  match pool.slots[id.index.toNat]? with
  | none => .error (.invalidConfiguration "slot id is outside buffer pool")
  | some slot =>
    if slot.generation ≠ id.generation then
      .error (.protocol "stale slot generation")
    else
      .ok slot

def transition (pool : BufferPool) (id : SlotId) (source target : SlotState) : Result BufferPool :=
  let index := id.index.toNat
  match pool.slots[index]? with
  | none => .error (.protocol "completion slot is outside buffer pool")
  | some slot =>
    if slot.generation ≠ id.generation then
      .error (.protocol "stale slot generation")
    else if slot.state ≠ source then
      let found := slot.state.debug
      let expected := source.debug
      .error (.protocol s!"slot {index} state {found}, expected {expected}")
    else
      .ok { pool with slots := pool.slots.set index { slot with state := target } }

def recvPostLayout (pool : BufferPool) (id : SlotId) : Result (Nat × Nat) :=
  match pool.slotFields id with
  | .error error => .error error
  | .ok slot =>
    if slot.kind ≠ .rx ∨ slot.state ≠ .allocated then
      .error (.invalidConfiguration "RECV post requires an allocated RX slot")
    else if 2 ^ 32 ≤ slot.len then
      .error (.invalidConfiguration "slot size exceeds u32")
    else
      .ok (slot.offset, slot.len)

def postedState : SlotKind → SlotState
  | .tx => .sendPosted
  | .rx => .postedRecv

def markPosted (pool : BufferPool) (id : SlotId) (kind : SlotKind) : Result BufferPool :=
  match pool.slotFields id with
  | .error error => .error error
  | .ok slot =>
    if slot.kind ≠ kind then
      .error (.protocol "WR operation does not match slot kind")
    else
      pool.transition id .allocated (postedState kind)

def rollbackPost (pool : BufferPool) (id : SlotId) (kind : SlotKind) : Result BufferPool :=
  pool.transition id (postedState kind) .allocated

def txLeaseLayouts (pool : BufferPool) (lease : TxWindowLease) :
    Result (List (SlotId × Nat × Nat)) :=
  if lease.layouts = [] then
    .error (.protocol "TX lease has no layouts")
  else
    collect (fun layout =>
      match pool.slotFields layout.slot with
      | .error error => .error error
      | .ok slot =>
        if slot.kind ≠ .tx ∨ slot.state ≠ .leasedTx then
          .error (.protocol "TX lease layout does not reference a leased TX slot")
        else
          .ok (layout.slot, layout.offset, layout.length)) lease.layouts

def markTxLeasePosted (pool : BufferPool) (id : SlotId) : Result BufferPool :=
  pool.transition id .leasedTx .sendPosted

def rollbackTxLeasePost (pool : BufferPool) (id : SlotId) : Result BufferPool :=
  pool.transition id .sendPosted .leasedTx

def completeTxLeaseSend (pool : BufferPool) (id : SlotId) : Result BufferPool :=
  pool.transition id .sendPosted .leasedTx

def completeError (pool : BufferPool) (id : SlotId) : OperationType → Result BufferPool
  | .send => pool.transition id .sendPosted .sendCompleted
  | .recv => pool.transition id .postedRecv .recvCompleted

/-- Marks one RX CQE complete without copying its registered bytes. -/
def completeRecvLeased (pool : BufferPool) (id : SlotId) (length : Nat) : Result BufferPool :=
  match pool.slotFields id with
  | .error error => .error error
  | .ok slot =>
    if slot.kind ≠ .rx ∨ slot.state ≠ .postedRecv then
      .error (.protocol "RECV CQE does not match a posted RX slot")
    else if length = 0 ∨ length > slot.len then
      let capacity := slot.len
      .error (.protocol
        s!"RECV completion length {length} is outside 1..={capacity}")
    else
      pool.transition id .postedRecv .recvCompleted

/-- The validation loop of `lease_completed_rx_window`: chunks that touch in the
Segment extend the last span. -/
def rxLeaseSpans (pool : BufferPool) (registeredLen : Nat) :
    List (SlotId × Nat) → List RegisteredSpan → Nat → Option Nat →
      Result (List RegisteredSpan × Nat)
  | [], spans, total, _ => .ok (spans.reverse, total)
  | (id, length) :: rest, spans, total, previousEnd =>
    match pool.slotFields id with
    | .error error => .error error
    | .ok slot =>
      if slot.kind ≠ .rx ∨ slot.state ≠ .recvCompleted then
        .error (.protocol "RX lease requires completed receive slots")
      else if length = 0 ∨ length > slot.len then
        .error (.protocol "invalid RX lease chunk length")
      else if rest ≠ [] ∧ length ≠ slot.len then
        .error (.protocol "only the final RX lease chunk may be short")
      else
        match checkedAdd slot.offset length with
        | none => .error (.protocol "RX lease offset overflow")
        | some last =>
          if last > registeredLen then
            .error (.protocol "RX lease span exceeds registered Segment")
          else
            match extend spans previousEnd slot.offset length with
            | .error error => .error error
            | .ok spans =>
              match checkedAdd total length with
              | none => .error (.protocol "RX lease length overflow")
              | some total =>
                rxLeaseSpans pool registeredLen rest spans total (some last)
where
  -- `spans` is kept last span first
  extend (spans : List RegisteredSpan) (previousEnd : Option Nat) (offset length : Nat) :
      Result (List RegisteredSpan) :=
    if previousEnd = some offset then
      match spans with
      | [] => .error (.panicked "previous span exists")
      | previous :: earlier =>
        match checkedAdd previous.length length with
        | none => .error (.protocol "RX lease length overflow")
        | some length => .ok ({ previous with length } :: earlier)
    else
      .ok ({ data := offset, length } :: spans)

def leaseCompletedRxWindow (pool : BufferPool) (completions : List (SlotId × Nat)) :
    BufferPool × Result RegisteredRxWindowLease :=
  if completions = [] then
    (pool, .error (.invalidConfiguration "RX window lease requires at least one completion"))
  else
    match pool.segmentLength with
    | .error error => (pool, .error error)
    | .ok registeredLen =>
      match rxLeaseSpans pool registeredLen completions [] 0 none with
      | .error error => (pool, .error error)
      | .ok (spans, total) =>
        let slots := completions.map Prod.fst
        let leased := tryEach (fun pool slot =>
          commit pool (pool.transition slot .recvCompleted .leasedRx)) slots pool
        match leased.2 with
        | .error error => (leased.1, .error error)
        | .ok () =>
          match leased.1.leases.issue .rx slots with
          | .error error =>
            let restored := tryEach (fun pool slot =>
              commit pool (pool.transition slot .leasedRx .recvCompleted))
              slots leased.1
            match restored.2 with
            | .error failure => (restored.1, .error failure)
            | .ok () => (restored.1, .error error)
          | .ok (leases, recycle) =>
            ({ leased.1 with leases },
              .ok { spans, length := total, cores := [recycle]
                    pipelinePermit := false })

def freeTxCandidates (pool : BufferPool) (count : Nat) : Result (List Nat) :=
  let available := if pool.accepting then pool.freeTx.length else 0
  if count = 0 ∨ available < count then
    .error (.bufferUnavailable "TX" count available)
  else
    .ok (pool.freeTx.take count)

structure PreparedTx where
  index : Nat
  id : SlotId
  offset : Nat
  length : Nat
  deriving DecidableEq, Repr

def prepareTx (pool : BufferPool) (registeredLen : Nat) (candidate : Nat × Nat) :
    Result PreparedTx :=
  let index := candidate.1
  let chunkLength := candidate.2
  match pool.slots[index]? with
  | none => .error (.protocol "free TX index is outside this buffer pool")
  | some slot =>
    if slot.kind ≠ .tx ∨ slot.state ≠ .free then
      .error (.protocol "free TX index does not reference a free TX slot")
    else
      match checkedAdd slot.offset chunkLength with
      | none => .error (.invalidConfiguration "TX window offset overflow")
      | some last =>
        if last > registeredLen then
          .error (.invalidConfiguration "TX window exceeds registered Segment")
        else
          match SlotId.new index (nextGeneration slot.generation) with
          | .error error => .error error
          | .ok id => .ok { index, id, offset := slot.offset, length := chunkLength }

/-- The state change of one prepared slot; its index was just looked up. -/
def leaseTxSlot (pool : BufferPool) (prepared : PreparedTx) : BufferPool :=
  { pool with
    slots := pool.slots.modify prepared.index fun slot =>
      { slot with generation := prepared.id.generation, state := .leasedTx } }

def totalLength : List Nat → Nat → Result Nat
  | [], total => .ok total
  | length :: rest, total =>
    match checkedAdd total length with
    | none => .error (.invalidConfiguration "TX window length overflow")
    | some total => totalLength rest total

/-- The part of `acquire_tx_window_chunks` that runs before the pool changes. -/
def prepareTxWindow (pool : BufferPool) (chunkLengths : List Nat) :
    Result (List PreparedTx × Nat) :=
  if chunkLengths = [] ∨ 0 ∈ chunkLengths then
    .error (.invalidConfiguration "TX window lease requires non-empty chunks")
  else
    match pool.slots.head?.filter fun slot => slot.kind = .tx with
    | none => .error (.invalidConfiguration "TX pool is empty")
    | some first =>
      let slotCapacity := first.len
      match chunkLengths.find? fun length => length > slotCapacity with
      | some length =>
        .error (.invalidConfiguration
          s!"TX chunk length {length} exceeds slot capacity {slotCapacity}")
      | none =>
        if chunkLengths.any fun length => 2 ^ 32 ≤ length then
          .error (.invalidConfiguration "TX chunk length exceeds u32")
        else
          match totalLength chunkLengths 0 with
          | .error error => .error error
          | .ok length =>
            match pool.segmentLength with
            | .error error => .error error
            | .ok registeredLen =>
              match pool.freeTxCandidates chunkLengths.length with
              | .error error => .error error
              | .ok indices =>
                (collect (pool.prepareTx registeredLen)
                  (indices.zip chunkLengths)).map (·, length)

def acquireTxWindowChunks (pool : BufferPool) (chunkLengths : List Nat) :
    BufferPool × Result TxWindowLease :=
  match pool.prepareTxWindow chunkLengths with
  | .error error => (pool, .error error)
  | .ok (prepared, length) =>
    let reserved := prepared.foldl leaseTxSlot
      { pool with freeTx := pool.freeTx.drop chunkLengths.length }
    let slots := prepared.map PreparedTx.id
    match reserved.leases.issue .tx slots with
    | .ok (leases, recycle) =>
      ({ reserved with leases },
        .ok
          { spans := prepared.map fun slot => { data := slot.offset, length := slot.length }
            layouts := prepared.map fun slot =>
              { slot := slot.id, offset := slot.offset, length := slot.length }
            length := length
            core := recycle })
    | .error error =>
      let restored := tryEach (fun pool slot =>
        andThen (commit pool (pool.transition slot .leasedTx .allocated)) fun pool =>
          commit pool (pool.release slot)) slots reserved
      match restored.2 with
      | .error failure => (restored.1, .error failure)
      | .ok () => (restored.1, .error error)

def acquireTxWindow (pool : BufferPool) (length : Nat) : BufferPool × Result TxWindowLease :=
  pool.acquireTxWindowChunks [length]

def leasedState : LeaseKind → SlotState
  | .rx => .leasedRx
  | .tx => .leasedTx

def slotKindOf : LeaseKind → SlotKind
  | .rx => .rx
  | .tx => .tx

/-- The state a leased slot passes through on its way to the free list. -/
def recycledState : LeaseKind → SlotState
  | .rx => .recvCompleted
  | .tx => .allocated

def checkRecycle (pool : BufferPool) (expected : LeaseKind) : List SlotId → Result Unit
  | [] => .ok ()
  | id :: rest =>
    match pool.slotFields id with
    | .error error => .error error
    | .ok slot =>
      if slot.kind = slotKindOf expected ∧ slot.state = leasedState expected then
        checkRecycle pool expected rest
      else
        .error (.protocol "registered lease slot state mismatch")

def recycleSlot (expected : LeaseKind) (pool : BufferPool) (slot : SlotId) :
    BufferPool × Result Unit :=
  andThen (commit pool (pool.transition slot (leasedState expected) (recycledState expected)))
    fun pool => commit pool (pool.release slot)

def recycle (pool : BufferPool) (token : LeaseRecycle) (expected : LeaseKind) :
    BufferPool × Result Nat :=
  match pool.leases.record token with
  | .error error => (pool, .error error)
  | .ok record =>
    if record.kind ≠ expected then
      (pool, .error (.protocol "registered lease kind mismatch"))
    else
      match pool.checkRecycle expected record.slots with
      | .error error => (pool, .error error)
      | .ok () =>
        match pool.leases.finish token with
        | .error error => (pool, .error error)
        | .ok (leases, record) =>
          let released :=
            tryEach (recycleSlot expected) record.slots { pool with leases }
          (released.1, released.2.map fun () => record.slots.length)

/-- `recycle_rx_lease` with the recycle tokens it leaves armed: those are
returned through the notifier when the lease is dropped. -/
def recycleRxCores (pool : BufferPool) (count : Nat) :
    List LeaseRecycle → BufferPool × Result Nat × List LeaseRecycle
  | [] => (pool, .ok count, [])
  | core :: rest =>
    match pool.recycle core .rx with
    | (pool, .error error) => (pool, .error error, core :: rest)
    | (pool, .ok slots) =>
      match checkedAdd count slots with
      | none => (pool, .error (.protocol "RX recycle count overflow"), core :: rest)
      | some count => recycleRxCores pool count rest

def recycleRxLease (pool : BufferPool) (lease : RegisteredRxWindowLease) :
    BufferPool × Result Nat × List LeaseRecycle :=
  recycleRxCores pool 0 lease.cores

/-- `recycle_tx_lease`; a token that was not accepted stays armed. -/
def recycleTxLease (pool : BufferPool) (lease : TxWindowLease) :
    BufferPool × Result Nat × List LeaseRecycle :=
  match pool.recycle lease.core .tx with
  | (pool, .error error) => (pool, .error error, [lease.core])
  | (pool, .ok count) => (pool, .ok count, [])

def recycleDroppedLease (pool : BufferPool) (token : LeaseRecycle) :
    BufferPool × Result (Nat × LeaseKind) :=
  match pool.leases.record token with
  | .error error => (pool, .error error)
  | .ok record =>
    let recycled := pool.recycle token record.kind
    (recycled.1, recycled.2.map (·, record.kind))

def stop (pool : BufferPool) : BufferPool :=
  { pool with accepting := false }

/-- `unregistered` is the outcome of the native unregistration. -/
def close (pool : BufferPool) (unregistered : Except FfiError Unit) : BufferPool × Result Unit :=
  let pool := pool.stop
  match pool.leases.ensureEmpty with
  | .error error => (pool, .error error)
  | .ok () =>
    match pool.segment with
    | none => (pool, .ok ())
    | some _ =>
      match unregistered with
      | .error error => (pool, .error (nativeError "unregister_segment" error))
      | .ok () => ({ pool with segment := none }, .ok ())
end BufferPool

end DragonflyClient.Urma
