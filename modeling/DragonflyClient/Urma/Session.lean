import DragonflyClient.Urma.Error
import DragonflyClient.Urma.Rendezvous

/-!
Piece negotiation and window arithmetic of a peer session (`urma/session.rs`).

`usize` is 64 bits wide, so the conversions from `u64` always succeed.  An
unchecked subtraction or addition that would overflow is `panicked`.
-/

namespace DragonflyClient.Urma

open Library Rendezvous

def divCeil (dividend divisor : UInt64) : UInt64 :=
  if 0 < dividend % divisor then dividend / divisor + 1 else dividend / divisor

def controlError (error : DFError) : Error :=
  let text := error.display
  .protocol s!"URMA rendezvous failed: {text}"

def transferSequence (transferId : TransferId) (chunk : UInt64) : Result UInt64 :=
  if transferId = 0 ∨ chunk.toNat ≥ 2 ^ 32 then
    .error (.protocol
      s!"invalid URMA transfer sequence: transfer_id={transferId} chunk={chunk}")
  else
    .ok ((transferId.toUInt64 <<< 32) ||| chunk)

def decodeTransferSequence (sequence : UInt64) : Result (TransferId × UInt64) :=
  let transferId := (sequence >>> 32).toUInt32
  let chunk := sequence &&& UInt64.ofNat (2 ^ 32 - 1)
  if transferId = 0 then
    .error (.protocol s!"invalid URMA SEND_IMM identity: sequence={sequence} transfer_id=0")
  else
    .ok (transferId, chunk)

structure TransferShape where
  metadata : PieceMetadata
  chunkCount : UInt64
  deriving DecidableEq, Repr

namespace TransferShape

def refused (request : PieceRequest) (metadata : PieceMetadata) (maxMessageSize : UInt64)
    (maxInflightChunks : UInt32) : Bool :=
  request.taskId.isEmpty || request.chunkSize == 0 || request.maxInflightChunks == 0 ||
    metadata.length == 0 || metadata.chunkSize == 0 ||
    decide (metadata.chunkSize > request.chunkSize) ||
    decide (metadata.chunkSize > maxMessageSize) || metadata.maxInflightChunks == 0 ||
    decide (metadata.maxInflightChunks > request.maxInflightChunks) ||
    decide (metadata.maxInflightChunks > maxInflightChunks)

def negotiate (request : PieceRequest) (metadata : PieceMetadata) (maxMessageSize : UInt64)
    (maxInflightChunks : UInt32) : Result TransferShape :=
  if refused request metadata maxMessageSize maxInflightChunks then
    let chunk := request.chunkSize
    let inflight := request.maxInflightChunks
    let length := metadata.length
    let chunkOffered := metadata.chunkSize
    let inflightOffered := metadata.maxInflightChunks
    .error (.protocol
      (s!"invalid URMA Piece negotiation: request chunk={chunk} inflight={inflight}, " ++
        s!"metadata length={length} chunk={chunkOffered} inflight={inflightOffered}"))
  else
    .ok { metadata, chunkCount := divCeil metadata.length metadata.chunkSize }

def window (shape : TransferShape) (startChunk : UInt64) : Result ReceiveWindow :=
  if startChunk ≥ shape.chunkCount then
    .error (.protocol "receive window starts after the final chunk")
  else
    .ok
      { startChunk
        chunkCount :=
          (min (shape.chunkCount - startChunk) shape.metadata.maxInflightChunks.toUInt64).toUInt32 }

def chunkLen (shape : TransferShape) (chunk : UInt64) : Result Nat :=
  if chunk ≥ shape.chunkCount then
    .error (.protocol "chunk index exceeds Piece length")
  else
    let offset := chunk.toNat * shape.metadata.chunkSize.toNat
    if 2 ^ 64 ≤ offset then
      .error (.protocol "chunk offset overflow")
    else if shape.metadata.length.toNat < offset then
      .error (.panicked "attempt to subtract with overflow")
    else
      .ok (min shape.metadata.chunkSize.toNat (shape.metadata.length.toNat - offset))

/-- The accumulating loop of `window_len`. -/
def addChunkLens (shape : TransferShape) : List UInt64 → Nat → Result Nat
  | [], length => .ok length
  | chunk :: rest, length =>
    match shape.chunkLen chunk with
    | .error error => .error error
    | .ok chunkLength =>
      if 2 ^ 64 ≤ length + chunkLength then
        .error (.protocol "receive window length overflow")
      else
        addChunkLens shape rest (length + chunkLength)

def windowLen (shape : TransferShape) (window : ReceiveWindow) : Result Nat :=
  if shape.chunkCount < window.startChunk then
    .error (.protocol "receive window starts past Piece end")
  else
    match window.validate window.startChunk (shape.chunkCount - window.startChunk) with
    | .error error => .error (controlError error)
    | .ok () =>
      if 2 ^ 64 ≤ window.startChunk.toNat + window.chunkCount.toNat then
        .error (.panicked "attempt to add with overflow")
      else
        shape.addChunkLens window.chunks 0

/-- The windows from a chunk on, as `next_post_chunk` and `next_chunk` walk
through them: each one starts where the one before ends. -/
def windowsFrom (shape : TransferShape) : Nat → UInt64 → List ReceiveWindow
  | 0, _ => []
  | rounds + 1, startChunk =>
    match shape.window startChunk with
    | .error _ => []
    | .ok window =>
      window :: windowsFrom shape rounds (startChunk + window.chunkCount.toUInt64)

end TransferShape

structure ClientLane where
  failed : Bool
  maxMessageSize : UInt64
  maxReceiveInflight : UInt32

structure ServerLane where
  failed : Bool
  maxMessageSize : UInt64
  maxSendInflight : UInt32

/-- What `UrmaClientSession::connect` decides before the lane is created. -/
def ClientLane.connect (localCapability remoteCapability : UrmaCapability)
    (recvDepth maxReceiveInflight : UInt32) : Result ClientLane :=
  match localCapability.compatible remoteCapability with
  | .error reason => .error (.protocol reason)
  | .ok () =>
    if maxReceiveInflight = 0 ∨ maxReceiveInflight > recvDepth then
      .error (.invalidConfiguration
        (s!"URMA per-Piece receive inflight {maxReceiveInflight} exceeds lane receive " ++
          s!"depth {recvDepth}"))
    else
      .ok
        { failed := false
          maxMessageSize := min localCapability.maxMessageSize remoteCapability.maxMessageSize
          maxReceiveInflight }

/-- What `UrmaServerSession::accept` decides before the lane is created; `peer` is the
capability of the `Connect` frame. -/
def ServerLane.accept (localCapability peer : UrmaCapability)
    (sendDepth maxSendInflight : UInt32) : Result ServerLane :=
  match localCapability.compatible peer with
  | .error reason => .error (.protocol reason)
  | .ok () =>
    if maxSendInflight = 0 ∨ maxSendInflight > sendDepth then
      .error (.invalidConfiguration
        (s!"URMA per-Piece send inflight {maxSendInflight} exceeds lane send " ++
          s!"depth {sendDepth}"))
    else
      .ok
        { failed := false
          maxMessageSize := min localCapability.maxMessageSize peer.maxMessageSize
          maxSendInflight }

/-- The checks of `UrmaClientSession::request_piece` before the request is sent. -/
def ClientLane.checkRequest (lane : ClientLane) (request : PieceRequest) : Result Unit :=
  if lane.failed then
    .error (.protocol "URMA client lane is failed")
  else if request.taskId.isEmpty || request.chunkSize == 0 ||
      decide (request.chunkSize > lane.maxMessageSize) || request.maxInflightChunks == 0 ||
      decide (request.maxInflightChunks > lane.maxReceiveInflight) then
    .error (.protocol "invalid URMA Piece request")
  else
    .ok ()

/-- The checks of `UrmaServerSession::receive_request` on an incoming request. -/
def ServerLane.checkRequest (lane : ServerLane) (request : PieceRequest) : Result Unit :=
  if lane.failed then
    .error (.protocol "URMA server lane is failed")
  else if request.taskId.isEmpty || request.chunkSize == 0 ||
      decide (request.chunkSize > lane.maxMessageSize) || request.maxInflightChunks == 0 then
    .error (.protocol "invalid URMA Piece request")
  else
    .ok ()

/-- `TransferShape::negotiate` as `request_piece` calls it on `Ready`. -/
def ClientLane.negotiate (lane : ClientLane) (request : PieceRequest)
    (metadata : PieceMetadata) : Result TransferShape :=
  TransferShape.negotiate request metadata lane.maxMessageSize lane.maxReceiveInflight

/-- `TransferShape::negotiate` as `ready` calls it. -/
def ServerLane.negotiate (lane : ServerLane) (request : PieceRequest)
    (metadata : PieceMetadata) : Result TransferShape :=
  TransferShape.negotiate request metadata lane.maxMessageSize lane.maxSendInflight

end DragonflyClient.Urma
