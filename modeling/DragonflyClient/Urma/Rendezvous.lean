import DragonflyClient.Storage.Rendezvous

/-!
The URMA control-plane wire contract (`urma/rendezvous.rs`).
-/

namespace DragonflyClient.Urma

open Library Rendezvous PayloadReader

/-- "DFUR". -/
def magic : UInt32 := 0x44465552

def wireVersion : UInt8 := 2

def maxDescriptorLength : Nat := 64 * 1024

abbrev TransferId := UInt32

structure UrmaCapability where
  transportType : UInt32
  fabricTag : String
  maxMessageSize : UInt64
  deriving DecidableEq, Repr

namespace UrmaCapability

def compatible (capability remote : UrmaCapability) : Except String Unit :=
  if capability.transportType ≠ remote.transportType then
    let localType := capability.transportType
    let remoteType := remote.transportType
    .error s!"URMA transport mismatch: local {localType}, remote {remoteType}"
  else if capability.fabricTag.isEmpty ∨ remote.fabricTag.isEmpty then
    .error "missing URMA fabric tag"
  else if capability.fabricTag ≠ remote.fabricTag then
    let localTag := capability.fabricTag
    let remoteTag := remote.fabricTag
    .error s!"URMA fabric tag mismatch: local {localTag}, remote {remoteTag}"
  else if capability.maxMessageSize = 0 ∨ remote.maxMessageSize = 0 then
    .error "invalid URMA max message size"
  else
    .ok ()

def encode (capability : UrmaCapability) : List UInt8 :=
  be32 capability.transportType ++ putBytes (utf8 capability.fabricTag) ++
    be64 capability.maxMessageSize

def decode : PayloadReader UrmaCapability := do
  let transportType ← u32
  let fabricTag ← string maxStringLength
  let maxMessageSize ← u64
  return { transportType, fabricTag, maxMessageSize }

end UrmaCapability

structure UrmaAdvertisement where
  capability : UrmaCapability
  port : UInt16
  deriving DecidableEq, Repr

structure LaneConnect where
  capability : UrmaCapability
  clientDescriptor : List UInt8
  deriving DecidableEq, Repr

structure LaneConnected where
  serverDescriptor : List UInt8
  deriving DecidableEq, Repr

inductive Frame where
  | connect (lane : LaneConnect)
  | connected (lane : LaneConnected)
  | request (transferId : TransferId) (request : PieceRequest)
  | ready (transferId : TransferId) (metadata : PieceMetadata)
  | recvPosted (transferId : TransferId) (window : ReceiveWindow)
  | done (transferId : TransferId)
  | error (transferId : TransferId) (error : RendezvousError)
  | discover
  | capability (advertisement : UrmaAdvertisement)
  deriving DecidableEq, Repr

namespace Frame

def transferId : Frame → Option TransferId
  | .request transferId _ | .ready transferId _ | .recvPosted transferId _
  | .done transferId | .error transferId _ => some transferId
  | .connect _ | .connected _ | .discover | .capability _ => none

def frameType : Frame → UInt8
  | .connect _ => 1
  | .connected _ => 2
  | .request _ _ => 3
  | .ready _ _ => 4
  | .recvPosted _ _ => 5
  | .done _ => 6
  | .error _ _ => 7
  | .discover => 8
  | .capability _ => 9

def payload : Frame → List UInt8
  | .discover => []
  | .capability advertisement => advertisement.capability.encode ++ be16 advertisement.port
  | .connect lane => lane.capability.encode ++ putBytes lane.clientDescriptor
  | .connected lane => putBytes lane.serverDescriptor
  | .request transferId piece => be32 transferId ++ piece.encode
  | .ready transferId metadata => be32 transferId ++ metadata.encode
  | .recvPosted transferId window => be32 transferId ++ window.encode
  | .done transferId => be32 transferId
  | .error transferId failure => be32 transferId ++ failure.encode

end Frame

def writeFrame (frame : Frame) : ClientResult (List UInt8) :=
  writeEnvelope magic wireVersion frame.frameType frame.payload maxPayloadLength

/-- The match on the frame type in `read_frame`. -/
def decodeFrame (frameType : UInt8) : PayloadReader Frame :=
  match frameType with
  | 1 => do
      let capability ← UrmaCapability.decode
      let clientDescriptor ← bytes maxDescriptorLength
      return .connect { capability, clientDescriptor }
  | 2 => do
      let serverDescriptor ← bytes maxDescriptorLength
      return .connected { serverDescriptor }
  | 3 => do
      let transferId ← u32
      let request ← PieceRequest.decode
      return .request transferId request
  | 4 => do
      let transferId ← u32
      let metadata ← PieceMetadata.decode
      return .ready transferId metadata
  | 5 => do
      let transferId ← u32
      let window ← ReceiveWindow.decode
      match window.validate window.startChunk (UInt64.ofNat (2 ^ 64 - 1)) with
      | .error error => throw error
      | .ok () => return .recvPosted transferId window
  | 6 => do
      let transferId ← u32
      return .done transferId
  | 7 => do
      let transferId ← u32
      let error ← RendezvousError.decode
      return .error transferId error
  | 8 => return .discover
  | 9 => do
      let capability ← UrmaCapability.decode
      let port ← u16
      return .capability { capability, port }
  | other => throw (.unknown s!"unknown URMA rendezvous frame type: {other}")

/-- The payload is a buffer of its own: what it leaves unread is an error and
never part of the next frame. -/
def readFrame : Reader DFError Frame := do
  let envelope ← readEnvelope magic wireVersion maxPayloadLength
  match (do let frame ← decodeFrame envelope.1; finish; return frame).run envelope.2 with
  | .ok (frame, _) => return frame
  | .error error => throw error

end DragonflyClient.Urma
