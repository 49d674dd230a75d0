import DragonflyClient.Core.Error
import DragonflyClient.Library.Wire

/-!
Control-plane primitives shared by the native piece transports
(`dragonfly-client-storage/src/rendezvous.rs`).

A stream is the list of bytes that arrive before its end.  A writer is a sink
that takes every byte, so the only failures of `writeEnvelope` are its own.
-/

namespace DragonflyClient.Rendezvous

open Library

def headerLength : Nat := 10

def maxTaskIdLength : Nat := 4096

def maxStringLength : Nat := 4096

def maxPayloadLength : Nat := 128 * 1024

def errorCodeIncompatible : UInt32 := 1

def errorCodeNotFound : UInt32 := 2

def errorCodeInternal : UInt32 := 3

def errorCodeBusy : UInt32 := 5

def utf8 (text : String) : List UInt8 := text.toUTF8.data.toList

/-- `String::from_utf8`. -/
def ofUtf8 (bytes : List UInt8) : Option String := String.fromUTF8? ⟨bytes.toArray⟩

def be16 (value : UInt16) : List UInt8 := toBeBytes 2 value.toNat

def be32 (value : UInt32) : List UInt8 := toBeBytes 4 value.toNat

def be64 (value : UInt64) : List UInt8 := toBeBytes 8 value.toNat

/-- The length prefix is `bytes.len() as u32`: it keeps the low four bytes. -/
def putBytes (bytes : List UInt8) : List UInt8 := toBeBytes 4 bytes.length ++ bytes

/-- The methods of `PayloadReader`, which carries the rest of the payload. -/
abbrev PayloadReader := Reader DFError

namespace PayloadReader

def take (count : Nat) : PayloadReader (List UInt8) :=
  Reader.take (.unknown "rendezvous payload truncated") count

def u8 : PayloadReader UInt8 := (fun bytes => UInt8.ofNat (ofBeBytes bytes)) <$> take 1

def u16 : PayloadReader UInt16 := (fun bytes => UInt16.ofNat (ofBeBytes bytes)) <$> take 2

def u32 : PayloadReader UInt32 := (fun bytes => UInt32.ofNat (ofBeBytes bytes)) <$> take 4

def u64 : PayloadReader UInt64 := (fun bytes => UInt64.ofNat (ofBeBytes bytes)) <$> take 8

def bytes (max : Nat) : PayloadReader (List UInt8) := do
  let len := (← u32).toNat
  if len > max then
    throw (.unknown s!"rendezvous field of {len} bytes exceeds the {max} byte cap")
  take len

def string (max : Nat) : PayloadReader String := do
  match ofUtf8 (← bytes max) with
  | some text => return text
  | none => throw (.unknown "rendezvous string is not utf-8")

/-- `finish`: nothing may be left. -/
def finish : PayloadReader Unit := do
  let left := (← get).length
  if left = 0 then
    return ()
  else
    throw (.unknown s!"rendezvous frame has {left} trailing payload bytes")

end PayloadReader

open PayloadReader

inductive PieceKind where
  | piece
  | persistentPiece
  | persistentCachePiece
  deriving DecidableEq, Repr

namespace PieceKind

def toUInt8 : PieceKind → UInt8
  | .piece => 0
  | .persistentPiece => 1
  | .persistentCachePiece => 2

def tryFrom (value : UInt8) : ClientResult PieceKind :=
  if value = 0 then .ok .piece
  else if value = 1 then .ok .persistentPiece
  else if value = 2 then .ok .persistentCachePiece
  else .error (.unknown s!"invalid piece kind: {value}")

def decode : PayloadReader PieceKind := do
  match tryFrom (← u8) with
  | .ok kind => return kind
  | .error error => throw error

end PieceKind

structure PieceRequest where
  kind : PieceKind
  taskId : String
  pieceNumber : UInt32
  chunkSize : UInt64
  maxInflightChunks : UInt32
  deriving DecidableEq, Repr

namespace PieceRequest

def encode (request : PieceRequest) : List UInt8 :=
  [request.kind.toUInt8] ++ putBytes (utf8 request.taskId) ++ be32 request.pieceNumber ++
    be64 request.chunkSize ++ be32 request.maxInflightChunks

def decode : PayloadReader PieceRequest := do
  let kind ← PieceKind.decode
  let taskId ← string maxTaskIdLength
  let pieceNumber ← u32
  let chunkSize ← u64
  let maxInflightChunks ← u32
  return { kind, taskId, pieceNumber, chunkSize, maxInflightChunks }

end PieceRequest

structure PieceMetadata where
  offset : UInt64
  length : UInt64
  digest : String
  chunkSize : UInt64
  maxInflightChunks : UInt32
  deriving DecidableEq, Repr

namespace PieceMetadata

def encode (metadata : PieceMetadata) : List UInt8 :=
  be64 metadata.offset ++ be64 metadata.length ++ putBytes (utf8 metadata.digest) ++
    be64 metadata.chunkSize ++ be32 metadata.maxInflightChunks

def decode : PayloadReader PieceMetadata := do
  let offset ← u64
  let length ← u64
  let digest ← string maxStringLength
  let chunkSize ← u64
  let maxInflightChunks ← u32
  return { offset, length, digest, chunkSize, maxInflightChunks }

end PieceMetadata

structure ReceiveWindow where
  startChunk : UInt64
  chunkCount : UInt32
  deriving DecidableEq, Repr

namespace ReceiveWindow

def encode (window : ReceiveWindow) : List UInt8 :=
  be64 window.startChunk ++ be32 window.chunkCount

def decode : PayloadReader ReceiveWindow := do
  let startChunk ← u64
  let chunkCount ← u32
  return { startChunk, chunkCount }

def validate (window : ReceiveWindow) (expectedStart remainingChunks : UInt64) :
    ClientResult Unit :=
  let start := window.startChunk
  let count := window.chunkCount
  if start ≠ expectedStart ∨ count = 0 then
    .error (.unknown
      s!"invalid receive window: expected start {expectedStart}, got start {start} count {count}")
  else if count.toNat > remainingChunks.toNat then
    .error (.unknown
      s!"receive window count {count} exceeds {remainingChunks} remaining chunks")
  else
    .ok ()

/-- The chunk indices `start_chunk..start_chunk + chunk_count`. -/
def chunks (window : ReceiveWindow) : List UInt64 :=
  (List.range window.chunkCount.toNat).map fun index =>
    UInt64.ofNat (window.startChunk.toNat + index)

end ReceiveWindow

structure RendezvousError where
  code : UInt32
  message : String
  deriving DecidableEq, Repr

namespace RendezvousError

def encode (error : RendezvousError) : List UInt8 :=
  be32 error.code ++ putBytes (utf8 error.message)

def decode : PayloadReader RendezvousError := do
  let code ← u32
  let message ← string maxStringLength
  return { code, message }

end RendezvousError

def envelopeHeader (magic : UInt32) (version frameType : UInt8) (payloadLen : Nat) : List UInt8 :=
  be32 magic ++ [version, frameType] ++ toBeBytes 4 payloadLen

def writeEnvelope (magic : UInt32) (version frameType : UInt8) (payload : List UInt8)
    (maxPayload : Nat) : ClientResult (List UInt8) :=
  let length := payload.length
  if length > maxPayload ∨ maxPayload > maxPayloadLength then
    .error (.unknown s!"rendezvous payload of {length} bytes exceeds the cap")
  else if length ≥ 2 ^ 32 then
    .error (.unknown "rendezvous payload length exceeds u32")
  else
    .ok (envelopeHeader magic version frameType length ++ payload)

/-- `read_exact`, which fails at the end of the stream. -/
def readExact (count : Nat) : Reader DFError (List UInt8) :=
  Reader.take (.io "early eof") count

def readEnvelope (expectedMagic : UInt32) (expectedVersion : UInt8) (maxPayload : Nat) :
    Reader DFError (UInt8 × List UInt8) := do
  let header ← readExact headerLength
  if ofBeBytes (header.take 4) ≠ expectedMagic.toNat then
    throw (.unknown "invalid rendezvous magic")
  let version := header.getD 4 0
  if version ≠ expectedVersion then
    throw (.unknown
      s!"rendezvous version mismatch: local {expectedVersion}, remote {version}")
  let payloadLength := ofBeBytes (header.drop 6)
  if payloadLength > maxPayload ∨ maxPayload > maxPayloadLength then
    throw (.unknown s!"rendezvous payload of {payloadLength} bytes exceeds the cap")
  let payload ← readExact payloadLength
  return (header.getD 5 0, payload)

end DragonflyClient.Rendezvous
