import DragonflyClient.Library.Sequence
import DragonflyClient.Urma.Session

/-!
Piece parameters of the uploader (`server/urma.rs`).
-/

namespace DragonflyClient.Server

open Library Rendezvous Urma

def pieceId (taskId : String) (number : UInt32) : String := s!"{taskId}-{number}"

def notFoundMessage (pieceId : String) : String := s!"piece {pieceId} not found"

def negotiateTransfer (request : PieceRequest) (maxMessageSize : UInt64) (sendDepth : UInt32) :
    ClientResult (UInt64 × UInt32) :=
  let chunkSize := min request.chunkSize maxMessageSize
  let maxInflightChunks := min request.maxInflightChunks sendDepth
  if chunkSize = 0 ∨ maxInflightChunks = 0 then
    .error .invalidParameter
  else
    .ok (chunkSize, maxInflightChunks)

/-- The chunk lengths of the window at a byte offset.  The products and differences
are unchecked in the source; one that would overflow is an `unknown` error here. -/
def txWindowChunkLengths (pieceLength chunkSize : UInt64) (maxInflightChunks : UInt32)
    (pieceOffset : UInt64) : ClientResult (List Nat) :=
  if pieceOffset ≥ pieceLength then
    .error .invalidParameter
  else
    let remaining := pieceLength - pieceOffset
    let count := min (divCeil remaining chunkSize) maxInflightChunks.toUInt64
    collect (fun index : Nat =>
      let start := index * chunkSize.toNat
      if 2 ^ 64 ≤ start then
        .error (.unknown "attempt to multiply with overflow")
      else if remaining.toNat < start then
        .error (.unknown "attempt to subtract with overflow")
      else
        .ok (min chunkSize.toNat (remaining.toNat - start))) (List.range count.toNat)

end DragonflyClient.Server
