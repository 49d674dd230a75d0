import DragonflyClient.Urma.Buffer
import DragonflyClient.Urma.Session

/-!
Receive credit of one Piece (`urma/session.rs`): the downloader announces each window
it has posted, the uploader sends a window only for an announcement.
-/

namespace DragonflyClient.Urma

open Library Rendezvous

/-- The fields of a downloading Piece that choose its windows. -/
structure ClientPiece where
  transferId : TransferId
  shape : TransferShape
  nextPostChunk : UInt64
  deriving DecidableEq

/-- One iteration of `fill_receive_pipeline` in which every permit is granted, the
window is posted and `RecvPosted` is sent. -/
def ClientPiece.announce (piece : ClientPiece) : Result (ClientPiece × Frame) :=
  match piece.shape.window piece.nextPostChunk with
  | .error error => .error error
  | .ok window =>
    match piece.shape.windowLen window with
    | .error error => .error error
    | .ok _ =>
      match collect (transferSequence piece.transferId) window.chunks with
      | .error error => .error error
      | .ok _ =>
        .ok
          ({ piece with nextPostChunk := piece.nextPostChunk + window.chunkCount.toUInt64 },
            .recvPosted piece.transferId window)

/-- The uploading Piece once it is ready. -/
structure ServerPiece where
  transferId : TransferId
  shape : TransferShape
  nextChunk : UInt64
  deriving DecidableEq

/-- How `send_next_registered_window` fails, with the values its message prints. -/
inductive SendFailure where
  | returned (error : Error)
  | receive (error : Error)
  | unexpected (frame : Frame)
  | invalidWindow (expected received : ReceiveWindow)
  | leaseMismatch (expectedLen : Nat) (chunkCount : UInt32) (leaseLen leaseChunks : Nat)
  | native (error : Error)
  deriving DecidableEq

/-- `send_next_registered_window` up to the admission of its sends. -/
def ServerPiece.receiveCredit (piece : ServerPiece) (lease : TxWindowLease)
    (received : Result Frame) : Except SendFailure ReceiveWindow :=
  match piece.shape.window piece.nextChunk with
  | .error error => .error (.returned error)
  | .ok expected =>
    match received with
    | .error error => .error (.receive error)
    | .ok frame =>
      match frame with
      | .recvPosted transferId window =>
        if transferId ≠ piece.transferId then
          .error (.unexpected frame)
        else if window ≠ expected then
          .error (.invalidWindow expected window)
        else
          match piece.shape.windowLen window with
          | .error error => .error (.returned error)
          | .ok expectedLen =>
            if lease.length ≠ expectedLen ∨
                lease.layouts.length ≠ window.chunkCount.toNat then
              .error (.leaseMismatch expectedLen window.chunkCount lease.length
                lease.layouts.length)
            else
              .ok window
      | _ => .error (.unexpected frame)

/-- The whole call; `native` is how admission, credit, post and completion end. -/
def ServerPiece.sendNextRegisteredWindow (piece : ServerPiece) (lease : TxWindowLease)
    (received : Result Frame) (native : Result Unit) : Except SendFailure ServerPiece :=
  match piece.receiveCredit lease received with
  | .error failure => .error failure
  | .ok window =>
    match native with
    | .error error => .error (.native error)
    | .ok () =>
      .ok { piece with nextChunk := piece.nextChunk + window.chunkCount.toUInt64 }

end DragonflyClient.Urma
