import DragonflyClient.Urma.Completion
import DragonflyClient.Urma.Windowing

/-!
Putting the completions of a receive window in order (`urma/session.rs`).

A native RECV may complete with the data of another chunk, window or Piece; the
immediate of a completion says which chunk its bytes are.
-/

namespace DragonflyClient.Urma

open Library Rendezvous

structure ReceiveWindowRoutingStats where
  reorderedChunkCount : Nat
  crossTransferChunkCount : Nat
  deriving DecidableEq, Repr

/-- How `reorder_receive_window_completions` fails, with the values its message prints. -/
inductive ReorderFailure where
  | returned (error : Error)
  | countMismatch (expected received : Nat)
  | rangeOverflow
  | changedLane (expected received : UInt16)
  | noPostedSequence
  | transferMismatch (expected received : TransferId) (sequence : UInt64)
  | outside (transferId : TransferId) (window : ReceiveWindow) (receivedChunk : UInt64)
  | lengthMismatch (transferId : TransferId) (chunk : UInt64) (expected received : Nat)
      (slot : SlotId)
  | duplicate (transferId : TransferId) (chunk : UInt64)
  | incomplete (transferId : TransferId) (missing : List UInt64)
  deriving DecidableEq

structure Reordering where
  leasesByChunk : List (Option RegisteredRxWindowLease)
  routing : ReceiveWindowRoutingStats
  deriving DecidableEq

namespace Reordering

def place (laneId : UInt16) (transferId : TransferId) (shape : TransferShape)
    (window : ReceiveWindow) (reordering : Reordering) (completion : RegisteredRxCompletion) :
    Except ReorderFailure Reordering :=
  if completion.laneId ≠ laneId then
    .error (.changedLane laneId completion.laneId)
  else
    match completion.postedSequence with
    | none => .error .noPostedSequence
    | some postedSequence =>
      match decodeTransferSequence postedSequence, decodeTransferSequence completion.immData with
      | .error error, _ => .error (.returned error)
      | .ok _, .error error => .error (.returned error)
      | .ok (postedTransferId, _), .ok (receivedTransferId, receivedChunk) =>
        if receivedTransferId ≠ transferId then
          .error (.transferMismatch transferId receivedTransferId completion.immData)
        else if receivedChunk < window.startChunk ∨
            receivedChunk.toNat ≥ window.startChunk.toNat + window.chunkCount.toNat then
          .error (.outside transferId window receivedChunk)
        else
          match shape.chunkLen receivedChunk with
          | .error error => .error (.returned error)
          | .ok expectedLen =>
            let receivedIndex := (receivedChunk - window.startChunk).toNat
            if completion.lease.length ≠ expectedLen then
              .error (.lengthMismatch transferId receivedChunk expectedLen
                completion.lease.length completion.slot)
            else if (reordering.leasesByChunk[receivedIndex]?.join).isSome then
              .error (.duplicate transferId receivedChunk)
            else
              .ok
                { leasesByChunk :=
                    reordering.leasesByChunk.set receivedIndex (some completion.lease)
                  routing :=
                    { reorderedChunkCount := reordering.routing.reorderedChunkCount +
                        (if postedSequence = completion.immData then 0 else 1)
                      crossTransferChunkCount :=
                        reordering.routing.crossTransferChunkCount +
                          (if postedTransferId = transferId then 0 else 1) } }

def placeAll (laneId : UInt16) (transferId : TransferId) (shape : TransferShape)
    (window : ReceiveWindow) :
    Reordering → List RegisteredRxCompletion → Except ReorderFailure Reordering
  | reordering, [] => .ok reordering
  | reordering, completion :: rest =>
    match reordering.place laneId transferId shape window completion with
    | .error failure => .error failure
    | .ok reordering => placeAll laneId transferId shape window reordering rest

def missing (window : ReceiveWindow) (reordering : Reordering) : List UInt64 :=
  (window.chunks.zip reordering.leasesByChunk).filterMap fun entry =>
    if entry.2.isNone then some entry.1 else none

end Reordering

def reorderReceiveWindowCompletions (laneId : UInt16) (transferId : TransferId)
    (shape : TransferShape) (window : ReceiveWindow) (completions : List RegisteredRxCompletion) :
    Except ReorderFailure (List RegisteredRxWindowLease × ReceiveWindowRoutingStats) :=
  match shape.windowLen window with
  | .error error => .error (.returned error)
  | .ok _ =>
    let count := window.chunkCount.toNat
    if completions.length ≠ count then
      .error (.countMismatch count completions.length)
    else if 2 ^ 64 ≤ window.startChunk.toNat + count then
      .error .rangeOverflow
    else
      match Reordering.placeAll laneId transferId shape window
          { leasesByChunk := List.replicate count none
            routing := { reorderedChunkCount := 0, crossTransferChunkCount := 0 } }
          completions with
      | .error failure => .error failure
      | .ok reordering =>
        if reordering.missing window ≠ [] then
          .error (.incomplete transferId (reordering.missing window))
        else
          .ok (reordering.leasesByChunk.filterMap id, reordering.routing)

end DragonflyClient.Urma
