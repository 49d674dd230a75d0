import DragonflyClient.Server.Upload
import DragonflyClient.Urma.WireFormat

/-!
The frames a running session emits, and what the peer reads.

The writer bounds a frame only by its whole payload; the reader bounds every
text.  A text between the two bounds is written and then refused.
-/

namespace DragonflyClient.Urma

open Library Rendezvous

/-- Frames that the sessions pass to `write_frame` while Pieces are transferred. -/
inductive Emitted (client : ClientLane) (server : ServerLane) : Frame → Prop where
  /-- `request_piece` -/
  | request {transferId piece} (checked : client.checkRequest piece = .ok ()) :
      Emitted client server (.request transferId piece)
  /-- `ready` -/
  | ready {transferId piece metadata shape}
      (negotiated : server.negotiate piece metadata = .ok shape) :
      Emitted client server (.ready transferId metadata)
  /-- `reject_piece` and `reject_piece_transient` -/
  | rejected (transferId : TransferId) (code : UInt32) (message : String) :
      Emitted client server (.error transferId ⟨code, message⟩)
  /-- `send_piece_error` in `abort_peer` and in `receive_request` -/
  | failed (transferId : TransferId) (error : Error) :
      Emitted client server (.error transferId ⟨errorCodeInternal, error.display⟩)
  /-- `write_error` in `accept` -/
  | incompatible {capability remote : UrmaCapability} {reason}
      (refused : capability.compatible remote = .error reason) :
      Emitted client server (.error 0 ⟨errorCodeIncompatible, reason⟩)

def Frame.text : Frame → String
  | .request _ piece => piece.taskId
  | .ready _ metadata => metadata.digest
  | .error _ failure => failure.message
  | .connect lane => lane.capability.fabricTag
  | .capability advertisement => advertisement.capability.fabricTag
  | _ => ""

variable {client : ClientLane} {server : ServerLane}

theorem Emitted.fits_iff {frame : Frame} (emitted : Emitted client server frame) :
    frame.Fits ↔ (utf8 frame.text).length ≤ maxStringLength := by
  cases emitted <;> exact Iff.rfl

/-- An emitted frame is read back by the peer if and only if its text is within
the reader's cap; otherwise the peer's reader fails. -/
theorem Emitted.read_back_iff {frame : Frame} {word : List UInt8}
    (emitted : Emitted client server frame) (written : writeFrame frame = .ok word) :
    ((∀ rest, readFrame.run (word ++ rest) = .ok (frame, rest)) ↔
      (utf8 frame.text).length ≤ maxStringLength) ∧
    ((∀ rest, ∃ error, readFrame.run (word ++ rest) = .error error) ↔
      ¬ (utf8 frame.text).length ≤ maxStringLength) := by
  rw [← emitted.fits_iff]
  constructor
  · constructor
    · intro read
      exact ((readFrame_written written [] _).mp (read [])).1
    · intro fits rest
      exact (readFrame_written written rest _).mpr ⟨fits, rfl⟩
  · constructor
    · intro fails fits
      obtain ⟨error, failed⟩ := fails []
      rw [(readFrame_written written [] _).mpr ⟨fits, rfl⟩] at failed
      cases failed
    · intro unfit rest
      apply exists_error_of_ne_ok
      intro outcome read
      exact unfit ((readFrame_written written rest outcome).mp read).1

section Rejection

open Server

def longTaskId : Nat → String
  | 0 => ""
  | count + 1 => longTaskId count ++ "a"

theorem length_longTaskId (count : Nat) : (utf8 (longTaskId count)).length = count := by
  induction count with
  | zero => rfl
  | succ count ih =>
    rw [longTaskId, utf8_append, List.length_append, ih]
    rfl

theorem isEmpty_longTaskId (count : Nat) : (longTaskId (count + 1)).isEmpty = false := by
  simp [longTaskId]

def longRequest (count : Nat) : PieceRequest :=
  { kind := .piece, taskId := longTaskId count, pieceNumber := 0, chunkSize := 4096
    maxInflightChunks := 8 }

/-- What `handle_piece` answers when storage has no such Piece. -/
def notFoundFrame (count : Nat) : Frame :=
  .error 1 ⟨errorCodeNotFound, notFoundMessage (pieceId (longTaskId count) 0)⟩

theorem length_notFoundFrame (count : Nat) :
    (utf8 (notFoundFrame count).text).length = count + 18 := by
  have front : (utf8 "piece ").length = 6 := by decide
  have dash : (utf8 "-").length = 1 := by decide
  have number : (utf8 (toString (0 : UInt32))).length = 1 := by decide
  have back : (utf8 " not found").length = 10 := by decide
  have text : (notFoundFrame count).text =
      "piece " ++ (longTaskId count ++ "-" ++ toString (0 : UInt32)) ++ " not found" := rfl
  simp only [text, utf8_append, List.length_append, length_longTaskId, front, dash, number, back]
  omega

theorem written_of_text (transferId : TransferId) (code : UInt32) {message : String}
    (short : (utf8 message).length ≤ 65536) :
    ∃ word, writeFrame (.error transferId ⟨code, message⟩) = .ok word := by
  refine ⟨_, writeFrame_eq_ok.mpr ⟨?_, rfl⟩⟩
  simp only [Frame.payload, RendezvousError.encode, List.length_append, length_putBytes,
    length_be32, maxPayloadLength]
  omega

/-- The longest task id a request can carry: the server accepts the request, and
the frame with which it rejects the Piece is written but cannot be read. -/
theorem not_found_rejection_unreadable :
    let client : ClientLane := ⟨false, 4096, 8⟩
    let server : ServerLane := ⟨false, 4096, 8⟩
    (client.checkRequest (longRequest 4096) = .ok () ∧
      server.checkRequest (longRequest 4096) = .ok () ∧
      (Frame.request 1 (longRequest 4096)).Fits) ∧
    Emitted client server (notFoundFrame 4096) ∧
    ∃ word, writeFrame (notFoundFrame 4096) = .ok word ∧
      ∀ rest, ∃ error, readFrame.run (word ++ rest) = .error error := by
  have empty := isEmpty_longTaskId 4095
  have unfit : ¬ (notFoundFrame 4096).Fits := by
    have long := length_notFoundFrame 4096
    intro fits
    change (utf8 (notFoundFrame 4096).text).length ≤ maxStringLength at fits
    rw [long] at fits
    exact absurd fits (by decide)
  obtain ⟨word, written⟩ := written_of_text 1 errorCodeNotFound
    (show (utf8 (notFoundFrame 4096).text).length ≤ 65536 by rw [length_notFoundFrame]; decide)
  refine ⟨⟨?_, ?_, ?_⟩, .rejected _ _ _, word, written, fun rest => ?_⟩
  · simp [ClientLane.checkRequest, longRequest, empty]
  · simp [ServerLane.checkRequest, longRequest, empty]
  · exact (length_longTaskId 4096).le
  · apply exists_error_of_ne_ok
    intro outcome read
    exact unfit ((readFrame_written written rest outcome).mp read).1

/-- A rejection whose text is within the cap. -/
theorem busy_rejection_read_back :
    ∃ word, writeFrame (.error 1 ⟨errorCodeBusy, "URMA process transfer admission is full"⟩) =
        .ok word ∧
      ∀ rest, readFrame.run (word ++ rest) =
        .ok (.error 1 ⟨errorCodeBusy, "URMA process transfer admission is full"⟩, rest) := by
  refine ⟨_, rfl, ?_⟩
  exact ((Emitted.rejected 1 errorCodeBusy "URMA process transfer admission is full" :
    Emitted ⟨false, 4096, 8⟩ ⟨false, 4096, 8⟩ _).read_back_iff rfl).1.mpr (by decide)

end Rejection

end DragonflyClient.Urma
