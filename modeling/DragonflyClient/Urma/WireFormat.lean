import DragonflyClient.Library.Sequence
import DragonflyClient.Storage.Codec
import DragonflyClient.Urma.Rendezvous

/-!
The DFUR frames as a byte format.

`read_frame` accepts exactly the frames whose fields respect the reader's caps,
in the one form `write_frame` gives them.
-/

namespace DragonflyClient.Urma

open Library Rendezvous PayloadReader List Reader UrmaCapability

section Envelope

variable {magic : UInt32} {version : UInt8}

theorem length_envelopeHeader (frameType : UInt8) (length : Nat) :
    (envelopeHeader magic version frameType length).length = headerLength := by
  simp [envelopeHeader, headerLength]

/-- Four bytes with the value of the magic number are the magic number. -/
theorem be32_of_value {value : UInt32} (bytes : List UInt8) (four : bytes.length = 4)
    (same : ofBeBytes bytes = value.toNat) : be32 value = bytes := by
  rw [be32, ← same, ← four, toBeBytes_ofBeBytes]

theorem ofBeBytes_be32 (value : UInt32) : ofBeBytes (be32 value) = value.toNat :=
  ofBeBytes_toBeBytes value.toNat_lt

theorem header_fields {header : List UInt8} (ten : header.length = headerLength) :
    header = header.take 4 ++ [header.getD 4 0, header.getD 5 0] ++ header.drop 6 := by
  match header, ten with
  | [_, _, _, _, _, _, _, _, _, _], _ => rfl

theorem reads_envelope {max : Nat} (capped : max ≤ maxPayloadLength) :
    Reads (readEnvelope magic version max) (fun envelope => envelope.2.length ≤ max)
      (fun envelope =>
        envelopeHeader magic version envelope.1 envelope.2.length ++ envelope.2) := by
  rintro input ⟨frameType, payload⟩ rest
  simp only [readEnvelope, readExact, (Reads.take _ _).bind_eq_ok, id]
  constructor
  · rintro ⟨header, middle, ten, rfl, read⟩
    have fields := header_fields ten
    rw [headerLength] at ten
    split at read
    · obtain ⟨_, _, impossible, -⟩ := bind_eq_ok.mp read
      exact absurd impossible throw_ne_ok
    next named =>
    split at read
    · obtain ⟨_, _, impossible, -⟩ := bind_eq_ok.mp read
      exact absurd impossible throw_ne_ok
    next versioned =>
    split at read
    · obtain ⟨_, _, impossible, -⟩ := bind_eq_ok.mp read
      exact absurd impossible throw_ne_ok
    next bounded =>
    rw [(Reads.take _ _).bind_eq_ok] at read
    obtain ⟨body, left, announced, rfl, read⟩ := read
    obtain ⟨same, rfl⟩ := pure_eq_ok.mp read
    obtain ⟨typed, rfl⟩ := Prod.mk.inj same
    have magical := be32_of_value (header.take 4) (by simp [ten])
      (Decidable.not_not.mp named)
    have length : toBeBytes 4 body.length = header.drop 6 := by
      rw [announced, show 4 = (header.drop 6).length by simp [ten], toBeBytes_ofBeBytes]
    refine ⟨by omega, ?_⟩
    rw [envelopeHeader, magical, length, ← typed, ← Decidable.not_not.mp versioned, ← fields]
    simp
  · rintro ⟨within, rfl⟩
    have fits : payload.length < 256 ^ 4 := by
      have small : maxPayloadLength < 256 ^ 4 := by decide
      omega
    refine ⟨envelopeHeader magic version frameType payload.length, payload ++ rest,
      length_envelopeHeader _ _, append_assoc .., ?_⟩
    have word : (be32 magic).length = 4 := length_be32 _
    have named : (envelopeHeader magic version frameType payload.length).take 4 = be32 magic := by
      rw [envelopeHeader, append_assoc, ← word, take_left]
    have announced : (envelopeHeader magic version frameType payload.length).drop 6 =
        toBeBytes 4 payload.length := by
      rw [envelopeHeader, ← show (be32 magic ++ [version, frameType]).length = 6 by simp, drop_left]
    have versioned : (envelopeHeader magic version frameType payload.length).getD 4 0 =
        version := rfl
    rw [named, announced, versioned, ofBeBytes_be32, ofBeBytes_toBeBytes fits,
      if_neg (not_not.mpr rfl), if_neg (not_not.mpr rfl), if_neg (by omega),
      (Reads.take _ _).bind_eq_ok]
    exact ⟨payload, rest, rfl, rfl, pure_eq_ok.mpr ⟨rfl, rfl⟩⟩

end Envelope

namespace Frame

/-- The caps that the reader enforces and the writer does not. -/
def Fits : Frame → Prop
  | .connect lane => (utf8 lane.capability.fabricTag).length ≤ maxStringLength ∧
      lane.clientDescriptor.length ≤ maxDescriptorLength
  | .connected lane => lane.serverDescriptor.length ≤ maxDescriptorLength
  | .request _ piece => (utf8 piece.taskId).length ≤ maxStringLength
  | .ready _ metadata => (utf8 metadata.digest).length ≤ maxStringLength
  | .recvPosted _ window => window.chunkCount ≠ 0
  | .done _ => True
  | .error _ failure => (utf8 failure.message).length ≤ maxStringLength
  | .discover => True
  | .capability advertisement =>
    (utf8 advertisement.capability.fabricTag).length ≤ maxStringLength

def bytes (frame : Frame) : List UInt8 :=
  envelopeHeader magic wireVersion frame.frameType frame.payload.length ++ frame.payload

end Frame

open Urma.Frame

theorem reads_capability : Reads decode
    (fun capability => (utf8 capability.fabricTag).length ≤ maxStringLength)
    encode := by
  have small : maxStringLength < 2 ^ 32 := by decide
  intro input capability rest
  simp only [decode, (reads_string small).bind_eq_ok, reads_u32.bind_eq_ok,
    reads_u64.bind_eq_ok, pure_eq_ok, true_and]
  constructor
  · rintro ⟨transportType, _, rfl, tag, _, within, rfl, size, _, rfl, rfl, rfl⟩
    exact ⟨within, by simp [encode]⟩
  · rintro ⟨within, rfl⟩
    exact ⟨_, _, by simp only [encode, append_assoc], _, _, within, rfl,
      _, _, rfl, rfl, rfl⟩

theorem reads_payload (frame : Frame) (fits : frame.Fits) (rest : List UInt8) :
    (decodeFrame frame.frameType).run (frame.payload ++ rest) = .ok (frame, rest) := by
  have small : maxDescriptorLength < 2 ^ 32 := by decide
  cases frame with
  | connect lane =>
    simp only [frameType, decodeFrame, reads_capability.bind_eq_ok,
      (reads_bytes small).bind_eq_ok, pure_eq_ok, payload, append_assoc]
    exact ⟨_, _, fits.1, rfl, _, _, fits.2, rfl, rfl, rfl⟩
  | connected lane =>
    simp only [frameType, decodeFrame, (reads_bytes small).bind_eq_ok,
      pure_eq_ok, payload]
    exact ⟨_, _, fits, rfl, rfl, rfl⟩
  | request transferId piece =>
    simp only [frameType, decodeFrame, reads_u32.bind_eq_ok,
      reads_pieceRequest.bind_eq_ok, pure_eq_ok, payload, append_assoc]
    exact ⟨_, _, trivial, rfl, _, _, fits, rfl, rfl, rfl⟩
  | ready transferId metadata =>
    simp only [frameType, decodeFrame, reads_u32.bind_eq_ok,
      reads_pieceMetadata.bind_eq_ok, pure_eq_ok, payload, append_assoc]
    exact ⟨_, _, trivial, rfl, _, _, fits, rfl, rfl, rfl⟩
  | recvPosted transferId window =>
    simp only [frameType, decodeFrame, reads_u32.bind_eq_ok,
      reads_receiveWindow.bind_eq_ok, payload, append_assoc]
    refine ⟨_, _, trivial, rfl, _, _, trivial, rfl, ?_⟩
    rw [(ReceiveWindow.validate_self window).mpr fits]
    exact pure_eq_ok.mpr ⟨rfl, rfl⟩
  | done transferId =>
    simp only [frameType, decodeFrame, reads_u32.bind_eq_ok, pure_eq_ok, payload]
    exact ⟨_, _, trivial, rfl, rfl, rfl⟩
  | error transferId failure =>
    simp only [frameType, decodeFrame, reads_u32.bind_eq_ok,
      reads_rendezvousError.bind_eq_ok, pure_eq_ok, payload, append_assoc]
    exact ⟨_, _, trivial, rfl, _, _, fits, rfl, rfl, rfl⟩
  | discover => rfl
  | capability advertisement =>
    simp only [frameType, decodeFrame, reads_capability.bind_eq_ok,
      reads_u16.bind_eq_ok, pure_eq_ok, payload, append_assoc]
    exact ⟨_, _, fits, rfl, _, _, trivial, rfl, rfl, rfl⟩

/-- Nothing but the payload of a fitting frame of that type is accepted. -/
theorem of_decodeFrame_ok {frameType : UInt8} {input rest frame}
    (read : (decodeFrame frameType).run input = .ok (frame, rest)) :
    frame.frameType = frameType ∧ frame.Fits ∧ input = frame.payload ++ rest := by
  have small : maxDescriptorLength < 2 ^ 32 := by decide
  unfold decodeFrame at read
  split at read
  · simp only [reads_capability.bind_eq_ok, (reads_bytes small).bind_eq_ok, pure_eq_ok] at read
    obtain ⟨_, _, tagged, rfl, _, _, described, rfl, rfl, rfl⟩ := read
    exact ⟨rfl, ⟨tagged, described⟩, (append_assoc ..).symm⟩
  · simp only [(reads_bytes small).bind_eq_ok, pure_eq_ok] at read
    obtain ⟨_, _, described, rfl, rfl, rfl⟩ := read
    exact ⟨rfl, described, rfl⟩
  · simp only [reads_u32.bind_eq_ok, reads_pieceRequest.bind_eq_ok, pure_eq_ok] at read
    obtain ⟨_, _, -, rfl, _, _, named, rfl, rfl, rfl⟩ := read
    exact ⟨rfl, named, (append_assoc ..).symm⟩
  · simp only [reads_u32.bind_eq_ok, reads_pieceMetadata.bind_eq_ok, pure_eq_ok] at read
    obtain ⟨_, _, -, rfl, _, _, digested, rfl, rfl, rfl⟩ := read
    exact ⟨rfl, digested, (append_assoc ..).symm⟩
  · simp only [reads_u32.bind_eq_ok, reads_receiveWindow.bind_eq_ok] at read
    obtain ⟨_, _, -, rfl, window, _, -, rfl, checked⟩ := read
    split at checked
    · exact absurd checked throw_ne_ok
    next valid =>
      obtain ⟨rfl, rfl⟩ := pure_eq_ok.mp checked
      exact ⟨rfl, window.validate_self.mp valid, (append_assoc ..).symm⟩
  · simp only [reads_u32.bind_eq_ok, pure_eq_ok] at read
    obtain ⟨_, _, -, rfl, rfl, rfl⟩ := read
    exact ⟨rfl, trivial, rfl⟩
  · simp only [reads_u32.bind_eq_ok, reads_rendezvousError.bind_eq_ok, pure_eq_ok] at read
    obtain ⟨_, _, -, rfl, _, _, explained, rfl, rfl, rfl⟩ := read
    exact ⟨rfl, explained, (append_assoc ..).symm⟩
  · obtain ⟨rfl, rfl⟩ := pure_eq_ok.mp read
    exact ⟨rfl, trivial, rfl⟩
  · simp only [reads_capability.bind_eq_ok, reads_u16.bind_eq_ok, pure_eq_ok] at read
    obtain ⟨_, _, tagged, rfl, _, _, -, rfl, rfl, rfl⟩ := read
    exact ⟨rfl, tagged, (append_assoc ..).symm⟩
  · exact absurd read throw_ne_ok

theorem reads_frame : Reads readFrame
    (fun frame => frame.Fits ∧ frame.payload.length ≤ maxPayloadLength) bytes := by
  intro input frame rest
  simp only [readFrame, (reads_envelope le_rfl).bind_eq_ok]
  constructor
  · rintro ⟨⟨frameType, payload⟩, middle, within, rfl, read⟩
    split at read
    next found left decoded =>
      obtain ⟨rfl, rfl⟩ := pure_eq_ok.mp read
      simp only [bind_eq_ok, pure_eq_ok] at decoded
      obtain ⟨_, buffer, decoded, _, _, finished, rfl, rfl⟩ := decoded
      obtain ⟨rfl, fits, rfl⟩ := of_decodeFrame_ok decoded
      obtain ⟨rfl, rfl⟩ := finish_eq_ok.mp finished
      rw [append_nil] at within ⊢
      exact ⟨⟨fits, within⟩, rfl⟩
    next => exact absurd read throw_ne_ok
  · rintro ⟨⟨fits, within⟩, rfl⟩
    refine ⟨(frame.frameType, frame.payload), rest, within, rfl, ?_⟩
    have decoded := reads_payload frame fits []
    rw [append_nil] at decoded
    have whole : (do let frame ← decodeFrame frame.frameType; finish; return frame).run
        frame.payload = .ok (frame, []) := by
      simp only [bind_eq_ok, pure_eq_ok]
      exact ⟨_, _, decoded, (), _, finish_eq_ok.mpr ⟨rfl, rfl⟩, rfl, rfl⟩
    rw [whole]
    exact pure_eq_ok.mpr ⟨rfl, rfl⟩

theorem writeFrame_eq_ok {frame : Frame} {word} :
    writeFrame frame = .ok word ↔ frame.payload.length ≤ maxPayloadLength ∧ word = frame.bytes := by
  have small : maxPayloadLength < 2 ^ 32 := by decide
  simp only [writeFrame, writeEnvelope, Frame.bytes]
  split
  next tooLong => simp; omega
  next within =>
    rw [if_neg (by omega)]
    simp only [Except.ok.injEq]
    constructor
    · rintro rfl
      exact ⟨by omega, rfl⟩
    · rintro ⟨-, rfl⟩
      rfl

section Truncation

variable {rest left : List UInt8} {frame : Frame}

theorem envelope_cancel {frameType other : UInt8} {payload body} (small : payload.length < 2 ^ 32)
    (small' : body.length < 2 ^ 32)
    (same : envelopeHeader magic wireVersion frameType payload.length ++ payload ++ rest =
      envelopeHeader magic wireVersion other body.length ++ body ++ left) :
    frameType = other ∧ payload = body ∧ rest = left := by
  simp only [envelopeHeader, append_assoc] at same
  have fields := append_inj_right same (by simp)
  obtain ⟨typed, announced⟩ := append_inj fields (by simp)
  obtain ⟨lengths, bodies⟩ := toBeBytes_cancel small small' announced
  obtain ⟨rfl, rfl⟩ := append_inj bodies lengths
  simp only [List.cons.injEq, true_and, and_true] at typed
  exact ⟨typed, rfl, rfl⟩

theorem be16_cancel {value other : UInt16}
    (same : be16 value ++ rest = be16 other ++ left) : value = other ∧ rest = left := by
  obtain ⟨values, rfl⟩ := toBeBytes_cancel value.toNat_lt other.toNat_lt same
  exact ⟨UInt16.toNat_inj.mp values, rfl⟩

theorem be32_cancel {value other : UInt32}
    (same : be32 value ++ rest = be32 other ++ left) : value = other ∧ rest = left := by
  obtain ⟨values, rfl⟩ := toBeBytes_cancel value.toNat_lt other.toNat_lt same
  exact ⟨UInt32.toNat_inj.mp values, rfl⟩

theorem be64_cancel {value other : UInt64}
    (same : be64 value ++ rest = be64 other ++ left) : value = other ∧ rest = left := by
  obtain ⟨values, rfl⟩ := toBeBytes_cancel value.toNat_lt other.toNat_lt same
  exact ⟨UInt64.toNat_inj.mp values, rfl⟩

theorem putBytes_cancel {field other : List UInt8} (small : field.length < 2 ^ 32)
    (small' : other.length < 2 ^ 32) (same : putBytes field ++ rest = putBytes other ++ left) :
    field = other ∧ rest = left := by
  rw [putBytes, putBytes, append_assoc, append_assoc] at same
  obtain ⟨lengths, fields⟩ := toBeBytes_cancel small small' same
  exact append_inj fields lengths

theorem putText_cancel {text other : String}
    (small : (utf8 text).length < 2 ^ 32) (small' : (utf8 other).length < 2 ^ 32)
    (same : putBytes (utf8 text) ++ rest = putBytes (utf8 other) ++ left) :
    text = other ∧ rest = left := by
  obtain ⟨texts, rfl⟩ := putBytes_cancel small small' same
  exact ⟨Option.some.inj ((ofUtf8_eq_some.mpr rfl).symm.trans (ofUtf8_eq_some.mpr texts)), rfl⟩

theorem capability_cancel {capability other : UrmaCapability}
    (small : (utf8 capability.fabricTag).length < 2 ^ 32)
    (small' : (utf8 other.fabricTag).length < 2 ^ 32)
    (same : capability.encode ++ rest = other.encode ++ left) :
    capability = other ∧ rest = left := by
  simp only [encode, append_assoc] at same
  obtain ⟨types, tags⟩ := be32_cancel same
  obtain ⟨sameTag, sizes⟩ := putText_cancel small small' tags
  obtain ⟨sameSize, rfl⟩ := be64_cancel sizes
  cases capability
  cases other
  exact ⟨by simp_all, rfl⟩

theorem pieceKind_cancel {kind other : PieceKind}
    (same : [kind.toUInt8] ++ rest = [other.toUInt8] ++ left) : kind = other ∧ rest = left := by
  cases kind <;> cases other <;> simp_all [PieceKind.toUInt8]

/-- A payload and its type determine the frame, and no payload continues another
one.  The caps play no part: the lengths in the payload say where each field ends. -/
theorem payload_cancel {other : Frame} {extra} (typed : frame.frameType = other.frameType)
    (small : other.payload.length < 2 ^ 32) (same : frame.payload ++ extra = other.payload) :
    frame = other ∧ extra = [] := by
  have length := congrArg List.length same
  rw [← append_nil other.payload] at same
  rw [length_append] at length
  cases frame with
  | connect lane =>
    cases other with
    | connect lane' =>
      obtain ⟨capability, descriptor⟩ := lane
      simp only [payload, encode, length_append,
        length_putBytes] at length small
      simp only [payload, append_assoc] at same
      obtain ⟨rfl, descriptors⟩ := capability_cancel (by omega) (by omega) same
      obtain ⟨rfl, rfl⟩ := putBytes_cancel (by omega) (by omega) descriptors
      exact ⟨rfl, rfl⟩
    | _ => simp [frameType] at typed
  | connected lane =>
    cases other with
    | connected lane' =>
      obtain ⟨descriptor⟩ := lane
      simp only [payload, length_putBytes] at length small same
      obtain ⟨rfl, rfl⟩ := putBytes_cancel (by omega) (by omega) same
      exact ⟨rfl, rfl⟩
    | _ => simp [frameType] at typed
  | request transferId piece =>
    cases other with
    | request transferId' piece' =>
      obtain ⟨kind, taskId, number, size, inflight⟩ := piece
      simp only [payload, PieceRequest.encode, length_append, length_putBytes] at length small
      simp only [payload, PieceRequest.encode, append_assoc] at same
      obtain ⟨rfl, kinds⟩ := be32_cancel same
      obtain ⟨rfl, tasks⟩ := pieceKind_cancel kinds
      obtain ⟨rfl, numbers⟩ := putText_cancel (by omega) (by omega) tasks
      obtain ⟨rfl, sizes⟩ := be32_cancel numbers
      obtain ⟨rfl, inflights⟩ := be64_cancel sizes
      obtain ⟨rfl, rfl⟩ := be32_cancel inflights
      exact ⟨rfl, rfl⟩
    | _ => simp [frameType] at typed
  | ready transferId metadata =>
    cases other with
    | ready transferId' metadata' =>
      obtain ⟨offset, pieceLength, digest, size, inflight⟩ := metadata
      simp only [payload, PieceMetadata.encode, length_append,
        length_putBytes] at length small
      simp only [payload, PieceMetadata.encode, append_assoc] at same
      obtain ⟨rfl, offsets⟩ := be32_cancel same
      obtain ⟨rfl, lengths⟩ := be64_cancel offsets
      obtain ⟨rfl, digests⟩ := be64_cancel lengths
      obtain ⟨rfl, sizes⟩ := putText_cancel (by omega) (by omega) digests
      obtain ⟨rfl, inflights⟩ := be64_cancel sizes
      obtain ⟨rfl, rfl⟩ := be32_cancel inflights
      exact ⟨rfl, rfl⟩
    | _ => simp [frameType] at typed
  | recvPosted transferId window =>
    cases other with
    | recvPosted transferId' window' =>
      obtain ⟨start, count⟩ := window
      obtain ⟨rfl, starts⟩ := be32_cancel same
      obtain ⟨rfl, counts⟩ := be64_cancel starts
      obtain ⟨rfl, rfl⟩ := be32_cancel counts
      exact ⟨rfl, rfl⟩
    | _ => simp [frameType] at typed
  | done transferId =>
    cases other with
    | done transferId' =>
      obtain ⟨rfl, rfl⟩ := be32_cancel same
      exact ⟨rfl, rfl⟩
    | _ => simp [frameType] at typed
  | error transferId failure =>
    cases other with
    | error transferId' failure' =>
      obtain ⟨code, message⟩ := failure
      simp only [payload, RendezvousError.encode, length_append,
        length_putBytes] at length small
      simp only [payload, RendezvousError.encode, append_assoc] at same
      obtain ⟨rfl, codes⟩ := be32_cancel same
      obtain ⟨rfl, messages⟩ := be32_cancel codes
      obtain ⟨rfl, rfl⟩ := putText_cancel (by omega) (by omega) messages
      exact ⟨rfl, rfl⟩
    | _ => simp [frameType] at typed
  | discover =>
    cases other with
    | discover => exact ⟨rfl, same⟩
    | _ => simp [frameType] at typed
  | capability advertisement =>
    cases other with
    | capability advertisement' =>
      obtain ⟨capability, port⟩ := advertisement
      simp only [payload, encode, length_append,
        length_putBytes] at length small
      simp only [payload, append_assoc] at same
      obtain ⟨rfl, ports⟩ := capability_cancel (by omega) (by omega) same
      obtain ⟨rfl, rfl⟩ := be16_cancel ports
      exact ⟨rfl, rfl⟩
    | _ => simp [frameType] at typed

theorem Frame.small_payload
    (within : frame.payload.length ≤ maxPayloadLength) : frame.payload.length < 2 ^ 32 :=
  lt_of_le_of_lt within (by decide)

theorem readFrame_truncated {word short : List UInt8}
    (written : writeFrame frame = .ok word) (proper : short <+: word) (short_ne : short ≠ word)
    (outcome : Frame × List UInt8) : readFrame.run short ≠ .ok outcome := by
  intro read
  obtain ⟨other, rest⟩ := outcome
  obtain ⟨within, rfl⟩ := writeFrame_eq_ok.mp written
  obtain ⟨⟨-, within'⟩, rfl⟩ := (reads_frame _ _ _).mp read
  obtain ⟨tail, joined⟩ := proper
  have same : frame.bytes ++ [] = other.bytes ++ (rest ++ tail) := by
    rw [append_nil, ← joined, append_assoc]
  obtain ⟨-, -, nothing⟩ :=
    envelope_cancel (small_payload within) (small_payload within') same
  obtain ⟨rfl, rfl⟩ := append_eq_nil_iff.mp nothing.symm
  exact short_ne (by simpa using joined)

theorem readFrame_trailing {extra : List UInt8} (nonempty : extra ≠ [])
    (small : (frame.payload ++ extra).length < 2 ^ 32) (rest : List UInt8)
    (outcome : Frame × List UInt8) :
    readFrame.run (envelopeHeader magic wireVersion frame.frameType
      (frame.payload ++ extra).length ++ (frame.payload ++ extra) ++ rest) ≠ .ok outcome := by
  intro read
  obtain ⟨⟨-, within⟩, same⟩ := (reads_frame _ _ _).mp read
  obtain ⟨typed, payloads, -⟩ := envelope_cancel small (small_payload within) same
  exact nonempty (payload_cancel typed (small_payload within) payloads).2

end Truncation

theorem flatten_of_collect_writeFrame {frames : List Frame} {words}
    (written : collect writeFrame frames = .ok words) :
    (∀ frame ∈ frames, frame.payload.length ≤ maxPayloadLength) ∧
      words.flatten = frames.flatMap bytes := by
  rw [collect_eq_ok] at written
  induction written with
  | nil => simp
  | cons first _ ih =>
    obtain ⟨within, rfl⟩ := writeFrame_eq_ok.mp first
    refine ⟨?_, by rw [flatten_cons, ih.2, flatMap_cons]⟩
    intro frame member
    rcases mem_cons.mp member with rfl | later
    · exact within
    · exact ih.1 frame later

/-- The control stream: frames within the reader's caps come back exactly, what is
accepted has one form, and neither a truncated frame nor one with bytes behind its
fields is accepted. -/
theorem frame_stream_round_trip :
    (∀ frames words, collect writeFrame frames = .ok words → (∀ frame ∈ frames, frame.Fits) →
      ∀ rest, (readFrame.many frames.length).run (words.flatten ++ rest) = .ok (frames, rest)) ∧
    (∀ bytes frame rest, readFrame.run bytes = .ok (frame, rest) →
      ∃ word, writeFrame frame = .ok word ∧ bytes = word ++ rest) ∧
    (∀ frame word short, writeFrame frame = .ok word → short <+: word → short ≠ word →
      ∃ error, readFrame.run short = .error error) ∧
    ∀ (frame : Frame) (extra rest : List UInt8), extra ≠ [] →
      (frame.payload ++ extra).length < 2 ^ 32 →
      ∃ error, readFrame.run (envelopeHeader magic wireVersion frame.frameType
        (frame.payload ++ extra).length ++ (frame.payload ++ extra) ++ rest) = .error error := by
  refine ⟨?_, ?_, ?_, ?_⟩
  · intro frames words written fits rest
    obtain ⟨within, joined⟩ := flatten_of_collect_writeFrame written
    rw [joined]
    apply (reads_frame.many frames.length).read_write
    exact ⟨rfl, fun frame member => ⟨fits frame member, within frame member⟩⟩
  · intro bytes frame rest read
    obtain ⟨⟨-, within⟩, rfl⟩ := (reads_frame _ _ _).mp read
    exact ⟨frame.bytes, writeFrame_eq_ok.mpr ⟨within, rfl⟩, rfl⟩
  · intro frame word short written proper short_ne
    exact exists_error_of_ne_ok (readFrame_truncated written proper short_ne)
  · intro frame extra rest nonempty small
    exact exists_error_of_ne_ok (readFrame_trailing nonempty small rest)

theorem frame_stream_recvPosted_done :
    (readFrame.many 2).run ((recvPosted 17 ⟨0, 2⟩).bytes ++ (done 17).bytes ++ [68]) =
      .ok ([.recvPosted 17 ⟨0, 2⟩, .done 17], [68]) :=
  frame_stream_round_trip.1 [.recvPosted 17 ⟨0, 2⟩, .done 17]
    [(recvPosted 17 ⟨0, 2⟩).bytes, (done 17).bytes] rfl
    (by simp [Fits]) [68]

/-- The stream determines the frames that were written, also those that the reader refuses. -/
theorem written_frames_unique {frames others : List Frame} {words otherWords : List (List UInt8)}
    (written : collect writeFrame frames = .ok words)
    (also : collect writeFrame others = .ok otherWords)
    (same : words.flatten = otherWords.flatten) : frames = others := by
  obtain ⟨within, joined⟩ := flatten_of_collect_writeFrame written
  obtain ⟨within', joined'⟩ := flatten_of_collect_writeFrame also
  rw [joined, joined'] at same
  clear written also joined joined'
  induction frames generalizing others with
  | nil =>
    cases others with
    | nil => rfl
    | cons => simp [Frame.bytes, envelopeHeader] at same
  | cons frame frames ih =>
    cases others with
    | nil => simp [Frame.bytes, envelopeHeader] at same
    | cons other others =>
      rw [forall_mem_cons] at within within'
      obtain ⟨typed, payloads, rest⟩ := envelope_cancel (Frame.small_payload within.1)
        (Frame.small_payload within'.1) same
      rw [← append_nil frame.payload] at payloads
      obtain ⟨rfl, -⟩ := payload_cancel typed (Frame.small_payload within'.1) payloads
      rw [ih rest within.2 within'.2]

/-- The first of the two frames is one that the reader refuses. -/
theorem written_frames_unique_done :
    let frames := [recvPosted 17 ⟨0, 0⟩, done 17]
    collect writeFrame frames = .ok (frames.map bytes) ∧ ¬(recvPosted 17 ⟨0, 0⟩).Fits ∧
      frames = frames :=
  have written : collect writeFrame [recvPosted 17 ⟨0, 0⟩, done 17] = .ok _ := rfl
  ⟨written, by simp [Fits], written_frames_unique written written rfl⟩

/-- What the peer makes of a frame that was written: the frame itself, or an
error exactly when a field exceeds the reader's caps. -/
theorem readFrame_written {frame : Frame} {word} (written : writeFrame frame = .ok word)
    (rest : List UInt8) (outcome : Frame × List UInt8) :
    readFrame.run (word ++ rest) = .ok outcome ↔ frame.Fits ∧ outcome = (frame, rest) := by
  obtain ⟨within, rfl⟩ := writeFrame_eq_ok.mp written
  rw [reads_frame]
  constructor
  · rintro ⟨⟨fits, within'⟩, same⟩
    obtain ⟨typed, payloads, rfl⟩ :=
      envelope_cancel (small_payload within) (small_payload within') same
    rw [← append_nil frame.payload] at payloads
    obtain ⟨rfl, -⟩ := payload_cancel typed (small_payload within') payloads
    exact ⟨fits, rfl⟩
  · rintro ⟨fits, same⟩
    cases same
    exact ⟨⟨fits, within⟩, rfl⟩

end DragonflyClient.Urma
