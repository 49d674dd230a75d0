import DragonflyClient.Storage.Rendezvous

/-!
What the payload readers accept.

Each field reader accepts exactly what its writer puts, within the reader's
cap.  The records follow field by field.
-/

namespace DragonflyClient.Rendezvous

open Library PayloadReader Reader

theorem ofUtf8_eq_some {bytes text} :
    ofUtf8 bytes = some text ↔ bytes = utf8 text := by
  unfold ofUtf8 utf8 String.fromUTF8?
  constructor
  · intro found
    split at found
    · cases found
      rfl
    · cases found
  · rintro rfl
    have valid : (ByteArray.mk text.toUTF8.data.toList.toArray).IsValidUTF8 := text.isValidUTF8
    rw [dif_pos valid]
    rfl

@[simp]
theorem utf8_append (text other : String) : utf8 (text ++ other) = utf8 text ++ utf8 other := by
  simp [utf8]

@[simp]
theorem length_be16 (value : UInt16) : (be16 value).length = 2 := length_toBeBytes 2 _

@[simp]
theorem length_be32 (value : UInt32) : (be32 value).length = 4 := length_toBeBytes 4 _

@[simp]
theorem length_be64 (value : UInt64) : (be64 value).length = 8 := length_toBeBytes 8 _

@[simp]
theorem length_putBytes (bytes : List UInt8) : (putBytes bytes).length = 4 + bytes.length := by
  simp [putBytes]

section Words

theorem reads_word {Word : Type} (width : Nat) (ofNat : Nat → Word) (toNat : Word → Nat)
    (bounded : ∀ value, toNat value < 256 ^ width) (same : ∀ value, ofNat (toNat value) = value)
    (kept : ∀ number, number < 256 ^ width → toNat (ofNat number) = number) :
    Reads ((fun bytes => ofNat (ofBeBytes bytes)) <$> PayloadReader.take width) (fun _ => True)
      (fun value => toBeBytes width (toNat value)) := by
  apply Reads.map (Reads.take _ width) (fun value => toBeBytes width (toNat value))
  · rintro item rfl
    rw [kept _ (ofBeBytes_lt item), toBeBytes_ofBeBytes]
    exact ⟨trivial, rfl⟩
  · intro value _
    rw [ofBeBytes_toBeBytes (bounded value), same]
    exact ⟨length_toBeBytes _ _, rfl⟩

theorem reads_u8 : Reads u8 (fun _ => True) (fun value => [value]) := by
  have reads := reads_word 1 UInt8.ofNat UInt8.toNat UInt8.toNat_lt
    (fun _ => UInt8.ofNat_toNat) (fun _ => UInt8.toNat_ofNat_of_lt')
  simp only [toBeBytes, pow_zero, Nat.div_one, UInt8.ofNat_toNat] at reads
  exact reads

theorem reads_u16 : Reads u16 (fun _ => True) be16 :=
  reads_word 2 UInt16.ofNat UInt16.toNat UInt16.toNat_lt
    (fun _ => UInt16.ofNat_toNat) (fun _ => UInt16.toNat_ofNat_of_lt')

theorem reads_u32 : Reads u32 (fun _ => True) be32 :=
  reads_word 4 UInt32.ofNat UInt32.toNat UInt32.toNat_lt
    (fun _ => UInt32.ofNat_toNat) (fun _ => UInt32.toNat_ofNat_of_lt')

theorem reads_u64 : Reads u64 (fun _ => True) be64 :=
  reads_word 8 UInt64.ofNat UInt64.toNat UInt64.toNat_lt
    (fun _ => UInt64.ofNat_toNat) (fun _ => UInt64.toNat_ofNat_of_lt')

end Words

theorem reads_bytes {max} (small : max < 2 ^ 32) :
    Reads (bytes max) (fun value => value.length ≤ max) putBytes := by
  intro input value rest
  simp only [PayloadReader.bytes, bind_eq_ok, reads_u32 _ _ _, true_and]
  constructor
  · rintro ⟨length, middle, rfl, read⟩
    split at read
    next tooLong =>
      obtain ⟨_, _, impossible, -⟩ := bind_eq_ok.mp read
      exact absurd impossible throw_ne_ok
    next within =>
      obtain ⟨exact, rfl⟩ := (Reads.take _ _ _ _ _).mp read
      refine ⟨by omega, ?_⟩
      simp [putBytes, exact, be32]
  · rintro ⟨within, rfl⟩
    have length : (UInt32.ofNat value.length).toNat = value.length :=
      UInt32.toNat_ofNat_of_lt' (lt_of_le_of_lt within small)
    refine ⟨UInt32.ofNat value.length, value ++ rest, ?_, ?_⟩
    · rw [be32, length, putBytes, List.append_assoc]
    · rw [if_neg (by omega), length]
      exact (Reads.take _ _ _ _ _).mpr ⟨rfl, rfl⟩

theorem reads_string {max} (small : max < 2 ^ 32) :
    Reads (string max) (fun text => (utf8 text).length ≤ max)
      (fun text => putBytes (utf8 text)) := by
  intro input text rest
  simp only [PayloadReader.string, bind_eq_ok, reads_bytes small _ _ _]
  constructor
  · rintro ⟨raw, middle, ⟨within, rfl⟩, converted⟩
    split at converted
    next found valid =>
      obtain ⟨rfl, rfl⟩ := pure_eq_ok.mp converted
      obtain rfl := ofUtf8_eq_some.mp valid
      exact ⟨within, rfl⟩
    next => exact absurd converted throw_ne_ok
  · rintro ⟨within, rfl⟩
    refine ⟨utf8 text, rest, ⟨within, rfl⟩, ?_⟩
    rw [ofUtf8_eq_some.mpr rfl]
    exact pure_eq_ok.mpr ⟨rfl, rfl⟩

theorem finish_eq_ok {bytes rest} :
    finish.run bytes = .ok ((), rest) ↔ bytes = [] ∧ rest = [] := by
  cases bytes with
  | nil =>
    have ended : finish.run [] = .ok ((), []) := rfl
    simp [ended, eq_comm]
  | cons byte others => simp [finish, StateT.run, bind, StateT.bind, get, getThe,
      MonadStateOf.get, StateT.get, pure, Except.pure, Except.bind, throw, throwThe,
      MonadExceptOf.throw, StateT.lift]

theorem reads_pieceKind : Reads PieceKind.decode (fun _ => True) (fun kind => [kind.toUInt8]) := by
  have inverse : ∀ value kind, PieceKind.tryFrom value = .ok kind ↔ value = kind.toUInt8 := by
    intro value kind
    unfold PieceKind.tryFrom
    cases kind <;> simp only [PieceKind.toUInt8] <;> split_ifs <;> simp_all
  intro input kind rest
  simp only [PieceKind.decode, bind_eq_ok, reads_u8 _ _ _, true_and]
  constructor
  · rintro ⟨value, middle, rfl, converted⟩
    split at converted
    next found valid =>
      obtain ⟨rfl, rfl⟩ := pure_eq_ok.mp converted
      rw [(inverse _ _).mp valid]
    next => exact absurd converted throw_ne_ok
  · rintro rfl
    refine ⟨kind.toUInt8, rest, rfl, ?_⟩
    rw [(inverse _ _).mpr rfl]
    exact pure_eq_ok.mpr ⟨rfl, rfl⟩

section Records

theorem reads_pieceRequest : Reads PieceRequest.decode
    (fun request => (utf8 request.taskId).length ≤ maxTaskIdLength) PieceRequest.encode := by
  have small : maxTaskIdLength < 2 ^ 32 := by decide
  intro input request rest
  simp only [PieceRequest.decode, reads_pieceKind.bind_eq_ok, (reads_string small).bind_eq_ok,
    reads_u32.bind_eq_ok, reads_u64.bind_eq_ok, pure_eq_ok, true_and]
  constructor
  · rintro ⟨kind, _, rfl, taskId, _, within, rfl, number, _, rfl, size, _, rfl, inflight, _,
      rfl, rfl, rfl⟩
    exact ⟨within, by simp [PieceRequest.encode]⟩
  · rintro ⟨within, rfl⟩
    exact ⟨_, _, by simp only [PieceRequest.encode, List.append_assoc], _, _, within, rfl,
      _, _, rfl, _, _, rfl, _, _, rfl, rfl, rfl⟩

theorem reads_pieceMetadata : Reads PieceMetadata.decode
    (fun metadata => (utf8 metadata.digest).length ≤ maxStringLength) PieceMetadata.encode := by
  have small : maxStringLength < 2 ^ 32 := by decide
  intro input metadata rest
  simp only [PieceMetadata.decode, (reads_string small).bind_eq_ok, reads_u32.bind_eq_ok,
    reads_u64.bind_eq_ok, pure_eq_ok, true_and]
  constructor
  · rintro ⟨offset, _, rfl, length, _, rfl, digest, _, within, rfl, size, _, rfl, inflight, _,
      rfl, rfl, rfl⟩
    exact ⟨within, by simp [PieceMetadata.encode]⟩
  · rintro ⟨within, rfl⟩
    exact ⟨_, _, by simp only [PieceMetadata.encode, List.append_assoc], _, _, rfl, _, _,
      within, rfl, _, _, rfl, _, _, rfl, rfl, rfl⟩

theorem reads_receiveWindow : Reads ReceiveWindow.decode (fun _ => True) ReceiveWindow.encode := by
  intro input window rest
  simp only [ReceiveWindow.decode, reads_u32.bind_eq_ok, reads_u64.bind_eq_ok, pure_eq_ok, true_and]
  constructor
  · rintro ⟨start, _, rfl, count, _, rfl, rfl, rfl⟩
    simp [ReceiveWindow.encode]
  · rintro rfl
    exact ⟨_, _, by simp only [ReceiveWindow.encode, List.append_assoc], _, _, rfl, rfl, rfl⟩

theorem reads_rendezvousError : Reads RendezvousError.decode
    (fun error => (utf8 error.message).length ≤ maxStringLength) RendezvousError.encode := by
  have small : maxStringLength < 2 ^ 32 := by decide
  intro input error rest
  simp only [RendezvousError.decode, (reads_string small).bind_eq_ok, reads_u32.bind_eq_ok,
    pure_eq_ok, true_and]
  constructor
  · rintro ⟨code, _, rfl, message, _, within, rfl, rfl, rfl⟩
    exact ⟨within, by simp [RendezvousError.encode]⟩
  · rintro ⟨within, rfl⟩
    exact ⟨_, _, by simp only [RendezvousError.encode, List.append_assoc], _, _, within, rfl,
      rfl, rfl⟩

end Records

/-- A window passes against the end of the index range as soon as it is not empty. -/
theorem ReceiveWindow.validate_self (window : ReceiveWindow) :
    window.validate window.startChunk (UInt64.ofNat (2 ^ 64 - 1)) = .ok () ↔
      window.chunkCount ≠ 0 := by
  have bounded := window.chunkCount.toNat_lt
  have last : (UInt64.ofNat (2 ^ 64 - 1)).toNat = 2 ^ 64 - 1 := by decide
  simp only [ReceiveWindow.validate, last, ne_eq, not_true_eq_false, false_or]
  split
  next empty => simp [empty]
  next nonempty =>
    rw [if_neg (by omega)]
    simp [nonempty]

end DragonflyClient.Rendezvous
