import DragonflyClient.Urma.Session
import DragonflyClient.Urma.Token

/-!
Identities of work requests: the `user_ctx` of a token and the sequence of a chunk are read back
to what they were made of, and nothing else is accepted.
-/

namespace DragonflyClient.Urma

open WrToken

/-- The tokens of posted work requests: `SlotId::new` gives no slot of generation zero. -/
structure WrToken.Live (token : WrToken) : Prop where
  lane : token.laneId ≠ 0
  generation : token.generation ≠ 0
  slot : token.slot.generation ≠ 0

namespace SlotId

theorem encode_of_decode {encoded id} (decoded : decode encoded = .ok id) :
    id.generation ≠ 0 ∧ id.encode = encoded := by
  simp only [decode] at decoded
  split at decoded
  next => cases decoded
  next live =>
    cases decoded
    refine ⟨live, UInt32.toNat_inj.mp ?_⟩
    have bound := encoded.toNat_lt
    simp only [toNat_encode, UInt32.toNat_toUInt16, UInt32.toNat_shiftRight, UInt32.reduceToNat,
      Nat.shiftRight_eq_div_pow, Nat.reduceMod]
    omega

end SlotId

namespace OperationType

theorem toUInt8_of_tryFrom {value operation} (accepted : tryFrom value = .ok operation) :
    operation.toUInt8 = value := by
  unfold tryFrom at accepted
  split at accepted
  next one =>
    cases accepted
    exact one.symm
  next =>
    split at accepted
    next two =>
      cases accepted
      exact two.symm
    next => cases accepted

end OperationType

namespace WrToken

theorem encode_of_live {token : WrToken} (live : token.Live) : token.encode = .ok token.word := by
  rw [encode, if_neg (not_or.mpr ⟨live.lane, live.generation⟩)]

theorem word_of_decode {value token} (decoded : decode value = .ok token) :
    token.Live ∧ token.word = value := by
  simp only [decode] at decoded
  split at decoded
  next => cases decoded
  next operation accepted =>
    split at decoded
    next => cases decoded
    next nonzero =>
      split at decoded
      next => cases decoded
      next slot read =>
        cases decoded
        rw [not_or] at nonzero
        obtain ⟨live, packed⟩ := SlotId.encode_of_decode read
        refine ⟨⟨nonzero.1, nonzero.2, live⟩, UInt64.toNat_inj.mp ?_⟩
        have bound := value.toNat_lt
        have slotField : slot.encode.toNat = value.toNat % 2 ^ 32 := by
          rw [packed]
          simp only [UInt64.toNat_toUInt32, UInt64.toNat_and, UInt64.reduceToNat]
          rw [show (4294967295 : Nat) = 2 ^ 32 - 1 from rfl, Nat.and_two_pow_sub_one_eq_mod]
          exact Nat.mod_mod _ _
        rw [toNat_word, slotField, OperationType.toUInt8_of_tryFrom accepted,
          toNat_byteAt _ _ (by decide), toNat_byteAt _ _ (by decide)]
        simp only [UInt64.toNat_toUInt16, UInt64.toNat_shiftRight, UInt64.reduceToNat,
          Nat.shiftRight_eq_div_pow, Nat.reduceMod]
        omega

end WrToken

theorem decode_transferSequence {transferId : TransferId} {chunk} (some : transferId ≠ 0)
    (small : chunk.toNat < 2 ^ 32) :
    ∃ sequence, transferSequence transferId chunk = .ok sequence ∧
      decodeTransferSequence sequence = .ok (transferId, chunk) := by
  refine ⟨_, if_neg (not_or.mpr ⟨some, Nat.not_le_of_lt small⟩), ?_⟩
  have bound := transferId.toNat_lt
  have packed : ((transferId.toUInt64 <<< 32) ||| chunk).toNat =
      transferId.toNat * 2 ^ 32 + chunk.toNat := by
    have shifted : (transferId.toUInt64 <<< 32).toNat = transferId.toNat <<< 32 := by
      simp [Nat.shiftLeft_eq]
      omega
    rw [UInt64.toNat_or, shifted, shiftLeft_or_eq_add _ _ 32 small]
  have transfer : (((transferId.toUInt64 <<< 32) ||| chunk) >>> 32).toUInt32 = transferId := by
    apply UInt32.toNat_inj.mp
    simp only [UInt64.toNat_toUInt32, UInt64.toNat_shiftRight, packed, UInt64.reduceToNat,
      Nat.shiftRight_eq_div_pow, Nat.reduceMod]
    omega
  have rest : ((transferId.toUInt64 <<< 32) ||| chunk) &&& UInt64.ofNat (2 ^ 32 - 1) = chunk := by
    apply UInt64.toNat_inj.mp
    rw [UInt64.toNat_and, packed, UInt64.toNat_ofNat_of_lt' (by decide),
      Nat.and_two_pow_sub_one_eq_mod]
    omega
  simp only [decodeTransferSequence, transfer, rest, if_neg some]

/-- Tokens and their words, and chunks and their sequences, are in bijection: what is encoded is
read back, what is accepted was encoded, and distinct identities have distinct words. -/
theorem work_request_identities_bijective :
    (∀ token : WrToken, token.Live →
      ∃ value, token.encode = .ok value ∧ decode value = .ok token) ∧
    (∀ value token, decode value = .ok token → token.Live ∧ token.encode = .ok value) ∧
    (∀ value, (∀ token : WrToken, token.Live → token.encode ≠ .ok value) →
      ∃ error, decode value = .error error) ∧
    (∀ first second : WrToken, first.Live → second.Live → ∀ value, first.encode = .ok value →
      second.encode = .ok value → first = second) ∧
    (∀ (transferId : TransferId) (chunk : UInt64), 1 ≤ transferId.toNat → chunk.toNat < 2 ^ 32 →
      ∃ sequence, transferSequence transferId chunk = .ok sequence ∧
        decodeTransferSequence sequence = .ok (transferId, chunk)) ∧
    ∀ (transferId other : TransferId) (chunk another : UInt64) sequence,
      transferSequence transferId chunk = .ok sequence →
      transferSequence other another = .ok sequence → transferId = other ∧ chunk = another := by
  have reads (token : WrToken) (live : token.Live) : decode token.word = .ok token :=
    decode_word live.lane live.generation live.slot
  have accepts (value : UInt64) (token : WrToken) (decoded : decode value = .ok token) :
      token.Live ∧ token.encode = .ok value := by
    obtain ⟨live, same⟩ := word_of_decode decoded
    rw [← same]
    exact ⟨live, encode_of_live live⟩
  have sequences (transferId : TransferId) (chunk sequence : UInt64)
      (encoded : transferSequence transferId chunk = .ok sequence) :
      decodeTransferSequence sequence = .ok (transferId, chunk) := by
    by_cases refused : transferId = 0 ∨ chunk.toNat ≥ 2 ^ 32
    · rw [transferSequence, if_pos refused] at encoded
      cases encoded
    · rw [not_or] at refused
      obtain ⟨given, same, decoded⟩ :=
        decode_transferSequence refused.1 (Nat.lt_of_not_le refused.2)
      rwa [Except.ok.inj (encoded.symm.trans same)]
  refine ⟨fun token live => ⟨_, encode_of_live live, reads token live⟩, accepts, ?_, ?_, ?_,
    ?_⟩
  · intro value foreign
    cases decoded : decode value with
    | error error => exact ⟨error, rfl⟩
    | ok token =>
      obtain ⟨live, encoded⟩ := accepts value token decoded
      exact absurd encoded (foreign token live)
  · intro first second live alive value one two
    have same := (of_encode_ok one).2.2.symm.trans (of_encode_ok two).2.2
    have read := reads first live
    rw [same] at read
    exact Except.ok.inj (read.symm.trans (reads second alive))
  · intro transferId chunk some small
    refine decode_transferSequence ?_ small
    rintro rfl
    cases some
  · intro transferId other chunk another sequence one two
    exact Prod.mk.inj (Except.ok.inj ((sequences _ _ _ one).symm.trans (sequences _ _ _ two)))

end DragonflyClient.Urma
