import DragonflyClient.Urma.Error
import Mathlib.Tactic

/-!
Slot identities (`urma/buffer.rs`) and the pointer-free `user_ctx` of a work
request (`urma/lane.rs`):

`[lane:16][generation:8][operation:8][slot-generation:16|slot-index:16]`.

A completion is attributed to a slot only through this word, so the routing
results rest on `WrToken.decode_word`.
-/

namespace DragonflyClient.Urma

structure SlotId where
  index : UInt16
  generation : UInt16
  deriving DecidableEq, Repr

/-- Disjoint bit ranges: the `|` of a shifted word and a short one is their sum. -/
theorem shiftLeft_or_eq_add (high low width : Nat) (short : low < 2 ^ width) :
    (high <<< width) ||| low = high * 2 ^ width + low := by
  rw [← Nat.shiftLeft_add_eq_or_of_lt short, Nat.shiftLeft_eq]

namespace SlotId

def encode (id : SlotId) : UInt32 :=
  (id.generation.toUInt32 <<< 16) ||| id.index.toUInt32

def decode (encoded : UInt32) : Result SlotId :=
  let generation := (encoded >>> 16).toUInt16
  if generation = 0 then
    .error (.protocol "slot identity has a zero generation")
  else
    .ok { index := encoded.toUInt16, generation := generation }

def new (index : Nat) (generation : UInt16) : Result SlotId :=
  if generation = 0 then
    .error (.invalidConfiguration "slot generation must be non-zero")
  else if index < 2 ^ 16 then
    .ok { index := UInt16.ofNat index, generation := generation }
  else
    .error (.invalidConfiguration "slot index exceeds 16 bits")

theorem toNat_encode (id : SlotId) :
    id.encode.toNat = id.generation.toNat * 2 ^ 16 + id.index.toNat := by
  have generationBound := id.generation.toNat_lt
  have indexBound := id.index.toNat_lt
  have shifted : (id.generation.toUInt32 <<< 16).toNat = id.generation.toNat <<< 16 := by
    simp [Nat.shiftLeft_eq]
    omega
  rw [encode, UInt32.toNat_or, shifted, UInt16.toNat_toUInt32,
    shiftLeft_or_eq_add _ _ 16 indexBound]

/-- A slot identity with a live generation survives its 32-bit encoding. -/
theorem decode_encode {id} (live : id.generation ≠ 0) : decode id.encode = .ok id := by
  have generationBound := id.generation.toNat_lt
  have indexBound := id.index.toNat_lt
  have packed := id.toNat_encode
  have generation : (id.encode >>> 16).toUInt16 = id.generation := by
    apply UInt16.toNat_inj.mp
    simp [Nat.shiftRight_eq_div_pow, packed]
    omega
  have index : id.encode.toUInt16 = id.index := by
    apply UInt16.toNat_inj.mp
    simp [packed]
  simp only [decode, generation, index, if_neg live]

theorem new_of_lt {index generation} (nonzero : generation ≠ 0) (small : index < 2 ^ 16) :
    new index generation = .ok { index := UInt16.ofNat index, generation := generation } := by
  rw [new, if_neg nonzero, if_pos small]

end SlotId

inductive OperationType where
  | send
  | recv
  deriving DecidableEq, Repr

namespace OperationType

/-- The discriminant of `#[repr(u8)]`. -/
def toUInt8 : OperationType → UInt8
  | .send => 1
  | .recv => 2

def tryFrom (value : UInt8) : Result OperationType :=
  if value = 1 then .ok .send
  else if value = 2 then .ok .recv
  else .error (.protocol s!"invalid WR operation type {value}")

@[simp]
theorem tryFrom_toUInt8 (operation : OperationType) :
    tryFrom operation.toUInt8 = .ok operation := by
  cases operation <;> rfl

end OperationType

structure WrToken where
  laneId : UInt16
  generation : UInt8
  operation : OperationType
  slot : SlotId
  deriving DecidableEq, Repr

namespace WrToken

/-- The packed word, without the zero checks. -/
def word (token : WrToken) : UInt64 :=
  (token.laneId.toUInt64 <<< 48) ||| (token.generation.toUInt64 <<< 40) |||
    (token.operation.toUInt8.toUInt64 <<< 32) ||| token.slot.encode.toUInt64

def encode (token : WrToken) : Result UInt64 :=
  if token.laneId = 0 ∨ token.generation = 0 then
    .error (.invalidConfiguration "lane id and generation must be non-zero")
  else
    .ok token.word

def decode (value : UInt64) : Result WrToken :=
  let laneId := (value >>> 48).toUInt16
  let generation := ((value >>> 40) &&& 0xff).toUInt8
  match OperationType.tryFrom ((value >>> 32) &&& 0xff).toUInt8 with
  | .error error => .error error
  | .ok operation =>
    if laneId = 0 ∨ generation = 0 then
      .error (.protocol "CQE user_ctx has a zero identity")
    else
      match SlotId.decode (value &&& 0xffffffff).toUInt32 with
      | .error error => .error error
      | .ok slot => .ok { laneId, generation, operation, slot }

theorem toNat_word (token : WrToken) :
    token.word.toNat =
      token.laneId.toNat * 2 ^ 48 + token.generation.toNat * 2 ^ 40 +
        token.operation.toUInt8.toNat * 2 ^ 32 + token.slot.encode.toNat := by
  have laneBound := token.laneId.toNat_lt
  have generationBound := token.generation.toNat_lt
  have operationBound := token.operation.toUInt8.toNat_lt
  have slotBound := token.slot.encode.toNat_lt
  have lane : (token.laneId.toUInt64 <<< 48).toNat = token.laneId.toNat <<< 48 := by
    simp [Nat.shiftLeft_eq]
    omega
  have generation : (token.generation.toUInt64 <<< 40).toNat = token.generation.toNat <<< 40 := by
    simp [Nat.shiftLeft_eq]
    omega
  have operation : (token.operation.toUInt8.toUInt64 <<< 32).toNat =
      token.operation.toUInt8.toNat <<< 32 := by
    simp [Nat.shiftLeft_eq]
    omega
  simp only [word, UInt64.toNat_or, lane, generation, operation,
    UInt32.toNat_toUInt64, Nat.or_assoc]
  rw [shiftLeft_or_eq_add _ _ 32 (by omega), shiftLeft_or_eq_add _ _ 40 (by omega),
    shiftLeft_or_eq_add _ _ 48 (by omega)]
  omega

theorem toNat_byteAt (value : UInt64) (shift : UInt64) (small : shift.toNat < 64) :
    ((value >>> shift) &&& 0xff).toUInt8.toNat = value.toNat / 2 ^ shift.toNat % 2 ^ 8 := by
  simp only [UInt64.toNat_toUInt8, UInt64.toNat_and, UInt64.toNat_shiftRight,
    Nat.shiftRight_eq_div_pow, UInt64.reduceToNat, Nat.mod_eq_of_lt small]
  rw [show (255 : Nat) = 2 ^ 8 - 1 from rfl, Nat.and_two_pow_sub_one_eq_mod]
  exact Nat.mod_mod _ _

/-- The `user_ctx` of a posted work request decodes to the token it was built
from, so a completion names its lane, operation and slot exactly. -/
theorem decode_word {token} (lane : token.laneId ≠ 0) (generation : token.generation ≠ 0)
    (live : token.slot.generation ≠ 0) :
    decode token.word = .ok token := by
  have laneBound := token.laneId.toNat_lt
  have generationBound := token.generation.toNat_lt
  have operationBound := token.operation.toUInt8.toNat_lt
  have slotBound := token.slot.encode.toNat_lt
  have packed := token.toNat_word
  have laneField : (token.word >>> 48).toUInt16 = token.laneId := by
    apply UInt16.toNat_inj.mp
    simp [Nat.shiftRight_eq_div_pow, packed]
    omega
  have generationField : ((token.word >>> 40) &&& 0xff).toUInt8 = token.generation := by
    apply UInt8.toNat_inj.mp
    rw [toNat_byteAt _ _ (by decide), packed, show (40 : UInt64).toNat = 40 from rfl]
    omega
  have operationField : ((token.word >>> 32) &&& 0xff).toUInt8 = token.operation.toUInt8 := by
    apply UInt8.toNat_inj.mp
    rw [toNat_byteAt _ _ (by decide), packed, show (32 : UInt64).toNat = 32 from rfl]
    omega
  have slotField : (token.word &&& 0xffffffff).toUInt32 = token.slot.encode := by
    apply UInt32.toNat_inj.mp
    simp only [UInt64.toNat_toUInt32, UInt64.toNat_and, UInt64.reduceToNat]
    rw [show (4294967295 : Nat) = 2 ^ 32 - 1 from rfl, Nat.and_two_pow_sub_one_eq_mod, packed]
    omega
  simp only [decode, laneField, generationField, operationField, slotField,
    OperationType.tryFrom_toUInt8, SlotId.decode_encode live, lane, generation,
    or_self, if_false]

theorem of_encode_ok {token : WrToken} {value} (encoded : token.encode = .ok value) :
    token.laneId ≠ 0 ∧ token.generation ≠ 0 ∧ value = token.word := by
  by_cases zero : token.laneId = 0 ∨ token.generation = 0
  · rw [encode, if_pos zero] at encoded
    cases encoded
  · rw [encode, if_neg zero] at encoded
    rw [not_or] at zero
    exact ⟨zero.1, zero.2, (Except.ok.inj encoded).symm⟩

end WrToken

end DragonflyClient.Urma
