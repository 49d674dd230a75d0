import DragonflyClient.Urma.Lane
import DragonflyClient.Urma.WireFormat

/-!
Jetty descriptors on the wire (`JettyDescriptor` in `urma/lane.rs`, carried by
`Connect` and `Connected`).

The opaque bytes, the serialized descriptor and the frame field are checked
against one length, but the serialized descriptor is eighteen bytes longer than
the opaque bytes.
-/

namespace DragonflyClient.Urma

open Library Rendezvous

namespace JettyDescriptor

def fixedLen : Nat := 2 + 4 + 4 + 4 + 4

theorem beBytes16_eq (value : UInt16) : beBytes16 value = be16 value := by
  simp only [beBytes16, be16, toBeBytes, List.cons.injEq, and_true]
  constructor <;> apply UInt8.toNat_inj.mp <;>
    simp [Nat.shiftRight_eq_div_pow, UInt8.toNat_ofNat']

theorem beBytes32_eq (value : UInt32) : beBytes32 value = be32 value := by
  simp only [beBytes32, be32, toBeBytes, List.cons.injEq, and_true]
  refine ⟨?_, ?_, ?_, ?_⟩ <;> apply UInt8.toNat_inj.mp <;>
    simp [Nat.shiftRight_eq_div_pow, UInt8.toNat_ofNat']

theorem ofBeBytes16_eq (high low : UInt8) :
    ofBeBytes16 high low = UInt16.ofNat (ofBeBytes [high, low]) := by
  have bounded := high.toNat_lt
  have bounded' := low.toNat_lt
  apply UInt16.toNat_inj.mp
  have shifted : (high.toUInt16 <<< 8).toNat = high.toNat <<< 8 := by
    simp [Nat.shiftLeft_eq]
    omega
  rw [ofBeBytes16, UInt16.toNat_or, shifted, UInt8.toNat_toUInt16,
    shiftLeft_or_eq_add _ _ 8 bounded']
  simp [ofBeBytes]
  omega

theorem ofBeBytes32_eq (first second third fourth : UInt8) :
    ofBeBytes32 first second third fourth =
      UInt32.ofNat (ofBeBytes [first, second, third, fourth]) := by
  have bounded := first.toNat_lt
  have bounded₂ := second.toNat_lt
  have bounded₃ := third.toNat_lt
  have bounded₄ := fourth.toNat_lt
  apply UInt32.toNat_inj.mp
  have shifted : (first.toUInt32 <<< 24).toNat = first.toNat <<< 24 := by
    simp [Nat.shiftLeft_eq]
    omega
  have shifted₂ : (second.toUInt32 <<< 16).toNat = second.toNat <<< 16 := by
    simp [Nat.shiftLeft_eq]
    omega
  have shifted₃ : (third.toUInt32 <<< 8).toNat = third.toNat <<< 8 := by
    simp [Nat.shiftLeft_eq]
    omega
  simp only [ofBeBytes32, UInt32.toNat_or, shifted, shifted₂, shifted₃, UInt8.toNat_toUInt32,
    Nat.or_assoc]
  rw [shiftLeft_or_eq_add _ _ 8 bounded₄, shiftLeft_or_eq_add _ _ 16 (by omega),
    shiftLeft_or_eq_add _ _ 24 (by omega)]
  simp [ofBeBytes]
  omega

theorem be16_ofBeBytes16 (high low : UInt8) : be16 (ofBeBytes16 high low) = [high, low] := by
  have small : ofBeBytes [high, low] < 2 ^ 16 := by simpa using ofBeBytes_lt [high, low]
  rw [be16, ofBeBytes16_eq, UInt16.toNat_ofNat_of_lt' small]
  exact toBeBytes_ofBeBytes [high, low]

theorem be32_ofBeBytes32 (first second third fourth : UInt8) :
    be32 (ofBeBytes32 first second third fourth) = [first, second, third, fourth] := by
  have small : ofBeBytes [first, second, third, fourth] < 2 ^ 32 := by
    simpa using ofBeBytes_lt [first, second, third, fourth]
  rw [be32, ofBeBytes32_eq, UInt32.toNat_ofNat_of_lt' small]
  exact toBeBytes_ofBeBytes [first, second, third, fourth]

theorem exists_be16 (value : UInt16) :
    ∃ high low, be16 value = [high, low] ∧ ofBeBytes16 high low = value := by
  refine ⟨_, _, rfl, ?_⟩
  have read : ofBeBytes (toBeBytes 2 value.toNat) = value.toNat :=
    ofBeBytes_toBeBytes value.toNat_lt
  rw [ofBeBytes16_eq]
  exact (congrArg UInt16.ofNat read).trans UInt16.ofNat_toNat

theorem exists_be32 (value : UInt32) :
    ∃ first second third fourth, be32 value = [first, second, third, fourth] ∧
      ofBeBytes32 first second third fourth = value := by
  refine ⟨_, _, _, _, rfl, ?_⟩
  have read : ofBeBytes (toBeBytes 4 value.toNat) = value.toNat :=
    ofBeBytes_toBeBytes value.toNat_lt
  rw [ofBeBytes32_eq]
  exact (congrArg UInt32.ofNat read).trans UInt32.ofNat_toNat

def wire (descriptor : JettyDescriptor) : List UInt8 :=
  be16 descriptor.version ++ be32 descriptor.transportType ++ be32 descriptor.eidIndex ++
    be32 descriptor.jettyId ++ be32 descriptor.opaqueLen ++ descriptor.opaqueData

theorem length_wire (descriptor : JettyDescriptor) :
    descriptor.wire.length = fixedLen + descriptor.opaqueData.length := by
  simp only [wire, fixedLen, List.length_append, length_be16, length_be32]

variable {descriptor : JettyDescriptor}

theorem serialize_eq_ok {output} :
    descriptor.serialize = .ok output ↔
      descriptor.validate = .ok () ∧ output = descriptor.wire := by
  unfold serialize
  split
  next refused => simp [refused]
  next accepted =>
    simp only [beBytes16_eq, beBytes32_eq, Except.ok.injEq, accepted, true_and]
    exact eq_comm

theorem deserialize_eq_ok {input} :
    deserialize input = .ok descriptor ↔
      descriptor.validate = .ok () ∧ input = descriptor.wire := by
  constructor
  · intro read
    unfold deserialize at read
    split at read
    next =>
      dsimp only at read
      split at read
      · cases read
      next accepted =>
        cases read
        refine ⟨accepted, ?_⟩
        simp [wire, be16_ofBeBytes16, be32_ofBeBytes32]
    · cases read
  · rintro ⟨accepted, rfl⟩
    obtain ⟨version, transportType, eidIndex, jettyId, opaqueLen, opaqueData⟩ := descriptor
    obtain ⟨v₀, v₁, versions, rfl⟩ := exists_be16 version
    obtain ⟨t₀, t₁, t₂, t₃, types, rfl⟩ := exists_be32 transportType
    obtain ⟨e₀, e₁, e₂, e₃, indices, rfl⟩ := exists_be32 eidIndex
    obtain ⟨j₀, j₁, j₂, j₃, ids, rfl⟩ := exists_be32 jettyId
    obtain ⟨o₀, o₁, o₂, o₃, lengths, rfl⟩ := exists_be32 opaqueLen
    simp only [wire, versions, types, indices, ids, lengths, List.cons_append, List.nil_append,
      deserialize, accepted]

theorem length_of_validate_ok (valid : descriptor.validate = .ok ()) :
    descriptor.opaqueData.length = descriptor.opaqueLen.toNat ∧
      descriptor.opaqueLen.toNat ≤ maxJettyDescriptorLen := by
  unfold validate at valid
  dsimp only at valid
  split at valid
  · cases valid
  split at valid
  · cases valid
  split at valid
  · cases valid
  next matching within =>
    exact ⟨by omega, by omega⟩

/-- The descriptor reaches the peer in the frame that `carry` puts it in. -/
def Survives (descriptor : JettyDescriptor) (carry : List UInt8 → Frame) : Prop :=
  ∃ output word, descriptor.serialize = .ok output ∧ writeFrame (carry output) = .ok word ∧
    (∀ rest, readFrame.run (word ++ rest) = .ok (carry output, rest)) ∧
    deserialize output = .ok descriptor

/-- Once the frame is written, only the caps of its reader decide. -/
theorem survives_iff (valid : descriptor.validate = .ok ()) {carry}
    (written : (carry descriptor.wire).payload.length ≤ maxPayloadLength) :
    descriptor.Survives carry ↔ (carry descriptor.wire).Fits := by
  have wrote := writeFrame_eq_ok.mpr ⟨written, rfl⟩
  constructor
  · rintro ⟨output, word, serialized, writes, read, -⟩
    obtain ⟨-, rfl⟩ := serialize_eq_ok.mp serialized
    exact ((readFrame_written writes [] _).mp (read [])).1
  · intro fits
    refine ⟨descriptor.wire, _, serialize_eq_ok.mpr ⟨valid, rfl⟩, wrote, fun rest => ?_,
      deserialize_eq_ok.mpr ⟨valid, rfl⟩⟩
    exact (readFrame_written wrote rest _).mpr ⟨fits, rfl⟩

theorem payload_connect_le {capability} (valid : descriptor.validate = .ok ())
    (tagged : (utf8 capability.fabricTag).length ≤ maxStringLength) :
    (Frame.connect ⟨capability, descriptor.wire⟩).payload.length ≤ maxPayloadLength := by
  obtain ⟨same, within⟩ := length_of_validate_ok valid
  simp only [Frame.payload, UrmaCapability.encode, List.length_append, length_putBytes,
    length_be32, length_be64, length_wire, same]
  simp only [maxStringLength, maxJettyDescriptorLen, maxPayloadLength, fixedLen] at *
  omega

theorem payload_connected_le (valid : descriptor.validate = .ok ()) :
    (Frame.connected ⟨descriptor.wire⟩).payload.length ≤ maxPayloadLength := by
  obtain ⟨same, within⟩ := length_of_validate_ok valid
  simp only [Frame.payload, length_putBytes, length_wire, same]
  simp only [maxJettyDescriptorLen, maxPayloadLength, fixedLen] at *
  omega

/-- A valid descriptor is always serialized and written.  It survives the
handshake, in either direction, as long as its eighteen fixed bytes still fit the
field of the frame, and only serialized descriptors are read. -/
theorem survives_handshake_iff (descriptor : JettyDescriptor) (capability : UrmaCapability)
    (valid : descriptor.validate = .ok ())
    (tagged : (utf8 capability.fabricTag).length ≤ maxStringLength) :
    (∃ output, descriptor.serialize = .ok output ∧ deserialize output = .ok descriptor ∧
      (∃ word, writeFrame (.connect ⟨capability, output⟩) = .ok word) ∧
      ∃ word, writeFrame (.connected ⟨output⟩) = .ok word) ∧
    (descriptor.Survives (fun output => .connect ⟨capability, output⟩) ↔
      fixedLen + descriptor.opaqueData.length ≤ maxDescriptorLength) ∧
    (descriptor.Survives (fun output => .connected ⟨output⟩) ↔
      fixedLen + descriptor.opaqueData.length ≤ maxDescriptorLength) ∧
    ∀ input other, deserialize input = .ok other → other.serialize = .ok input := by
  have connects := payload_connect_le valid tagged
  have connected := payload_connected_le valid
  refine ⟨⟨descriptor.wire, serialize_eq_ok.mpr ⟨valid, rfl⟩,
    deserialize_eq_ok.mpr ⟨valid, rfl⟩, ⟨_, writeFrame_eq_ok.mpr ⟨connects, rfl⟩⟩,
    ⟨_, writeFrame_eq_ok.mpr ⟨connected, rfl⟩⟩⟩, ?_, ?_, ?_⟩
  · rw [survives_iff valid connects, Frame.Fits, length_wire]
    exact and_iff_right tagged
  · rw [survives_iff valid connected, Frame.Fits, length_wire]
  · intro input other read
    obtain ⟨accepted, rfl⟩ := deserialize_eq_ok.mp read
    exact serialize_eq_ok.mpr ⟨accepted, rfl⟩

def padded (count : Nat) : JettyDescriptor :=
  { version := jettyDescriptorVersion, transportType := 3, eidIndex := 0, jettyId := 7
    opaqueLen := UInt32.ofNat count, opaqueData := List.replicate count 0 }

theorem length_padded (count : Nat) : (padded count).opaqueData.length = count :=
  List.length_replicate

theorem validate_padded {count} (positive : 0 < count) (within : count ≤ maxJettyDescriptorLen) :
    (padded count).validate = .ok () := by
  have length : (UInt32.ofNat count).toNat = count :=
    UInt32.toNat_ofNat_of_lt' (lt_of_le_of_lt within (by decide))
  simp only [validate, padded, length, List.length_replicate, ne_eq, not_true_eq_false, if_false,
    or_false, if_neg positive.ne', if_neg (Nat.not_lt.mpr within)]

/-- One opaque byte more than the frame field has room for. -/
theorem padded_65519_lost :
    (padded 65519).validate = .ok () ∧
      ¬ (padded 65519).Survives (fun output => .connected ⟨output⟩) := by
  have valid := validate_padded (show 0 < 65519 by decide) (by decide)
  refine ⟨valid, ?_⟩
  rw [survives_iff valid (payload_connected_le valid), Frame.Fits, length_wire, length_padded]
  decide

theorem padded_65518_survives :
    (padded 65518).validate = .ok () ∧
      (padded 65518).Survives (fun output => .connected ⟨output⟩) := by
  have valid := validate_padded (show 0 < 65518 by decide) (by decide)
  refine ⟨valid, ((padded 65518).survives_handshake_iff ⟨3, "rack-a", 65536⟩ valid
    (by decide)).2.2.1.mpr ?_⟩
  rw [length_padded]
  decide

end JettyDescriptor

end DragonflyClient.Urma
