import Mathlib.Logic.Function.Iterate

/-!
Digests of content (`dragonfly-client-util/src/digest/mod.rs`), and the CRC-32 of the
hasher that the storage feeds with the bytes it writes.
-/

namespace DragonflyClient.Util

inductive Algorithm where
  | crc32
  | sha256
  | sha512
  deriving DecidableEq, Repr

def Algorithm.display : Algorithm → String
  | .crc32 => "crc32"
  | .sha256 => "sha256"
  | .sha512 => "sha512"

structure Digest where
  algorithm : Algorithm
  encoded : String
  deriving DecidableEq, Repr

def Digest.display (digest : Digest) : String :=
  digest.algorithm.display ++ ":" ++ digest.encoded

/-- One bit of the reflected polynomial division. -/
def crc32Bit (state : UInt32) : UInt32 :=
  if state &&& 1 = 1 then (state >>> 1) ^^^ 0xEDB88320 else state >>> 1

def crc32Byte (state : UInt32) (byte : UInt8) : UInt32 :=
  Nat.iterate crc32Bit 8 (state ^^^ byte.toUInt32)

/-- `crc32fast::Hasher`, by its running remainder. -/
structure Crc32Hasher where
  state : UInt32
  deriving DecidableEq, Repr

namespace Crc32Hasher

def new : Crc32Hasher := ⟨0xFFFFFFFF⟩

def update (hasher : Crc32Hasher) (bytes : List UInt8) : Crc32Hasher :=
  ⟨bytes.foldl crc32Byte hasher.state⟩

def finalize (hasher : Crc32Hasher) : UInt32 := ~~~ hasher.state

/-- The hash does not depend on how the content is cut into buffers. -/
theorem update_update (hasher : Crc32Hasher) (first second : List UInt8) :
    (hasher.update first).update second = hasher.update (first ++ second) := by
  simp only [update, List.foldl_append]

end Crc32Hasher

def crc32 (bytes : List UInt8) : UInt32 := (Crc32Hasher.new.update bytes).finalize

-- The check value of the CRC catalogues, for the text 123456789.
example : crc32 [49, 50, 51, 52, 53, 54, 55, 56, 57] = 0xCBF43926 := by decide +kernel

def crc32Digest (hash : UInt32) : String := Digest.display ⟨.crc32, toString hash⟩

end DragonflyClient.Util
