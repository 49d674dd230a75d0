import DragonflyClient.Core.Error
import Mathlib.Algebra.Group.Nat.Defs

/-!
`RangeReader::read_chunk` (`io.rs`): a range of a file read chunk by chunk with positional
reads.  A read may return fewer bytes than it was asked for, or fail.
-/

namespace DragonflyClient.Storage

open List UInt64

structure RangeReader where
  offset : UInt64
  remaining : UInt64
  capacity : UInt64
  -- What is left of the buffer, `buffer[pos..filled]`.
  buffered : List UInt8
  deriving DecidableEq, Repr

namespace RangeReader

def new (offset length bufferSize : UInt64) : RangeReader :=
  { offset, remaining := length, capacity := min (max bufferSize 1) length, buffered := [] }

/-- `File::read_at` into a buffer of `len` bytes, where the system reads at most `count`. -/
def readAt (file : List UInt8) (offset len : UInt64) (count : Nat) : List UInt8 :=
  (file.drop offset.toNat).take (min count len.toNat)

/-- `answer` is what the system says to the read, if there is one. -/
def readChunk (file : List UInt8) (answer : ClientResult Nat) (reader : RangeReader) :
    ClientResult (List UInt8 × RangeReader) :=
  if reader.buffered ≠ [] then .ok (reader.buffered, { reader with buffered := [] })
  else if reader.remaining = 0 then .ok ([], reader)
  else
    match answer with
    | .error error => .error error
    | .ok count =>
      let bytes := readAt file reader.offset (min reader.capacity reader.remaining) count
      let n := UInt64.ofNat bytes.length
      .ok (bytes, { reader with
        offset := reader.offset + n
        remaining := if n = 0 then 0 else reader.remaining - n })

/-- The chunks up to the first empty one, or to an error; every other one takes something from
the buffer or the range. -/
def chunksLoop (file : List UInt8) (answers : Nat → ClientResult Nat) :
    Nat → Nat → RangeReader → List (ClientResult (List UInt8))
  | 0, _, _ => []
  | fuel + 1, call, reader =>
    match reader.readChunk file (answers call) with
    | .error error => [.error error]
    | .ok (bytes, next) =>
      if bytes.isEmpty then []
      else .ok bytes :: chunksLoop file answers fuel (call + 1) next

end RangeReader

/-- A reader with its file and the answers to its reads, one after the other. -/
structure OpenReader where
  file : List UInt8
  reader : RangeReader
  answers : Nat → ClientResult Nat

def OpenReader.chunks (opened : OpenReader) : List (ClientResult (List UInt8)) :=
  RangeReader.chunksLoop opened.file opened.answers
    (opened.reader.remaining.toNat + opened.reader.buffered.length) 0 opened.reader

/-- Chunks that make up a slice, one for each read, or a part of it before the read that failed. -/
def Yields (answers : Nat → ClientResult Nat) (slice : List UInt8)
    (chunks : List (ClientResult (List UInt8))) : Prop :=
  ∃ parts : List (List UInt8), (chunks = parts.map .ok ∧ parts.flatten = slice) ∨
    ∃ error, answers parts.length = .error error ∧ chunks = parts.map .ok ++ [.error error] ∧
      parts.flatten <+: slice

namespace Yields

variable {answers : Nat → ClientResult Nat} {slice : List UInt8}
  {chunks : List (ClientResult (List UInt8))}

theorem cons (yields : Yields (fun read => answers (read + 1)) slice chunks)
    (bytes : List UInt8) : Yields answers (bytes ++ slice) (.ok bytes :: chunks) := by
  obtain ⟨parts, ⟨rfl, rfl⟩ | ⟨error, failed, rfl, part⟩⟩ := yields
  · exact ⟨bytes :: parts, .inl ⟨rfl, rfl⟩⟩
  · refine ⟨bytes :: parts, .inr ⟨error, failed, rfl, ?_⟩⟩
    exact (prefix_append_right_inj bytes).mpr part

/-- Where every read succeeds, the chunks are the slice. -/
theorem whole (yields : Yields answers slice chunks)
    (succeeds : ∀ read error, answers read ≠ .error error) :
    ∃ parts : List (List UInt8), chunks = parts.map .ok ∧ parts.flatten = slice := by
  obtain ⟨parts, whole | ⟨error, failed, -⟩⟩ := yields
  · exact ⟨parts, whole⟩
  · exact absurd failed (succeeds _ error)

end Yields

namespace RangeReader

structure Ready (file : List UInt8) (reader : RangeReader) : Prop where
  inside : reader.offset.toNat + reader.remaining.toNat ≤ file.length
  roomy : reader.remaining ≠ 0 → 0 < reader.capacity.toNat
  drained : reader.buffered = []

variable {file : List UInt8}

theorem readAt_length {offset len count} (inside : offset.toNat + len.toNat ≤ file.length) :
    (readAt file offset len count).length = min count len.toNat := by
  rw [readAt, length_take, length_drop]
  omega

def slice (file : List UInt8) (reader : RangeReader) : List UInt8 :=
  (file.drop reader.offset.toNat).take reader.remaining.toNat

theorem Ready.read {reader count} (ready : Ready file reader) (small : file.length < 2 ^ 64)
    (left : reader.remaining ≠ 0) (positive : 0 < count) :
    ∃ bytes next, reader.readChunk file (.ok count) = .ok (bytes, next) ∧ bytes ≠ [] ∧
      next.Ready file ∧ next.remaining < reader.remaining ∧
      reader.slice file = bytes ++ next.slice file := by
  let len := min reader.capacity reader.remaining
  let bytes := readAt file reader.offset len count
  have inside := ready.inside
  have roomy := ready.roomy left
  have most : len.toNat = min reader.capacity.toNat reader.remaining.toNat := toNat_min ..
  have more : 0 < reader.remaining.toNat :=
    Nat.pos_of_ne_zero fun zero => left (UInt64.toNat_inj.mp zero)
  have length : bytes.length = min count len.toNat := readAt_length (by omega)
  have counted : (UInt64.ofNat bytes.length).toNat = bytes.length :=
    toNat_ofNat_of_lt' (by show bytes.length < 2 ^ 64; omega)
  have nonzero : UInt64.ofNat bytes.length ≠ 0 := by
    intro zero
    rw [zero] at counted
    have none : 0 = bytes.length := counted
    omega
  have offset : (reader.offset + UInt64.ofNat bytes.length).toNat =
      reader.offset.toNat + bytes.length := by
    rw [UInt64.toNat_add, counted, Nat.mod_eq_of_lt (by omega)]
  have remaining : (reader.remaining - UInt64.ofNat bytes.length).toNat =
      reader.remaining.toNat - bytes.length := by
    rw [UInt64.toNat_sub_of_le _ _ (UInt64.le_iff_toNat_le.mpr (by omega)), counted]
  refine ⟨bytes, { reader with
    offset := reader.offset + UInt64.ofNat bytes.length
    remaining := reader.remaining - UInt64.ofNat bytes.length }, ?_, ?_, ⟨?_, ?_, ?_⟩, ?_, ?_⟩
  · rw [readChunk, if_neg (not_not.mpr ready.drained), if_neg left]
    simp only [bytes, len] at nonzero ⊢
    rw [if_neg nonzero]
  · intro none
    rw [none] at length
    simp only [length_nil] at length
    omega
  · rw [offset, remaining]
    omega
  · exact fun _ => roomy
  · exact ready.drained
  · rw [lt_iff_toNat_lt, remaining]
    omega
  · have taken : bytes = (file.drop reader.offset.toNat).take bytes.length := by
      rw [length]
      rfl
    rw [slice, slice, offset, remaining, ← drop_drop]
    nth_rewrite 1 [taken]
    rw [← take_add, Nat.add_sub_cancel' (by omega)]

theorem yields_chunksLoop {answers} (small : file.length < 2 ^ 64)
    (positive : ∀ call count, answers call = .ok count → 0 < count) (fuel call : Nat)
    (reader : RangeReader) (ready : reader.Ready file) (enough : reader.remaining.toNat ≤ fuel) :
    Yields (fun read => answers (read + call)) (reader.slice file)
      (chunksLoop file answers fuel call reader) := by
  induction fuel generalizing call reader with
  | zero =>
    have nothing : reader.remaining.toNat = 0 := Nat.le_zero.mp enough
    rw [slice, nothing]
    exact ⟨[], .inl ⟨rfl, rfl⟩⟩
  | succ fuel ih =>
    rw [chunksLoop]
    by_cases left : reader.remaining = 0
    · rw [readChunk.eq_def, if_neg (not_not.mpr ready.drained), if_pos left, slice, left]
      exact ⟨[], .inl ⟨rfl, rfl⟩⟩
    · cases answered : answers call with
      | error error =>
        rw [readChunk, if_neg (not_not.mpr ready.drained), if_neg left]
        exact ⟨[], .inr ⟨error, by simpa using answered, rfl, List.nil_prefix⟩⟩
      | ok count =>
        obtain ⟨bytes, next, read, some, later, fewer, same⟩ :=
          ready.read small left (positive call count answered)
        rw [read, same]
        simp only [List.isEmpty_iff, some, if_false]
        apply Yields.cons
        rw [UInt64.lt_iff_toNat_lt] at fewer
        have rest := ih (call + 1) next later (by omega)
        simpa only [Nat.add_comm call, ← Nat.add_assoc] using rest

theorem ready_new {offset length} (bufferSize : UInt64)
    (inside : offset.toNat + length.toNat ≤ file.length) :
    (new offset length bufferSize).Ready file := by
  refine ⟨inside, fun left => ?_, rfl⟩
  have more : 0 < length.toNat := Nat.pos_of_ne_zero fun zero => left (UInt64.toNat_inj.mp zero)
  show 0 < (min (max bufferSize 1) length).toNat
  rw [toNat_min, toNat_max]
  have one : (1 : UInt64).toNat = 1 := rfl
  omega

end RangeReader

theorem yields_new {file answers offset length} (bufferSize : UInt64) (small : file.length < 2 ^ 64)
    (positive : ∀ call count, answers call = .ok count → 0 < count)
    (inside : offset.toNat + length.toNat ≤ file.length) :
    Yields answers ((file.drop offset.toNat).take length.toNat)
      (OpenReader.chunks ⟨file, .new offset length bufferSize, answers⟩) :=
  RangeReader.yields_chunksLoop small positive _ 0 _ (RangeReader.ready_new bufferSize inside)
    (Nat.le_add_right _ _)

end DragonflyClient.Storage
