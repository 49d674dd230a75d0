import DragonflyClient.Core.Error
import DragonflyClient.Library.Transition
import Mathlib.Algebra.Group.Nat.Defs

/-!
`RangeReader` (`io.rs`) with both of its interfaces: `poll_fill_buf` and `consume` on a
buffer that a read in flight owns, and `read_chunk` on a buffer of its own.

Every short positive read is allowed; a read of nothing is the end of the file.
-/

namespace DragonflyClient.Storage

open Library List

/-- A positional read on the blocking thread pool; it owns the buffer until it completes. -/
structure InFlightRead where
  offset : Nat
  buffer : List UInt8
  deriving DecidableEq

/-- `consumed` is what both interfaces have handed out; a `state` of `none` is `Idle`. -/
structure PolledReader where
  offset : Nat
  remaining : Nat
  capacity : Nat
  buffer : List UInt8
  pos : Nat
  filled : Nat
  state : Option InFlightRead
  consumed : List UInt8
  deriving DecidableEq

/-- What a caller does.  `none` as an answer is a read that is still running; a read that
answers `count` returns at most `count + 1` bytes. -/
inductive ReaderCall where
  | fillBuf (answer : Option (ClientResult Nat))
  | consume (amount : Nat)
  | readChunk (answer : ClientResult Nat)
  deriving DecidableEq

namespace PolledReader

def new (offset length bufferSize : Nat) : PolledReader where
  offset := offset
  remaining := length
  capacity := min (max bufferSize 1) length
  buffer := []
  pos := 0
  filled := 0
  state := none
  consumed := []

/-- `File::read_at` into a buffer of `len` bytes. -/
def readAt (file : List UInt8) (offset len count : Nat) : List UInt8 :=
  (file.drop offset).take (min (count + 1) len)

/-- Both interfaces advance by what was read, and stop at the end of the file; `none` is a
subtraction below zero. -/
def advance (reader : PolledReader) (n : Nat) : Option PolledReader :=
  if n = 0 then some { reader with remaining := 0 }
  else if n ≤ reader.remaining then
    some { reader with offset := reader.offset + n, remaining := reader.remaining - n }
  else none

/-- `&buffer[pos..filled]`, which panics if the slice is not inside the buffer. -/
def slice (reader : PolledReader) : Option (List UInt8) :=
  if reader.pos ≤ reader.filled ∧ reader.filled ≤ reader.buffer.length then
    some ((reader.buffer.drop reader.pos).take (reader.filled - reader.pos))
  else none

/-- The read that `poll_fill_buf` starts.  A buffer that was lost with a failed read is
replaced. -/
def startRead (reader : PolledReader) : InFlightRead where
  offset := reader.offset
  buffer :=
    let len := min reader.capacity reader.remaining
    if reader.buffer = [] then List.replicate len 0 else reader.buffer.take len

/-- The `Reading` arm of `poll_fill_buf`, and the slice that the call returns. -/
def pollRead (file : List UInt8) (reader : PolledReader) (read : InFlightRead) :
    Option (ClientResult Nat) → Option PolledReader
  | none => some { reader with state := some read }
  | some (.error _) => some { reader with state := none }
  | some (.ok count) =>
    let bytes := readAt file read.offset read.buffer.length count
    let n := bytes.length
    ({ reader with
      state := none
      buffer := bytes ++ read.buffer.drop n
      pos := 0
      filled := n }.advance n).bind fun reader => reader.slice.map fun _ => reader

def fillBuf (file : List UInt8) (reader : PolledReader) (answer : Option (ClientResult Nat)) :
    Option PolledReader :=
  match reader.state with
  | some read => reader.pollRead file read answer
  | none =>
    if reader.pos < reader.filled ∨ reader.remaining = 0 then reader.slice.map fun _ => reader
    else { reader with buffer := [] }.pollRead file reader.startRead answer

/-- `pos + amt` is an addition on `usize`. -/
def consume (reader : PolledReader) (amount : Nat) : Option PolledReader :=
  if reader.pos + amount < 2 ^ 64 then
    let pos := min (reader.pos + amount) reader.filled
    some { reader with
      pos
      consumed := reader.consumed ++ (reader.buffer.drop reader.pos).take (pos - reader.pos) }
  else none

def readChunk (file : List UInt8) (reader : PolledReader) (answer : ClientResult Nat) :
    Option PolledReader :=
  if reader.pos < reader.filled then
    reader.slice.map fun chunk =>
      { reader with pos := reader.filled, consumed := reader.consumed ++ chunk }
  else if reader.remaining = 0 then some reader
  else
    match answer with
    | .error _ => some reader
    | .ok count =>
      let bytes := readAt file reader.offset (min reader.capacity reader.remaining) count
      { reader with consumed := reader.consumed ++ bytes }.advance bytes.length

/-- The offset of the next unconsumed byte and how many are left. -/
def intoParts (reader : PolledReader) : Option (Nat × Nat) :=
  if reader.pos ≤ reader.filled ∧ reader.filled - reader.pos ≤ reader.offset then
    let buffered := reader.filled - reader.pos
    some (reader.offset - buffered, reader.remaining + buffered)
  else none

/-- One call; `none` is a panic. -/
def act (file : List UInt8) (reader : PolledReader) : ReaderCall → Option PolledReader
  | .fillBuf answer => reader.fillBuf file answer
  | .consume amount => reader.consume amount
  | .readChunk answer => reader.readChunk file answer

/-- A call that the two interfaces can take in this state: `read_chunk` waits for a read in
flight, `consume` does not overflow, and the end of the range is not polled for after the
buffer was lost. -/
def Orderly (reader : PolledReader) : ReaderCall → Prop
  | .fillBuf _ => reader.state = none → reader.remaining = 0 → reader.filled ≤ reader.buffer.length
  | .consume amount => reader.pos + amount < 2 ^ 64
  | .readChunk _ => reader.state = none

instance (reader : PolledReader) : (call : ReaderCall) → Decidable (reader.Orderly call)
  | .fillBuf _ => inferInstanceAs (Decidable (reader.state = none → reader.remaining = 0 →
      reader.filled ≤ reader.buffer.length))
  | .consume amount => inferInstanceAs (Decidable (reader.pos + amount < 2 ^ 64))
  | .readChunk _ => inferInstanceAs (Decidable (reader.state = none))

theorem readAt_spec (file : List UInt8) (offset count : Nat) {len} (room : 0 < len) :
    (readAt file offset len count).length ≤ len ∧
      readAt file offset len count = (file.drop offset).take (readAt file offset len count).length ∧
      ((readAt file offset len count).length = 0 → file.drop offset = []) := by
  simp only [readAt, length_take]
  refine ⟨by omega, ?_, fun nothing => ?_⟩
  · simp
  · apply eq_nil_of_length_eq_zero
    omega

theorem advance_of_le {reader : PolledReader} {n} (within : n ≤ reader.remaining) :
    reader.advance n =
      some { reader with
        offset := reader.offset + n
        remaining := if n = 0 then 0 else reader.remaining - n } := by
  unfold advance
  by_cases nothing : n = 0
  · simp [nothing]
  · simp [nothing, within]

theorem slice_of_le {reader : PolledReader} (ordered : reader.pos ≤ reader.filled)
    (inside : reader.filled ≤ reader.buffer.length) :
    reader.slice = some ((reader.buffer.drop reader.pos).take (reader.filled - reader.pos)) :=
  if_pos ⟨ordered, inside⟩

def rest (file : List UInt8) (reader : PolledReader) : List UInt8 :=
  (file.drop (reader.offset - (reader.filled - reader.pos))).take
    (reader.remaining + (reader.filled - reader.pos))

/-- The buffer holds the bytes before the offset, and a read in flight is for the bytes after
it. -/
structure Sound (file : List UInt8) (start length : Nat) (reader : PolledReader) : Prop where
  ordered : reader.pos ≤ reader.filled
  behind : reader.filled - reader.pos ≤ reader.offset
  roomy : reader.remaining ≠ 0 → 0 < reader.capacity
  wide : reader.buffer ≠ [] → min reader.capacity reader.remaining ≤ reader.buffer.length
  buffered : reader.pos < reader.filled → reader.filled ≤ reader.buffer.length ∧
    (reader.buffer.drop reader.pos).take (reader.filled - reader.pos) =
      (file.drop (reader.offset - (reader.filled - reader.pos))).take
        (reader.filled - reader.pos)
  flight : ∀ read, reader.state = some read → reader.pos = reader.filled ∧
    reader.remaining ≠ 0 ∧ read.offset = reader.offset ∧
    read.buffer.length = min reader.capacity reader.remaining
  whole : reader.consumed ++ reader.rest file = (file.drop start).take length

namespace Sound

variable {file : List UInt8} {start length : Nat} {reader : PolledReader}

theorem new (file : List UInt8) (start length bufferSize : Nat) :
    Sound file start length (.new start length bufferSize) where
  ordered := Nat.le_refl _
  behind := Nat.zero_le _
  roomy := by
    simp only [PolledReader.new]
    omega
  wide := by simp [PolledReader.new]
  buffered := by simp [PolledReader.new]
  flight := by simp [PolledReader.new]
  whole := by simp [PolledReader.new, rest]

theorem split (file : List UInt8) (offset first second : Nat) :
    (file.drop offset).take (first + second) =
      (file.drop offset).take first ++ (file.drop (offset + first)).take second := by
  rw [take_add, drop_drop]

theorem hand (sound : Sound file start length reader) {pos} (after : reader.pos ≤ pos)
    (before : pos ≤ reader.filled) :
    Sound file start length { reader with
      pos
      consumed := reader.consumed ++ (reader.buffer.drop reader.pos).take (pos - reader.pos) } := by
  obtain ⟨ordered, behind, roomy, wide, buffered, flight, whole⟩ := sound
  constructor
  case ordered => exact before
  case behind => dsimp only; omega
  case roomy => exact roomy
  case wide => exact wide
  case buffered =>
    dsimp only
    intro more
    obtain ⟨inside, same⟩ := buffered (by omega)
    refine ⟨inside, ?_⟩
    have dropped := congrArg (List.drop (pos - reader.pos)) same
    rw [drop_take, drop_take, drop_drop, drop_drop] at dropped
    rw [show reader.pos + (pos - reader.pos) = pos by omega,
      show reader.filled - reader.pos - (pos - reader.pos) = reader.filled - pos by omega,
      show reader.offset - (reader.filled - reader.pos) + (pos - reader.pos) =
        reader.offset - (reader.filled - pos) by omega] at dropped
    exact dropped
  case flight =>
    intro read running
    obtain ⟨empty, others⟩ := flight read running
    exact ⟨by dsimp only; omega, others⟩
  case whole =>
    have handed : (reader.buffer.drop reader.pos).take (pos - reader.pos) =
        (file.drop (reader.offset - (reader.filled - reader.pos))).take (pos - reader.pos) := by
      by_cases same : pos = reader.pos
      · simp [same]
      · obtain ⟨-, slices⟩ := buffered (by omega)
        have taken := congrArg (List.take (pos - reader.pos)) slices
        rwa [take_take, take_take, Nat.min_eq_left (by omega)] at taken
    have later : reader.offset - (reader.filled - pos) =
        reader.offset - (reader.filled - reader.pos) + (pos - reader.pos) := by omega
    have count : reader.remaining + (reader.filled - reader.pos) =
        (pos - reader.pos) + (reader.remaining + (reader.filled - pos)) := by omega
    rw [← whole, append_assoc, handed, rest, rest]
    rw [later, count, ← split]

theorem consume (sound : Sound file start length reader) {amount}
    (small : reader.pos + amount < 2 ^ 64) :
    ∃ target, reader.consume amount = some target ∧ Sound file start length target := by
  have ordered := sound.ordered
  exact ⟨_, if_pos small, sound.hand (by omega) (by omega)⟩

/-- What `remaining` becomes covers the rest of the file that the range still has. -/
theorem advanced (file : List UInt8) {offset remaining n} (within : n ≤ remaining)
    (atEnd : n = 0 → file.drop offset = []) :
    (file.drop offset).take n ++
        (file.drop (offset + n)).take (if n = 0 then 0 else remaining - n) =
      (file.drop offset).take remaining := by
  by_cases nothing : n = 0
  · simp [nothing, atEnd nothing]
  · rw [if_neg nothing, ← split, Nat.add_sub_of_le within]

section

variable (sound : Sound file start length reader)
include sound

theorem readChunk (idle : reader.state = none) (answer : ClientResult Nat) :
    ∃ target, reader.readChunk file answer = some target ∧ Sound file start length target := by
  unfold PolledReader.readChunk
  split
  next more =>
    rw [slice_of_le sound.ordered (sound.buffered more).1]
    exact ⟨_, rfl, sound.hand sound.ordered (Nat.le_refl _)⟩
  next drained =>
  split
  · exact ⟨reader, rfl, sound⟩
  next left =>
  cases answer with
  | error error => exact ⟨reader, rfl, sound⟩
  | ok count =>
    obtain ⟨ordered, behind, roomy, wide, buffered, flight, whole⟩ := sound
    have room := roomy left
    have wanted : 0 < min reader.capacity reader.remaining := by omega
    obtain ⟨fits, read, atEnd⟩ := readAt_spec file reader.offset count wanted
    dsimp only
    generalize readAt file reader.offset (min reader.capacity reader.remaining) count = bytes
      at fits read atEnd ⊢
    have within : bytes.length ≤ reader.remaining := by omega
    refine ⟨_, advance_of_le within, ?_⟩
    constructor
    case ordered => exact ordered
    case behind => dsimp only; omega
    case roomy => exact fun _ => room
    case wide =>
      dsimp only
      intro held
      have enough := wide held
      split <;> omega
    case buffered => exact fun more => absurd more drained
    case flight => simp [idle]
    case whole =>
      have empty : reader.filled - reader.pos = 0 := by omega
      have tail := advanced file within atEnd
      rw [← read] at tail
      rw [← whole, append_assoc, rest, rest]
      rw [empty, Nat.sub_zero, Nat.sub_zero, Nat.add_zero, Nat.add_zero, tail]

/-- A read that completes leaves its bytes in the buffer, before the new offset. -/
theorem pollRead {read : InFlightRead} (empty : reader.pos = reader.filled)
    (left : reader.remaining ≠ 0) (current : read.offset = reader.offset)
    (len : read.buffer.length = min reader.capacity reader.remaining)
    (answer : Option (ClientResult Nat)) :
    ∃ target, reader.pollRead file read answer = some target ∧
      Sound file start length target := by
  obtain ⟨ordered, behind, roomy, wide, buffered, flight, whole⟩ := sound
  have room := roomy left
  cases answer with
  | none =>
    refine ⟨_, rfl, ordered, behind, roomy, wide, buffered, ?_, whole⟩
    intro other running
    cases running
    exact ⟨empty, left, current, len⟩
  | some answer =>
    cases answer with
    | error error => exact ⟨_, rfl, ordered, behind, roomy, wide, buffered, by simp, whole⟩
    | ok count =>
      have wanted : 0 < read.buffer.length := by omega
      obtain ⟨fits, same, atEnd⟩ := readAt_spec file read.offset count wanted
      unfold PolledReader.pollRead
      dsimp only
      generalize readAt file read.offset read.buffer.length count = bytes
        at fits same atEnd ⊢
      rw [current] at same atEnd
      have within : bytes.length ≤ reader.remaining := by omega
      have kept : bytes.length ≤ (bytes ++ read.buffer.drop bytes.length).length := by simp
      rw [advance_of_le (by exact within), Option.bind_some,
        slice_of_le (Nat.zero_le _) (by exact kept)]
      refine ⟨_, rfl, ?_⟩
      constructor
      case ordered => exact Nat.zero_le _
      case behind => dsimp only; omega
      case roomy => exact fun _ => room
      case wide =>
        simp only [length_append, length_drop]
        intro _
        split <;> omega
      case buffered =>
        refine fun _ => ⟨kept, ?_⟩
        rw [Nat.sub_zero, Nat.add_sub_cancel, drop_zero, take_left, ← same]
      case flight => simp
      case whole =>
        have tail := advanced file within atEnd
        rw [← whole, rest, rest]
        dsimp only
        rw [Nat.sub_zero, Nat.add_sub_cancel, empty, Nat.sub_self, Nat.sub_zero,
          Nat.add_zero, ← tail, ← split, Nat.add_comm]

theorem fillBuf (orderly : reader.state = none → reader.remaining = 0 →
      reader.filled ≤ reader.buffer.length)
    (answer : Option (ClientResult Nat)) :
    ∃ target, reader.fillBuf file answer = some target ∧ Sound file start length target := by
  unfold PolledReader.fillBuf
  cases running : reader.state with
  | some read =>
    obtain ⟨empty, left, current, len⟩ := sound.flight read running
    exact sound.pollRead empty left current len answer
  | none =>
    dsimp only
    split
    next buffered =>
      have inside : reader.filled ≤ reader.buffer.length :=
        buffered.elim (fun more => (sound.buffered more).1) (orderly running)
      rw [slice_of_le sound.ordered inside]
      exact ⟨reader, rfl, sound⟩
    next starting =>
      have ordered := sound.ordered
      have left : reader.remaining ≠ 0 := fun spent => starting (.inr spent)
      have taken : Sound file start length { reader with buffer := [] } :=
        { sound with
          wide := by simp
          buffered := fun more => absurd (.inl more) starting }
      refine taken.pollRead (by dsimp only; omega) left rfl ?_ answer
      unfold startRead
      split
      · simp
      next held => rw [length_take, Nat.min_eq_left (sound.wide held)]

theorem act {call} (orderly : reader.Orderly call) :
    ∃ target, reader.act file call = some target ∧ Sound file start length target := by
  cases call with
  | fillBuf answer => exact sound.fillBuf orderly answer
  | consume amount => exact sound.consume orderly
  | readChunk answer => exact sound.readChunk orderly answer

end

theorem of_reachable {bufferSize}
    (reached : Reachable (· = PolledReader.new start length bufferSize)
      (Guarded (fun reader call target => reader.act file call = some target) Orderly) reader) :
    Sound file start length reader := by
  refine reached.invariant (Sound file start length) ?_ ?_
  · rintro _ rfl
    exact Sound.new file start length bufferSize
  · intro reader call target sound moved
    obtain ⟨next, acted, kept⟩ := sound.act moved.2
    obtain rfl : next = target := Option.some.inj (acted.symm.trans moved.1)
    exact kept

end Sound

/-- In a run of orderly calls no call panics, and what was handed out, followed by what
`into_parts` leaves, is the range up to the end of the file. -/
theorem range_reader_delivers_once (file : List UInt8) (offset length bufferSize : Nat)
    {reader : PolledReader} (reached : Reachable (· = new offset length bufferSize)
      (Guarded (fun reader call target => act file reader call = some target) Orderly) reader) :
    (∃ next left, reader.intoParts = some (next, left) ∧
      reader.consumed ++ (file.drop next).take left = (file.drop offset).take length) ∧
    ∀ call, reader.Orderly call → ∃ target, act file reader call = some target := by
  have sound := Sound.of_reachable reached
  refine ⟨⟨_, _, if_pos ⟨sound.ordered, sound.behind⟩, sound.whole⟩, ?_⟩
  intro call orderly
  obtain ⟨target, acted, -⟩ := sound.act orderly
  exact ⟨target, acted⟩

/-- A short read, a failed one and a chunk, after which one byte is left in the buffer. -/
theorem range_reader_delivers_once_mixed :
    ∃ reader, reader.consumed = [2, 3, 4, 5] ∧ reader.intoParts = some (5, 2) ∧
      (∃ next left, reader.intoParts = some (next, left) ∧
        reader.consumed ++ ([1, 2, 3, 4, 5, 6, 7].drop next).take left = [2, 3, 4, 5, 6, 7]) ∧
      ∃ target, act [1, 2, 3, 4, 5, 6, 7] reader (.readChunk (.ok 0)) = some target := by
  obtain ⟨reader, performed, facts⟩ : ∃ reader,
      perform (fun reader call =>
        if reader.Orderly call then act [1, 2, 3, 4, 5, 6, 7] reader call else none) (new 1 6 4)
        [.fillBuf none, .fillBuf (some (.ok 1)), .consume 1, .readChunk (.ok 0),
          .fillBuf (some (.error (.io "eio"))), .readChunk (.ok 0), .fillBuf (some (.ok 1)),
          .consume 1] = some reader ∧
        (reader.consumed = [2, 3, 4, 5] ∧ reader.intoParts = some (5, 2) ∧
          reader.Orderly (.readChunk (.ok 0))) := exists_perform (by decide +kernel)
  obtain ⟨consumed, parts, orderly⟩ := facts
  have delivered := range_reader_delivers_once [1, 2, 3, 4, 5, 6, 7] 1 6 4
    (Reachable.perform (.start rfl) (fun call _ before after moved => by
      split at moved
      next meets => exact ⟨moved, meets⟩
      next => exact absurd moved (by simp)) performed)
  exact ⟨reader, consumed, parts, delivered.1, delivered.2 _ orderly⟩

/-- `read_chunk` while a buffered read is in flight, a poll at the end of the range after a
failed read lost the buffer, and a `consume` that overflows. -/
theorem read_chunk_during_read_repeats_bytes :
    (∃ reader, perform (act [1, 2, 3, 4, 5, 6, 7, 8]) (new 0 8 4)
        [.fillBuf none, .readChunk (.ok 3), .fillBuf (some (.ok 3)), .consume 4] = some reader ∧
      reader.consumed = [1, 2, 3, 4, 1, 2, 3, 4] ∧ reader.intoParts = some (8, 0)) ∧
    perform (act [1, 2, 3, 4]) (new 0 4 4)
      [.fillBuf none, .readChunk (.ok 3), .fillBuf (some (.ok 3))] = none ∧
    perform (act [1, 2, 3, 4, 5, 6, 7, 8]) (new 0 8 4)
      [.fillBuf (some (.ok 3)), .consume 4, .fillBuf (some (.error (.io "eio"))),
        .readChunk (.ok 3), .fillBuf none] = none ∧
    perform (act [1, 2]) (new 0 2 2)
      [.fillBuf (some (.ok 1)), .consume 1, .consume (2 ^ 64 - 1)] = none :=
  ⟨exists_perform (by decide +kernel), by decide +kernel, by decide +kernel, by decide +kernel⟩

end PolledReader

end DragonflyClient.Storage
