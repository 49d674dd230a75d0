import DragonflyClient.Core.Error
import DragonflyClient.Library.Transition
import DragonflyClient.Util.Digest
import Mathlib.Algebra.Group.Nat.Defs
import Mathlib.Data.List.GetD

/-!
The writers of a piece: `write_range` and `write_range_from_stream` (`io.rs`), and
`write_urma_stream_to_path` (`content_linux.rs`), inside the calls that time them out.

A writer hands what it has read to the blocking thread pool and goes on reading; the
writes of the pool are steps of their own.  A writer that ends does not take back the
write it has handed over.
-/

namespace DragonflyClient.Storage

open Util Library Option

/-- The content of a file, with zeros behind its end. -/
abbrev FileContent := Nat → UInt8

def FileContent.writeAt (file : FileContent) (offset : Nat) (bytes : List UInt8) : FileContent :=
  fun position =>
    if offset ≤ position then bytes.getD (position - offset) (file position) else file position

theorem FileContent.writeAt_nil (file : FileContent) (offset : Nat) :
    file.writeAt offset [] = file := by
  funext position
  simp [writeAt]

theorem FileContent.writeAt_writeAt (file : FileContent) (offset : Nat)
    (first second : List UInt8) :
    (file.writeAt offset first).writeAt (offset + first.length) second =
      file.writeAt offset (first ++ second) := by
  funext position
  unfold writeAt
  by_cases before : offset ≤ position
  · by_cases inFirst : position < offset + first.length
    · rw [if_neg (by omega), if_pos before, if_pos before, List.getD_append _ _ _ _ (by omega)]
    · have past : first.getD (position - offset) (file position) = file position :=
        List.getD_eq_default _ _ (by omega)
      rw [if_pos (by omega), if_pos before, if_pos before, past,
        List.getD_append_right _ _ _ _ (by omega), Nat.sub_sub]
  · rw [if_neg (by omega), if_neg before, if_neg before]

structure WriteRangeResponse where
  length : UInt64
  hash : UInt32
  deriving DecidableEq, Repr

inductive WriteKind where
  /-- `write_range` -/
  | reader
  /-- `write_range_from_stream` -/
  | stream
  /-- `write_urma_stream_to_path` -/
  | urma
  deriving DecidableEq, Repr

/-- A write on the blocking thread pool: what it has still to write, and where. -/
structure WriteJob where
  offset : Nat
  bytes : List UInt8
  deriving DecidableEq, Repr

inductive InFlight where
  | running (job : WriteJob)
  | finished (failure : Option DFError)
  deriving DecidableEq

inductive WritePhase where
  -- The next chunk of the stream, read or window.
  | filling
  -- The previous write, before the next one is handed over.
  | swapping
  -- The write of a window.
  | settling
  -- The last write.
  | joining
  -- The writeback of the written range.
  | syncing (response : WriteRangeResponse)
  | returned (result : ClientResult WriteRangeResponse)
  | dropped
  deriving DecidableEq

structure RangeWrite where
  kind : WriteKind
  pieceId : String
  start : UInt64
  expectedLength : UInt64
  bufferSize : Nat
  offset : UInt64
  staged : List UInt8
  length : UInt64
  hasher : Crc32Hasher
  eof : Bool
  inFlight : Option InFlight
  phase : WritePhase
  deriving DecidableEq

open RangeWrite

inductive WriteEvent where
  -- The input gives bytes, ends or fails.
  | item (bytes : List UInt8)
  | finish
  | fail (error : DFError)
  -- An await on a write is over; `recycle` is the failure of `window.recycle()`.
  | advance (recycle : Option DFError)
  -- A `pwritev` of the pool accepts some bytes or fails; an empty window needs none.
  | pwrite (count : Nat)
  | pwriteFailed (error : DFError)
  -- The timeout of the call, and the drop of its future.
  | expire
  | drop

/-- The call is left through its input, its timeout or a drop. -/
def WriteEvent.leaves : WriteEvent → Bool
  | .fail _ | .expire | .drop => true
  | .item _ | .finish | .advance _ | .pwrite _ | .pwriteFailed _ => false

namespace RangeWrite

/-- Where the loop goes before it reads: a stream is not polled behind its end or the
expected length. -/
def refill (write : RangeWrite) : RangeWrite :=
  match write.kind with
  | .stream =>
    { write with
      phase := if write.eof ∨ write.length ≥ write.expectedLength then .joining else .filling }
  | .reader | .urma => { write with phase := .filling }

def begin (kind : WriteKind) (pieceId : String) (offset expectedLength : UInt64)
    (bufferSize : Nat) : RangeWrite :=
  refill
    { kind, pieceId, start := offset, expectedLength, bufferSize := max bufferSize 1, offset
      staged := [], length := 0, hasher := .new, eof := false, inFlight := none
      phase := .filling }

/-- What the writer may still take; the limit of `reader.take`. -/
def remaining (write : RangeWrite) : Nat := (write.expectedLength - write.length).toNat

def accept (write : RangeWrite) (bytes : List UInt8) : RangeWrite :=
  { write with
    staged := write.staged ++ bytes
    length := write.length + UInt64.ofNat bytes.length
    hasher := write.hasher.update bytes }

/-- The end of the inner loop: the staged bytes are handed over, or there are none. -/
def handOver (write : RangeWrite) : RangeWrite :=
  { write with phase := if write.staged.isEmpty then .joining else .swapping }

/-- The condition of the inner loop after a chunk or a read. -/
def fill (write : RangeWrite) : RangeWrite :=
  if write.staged.length ≥ write.bufferSize ∨
      write.kind = .stream ∧ write.length ≥ write.expectedLength then write.handOver
  else write

def giveBack (write : RangeWrite) (result : ClientResult WriteRangeResponse) : RangeWrite :=
  { write with phase := .returned result }

def exceeded (write : RangeWrite) : DFError :=
  .unknown s!"urma stream exceeded expected length {write.expectedLength}"

def item (write : RangeWrite) (bytes : List UInt8) : Option RangeWrite :=
  match write.kind with
  | .stream =>
    if bytes.isEmpty then some write
    else some (write.accept (bytes.take write.remaining)).fill
  | .reader =>
    if bytes.isEmpty ∨ bytes.length > write.remaining then none
    else some (write.accept bytes).fill
  | .urma =>
    if write.length > write.expectedLength ∨ bytes.length > write.remaining then
      some (write.giveBack (.error write.exceeded))
    else if write.start.toNat + write.length.toNat ≥ 2 ^ 64 then
      some (write.giveBack (.error (.unknown "URMA write offset overflow")))
    else some { write.accept bytes with phase := .swapping }

def finish (write : RangeWrite) : RangeWrite :=
  match write.kind with
  | .stream => { write with eof := true }.handOver
  | .reader => write.handOver
  | .urma => { write with phase := .joining }

/-- `spawn_blocking` of the write. -/
def submit (write : RangeWrite) : RangeWrite :=
  let submitted :=
    { write with
      offset := write.offset + UInt64.ofNat write.staged.length
      staged := []
      inFlight := some (.running ⟨write.offset.toNat, write.staged⟩) }
  match write.kind with
  | .stream | .reader => submitted.refill
  | .urma => { submitted with phase := .settling }

def conclude (write : RangeWrite) : RangeWrite :=
  if write.length ≠ write.expectedLength then
    write.giveBack (.error (.unknown
      s!"expected length {write.expectedLength} but got {write.length}"))
  else
    let response : WriteRangeResponse := ⟨write.length, write.hasher.finalize⟩
    match write.kind with
    | .stream | .reader => { write with phase := .syncing response }
    | .urma => write.giveBack (.ok response)

/-- Take the result of the write in flight, if there is one, and go on. -/
def join (write : RangeWrite) (next : RangeWrite → RangeWrite) : Option RangeWrite :=
  match write.inFlight with
  | some (.running _) => none
  | some (.finished (some error)) =>
    some (giveBack { write with inFlight := none } (.error error))
  | some (.finished none) | none => some (next { write with inFlight := none })

def advance (write : RangeWrite) (recycle : Option DFError) : Option RangeWrite :=
  match write.phase with
  | .swapping => write.join submit
  | .settling =>
    write.join fun joined =>
      match recycle with
      | some error => joined.giveBack (.error error)
      | none => joined.refill
  | .joining => write.join conclude
  | .syncing response => some (write.giveBack (.ok response))
  | .filling | .returned _ | .dropped => none

/-- The awaits inside the `select!` with the timeout; a URMA write only times the windows. -/
def timed (write : RangeWrite) : Bool :=
  match write.phase with
  | .filling => true
  | .swapping | .settling | .joining | .syncing _ => write.kind ≠ .urma
  | .returned _ | .dropped => false

def isOver (write : RangeWrite) : Bool :=
  match write.phase with
  | .returned _ | .dropped => true
  | _ => false

/-- One `pwritev`: the pool goes on with the rest of the bytes. -/
def pwrite (job : WriteJob) (count : Nat) : InFlight :=
  if (job.bytes.drop count).isEmpty then .finished none
  else .running ⟨job.offset + count, job.bytes.drop count⟩

def act (write : RangeWrite) (file : FileContent) (event : WriteEvent) :
    Option (RangeWrite × FileContent) :=
  match event with
  | .item bytes =>
    if write.phase = .filling then (write.item bytes).map (·, file) else none
  | .finish => if write.phase = .filling then some (write.finish, file) else none
  | .fail error =>
    if write.phase = .filling then some (write.giveBack (.error error), file) else none
  | .advance recycle => (write.advance recycle).map (·, file)
  | .pwrite count =>
    match write.inFlight with
    | some (.running job) =>
      if min 1 job.bytes.length ≤ count ∧ count ≤ job.bytes.length then
        some ({ write with inFlight := some (pwrite job count) },
          file.writeAt job.offset (job.bytes.take count))
      else none
    | _ => none
  | .pwriteFailed error =>
    match write.inFlight with
    | some (.running _) =>
      some ({ write with inFlight := some (.finished (some error)) }, file)
    | _ => none
  | .expire =>
    if write.timed then
      some (write.giveBack (.error (.downloadPieceFinishedTimeout write.pieceId)), file)
    else none
  | .drop => if write.isOver then none else some ({ write with phase := .dropped }, file)

/-- What the write in flight has still to write. -/
def unwritten (write : RangeWrite) : List UInt8 :=
  match write.inFlight with
  | some (.running job) => job.bytes
  | _ => []

def hasFailed : WritePhase → Bool
  | .returned (.error _) | .dropped => true
  | _ => false

def answer : WritePhase → Option WriteRangeResponse
  | .syncing response | .returned (.ok response) => some response
  | _ => none

@[simp]
theorem answer_of_hasFailed {phase} (failed : hasFailed phase = true) :
    answer phase = none := by
  unfold hasFailed at failed
  split at failed <;> first | rfl | cases failed

/-- The write in flight, if there was one, has succeeded. -/
def Joined (write : RangeWrite) : Prop :=
  write.inFlight = none ∨ write.inFlight = some (.finished none)

/-- The loop is done with its input. -/
def Done (write : RangeWrite) : Prop :=
  write.eof = true ∨ write.expectedLength ≤ write.length ∨ write.bufferSize = 0

def mismatch (write : RangeWrite) : ClientResult WriteRangeResponse :=
  .error (.unknown s!"expected length {write.expectedLength} but got {write.length}")

/-- What a step of the call or of the pool does, and the condition it comes under. -/
inductive Acted (write : RangeWrite) (file : FileContent) :
    WriteEvent → RangeWrite → FileContent → Prop where
  | read {bytes phase} (filling : write.phase = .filling)
      (goes : let accepted := write.accept (bytes.take write.remaining)
        phase = .swapping ∧ (write.kind = .urma ∨ accepted.staged ≠ []) ∨ write.kind ≠ .urma ∧
          (phase = .filling ∨ phase = .joining ∧ accepted.staged = [] ∧ accepted.Done)) :
      Acted write file (.item bytes)
        { write.accept (bytes.take write.remaining) with phase } file
  | finish {eof phase} (filling : write.phase = .filling)
      (goes : phase = .swapping ∧ write.kind ≠ .urma ∧ write.staged ≠ [] ∨
        phase = .joining ∧ (write.kind = .urma ∨ write.staged = [])) :
      Acted write file .finish { write with eof, phase } file
  -- A URMA writer also ends on a window that is too long.
  | leave {event phase} (active : write.isOver = false) (failed : hasFailed phase = true)
      (left : event.leaves = true ∨ write.phase = .filling ∧ write.kind = .urma) :
      Acted write file event { write with phase } file
  | broken {recycle error} (active : write.isOver = false)
      (failed : write.inFlight = some (.finished (some error)) ∨
        write.Joined ∧ recycle = some error) :
      Acted write file (.advance recycle)
        { write with inFlight := none, phase := .returned (.error error) } file
  | submit {recycle phase} (swapping : write.phase = .swapping) (joined : write.Joined)
      (goes : phase = .settling ∨ write.kind ≠ .urma ∧
        (phase = .filling ∨ phase = .joining ∧ write.Done)) :
      Acted write file (.advance recycle)
        { write with
          offset := write.offset + UInt64.ofNat write.staged.length
          staged := []
          inFlight := some (.running ⟨write.offset.toNat, write.staged⟩)
          phase } file
  | settle {recycle phase} (settling : write.phase = .settling) (joined : write.Joined)
      (goes : phase = .filling ∨ phase = .joining ∧ write.Done) :
      Acted write file (.advance recycle) { write with inFlight := none, phase } file
  | mismatch {recycle} (joining : write.phase = .joining) (joined : write.Joined)
      (different : write.length ≠ write.expectedLength) :
      Acted write file (.advance recycle)
        { write with inFlight := none, phase := .returned write.mismatch } file
  | conclude {recycle phase} (joining : write.phase = .joining) (joined : write.Joined)
      (whole : write.length = write.expectedLength)
      (goes : phase = .syncing ⟨write.length, write.hasher.finalize⟩ ∨
        phase = .returned (.ok ⟨write.length, write.hasher.finalize⟩)) :
      Acted write file (.advance recycle) { write with inFlight := none, phase } file
  | sync {recycle response} (syncing : write.phase = .syncing response) :
      Acted write file (.advance recycle) { write with phase := .returned (.ok response) } file
  | pwrite {job count} (running : write.inFlight = some (.running job))
      (within : min 1 job.bytes.length ≤ count ∧ count ≤ job.bytes.length) :
      Acted write file (.pwrite count)
        { write with inFlight := some (pwrite job count) }
        (file.writeAt job.offset (job.bytes.take count))
  | pwriteFailed {job error} (running : write.inFlight = some (.running job)) :
      Acted write file (.pwriteFailed error)
        { write with inFlight := some (.finished (some error)) } file

variable {write next : RangeWrite} {file after : FileContent} {event : WriteEvent}

theorem refill_eq (write : RangeWrite) :
    ∃ phase, write.refill = { write with phase } ∧
      (phase = .filling ∨ phase = .joining ∧ write.Done) := by
  unfold refill
  split
  · refine ⟨_, rfl, ?_⟩
    split
    next done => exact .inr ⟨rfl, done.imp_right .inl⟩
    next => exact .inl rfl
  · exact ⟨_, rfl, .inl rfl⟩
  · exact ⟨_, rfl, .inl rfl⟩

theorem fill_eq (write : RangeWrite) (filling : write.phase = .filling) :
    ∃ phase, write.fill = { write with phase } ∧ (phase = .swapping ∧ write.staged ≠ [] ∨
      phase = .filling ∨ phase = .joining ∧ write.staged = [] ∧ write.Done) := by
  unfold fill
  split
  next full =>
    refine ⟨_, rfl, ?_⟩
    by_cases empty : write.staged = []
    · refine .inr (.inr ⟨by simp [empty], empty, ?_⟩)
      rcases full with full | ⟨-, long⟩
      · exact .inr (.inr (by simpa [empty] using full))
      · exact .inr (.inl long)
    · exact .inl ⟨by simp [empty], empty⟩
  next => exact ⟨.filling, by rw [← filling], .inr (.inl rfl)⟩

theorem length_accept (bytes : List UInt8)
    (below : write.length.toNat ≤ write.expectedLength.toNat) :
    (write.accept (bytes.take write.remaining)).length.toNat =
        write.length.toNat + (bytes.take write.remaining).length ∧
      (bytes.take write.remaining).length =
        min (write.expectedLength.toNat - write.length.toNat) bytes.length := by
  have small := write.expectedLength.toNat_lt
  have part : (bytes.take write.remaining).length =
      min (write.expectedLength.toNat - write.length.toNat) bytes.length := by
    rw [List.length_take, remaining, UInt64.toNat_sub_of_le _ _ (UInt64.le_iff_toNat_le.mpr below)]
  refine ⟨?_, part⟩
  rw [accept, UInt64.toNat_add, UInt64.toNat_ofNat_of_lt' (show _ < 2 ^ 64 by omega),
    Nat.mod_eq_of_lt (by omega)]

theorem accept_nil (write : RangeWrite) : write.accept [] = write := by
  simp [accept, Crc32Hasher.update]

theorem acted_of_item {bytes} (filling : write.phase = .filling)
    (given : write.item bytes = some next) : Acted write file (.item bytes) next file := by
  have filled : write.kind ≠ .urma → ∀ part, part = bytes.take write.remaining →
      Acted write file (.item bytes) (write.accept part).fill file := by
    rintro kind _ rfl
    obtain ⟨phase, same, goes⟩ := fill_eq (write.accept (bytes.take write.remaining)) filling
    rw [same]
    exact .read filling (goes.imp (fun swaps => ⟨swaps.1, .inr swaps.2⟩) fun waits => ⟨kind, waits⟩)
  have refused : ∀ error, write.kind = .urma →
      Acted write file (.item bytes) (write.giveBack (.error error)) file := fun error urma =>
    .leave (by simp [isOver, filling]) rfl (.inr ⟨filling, urma⟩)
  unfold item at given
  split at given
  next stream =>
    have kind : write.kind ≠ .urma := by simp [stream]
    split at given
    next empty =>
      obtain rfl := List.isEmpty_iff.mp empty
      cases given
      have skipped : Acted write file (.item [])
          { write.accept (List.take write.remaining []) with phase := .filling } file :=
        .read filling (.inr ⟨kind, .inl rfl⟩)
      rwa [List.take_nil, accept_nil, ← filling] at skipped
    next =>
      cases given
      exact filled kind _ rfl
  next reader =>
    split at given
    · cases given
    · cases given
      exact filled (by simp [reader]) _ (List.take_of_length_le (by omega)).symm
  next urma =>
    split at given
    · cases given
      exact refused _ urma
    split at given
    · cases given
      exact refused _ urma
    · cases given
      have all : bytes.take write.remaining = bytes := List.take_of_length_le (by omega)
      have swapped : Acted write file (.item bytes)
          { write.accept (bytes.take write.remaining) with phase := .swapping } file :=
        .read filling (.inl ⟨rfl, .inl urma⟩)
      rwa [all] at swapped

theorem acted_of_finish (filling : write.phase = .filling) :
    Acted write file .finish write.finish file := by
  have ends : write.kind ≠ .urma →
      ∀ eof, Acted write file .finish { write with eof }.handOver file := by
    intro kind eof
    refine .finish filling ?_
    by_cases empty : write.staged = []
    · exact .inr ⟨by simp [empty], .inr empty⟩
    · exact .inl ⟨by simp [empty], kind, empty⟩
  unfold finish
  split
  next stream => exact ends (by simp [stream]) true
  next reader => exact ends (by simp [reader]) write.eof
  next urma => exact .finish filling (.inr ⟨rfl, .inl urma⟩)

theorem acted_of_advance {recycle} (advanced : write.advance recycle = some next) :
    Acted write file (.advance recycle) next file := by
  have joins : write.isOver = false → ∀ {goes : RangeWrite → RangeWrite},
      write.join goes = some next →
      (write.Joined → Acted write file (.advance recycle)
        (goes { write with inFlight := none }) file) →
      Acted write file (.advance recycle) next file := by
    intro active goes joined continues
    unfold join at joined
    split at joined
    · cases joined
    next error failed =>
      cases joined
      exact .broken active (.inl failed)
    next finished =>
      cases joined
      exact continues (.inr finished)
    next idle =>
      cases joined
      exact continues (.inl idle)
  unfold advance at advanced
  split at advanced
  next swapping =>
    refine joins (by simp [isOver, swapping]) advanced fun joined => ?_
    unfold submit
    dsimp only
    split
    case h_3 => exact .submit swapping joined (.inl rfl)
    all_goals
      next kind =>
      obtain ⟨phase, same, goes⟩ := refill_eq
        { write with
          offset := write.offset + UInt64.ofNat write.staged.length
          staged := []
          inFlight := some (.running ⟨write.offset.toNat, write.staged⟩) }
      rw [same]
      exact .submit swapping joined (.inr ⟨by simp [kind], goes⟩)
  next settling =>
    refine joins (by simp [isOver, settling]) advanced fun joined => ?_
    cases recycle with
    | some error => exact .broken (by simp [isOver, settling]) (.inr ⟨joined, rfl⟩)
    | none =>
      obtain ⟨phase, same, goes⟩ := refill_eq { write with inFlight := none }
      rw [same]
      exact .settle settling joined goes
  next joining =>
    refine joins (by simp [isOver, joining]) advanced fun joined => ?_
    unfold conclude
    dsimp only
    split
    next different => exact .mismatch joining joined different
    next same =>
      have whole := Decidable.not_not.mp same
      split
      · exact .conclude joining joined whole (.inl rfl)
      · exact .conclude joining joined whole (.inl rfl)
      · exact .conclude joining joined whole (.inr rfl)
  next response syncing =>
    cases advanced
    exact .sync syncing
  all_goals cases advanced

theorem acted_of_act (moved : write.act file event = some (next, after)) :
    Acted write file event next after := by
  cases event with
  | item bytes =>
    simp only [act, ite_none_right_eq_some] at moved
    obtain ⟨result, given, same⟩ := map_eq_some_iff.mp moved.2
    cases same
    exact acted_of_item moved.1 given
  | finish =>
    simp only [act, ite_none_right_eq_some, some.injEq, Prod.mk.injEq] at moved
    obtain ⟨filling, rfl, rfl⟩ := moved
    exact acted_of_finish filling
  | fail error =>
    simp only [act, ite_none_right_eq_some, some.injEq, Prod.mk.injEq] at moved
    obtain ⟨filling, rfl, rfl⟩ := moved
    exact .leave (by simp [isOver, filling]) rfl (.inl rfl)
  | advance recycle =>
    obtain ⟨result, advanced, same⟩ := map_eq_some_iff.mp moved
    cases same
    exact acted_of_advance advanced
  | pwrite count =>
    simp only [act] at moved
    split at moved
    next job running =>
      simp only [ite_none_right_eq_some, some.injEq, Prod.mk.injEq] at moved
      obtain ⟨within, rfl, rfl⟩ := moved
      exact .pwrite running within
    next => cases moved
  | pwriteFailed error =>
    simp only [act] at moved
    split at moved
    next job running =>
      cases moved
      exact .pwriteFailed running
    next => cases moved
  | expire =>
    simp only [act, ite_none_right_eq_some, some.injEq, Prod.mk.injEq] at moved
    obtain ⟨timed, rfl, rfl⟩ := moved
    refine .leave ?_ rfl (.inl rfl)
    unfold RangeWrite.timed at timed
    unfold isOver
    split at timed <;> simp_all
  | drop =>
    simp only [act, ite_none_left_eq_some, some.injEq, Prod.mk.injEq] at moved
    obtain ⟨active, rfl, rfl⟩ := moved
    exact .leave (Bool.eq_false_iff.mpr active) rfl (.inl rfl)

/-- The awaits during which a write may be in flight.  A URMA writer reads only when it
has nothing in flight, and so may end on a window that is too long. -/
def mayPend (write : RangeWrite) : Bool :=
  match write.phase with
  | .filling => write.kind ≠ .urma
  | .swapping | .settling | .joining => true
  | .syncing _ | .returned _ | .dropped => false

def Settled (write : RangeWrite) : Prop := write.unwritten ≠ [] → write.mayPend = true

theorem Settled.of_idle (idle : write.unwritten = []) : write.Settled :=
  fun pending => absurd idle pending

theorem Settled.idle (settled : write.Settled) (quiet : write.mayPend = false) :
    write.unwritten = [] := by
  by_contra pending
  cases quiet.symm.trans (settled pending)

theorem mayPend_of_isOver (isOver : write.isOver = true) : write.mayPend = false := by
  unfold RangeWrite.isOver at isOver
  unfold mayPend
  split at isOver <;> simp_all

/-- A call that is left, if nothing of its write is missing then, has nothing pending when it is
over. -/
theorem Settled.act (settled : write.Settled) (acted : Acted write file event next after)
    (caught : write.isOver = false → event.leaves = true → write.unwritten = []) :
    next.Settled := by
  cases acted with
  | read filling goes =>
    intro pending
    rcases goes with ⟨rfl, -⟩ | ⟨kind, rfl | ⟨rfl, -⟩⟩
    · rfl
    · simpa [mayPend, accept] using kind
    · rfl
  | finish filling goes =>
    rcases goes with ⟨rfl, -⟩ | ⟨rfl, -⟩ <;> exact fun _ => rfl
  | leave active failed left =>
    refine .of_idle ?_
    rcases left with leaves | ⟨filling, urma⟩
    · exact caught active leaves
    · exact settled.idle (by simp [mayPend, filling, urma])
  | submit swapping joined goes =>
    intro pending
    rcases goes with rfl | ⟨kind, rfl | ⟨rfl, -⟩⟩
    · rfl
    · simpa [mayPend] using kind
    · rfl
  | sync syncing => exact .of_idle (settled.idle (by simp [mayPend, syncing]))
  | pwrite running within =>
    intro pending
    refine settled ?_
    unfold pwrite at pending
    split at pending
    next whole => cases pending rfl
    next more =>
      intro none
      simp only [unwritten, running] at none
      simp [none] at more
  | _ => exact .of_idle rfl

theorem Acted.active (acted : Acted write file event next after) (active : next.isOver = false) :
    write.isOver = false := by
  cases acted with
  | leave active' => exact active'
  | broken | mismatch | sync => cases active
  | pwrite | pwriteFailed => exact active
  | read phase | finish phase | submit phase | settle phase | conclude phase =>
    simp [isOver, phase]

theorem act_file (moved : write.act file event = some (next, after)) :
    after = file ∨ ∃ job count, event = .pwrite count ∧ write.inFlight = some (.running job) ∧
      after = file.writeAt job.offset (job.bytes.take count) := by
  cases acted_of_act moved with
  | @pwrite job count running _ => exact .inr ⟨job, count, rfl, running, rfl⟩
  | _ => exact .inl rfl

end RangeWrite

/-- What the events of a call say about its writes: what its input has given, up to the expected
length; how much of that the call had when it last went on from an await, where it hands over what
it has read; what the pool has written; and whether the pool has failed. -/
structure Ledger where
  limit : Nat := 0
  read : Nat := 0
  handed : Nat := 0
  written : Nat := 0
  failed : Bool := false

namespace Ledger

def note (ledger : Ledger) : WriteEvent → Ledger
  | .item bytes => { ledger with read := min ledger.limit (ledger.read + bytes.length) }
  | .advance _ => { ledger with handed := ledger.read }
  | .pwrite count => { ledger with written := ledger.written + count }
  | .pwriteFailed _ => { ledger with failed := true }
  | .finish | .fail _ | .expire | .drop => ledger

/-- The pool has answered for everything that was handed over. -/
def answered (ledger : Ledger) : Bool := ledger.failed || ledger.handed ≤ ledger.written

/-- The ledger of a call that is not over. -/
structure Accounts (ledger : Ledger) (write : RangeWrite) : Prop where
  limit : ledger.limit = write.expectedLength.toNat
  read : ledger.read = write.length.toNat
  within : ledger.read ≤ ledger.limit
  staged : ledger.written + write.unwritten.length + write.staged.length ≤ ledger.read
  handed : ledger.written + write.unwritten.length ≤ ledger.handed
  failed : ledger.failed = true → ∃ error, write.inFlight = some (.finished (some error))

variable {ledger : Ledger} {write next : RangeWrite} {file after : FileContent}
  {event : WriteEvent}

theorem Accounts.unwritten_of_answered (accounts : ledger.Accounts write)
    (answered : ledger.answered = true) : write.unwritten = [] := by
  simp only [Ledger.answered, Bool.or_eq_true, decide_eq_true_eq] at answered
  rcases answered with failed | caught
  · obtain ⟨error, finished⟩ := accounts.failed failed
    rw [unwritten, finished]
  · have handed := accounts.handed
    exact List.length_eq_zero_iff.mp (by omega)

theorem unwritten_of_joined (joined : write.Joined) : write.unwritten = [] := by
  rcases joined with idle | idle <;> rw [unwritten, idle]

theorem Accounts.act (accounts : ledger.Accounts write)
    (acted : Acted write file event next after) (active : next.isOver = false) :
    (ledger.note event).Accounts next := by
  obtain ⟨limit, read, within, staged, handed, failed⟩ := accounts
  have unbroken : write.Joined → ledger.failed ≠ true := by
    rintro joined broken
    obtain ⟨error, finished⟩ := failed broken
    rcases joined with idle | idle <;> cases idle.symm.trans finished
  cases acted with
  | @read bytes phase filling goes =>
    have below : write.length.toNat ≤ write.expectedLength.toNat := by omega
    obtain ⟨length, part⟩ := length_accept bytes below
    refine ⟨limit, ?_, Nat.min_le_left _ _, ?_, handed, failed⟩
    · rw [note, length]
      dsimp only
      omega
    · simp only [note, accept, List.length_append, unwritten] at staged ⊢
      omega
  | leave _ failing =>
    simp only [isOver] at active
    unfold hasFailed at failing
    split at failing <;> simp_all
  | submit swapping joined =>
    rw [unwritten_of_joined joined, List.length_nil] at staged
    exact ⟨limit, read, within, by simpa [note, unwritten] using staged,
      by simpa [note, unwritten] using staged, fun broken => absurd broken (unbroken joined)⟩
  | settle _ joined | conclude _ joined =>
    rw [unwritten_of_joined joined, List.length_nil] at staged
    exact ⟨limit, read, within, staged, by simp only [note, unwritten, List.length_nil]; omega,
      fun broken => absurd broken (unbroken joined)⟩
  | finish => exact ⟨limit, read, within, staged, handed, failed⟩
  | @pwrite job count running fits =>
    have left : (unwritten { write with
        inFlight := some (pwrite job count) }).length = job.bytes.length - count := by
      unfold pwrite
      split
      next whole => simp_all [unwritten, List.drop_eq_nil_iff]
      next => simp [unwritten]
    have now : write.unwritten.length = job.bytes.length := by rw [unwritten, running]
    refine ⟨limit, read, within, ?_, ?_, fun broken => ?_⟩
    · simp only [note, left]
      omega
    · simp only [note, left]
      omega
    · obtain ⟨error, finished⟩ := failed broken
      cases running.symm.trans finished
  | pwriteFailed =>
    refine ⟨limit, read, within, ?_, ?_, fun _ => ⟨_, rfl⟩⟩
    · simp only [note, unwritten, List.length_nil]
      omega
    · simp only [note, unwritten, List.length_nil]
      omega
  | broken | mismatch | sync => cases active

/-- What holds of a call and the ledger of its events. -/
structure Keeps (ledger : Ledger) (write : RangeWrite) : Prop where
  settled : write.Settled
  accounts : write.isOver = false → ledger.Accounts write

theorem Keeps.act (keeps : ledger.Keeps write)
    (acted : Acted write file event next after)
    (ordered : event.leaves = true → ledger.answered = true) : (ledger.note event).Keeps next where
  settled := keeps.settled.act acted fun active leaves =>
    (keeps.accounts active).unwritten_of_answered (ordered leaves)
  accounts active := (keeps.accounts (acted.active active)).act acted active

theorem Keeps.begin (kind : WriteKind) (pieceId : String) (offset expectedLength : UInt64)
    (bufferSize : Nat) :
    Keeps { limit := expectedLength.toNat }
      (.begin kind pieceId offset expectedLength bufferSize) := by
  obtain ⟨phase, same, -⟩ := RangeWrite.refill_eq
    { kind, pieceId, start := offset, expectedLength, bufferSize := max bufferSize 1, offset
      staged := [], length := 0, hasher := .new, eof := false, inFlight := none
      phase := .filling }
  rw [RangeWrite.begin, same]
  exact ⟨.of_idle rfl, fun _ => ⟨rfl, rfl, Nat.zero_le _, Nat.le_refl _, Nat.le_refl _,
    fun broken => by cases broken⟩⟩

end Ledger

structure WriteSystem where
  file : FileContent
  calls : Nat → Option RangeWrite

inductive WriteSystemEvent where
  | begin (call : Nat) (kind : WriteKind) (pieceId : String) (offset expectedLength : UInt64)
      (bufferSize : Nat)
  | call (call : Nat) (event : WriteEvent)

/-- The ledger of a call, from what has happened so far. -/
def Ledger.of (call : Nat) : List WriteSystemEvent → Ledger
  | [] => {}
  | .begin other _ _ _ expectedLength _ :: earlier =>
    if other = call then { limit := expectedLength.toNat } else of call earlier
  | .call other event :: earlier =>
    if other = call then (of call earlier).note event else of call earlier

namespace WriteSystem

def step (system : WriteSystem) : WriteSystemEvent → Option WriteSystem
  | .begin call kind pieceId offset expectedLength bufferSize =>
    match system.calls call with
    | some _ => none
    | none =>
      some { system with
        calls := Function.update system.calls call
          (some (.begin kind pieceId offset expectedLength bufferSize)) }
  | .call call event =>
    (system.calls call).bind fun write =>
      (write.act system.file event).map fun after =>
        { file := after.2, calls := Function.update system.calls call (some after.1) }

def Step (system : WriteSystem) (event : WriteSystemEvent) (target : WriteSystem) : Prop :=
  system.step event = some target

def Initial (system : WriteSystem) : Prop := ∀ call, system.calls call = none

/-- The input of a call fails, its timeout fires or it is dropped only after the pool has answered
for what the call has handed over. -/
def inOrder (history : List WriteSystemEvent) : WriteSystemEvent → Bool
  | .begin .. => true
  | .call call event => event.leaves → (Ledger.of call history).answered

abbrev InOrder (history : List WriteSystemEvent) (event : WriteSystemEvent) : Prop :=
  inOrder history event = true

variable {system target : WriteSystem} {history : List WriteSystemEvent}
  {event : WriteSystemEvent}

def Settled (system : WriteSystem) (history : List WriteSystemEvent) : Prop :=
  ∀ call write, system.calls call = some write → (Ledger.of call history).Keeps write

theorem Settled.update (settled : system.Settled history) {call write}
    (here : (Ledger.of call (event :: history)).Keeps write)
    (others : ∀ other, other ≠ call → Ledger.of other (event :: history) = .of other history)
    (file : FileContent) :
    Settled { file, calls := Function.update system.calls call (some write) }
      (event :: history) := by
  intro other found same
  dsimp only at same
  by_cases mover : other = call
  · subst mover
    rw [Function.update_self] at same
    cases same
    exact here
  · rw [Function.update_of_ne mover] at same
    rw [others other mover]
    exact settled other found same

theorem Settled.step (settled : system.Settled history) (moved : Step system event target)
    (ordered : InOrder history event) : target.Settled (event :: history) := by
  cases event with
  | begin call kind pieceId offset expectedLength bufferSize =>
    simp only [Step, WriteSystem.step] at moved
    split at moved
    · cases moved
    cases moved
    refine settled.update ?_ (fun other apart => ?_) system.file
    · rw [Ledger.of, if_pos rfl]
      exact .begin kind pieceId offset expectedLength bufferSize
    · rw [Ledger.of, if_neg apart.symm]
  | call call event =>
    obtain ⟨write, found, moved⟩ := bind_eq_some_iff.mp moved
    obtain ⟨⟨next, file⟩, acted, rfl⟩ := map_eq_some_iff.mp moved
    refine settled.update ?_ (fun other apart => ?_) file
    · rw [Ledger.of, if_pos rfl]
      exact (settled call write found).act (acted_of_act acted)
        (of_decide_eq_true ordered)
    · rw [Ledger.of, if_neg apart.symm]

/-- When the input of a call fails, its timeout fires or it is dropped only after the pool has
answered for what was handed over, a call that has ended has nothing left to write, and a step
that changes the file is a write of a call that has not ended. -/
theorem no_write_outlives_call
    (reached : Reachable (fun run => Initial run.1 ∧ run.2 = []) (Logged Step InOrder)
      (system, history)) :
    (∀ call write, system.calls call = some write → write.isOver = true →
      write.unwritten = []) ∧
    ∀ event target, Step system event target → target.file ≠ system.file →
      ∃ call count write, event = .call call (.pwrite count) ∧
        system.calls call = some write ∧ write.isOver = false := by
  have settled : system.Settled history := reached.invariant (fun run => run.1.Settled run.2)
    (fun _ initial call write found => by rw [initial.1 call] at found; cases found)
    fun _ _ _ settled moved => moved.2.1 ▸ settled.step moved.1 moved.2.2
  have idle : ∀ call write, system.calls call = some write → write.isOver = true →
      write.unwritten = [] := fun call write found isOver =>
    (settled call write found).settled.idle (mayPend_of_isOver isOver)
  refine ⟨idle, ?_⟩
  intro event target moved changed
  cases event with
  | begin call kind pieceId offset expectedLength bufferSize =>
    simp only [Step, WriteSystem.step] at moved
    split at moved
    · cases moved
    · cases moved
      exact absurd rfl changed
  | call call event =>
    obtain ⟨write, found, moved⟩ := bind_eq_some_iff.mp moved
    obtain ⟨⟨next, file⟩, acted, rfl⟩ := map_eq_some_iff.mp moved
    rcases act_file acted with same | ⟨job, count, rfl, running, same⟩
    · exact absurd same changed
    · refine ⟨call, count, write, rfl, found, ?_⟩
      by_contra isOver
      have none := idle call write found ((Bool.not_eq_false _).mp isOver)
      simp only [unwritten, running] at none
      rw [none, List.take_nil, FileContent.writeAt_nil] at same
      exact changed same

namespace Small

def empty : WriteSystem := { file := fun _ => 0, calls := fun _ => none }

def fetch (call : Nat) : WriteSystemEvent := .begin call .stream "task-0" 0 2 1

def broken : List WriteSystemEvent :=
  [fetch 0, .call 0 (.item [1]), .call 0 (.advance none), .call 0 (.fail (.io "reset"))]

/-- The stream fails as in `broken`, but after the byte was written. -/
def caught : List WriteSystemEvent :=
  [fetch 0, .call 0 (.item [1]), .call 0 (.advance none), .call 0 (.pwrite 1),
    .call 0 (.fail (.io "reset"))]

def retried (call : Nat) : List WriteSystemEvent :=
  [fetch call, .call call (.item [2, 3]), .call call (.advance none), .call call (.pwrite 2),
    .call call (.advance none), .call call (.advance none)]

end Small

/-- A call that fails after its write, and one that succeeds. -/
theorem no_write_outlives_call_of_caught :
    ∃ system first second,
      perform (keepLog step inOrder) (Small.empty, []) (Small.caught ++ Small.retried 1) =
        some (system, (Small.caught ++ Small.retried 1).reverse) ∧
      system.calls 0 = some first ∧ first.phase = .returned (.error (.io "reset")) ∧
      first.unwritten = [] ∧
      system.calls 1 = some second ∧ second.isOver = true ∧ second.unwritten = [] := by
  have performed : perform (keepLog step inOrder) (Small.empty, [])
      (Small.caught ++ Small.retried 1) =
        some (_, (Small.caught ++ Small.retried 1).reverse) := rfl
  have reached : Reachable (fun run => Initial run.1 ∧ run.2 = []) (Logged Step InOrder)
      (_, (Small.caught ++ Small.retried 1).reverse) := .keepLog ⟨fun _ => rfl, rfl⟩ performed
  have idle := (no_write_outlives_call reached).1
  exact ⟨_, _, _, performed, rfl, rfl, idle 0 _ rfl rfl, rfl, rfl, idle 1 _ rfl rfl⟩

/-- The write of the first call lands after the second has returned `Ok`. -/
theorem write_outlives_call :
    ∃ system target first second, Reachable Initial Step system ∧
      system.calls 0 = some first ∧ first.phase = .returned (.error (.io "reset")) ∧
      first.unwritten = [1] ∧
      system.calls 1 = some second ∧
      second.phase = .returned (.ok ⟨2, crc32 [2, 3]⟩) ∧
      (system.file 0, system.file 1) = (2, 3) ∧
      Step system (.call 0 (.pwrite 1)) target ∧ (target.file 0, target.file 1) = (1, 3) := by
  have performed : perform step Small.empty (Small.broken ++ Small.retried 1) = some _ := rfl
  have start : Reachable Initial Step Small.empty := .start fun _ => rfl
  exact ⟨_, _, _, _, start.perform (fun _ _ _ _ moved => moved) performed, rfl, rfl, rfl, rfl, rfl,
    rfl, rfl, rfl⟩

end WriteSystem

end DragonflyClient.Storage
