import DragonflyClient.Storage.WriteRange

/-!
Where the writes of a call go: inside the range it was given.
-/

namespace DragonflyClient.Storage

open Util List

theorem FileContent.writeAt_outside (file : FileContent) {offset bytes position}
    (outside : position < offset ∨ offset + bytes.length ≤ position) :
    file.writeAt offset bytes position = file position := by
  unfold writeAt
  split
  next reached =>
    have behind : bytes.length ≤ position - offset := by omega
    rw [getD_eq_getElem?_getD, getElem?_eq_none behind, Option.getD_none]
  next => rfl

namespace RangeWrite

/-- The counters of a call on a range agree, and its writes stay inside the range. -/
structure Bounded (start expectedLength : UInt64) (write : RangeWrite) : Prop where
  starts : write.start = start
  spans : write.expectedLength = expectedLength
  fits : write.start.toNat + write.expectedLength.toNat < 2 ^ 64
  taken : write.length.toNat ≤ write.expectedLength.toNat
  ahead : write.start.toNat ≤ write.offset.toNat
  next : write.offset.toNat + write.staged.length = write.start.toNat + write.length.toNat
  job : ∀ job, write.inFlight = some (.running job) → write.start.toNat ≤ job.offset ∧
    job.offset + job.bytes.length ≤ write.start.toNat + write.expectedLength.toNat
  whole : ∀ response, answer write.phase = some response → response.length = write.expectedLength

variable {start expectedLength : UInt64} {write next : RangeWrite} {file after : FileContent}
  {event : WriteEvent}

theorem Bounded.act (bounded : write.Bounded start expectedLength)
    (moved : write.act file event = some (next, after)) : next.Bounded start expectedLength := by
  obtain ⟨starts, spans, fits, taken, ahead, follows, inside, whole⟩ := bounded
  have none : ∀ job, (none : Option InFlight) = some (.running job) →
      write.start.toNat ≤ job.offset ∧
        job.offset + job.bytes.length ≤ write.start.toNat + write.expectedLength.toNat :=
    fun _ running => by cases running
  cases acted_of_act moved with
  | @read bytes phase filling goes =>
    obtain ⟨length, part⟩ := length_accept bytes taken
    refine ⟨starts, spans, fits, ?_, ahead, ?_, inside, ?_⟩
    · rw [length]
      dsimp only [accept]
      omega
    · rw [length]
      simp only [accept, length_append]
      omega
    · rcases goes with ⟨rfl, -⟩ | ⟨-, rfl | ⟨rfl, -⟩⟩ <;> simp [answer]
  | finish _ goes =>
    refine ⟨starts, spans, fits, taken, ahead, follows, inside, ?_⟩
    rcases goes with ⟨rfl, -⟩ | ⟨rfl, -⟩ <;> simp [answer]
  | leave _ failed =>
    exact ⟨starts, spans, fits, taken, ahead, follows, inside, by simp [failed]⟩
  | submit _ joined goes =>
    have offset : (write.offset + UInt64.ofNat write.staged.length).toNat =
        write.offset.toNat + write.staged.length := by
      rw [UInt64.toNat_add, UInt64.toNat_ofNat_of_lt' (show write.staged.length < 2 ^ 64 by omega),
        Nat.mod_eq_of_lt (by omega)]
    refine ⟨starts, spans, fits, taken, ?_, ?_, ?_, ?_⟩
    · dsimp only
      omega
    · rw [offset, length_nil]
      omega
    · intro job running
      cases running
      exact ⟨ahead, by dsimp only; omega⟩
    · rcases goes with rfl | ⟨-, rfl | ⟨rfl, -⟩⟩ <;> simp [answer]
  | settle _ joined goes =>
    refine ⟨starts, spans, fits, taken, ahead, follows, none, ?_⟩
    rcases goes with rfl | ⟨rfl, -⟩ <;> simp [answer]
  | conclude _ joined same goes =>
    refine ⟨starts, spans, fits, taken, ahead, follows, none, ?_⟩
    rcases goes with rfl | rfl <;> simp [answer, same]
  | sync syncing =>
    refine ⟨starts, spans, fits, taken, ahead, follows, inside, fun response same => ?_⟩
    exact whole response (by rw [syncing]; exact same)
  | broken | mismatch =>
    exact ⟨starts, spans, fits, taken, ahead, follows, none, by simp [answer, RangeWrite.mismatch]⟩
  | @pwrite job count running within =>
    refine ⟨starts, spans, fits, taken, ahead, follows, fun rest still => ?_, whole⟩
    have here := inside job running
    simp only [pwrite, Option.some.injEq] at still
    split at still
    · cases still
    · cases still
      simp only [length_drop]
      omega
  | pwriteFailed =>
    exact ⟨starts, spans, fits, taken, ahead, follows, (fun _ running => by cases running), whole⟩

theorem bounded_begin (kind : WriteKind) (pieceId : String) (bufferSize : Nat)
    (fits : start.toNat + expectedLength.toNat < 2 ^ 64) :
    (RangeWrite.begin kind pieceId start expectedLength bufferSize).Bounded start
      expectedLength := by
  obtain ⟨phase, same, goes⟩ := refill_eq
    { kind, pieceId, start, expectedLength, bufferSize := max bufferSize 1, offset := start
      staged := [], length := 0, hasher := .new, eof := false, inFlight := none
      phase := .filling }
  rw [RangeWrite.begin, same]
  refine ⟨rfl, rfl, fits, Nat.zero_le _, Nat.le_refl _, rfl, (fun _ h => by cases h), ?_⟩
  rcases goes with rfl | ⟨rfl, -⟩ <;> simp [answer]

theorem Bounded.file_outside (bounded : write.Bounded start expectedLength)
    (moved : write.act file event = some (next, after)) {position}
    (outside : position < start.toNat ∨ start.toNat + expectedLength.toNat ≤ position) :
    after position = file position := by
  rcases act_file moved with rfl | ⟨job, count, -, running, rfl⟩
  · rfl
  · have inside := bounded.job job running
    rw [bounded.starts, bounded.spans] at inside
    apply file.writeAt_outside
    rw [length_take]
    omega

end RangeWrite

end DragonflyClient.Storage
