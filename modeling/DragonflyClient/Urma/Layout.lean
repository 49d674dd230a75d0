import DragonflyClient.Urma.Owner

/-!
The layout of the registered memory: the slots that a budget pays for, and the spans of a
received window.
-/

namespace DragonflyClient.Urma

open Library List BufferPool RegisteredSpan

namespace BufferPool

section Create

variable {config : BufferPoolConfig} {total : Nat}

end Create

end BufferPool

section Spans

variable {Byte : Type} (memory : Nat → Byte)

def bytesAt (offset length : Nat) : List Byte :=
  (List.range length).map fun position => memory (offset + position)

theorem bytesAt_add (offset first second : Nat) :
    bytesAt memory offset (first + second) =
      bytesAt memory offset first ++ bytesAt memory (offset + first) second := by
  simp [bytesAt, range_add, Function.comp_def, Nat.add_assoc]

def RegisteredSpan.bytes (span : RegisteredSpan) : List Byte :=
  bytesAt memory span.data span.length

namespace BufferPool

/-- The spans of the chunks so far, last span first: they end where the last chunk ended and
stay inside the Segment. -/
structure Spanning (registeredLen : Nat) (spans : List RegisteredSpan) (previousEnd : Option Nat) :
    Prop where
  ends : ∀ last, previousEnd = some last →
    ∃ previous earlier, spans = previous :: earlier ∧ previous.data + previous.length = last
  inside : ∀ span ∈ spans, span.data + span.length ≤ registeredLen

/-- A chunk extends the last span or starts one; either way its bytes come last. -/
theorem Spanning.extend {registeredLen spans after previousEnd}
    (spanning : Spanning registeredLen spans previousEnd) {offset length}
    (fits : offset + length ≤ registeredLen)
    (extended : rxLeaseSpans.extend spans previousEnd offset length = .ok after) :
    Spanning registeredLen after (some (offset + length)) ∧
      after.reverse.flatMap (bytes memory) =
        spans.reverse.flatMap (bytes memory) ++ bytesAt memory offset length := by
  unfold rxLeaseSpans.extend at extended
  split at extended
  next touches =>
    obtain ⟨previous, earlier, rfl, ends⟩ := spanning.ends offset touches
    dsimp only [checkedAdd] at extended
    split at extended
    · cases extended
    next sum added =>
      rw [Option.ite_none_right_eq_some, Option.some.injEq] at added
      obtain rfl := added.2
      cases extended
      refine ⟨⟨?_, ?_⟩, ?_⟩
      · rintro _ ⟨⟩
        exact ⟨_, _, rfl, by dsimp only; omega⟩
      · obtain ⟨-, others⟩ := forall_mem_cons.mp spanning.inside
        exact forall_mem_cons.mpr ⟨by dsimp only; omega, others⟩
      · simp [bytes, bytesAt_add, ends]
  next apart =>
    cases extended
    refine ⟨⟨?_, forall_mem_cons.mpr ⟨fits, spanning.inside⟩⟩, ?_⟩
    · rintro _ ⟨⟩
      exact ⟨_, _, rfl, rfl⟩
    · simp [bytes]

end BufferPool

end Spans

namespace Small

def fourSlots : BufferPoolConfig := ⟨64, 2, 2, 4096⟩

def filled : BufferPool where
  segment := some 256
  slots := (initialSlots fourSlots).map fun slot =>
    { slot with state := .recvCompleted, generation := 1 }
  freeTx := []
  freeRx := []
  leases := .new 0
  accepting := true

end Small

end DragonflyClient.Urma
