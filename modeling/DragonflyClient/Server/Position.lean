import DragonflyClient.Server.Transmit
import DragonflyClient.Urma.Reshape
import DragonflyClient.Urma.Windowing

/-!
The uploader's view of the windows of a Piece: where the window at a chunk lies, what
a source gives for it, and which windows have been sent.
-/

namespace DragonflyClient.Server

open Library Rendezvous Urma TransferShape List

def slices (content : List UInt8) (offset : Nat) : List Nat → List (List UInt8)
  | [] => []
  | length :: lengths =>
    (content.drop offset).take length :: slices content (offset + length) lengths

namespace PieceSource

/-- The bytes of the Piece, of which a reader has given those before `offset`. -/
inductive Gives (content : List UInt8) : Nat → PieceSource → Prop where
  | mapped (offset : Nat) : Gives content offset (.mapped content)
  | reader (offset : Nat) : Gives content offset (.reader (content.drop offset))

variable {content : List UInt8} {offset : Nat} {source : PieceSource}

theorem fillPart_cases
    (gives : Gives content offset source) (length : Nat) (small : offset + length < 2 ^ 64) :
    (∃ error, source.fillPart offset length = .error error ∧ content.length < offset + length) ∨
      ∃ advanced, source.fillPart offset length =
          .ok (advanced, (content.drop offset).take length) ∧
        Gives content (offset + length) advanced := by
  cases gives with
  | mapped =>
    by_cases underflow : content.length < offset + length
    · exact .inl ⟨_, by rw [fillPart, if_neg (by omega), if_pos underflow], underflow⟩
    · exact .inr ⟨_, by rw [fillPart, if_neg (by omega), if_neg underflow], .mapped _⟩
  | reader =>
    by_cases short : (content.drop offset).length < length
    · refine .inl ⟨_, by rw [fillPart, if_pos short], ?_⟩
      rw [length_drop] at short
      omega
    · refine .inr ⟨_, by rw [fillPart, if_neg short], ?_⟩
      rw [drop_drop]
      exact .reader _

theorem fillParts_cases {lengths} (gives : Gives content offset source)
    (small : offset + lengths.sum < 2 ^ 64) :
    (∃ error, source.fillParts offset lengths = .error error ∧
        content.length < offset + lengths.sum) ∨
      ∃ advanced, source.fillParts offset lengths = .ok (advanced, slices content offset lengths) ∧
        Gives content (offset + lengths.sum) advanced := by
  induction lengths generalizing offset source with
  | nil => exact .inr ⟨source, rfl, gives⟩
  | cons length lengths ih =>
    rw [sum_cons, ← Nat.add_assoc] at small ⊢
    rcases fillPart_cases gives length (by omega) with
      ⟨error, failed, short⟩ | ⟨advanced, filled, gives⟩
    · exact .inl ⟨error, by rw [fillParts, failed], by omega⟩
    have addable : ¬ 2 ^ 64 ≤ offset + length := by omega
    rcases ih gives small with ⟨error, failed, short⟩ | ⟨final, rest, given⟩
    · exact .inl ⟨error, by simp only [fillParts, filled, failed, if_neg addable], short⟩
    · refine .inr ⟨final, ?_, given⟩
      simp only [fillParts, filled, rest, if_neg addable]
      rfl

theorem fill_cases {lengths lease} (gives : Gives content offset source)
    (shaped : lease.Shaped lengths) (small : offset + lengths.sum < 2 ^ 64) :
    (∃ error, source.fill offset lease = .error error ∧ content.length < offset + lengths.sum) ∨
      ∃ advanced, source.fill offset lease = .ok (advanced, slices content offset lengths) ∧
        Gives content (offset + lengths.sum) advanced := by
  rw [fill, shaped.spans]
  exact fillParts_cases gives small

end PieceSource

def Piece.ofMetadata (metadata : PieceMetadata) : Piece :=
  { length := metadata.length, chunkSize := metadata.chunkSize
    maxInflightChunks := metadata.maxInflightChunks }

namespace Position

def count (shape : TransferShape) (start : Nat) : Nat :=
  min (shape.chunkCount.toNat - start) shape.metadata.maxInflightChunks.toNat

def lengths (shape : TransferShape) (start : Nat) : List Nat :=
  (List.range' start (count shape start)).map
    (chunkLength shape.metadata.length.toNat shape.metadata.chunkSize.toNat)

def offset (shape : TransferShape) (start : Nat) : Nat :=
  start * shape.metadata.chunkSize.toNat

theorem narrows_map_range' {image} (falling : Antitone image) {start later few many}
    (ordered : start ≤ later) (fewer : few ≤ many) :
    Narrows ((List.range' later few).map image) ((List.range' start many).map image) := by
  induction few generalizing start later many with
  | zero => exact .nil _
  | succ few ih =>
    obtain ⟨many, rfl⟩ : ∃ less, many = less + 1 := ⟨many - 1, by omega⟩
    exact .cons (falling ordered) (ih (by omega) (by omega))

theorem chunkLength_antitone (length size : Nat) : Antitone (chunkLength length size) := by
  intro earlier later ordered
  have further := Nat.mul_le_mul_right size ordered
  unfold chunkLength
  omega

theorem narrows (shape : TransferShape) {start later} (ordered : start ≤ later) :
    Narrows (lengths shape later) (lengths shape start) := by
  apply narrows_map_range' (chunkLength_antitone _ _) ordered
  unfold count
  omega

variable {shape : TransferShape} {start : Nat}

section

variable (regular : shape.Regular)
include regular

theorem count_pos (inside : start < shape.chunkCount.toNat) : 0 < count shape start := by
  have some := regular.inflight_pos
  unfold count
  omega

theorem lengths_ne_nil (inside : start < shape.chunkCount.toNat) : lengths shape start ≠ [] := by
  have some := count_pos regular inside
  intro empty
  have zero := congrArg List.length empty
  simp only [lengths, length_map, length_range', length_nil] at zero
  omega

theorem lengths_pos : ∀ length ∈ lengths shape start, 0 < length := by
  intro length member
  obtain ⟨chunk, listed, rfl⟩ := mem_map.mp member
  rw [mem_range'_1] at listed
  apply regular.covers.chunkLength_pos regular.size_pos
  unfold count at listed
  omega

/-- A window ends where the next one begins, the last one at the end of the Piece. -/
theorem offset_add_sum (inside : start < shape.chunkCount.toNat) :
    offset shape start + (lengths shape start).sum =
      min shape.metadata.length.toNat (offset shape (start + count shape start)) := by
  have starts := regular.covers.starts start inside
  rw [lengths, Covers.sum_run, offset, offset, Nat.add_mul]
  omega

theorem offset_lt (inside : start < shape.chunkCount.toNat) :
    offset shape start < shape.metadata.length.toNat :=
  regular.covers.starts start inside

theorem length_le_offset (outside : shape.chunkCount.toNat ≤ start) :
    shape.metadata.length.toNat ≤ offset shape start :=
  regular.covers.reaches.trans (Nat.mul_le_mul_right _ outside)

theorem end_lt (inside : start < shape.chunkCount.toNat) :
    offset shape start + (lengths shape start).sum < 2 ^ 64 := by
  have ends := offset_add_sum regular inside
  have bounded := shape.metadata.length.toNat_lt
  omega

theorem windowsFrom_eq (inside : start < shape.chunkCount.toNat) (rounds : Nat) :
    ∃ window : ReceiveWindow,
      shape.windowsFrom (rounds + 1) (.ofNat start) =
        window :: shape.windowsFrom rounds (.ofNat (start + count shape start)) ∧
      shape.window window.startChunk = .ok window ∧ window.startChunk.toNat = start ∧
      Regular.lengths shape window = lengths shape start := by
  have bounded := shape.chunkCount.toNat_lt
  have same : (UInt64.ofNat start).toNat = start := toNat_ofNat (by omega)
  have inside' : (UInt64.ofNat start).toNat < shape.chunkCount.toNat := by omega
  obtain ⟨window, opened, starts, counted⟩ := regular.window_eq inside'
  rw [same] at counted
  have next : UInt64.ofNat start + window.chunkCount.toUInt64 =
      .ofNat (start + count shape start) := by
    have within : start + count shape start < 2 ^ 64 := by unfold count; omega
    apply UInt64.toNat_inj.mp
    rw [UInt64.toNat_add, UInt32.toNat_toUInt64, same, toNat_ofNat within, counted]
    exact Nat.mod_eq_of_lt within
  refine ⟨window, by simp only [windowsFrom, opened, next], starts ▸ opened,
    by rw [starts, same], ?_⟩
  rw [Regular.lengths, starts, same, counted]
  rfl

end

theorem chunkLengths_eq {metadata} (regular : (TransferShape.ofMetadata metadata).Regular)
    (inside : start < (TransferShape.ofMetadata metadata).chunkCount.toNat) {position}
    (located : position.toNat = offset (.ofMetadata metadata) start) :
    (Piece.ofMetadata metadata).chunkLengths position =
      .ok (lengths (.ofMetadata metadata) start) := by
  obtain ⟨window, -, opened, starts, same⟩ := windowsFrom_eq regular inside 0
  rw [← same]
  subst starts
  exact regular.txWindowChunkLengths_eq opened inside located

end Position

open Position

/-- A window went out with its chunk lengths and its bytes of the Piece. -/
structure Delivers (shape : TransferShape) (content : List UInt8) (window : ReceiveWindow)
    (sent : SentWindow) : Prop where
  lengths : collect shape.chunkLen window.chunks = .ok sent.chunkLengths
  parts : sent.parts = slices content
    (window.startChunk.toNat * shape.metadata.chunkSize.toNat) sent.chunkLengths

def windows (shape : TransferShape) : List ReceiveWindow :=
  shape.windowsFrom shape.chunkCount.toNat 0

/-- What stops an iteration: a call of the session or the fabric that fails, or a source that
is too short. -/
inductive Turn.Stops (turn : Turn) (metadata : PieceMetadata) (content : List UInt8) :
    Failure → Prop where
  | send {error} (answered : turn.sent = .error error) :
      Stops turn metadata content (.send error)
  | recycle {error} (asked : turn.waiting = true) (answered : turn.recycled = .error error) :
      Stops turn metadata content (.recycle error)
  | fill (error : DFError) (short : content.length < metadata.length.toNat) :
      Stops turn metadata content (.fill error)

inductive Outside (upload : Upload) (metadata : PieceMetadata) (content : List UInt8) :
    Failure → Prop where
  | turn {failure} (index : Nat) (stops : (upload.turns index).Stops metadata content failure) :
      Outside upload metadata content failure
  | recycle {error}
      (answered : upload.recycledCurrent = .error error ∨ upload.recycledSpare = .error error) :
      Outside upload metadata content (.recycle error)

/-- Every call of the session and the fabric succeeds. -/
structure Upload.Answered (upload : Upload) : Prop where
  sent : ∀ index, (upload.turns index).sent = .ok ()
  recycled : ∀ index, (upload.turns index).recycled = .ok ()
  current : upload.recycledCurrent = .ok ()
  spare : upload.recycledSpare = .ok ()

/-- When the calls succeed and the source is long enough, nothing stops the loop. -/
theorem Upload.Answered.not_outside {upload metadata content} (answered : upload.Answered)
    (long : metadata.length.toNat ≤ content.length) {failure} :
    ¬ Outside upload metadata content failure := by
  intro outside
  cases outside with
  | turn index stops =>
    cases stops with
    | send failed => cases (answered.sent index).symm.trans failed
    | recycle _ failed => cases (answered.recycled index).symm.trans failed
    | fill error short => omega
  | recycle failed =>
    rcases failed with failed | failed
    · cases answered.current.symm.trans failed
    · cases answered.spare.symm.trans failed

def SentBefore (shape : TransferShape) (content : List UInt8) (start : Nat)
    (sends : List SentWindow) : Prop :=
  ∃ done rounds, List.Forall₂ (Delivers shape content) done sends ∧
    done ++ shape.windowsFrom rounds (.ofNat start) = windows shape ∧
    shape.chunkCount.toNat - start ≤ rounds

namespace SentBefore

variable {shape : TransferShape} {content : List UInt8} {start : Nat} {sends : List SentWindow}

theorem zero (shape : TransferShape) (content : List UInt8) : SentBefore shape content 0 [] :=
  ⟨[], shape.chunkCount.toNat, .nil, rfl, Nat.sub_le _ _⟩

theorem partly (sent : SentBefore shape content start sends) :
    ∃ done, done <+: windows shape ∧ List.Forall₂ (Delivers shape content) done sends := by
  obtain ⟨done, rounds, delivered, split, -⟩ := sent
  exact ⟨done, ⟨_, split⟩, delivered⟩

theorem all (sent : SentBefore shape content shape.chunkCount.toNat sends) :
    List.Forall₂ (Delivers shape content) (windows shape) sends := by
  obtain ⟨done, rounds, delivered, split, -⟩ := sent
  have ended : shape.windowsFrom rounds (.ofNat shape.chunkCount.toNat) = [] := by
    rw [UInt64.ofNat_toNat]
    cases rounds with
    | zero => rfl
    | succ rounds => simp only [windowsFrom, window, ge_iff_le, UInt64.le_refl, if_true]
  rw [ended, append_nil] at split
  exact split ▸ delivered

theorem next (regular : shape.Regular) (inside : start < shape.chunkCount.toNat)
    (sent : SentBefore shape content start sends) :
    SentBefore shape content (start + count shape start)
      (sends ++ [{ chunkLengths := lengths shape start
                   parts := slices content (offset shape start)
                     (lengths shape start) }]) := by
  obtain ⟨done, rounds, delivered, split, enough⟩ := sent
  obtain ⟨rounds, rfl⟩ : ∃ fewer, rounds = fewer + 1 := ⟨rounds - 1, by omega⟩
  obtain ⟨window, walked, opened, starts, same⟩ := windowsFrom_eq regular inside rounds
  have some := count_pos regular inside
  subst starts
  have delivers : Delivers shape content window
      { chunkLengths := lengths shape window.startChunk.toNat
        parts := slices content (offset shape window.startChunk.toNat)
          (lengths shape window.startChunk.toNat) } := by
    refine ⟨?_, rfl⟩
    have collected := regular.collect_chunkLen _ _ (regular.window_within opened inside).2.2
    rw [chunks_eq, collected]
    exact congrArg Except.ok same
  refine ⟨done ++ [window], rounds, rel_append delivered (.cons delivers .nil), ?_, by omega⟩
  rw [append_assoc, singleton_append, ← walked, split]

end SentBefore

end DragonflyClient.Server
