import DragonflyClient.Library.Chunking
import DragonflyClient.Server.Upload

/-!
The windows of a transfer: the session walks them by chunk index, the uploader
by byte offset.
-/

namespace DragonflyClient.Urma

open Library Rendezvous Server List UInt64 Nat

theorem toNat_ofNat {number : Nat} (small : number < 2 ^ 64) :
    (ofNat number).toNat = number :=
  toNat_ofNat_of_lt' small

theorem toNat_min (left right : UInt64) : (min left right).toNat = min left.toNat right.toNat := by
  rw [Nat.min_def]
  change (if left ≤ right then left else right).toNat = _
  simp only [le_iff_toNat_le]
  split <;> rfl

theorem toNat_divCeil (dividend divisor : UInt64) (divides : divisor ≠ 0) :
    (divCeil dividend divisor).toNat =
      dividend.toNat / divisor.toNat + if 0 < dividend.toNat % divisor.toNat then 1 else 0 := by
  have bounded := dividend.toNat_lt
  have nonzero : 0 < divisor.toNat := by
    rw [pos_iff_ne_zero]
    exact fun zero => divides (UInt64.toNat_inj.mp zero)
  unfold divCeil
  simp only [UInt64.lt_iff_toNat_lt, UInt64.toNat_mod, UInt64.toNat_zero]
  split
  next rest =>
    -- a remainder needs a divisor of at least two, so the quotient has room for one more
    have small := mod_lt dividend.toNat nonzero
    have half : dividend.toNat / divisor.toNat ≤ dividend.toNat / 2 :=
      div_le_div_left (by omega) (by omega)
    rw [UInt64.toNat_add, UInt64.toNat_div]
    exact mod_eq_of_lt (by simp only [UInt64.toNat_one]; omega)
  next => rw [UInt64.toNat_div, add_zero]

theorem covers_divCeil (length size : UInt64) (sized : size ≠ 0) :
    Covers length.toNat size.toNat (divCeil length size).toNat := by
  have nonzero : 0 < size.toNat := by
    rw [Nat.pos_iff_ne_zero]
    exact fun zero => sized (UInt64.toNat_inj.mp zero)
  have split := Nat.div_add_mod length.toNat size.toNat
  have small := Nat.mod_lt length.toNat nonzero
  rw [toNat_divCeil length size sized]
  rw [Nat.mul_comm] at split
  constructor
  · by_cases rest : 0 < length.toNat % size.toNat
    · rw [if_pos rest, Nat.succ_mul]
      omega
    · rw [if_neg rest, Nat.add_zero]
      omega
  · intro chunk inside
    by_cases rest : 0 < length.toNat % size.toNat
    · rw [if_pos rest] at inside
      have below := Nat.mul_le_mul_right size.toNat (Nat.lt_succ_iff.mp inside)
      omega
    · rw [if_neg rest, Nat.add_zero] at inside
      have below := Nat.mul_le_mul_right size.toNat (Nat.succ_le_iff.mpr inside)
      rw [Nat.succ_mul] at below
      omega

theorem chunks_eq (window : ReceiveWindow) :
    window.chunks =
      (List.range' window.startChunk.toNat window.chunkCount.toNat).map ofNat := by
  rw [ReceiveWindow.chunks, range'_eq_map_range, map_map]
  rfl

namespace TransferShape

structure Regular (shape : TransferShape) : Prop where
  length : shape.metadata.length ≠ 0
  chunkSize : shape.metadata.chunkSize ≠ 0
  inflight : shape.metadata.maxInflightChunks ≠ 0
  chunkCount : shape.chunkCount = divCeil shape.metadata.length shape.metadata.chunkSize

namespace Regular

variable {shape : TransferShape}

theorem covers (regular : shape.Regular) :
    Covers shape.metadata.length.toNat shape.metadata.chunkSize.toNat shape.chunkCount.toNat := by
  rw [regular.chunkCount]
  exact covers_divCeil _ _ regular.chunkSize

theorem size_pos (regular : shape.Regular) : 0 < shape.metadata.chunkSize.toNat := by
  rw [pos_iff_ne_zero]
  exact fun zero => regular.chunkSize (UInt64.toNat_inj.mp zero)

theorem inflight_pos (regular : shape.Regular) : 0 < shape.metadata.maxInflightChunks.toNat := by
  rw [pos_iff_ne_zero]
  exact fun zero => regular.inflight (UInt32.toNat_inj.mp zero)

theorem chunkLen_eq (regular : shape.Regular) (chunk : UInt64)
    (inside : chunk.toNat < shape.chunkCount.toNat) :
    shape.chunkLen chunk = .ok
      (chunkLength shape.metadata.length.toNat shape.metadata.chunkSize.toNat chunk.toNat) := by
  have starts := regular.covers.starts chunk.toNat inside
  have bounded := shape.metadata.length.toNat_lt
  have before : ¬ chunk ≥ shape.chunkCount := by
    rw [ge_iff_le, le_iff_toNat_le]
    omega
  simp only [chunkLen, if_neg before, chunkLength]
  rw [if_neg (by omega), if_neg (by omega)]

/-- The window at a chunk: at most the inflight limit, at most what is left. -/
theorem window_eq (_regular : shape.Regular) {start}
    (inside : start.toNat < shape.chunkCount.toNat) :
    ∃ window, shape.window start = .ok window ∧ window.startChunk = start ∧
      window.chunkCount.toNat =
        min (shape.chunkCount.toNat - start.toNat) shape.metadata.maxInflightChunks.toNat := by
  have before : ¬ start ≥ shape.chunkCount := by
    rw [ge_iff_le, le_iff_toNat_le]
    omega
  have limited := shape.metadata.maxInflightChunks.toNat_lt
  simp only [window, if_neg before]
  refine ⟨_, rfl, rfl, ?_⟩
  have left : (shape.chunkCount - start).toNat = shape.chunkCount.toNat - start.toNat :=
    UInt64.toNat_sub_of_le _ _ (by rw [UInt64.le_iff_toNat_le]; omega)
  have least : (min (shape.chunkCount - start) shape.metadata.maxInflightChunks.toUInt64).toNat =
      min (shape.chunkCount.toNat - start.toNat) shape.metadata.maxInflightChunks.toNat := by
    rw [toNat_min, left, UInt32.toNat_toUInt64]
  rw [toNat_toUInt32, least]
  exact mod_eq_of_lt (by omega)

/-- A walk from any chunk visits every later chunk once and in order. -/
theorem chunks_windowsFrom (regular : shape.Regular) {rounds} (start : UInt64)
    (within : start.toNat ≤ shape.chunkCount.toNat)
    (enough : shape.chunkCount.toNat - start.toNat ≤ rounds) :
    (shape.windowsFrom rounds start).flatMap ReceiveWindow.chunks =
      (List.range' start.toNat (shape.chunkCount.toNat - start.toNat)).map UInt64.ofNat := by
  induction rounds generalizing start with
  | zero =>
    rw [Nat.le_zero.mp enough]
    rfl
  | succ rounds ih =>
    rcases Nat.lt_or_eq_of_le within with inside | finished
    · obtain ⟨window, found, starts, count⟩ := regular.window_eq inside
      have some := regular.inflight_pos
      have bounded := shape.chunkCount.toNat_lt
      have next : (start + window.chunkCount.toUInt64).toNat =
          start.toNat + window.chunkCount.toNat := by
        rw [UInt64.toNat_add, UInt32.toNat_toUInt64]
        exact Nat.mod_eq_of_lt (by omega)
      have rest := ih (start + window.chunkCount.toUInt64)
        (by omega) (by omega)
      simp only [windowsFrom, found, flatMap_cons, rest, next]
      have cut : shape.chunkCount.toNat - start.toNat = window.chunkCount.toNat +
          (shape.chunkCount.toNat - (start.toNat + window.chunkCount.toNat)) := by omega
      rw [cut, ← range'_append_1, map_append, chunks_eq, starts]
    · have ended : start ≥ shape.chunkCount := by
        rw [ge_iff_le, le_iff_toNat_le]
        omega
      simp only [windowsFrom, window, if_pos ended, finished, Nat.sub_self]
      rfl

variable {found : ReceiveWindow}

theorem mem_windowsFrom {rounds start} (member : found ∈ shape.windowsFrom rounds start) :
    shape.window found.startChunk = .ok found ∧
      found.startChunk.toNat < shape.chunkCount.toNat := by
  induction rounds generalizing start with
  | zero => cases member
  | succ rounds ih =>
    rw [windowsFrom] at member
    split at member
    · cases member
    next first opened =>
      rcases mem_cons.mp member with rfl | later
      · have outcome := opened
        unfold window at opened
        split at opened
        · cases opened
        next before =>
          cases opened
          exact ⟨outcome, not_le.mp before⟩
      · exact ih later

theorem of_chunkLen_ok {chunk length} (found : shape.chunkLen chunk = .ok length) :
    length = chunkLength shape.metadata.length.toNat shape.metadata.chunkSize.toNat chunk.toNat ∧
      chunk.toNat < shape.chunkCount.toNat := by
  unfold chunkLen at found
  split at found
  · cases found
  next inside =>
  dsimp only at found
  split at found
  · cases found
  split at found
  · cases found
  rw [ge_iff_le, le_iff_toNat_le, not_le] at inside
  exact ⟨(Except.ok.inj found).symm, inside⟩

theorem collect_lengths {start count} (small : start + count ≤ 2 ^ 64)
    (each : ∀ chunk ∈ (List.range' start count).map ofNat,
      ∃ length, shape.chunkLen chunk = .ok length) :
    collect shape.chunkLen ((List.range' start count).map ofNat) =
      .ok ((List.range' start count).map
        (chunkLength shape.metadata.length.toNat shape.metadata.chunkSize.toNat)) := by
  have images : ∀ chunk ∈ (List.range' start count).map ofNat, shape.chunkLen chunk =
      .ok (chunkLength shape.metadata.length.toNat shape.metadata.chunkSize.toNat chunk.toNat) := by
    intro chunk member
    obtain ⟨length, found⟩ := each chunk member
    rw [found, (of_chunkLen_ok found).1]
  rw [collect_eq_map images, map_map]
  congr 1
  apply map_congr_left
  intro index listed
  rw [mem_range'_1] at listed
  simp only [Function.comp_apply, toNat_ofNat (show index < 2 ^ 64 by omega)]

theorem collect_chunkLen (regular : shape.Regular) (start count : Nat)
    (within : start + count ≤ shape.chunkCount.toNat) :
    collect shape.chunkLen ((List.range' start count).map ofNat) =
      .ok ((List.range' start count).map
        (chunkLength shape.metadata.length.toNat shape.metadata.chunkSize.toNat)) := by
  have bounded := shape.chunkCount.toNat_lt
  apply collect_lengths (by omega)
  intro chunk member
  obtain ⟨index, listed, rfl⟩ := mem_map.mp member
  rw [mem_range'_1] at listed
  refine ⟨_, regular.chunkLen_eq _ ?_⟩
  rw [toNat_ofNat (by omega)]
  omega

theorem addChunkLens_eq (shape : TransferShape) {chunks lengths}
    (collected : collect shape.chunkLen chunks = .ok lengths) {total}
    (small : total + lengths.sum < 2 ^ 64) :
    shape.addChunkLens chunks total = .ok (total + lengths.sum) := by
  rw [collect_eq_ok] at collected
  induction collected generalizing total with
  | nil => simp [addChunkLens]
  | @cons chunk length chunks lengths found _ ih =>
    rw [sum_cons] at small ⊢
    rw [addChunkLens, found]
    dsimp only
    rw [if_neg (by omega), ih (by omega), add_assoc]

def lengths (shape : TransferShape) (window : ReceiveWindow) : List Nat :=
  (List.range' window.startChunk.toNat window.chunkCount.toNat).map
    (chunkLength shape.metadata.length.toNat shape.metadata.chunkSize.toNat)

theorem window_within (regular : shape.Regular) (opened : shape.window found.startChunk = .ok found)
    (inside : found.startChunk.toNat < shape.chunkCount.toNat) :
    found.chunkCount.toNat = min (shape.chunkCount.toNat - found.startChunk.toNat)
        shape.metadata.maxInflightChunks.toNat ∧
      0 < found.chunkCount.toNat ∧
      found.startChunk.toNat + found.chunkCount.toNat ≤ shape.chunkCount.toNat := by
  obtain ⟨window, opened', -, count⟩ := regular.window_eq inside
  obtain rfl := Except.ok.inj (opened'.symm.trans opened)
  have some := regular.inflight_pos
  omega

theorem windowLen_of_collect (nonempty : found.chunkCount ≠ 0)
    (within : found.startChunk.toNat + found.chunkCount.toNat ≤ shape.chunkCount.toNat)
    (collected : collect shape.chunkLen found.chunks = .ok (lengths shape found)) :
    shape.windowLen found = .ok (lengths shape found).sum := by
  have bounded := shape.chunkCount.toNat_lt
  have total : (lengths shape found).sum < 2 ^ 64 := by
    have sum := Covers.sum_run shape.metadata.length.toNat shape.metadata.chunkSize.toNat
      found.startChunk.toNat found.chunkCount.toNat
    have longest := shape.metadata.length.toNat_lt
    rw [lengths, sum]
    omega
  have before : ¬ shape.chunkCount < found.startChunk := by
    rw [lt_iff_toNat_lt]
    omega
  have left : (shape.chunkCount - found.startChunk).toNat =
      shape.chunkCount.toNat - found.startChunk.toNat :=
    UInt64.toNat_sub_of_le _ _ (by rw [UInt64.le_iff_toNat_le]; omega)
  have valid : found.validate found.startChunk (shape.chunkCount - found.startChunk) = .ok () := by
    simp only [ReceiveWindow.validate, ne_eq, not_true_eq_false, nonempty, or_self, if_false, left]
    rw [if_neg (by omega)]
  rw [windowLen, if_neg before, valid]
  rw [if_neg (by omega), addChunkLens_eq shape collected (by rw [zero_add]; exact total),
    zero_add]

theorem windowLen_eq (regular : shape.Regular) (opened : shape.window found.startChunk = .ok found)
    (inside : found.startChunk.toNat < shape.chunkCount.toNat) :
    shape.windowLen found = .ok (lengths shape found).sum := by
  obtain ⟨-, some, within⟩ := regular.window_within opened inside
  have nonempty : found.chunkCount ≠ 0 := by
    rintro zero
    rw [zero] at some
    exact absurd some (by decide)
  apply windowLen_of_collect nonempty within
  rw [chunks_eq]
  exact regular.collect_chunkLen _ _ within

theorem txWindowChunkLengths_eq (regular : shape.Regular)
    (opened : shape.window found.startChunk = .ok found)
    (inside : found.startChunk.toNat < shape.chunkCount.toNat) {offset}
    (located : offset.toNat = found.startChunk.toNat * shape.metadata.chunkSize.toNat) :
    txWindowChunkLengths shape.metadata.length shape.metadata.chunkSize
      shape.metadata.maxInflightChunks offset = .ok (lengths shape found) := by
  obtain ⟨count, some, within⟩ := regular.window_within opened inside
  have covers := regular.covers
  have starts := covers.starts _ inside
  have longest := shape.metadata.length.toNat_lt
  have before : ¬ offset ≥ shape.metadata.length := by
    rw [ge_iff_le, le_iff_toNat_le]
    omega
  have remaining : (shape.metadata.length - offset).toNat = shape.metadata.length.toNat -
      found.startChunk.toNat * shape.metadata.chunkSize.toNat := by
    rw [UInt64.toNat_sub_of_le _ _ (by rw [UInt64.le_iff_toNat_le]; omega), located]
  -- both sides cut the rest of the Piece, so they agree on the number of chunks
  have chunks : (divCeil (shape.metadata.length - offset) shape.metadata.chunkSize).toNat =
      shape.chunkCount.toNat - found.startChunk.toNat := by
    apply Covers.unique (covers_divCeil _ _ regular.chunkSize)
    rw [remaining]
    exact covers.drop (by omega)
  have limit : (min (divCeil (shape.metadata.length - offset) shape.metadata.chunkSize)
      shape.metadata.maxInflightChunks.toUInt64).toNat = found.chunkCount.toNat := by
    rw [toNat_min, chunks, UInt32.toNat_toUInt64, count]
  unfold txWindowChunkLengths
  rw [if_neg before]
  dsimp only
  rw [limit, lengths, range'_eq_map_range, map_map]
  apply collect_eq_map
  intro index listed
  rw [mem_range] at listed
  have later := covers.starts (found.startChunk.toNat + index) (by omega)
  rw [add_mul] at later
  rw [if_neg (by omega), if_neg (by omega), remaining]
  congr 1
  exact Covers.chunkLength_drop _ _ _ _

end Regular

/-- The shape that `negotiate` gives for accepted metadata. -/
def ofMetadata (metadata : PieceMetadata) : TransferShape :=
  { metadata, chunkCount := divCeil metadata.length metadata.chunkSize }

/-- Session and uploader cut every Piece the same way: the windows of the walk
partition the chunks in order, the chunk lengths are those of a partition of the
Piece, and each window has the chunk lengths the uploader computes at its offset. -/
theorem window_arithmetic (metadata : PieceMetadata) (length : metadata.length ≠ 0)
    (chunkSize : metadata.chunkSize ≠ 0) (inflight : metadata.maxInflightChunks ≠ 0)
    (rounds : Nat) (enough : (ofMetadata metadata).chunkCount.toNat ≤ rounds) :
    let shape := ofMetadata metadata
    let windows := shape.windowsFrom rounds 0
    windows.flatMap ReceiveWindow.chunks = (List.range shape.chunkCount.toNat).map UInt64.ofNat ∧
    (∃ lengths, collect shape.chunkLen ((List.range shape.chunkCount.toNat).map UInt64.ofNat) =
        .ok lengths ∧
      (∀ chunkLength ∈ lengths, 0 < chunkLength ∧ chunkLength ≤ metadata.chunkSize.toNat) ∧
      lengths.sum = metadata.length.toNat) ∧
    ∀ window ∈ windows,
      (0 < window.chunkCount.toNat ∧ window.chunkCount.toNat ≤ metadata.maxInflightChunks.toNat) ∧
      (window.startChunk * metadata.chunkSize).toNat =
        window.startChunk.toNat * metadata.chunkSize.toNat ∧
      ∃ lengths, collect shape.chunkLen window.chunks = .ok lengths ∧
        shape.windowLen window = .ok lengths.sum ∧
        txWindowChunkLengths metadata.length metadata.chunkSize metadata.maxInflightChunks
          (window.startChunk * metadata.chunkSize) = .ok lengths := by
  have regular : (ofMetadata metadata).Regular := ⟨length, chunkSize, inflight, rfl⟩
  have covers := regular.covers
  have walk := regular.chunks_windowsFrom 0 (zero_le _) enough
  have all := regular.collect_chunkLen 0 _ (zero_add _).le
  rw [← range_eq_range'] at all
  refine ⟨?_, ⟨_, all, ?_, covers.sum_eq⟩, ?_⟩
  · rw [walk, range_eq_range']
    rfl
  · intro value member
    obtain ⟨chunk, listed, rfl⟩ := mem_map.mp member
    exact ⟨covers.chunkLength_pos regular.size_pos (mem_range.mp listed), min_le_left _ _⟩
  · intro window member
    obtain ⟨opened, inside⟩ := Regular.mem_windowsFrom member
    obtain ⟨count, some, within⟩ := regular.window_within opened inside
    have starts : window.startChunk.toNat * metadata.chunkSize.toNat < metadata.length.toNat :=
      covers.starts _ inside
    have longest := metadata.length.toNat_lt
    have located : (window.startChunk * metadata.chunkSize).toNat =
        window.startChunk.toNat * metadata.chunkSize.toNat := by
      rw [UInt64.toNat_mul]
      exact mod_eq_of_lt (by omega)
    have collected := regular.collect_chunkLen _ _ within
    rw [← chunks_eq] at collected
    exact ⟨⟨some, count ▸ min_le_right _ _⟩, located, _, collected,
      regular.windowLen_eq opened inside, regular.txWindowChunkLengths_eq opened inside located⟩

/-- Ten bytes in chunks of four, two at a time. -/
theorem window_arithmetic_ten_bytes :
    let shape := ofMetadata ⟨0, 10, "", 4, 2⟩
    shape.windowsFrom 3 0 = [⟨0, 2⟩, ⟨2, 1⟩] ∧
      (shape.windowsFrom 3 0).flatMap ReceiveWindow.chunks = [0, 1, 2] ∧
      txWindowChunkLengths 10 4 2 8 = .ok [2] := by
  have arithmetic := window_arithmetic ⟨0, 10, "", 4, 2⟩ (by decide) (by decide) (by decide) 3
    (by decide)
  exact ⟨by decide, arithmetic.1, by decide⟩

end TransferShape

end DragonflyClient.Urma
