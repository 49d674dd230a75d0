import DragonflyClient.Resource.Interested
import DragonflyClient.Storage.Cache
import DragonflyClient.Storage.RangeReader

/-!
A piece read from the memory cache (`cache/mod.rs`) and from the disk (`content_linux.rs`).

The cache counts from the start of the piece, the disk from the start of the file.  Here an
operation on `u64` has a value only if it does not overflow.
-/

namespace DragonflyClient.Storage

open Resource Option UInt64

def checkedAdd (left right : UInt64) : Option UInt64 :=
  if left.toNat + right.toNat < 2 ^ 64 then some (left + right) else none

def checkedSub (left right : UInt64) : Option UInt64 :=
  if right ≤ left then some (left - right) else none

/-- `offset + length - 1`. -/
def lastPosition (offset length : UInt64) : Option UInt64 :=
  (checkedAdd offset length).bind (checkedSub · 1)

/-- `calculate_piece_range`, without wrapping. -/
def diskRange (offset length : UInt64) : Option Range → Option (UInt64 × UInt64)
  | none => some (offset, length)
  | some range => do
      let pieceLast ← lastPosition offset length
      let rangeLast ← lastPosition range.start range.length
      let targetOffset := max offset range.start
      let targetLength ← checkedAdd (← checkedSub (min pieceLast rangeLast) targetOffset) 1
      return (targetOffset, targetLength)

/-- The part of the cached content that `Cache::read_piece` returns. -/
def cacheRange (piece : Piece) : Option Range → Option (UInt64 × UInt64)
  | none => some (0, piece.length)
  | some range => do
      let targetOffset ← checkedSub (max piece.offset range.start) piece.offset
      let pieceLast ← lastPosition piece.offset piece.length
      let rangeLast ← lastPosition range.start range.length
      let left ← checkedSub (← checkedSub (min pieceLast rangeLast) targetOffset) piece.offset
      let targetLength ← checkedAdd left 1
      return (targetOffset, targetLength)

/-- `Cache::read_piece`; `none` is an operation that overflows. -/
def Cache.readPieceBytes (cache : Cache) (taskId pieceId : String) (piece : Piece)
    (range : Option Range) : Option (ClientResult (List UInt8)) :=
  match (cache.tasks.get taskId).1 with
  | none => some (.error (.taskNotFound taskId))
  | some task =>
    match task.pieces.lookup pieceId with
    | none => some (.error (.pieceNotFound pieceId))
    | some content => do
        let (start, length) ← cacheRange piece range
        let finish ← checkedAdd start length
        if start.toNat ≥ content.length ∨ finish.toNat > content.length then
          return .error .invalidParameter
        else
          return .ok ((content.drop start.toNat).take length.toNat)

theorem checkedAdd_of_lt {left right sum} (same : left.toNat + right.toNat = sum)
    (small : sum < 2 ^ 64) :
    ∃ result, checkedAdd left right = some result ∧ result.toNat = sum := by
  subst same
  exact ⟨left + right, if_pos small, by rw [UInt64.toNat_add, Nat.mod_eq_of_lt small]⟩

theorem checkedSub_of_add {left right rest} (same : right.toNat + rest = left.toNat) :
    ∃ result, checkedSub left right = some result ∧ result.toNat = rest := by
  have less : right ≤ left := by
    rw [UInt64.le_iff_toNat_le]
    omega
  refine ⟨left - right, if_pos less, ?_⟩
  rw [UInt64.toNat_sub_of_le _ _ less]
  omega

theorem lastPosition_of_lt {offset length} (nonempty : 1 ≤ length)
    (bounded : offset.toNat + length.toNat < 2 ^ 64) :
    ∃ last, lastPosition offset length = some last ∧
      last.toNat + 1 = offset.toNat + length.toNat := by
  rw [le_iff_toNat_le, toNat_one] at nonempty
  obtain ⟨sum, added, total⟩ := checkedAdd_of_lt rfl bounded
  have one : (1 : UInt64).toNat + (sum.toNat - 1) = sum.toNat := by
    rw [toNat_one]
    omega
  obtain ⟨last, taken, value⟩ := checkedSub_of_add one
  exact ⟨last, by rw [lastPosition, added, bind_some, taken], by omega⟩

/-- Where no operation overflows, `calculate_piece_range` has the same value. -/
theorem eq_of_diskRange {offset length range target}
    (exact' : diskRange offset length range = some target) :
    target = calculatePieceRange offset length range := by
  cases range with
  | none => exact (some.inj exact').symm
  | some range =>
    simp only [diskRange, lastPosition, checkedAdd, checkedSub, bind_eq_bind,
      bind_eq_some_iff, ite_none_right_eq_some, some.injEq, pure_def]
      at exact'
    obtain ⟨_, ⟨_, ⟨-, rfl⟩, -, rfl⟩, _, ⟨_, ⟨-, rfl⟩, -, rfl⟩, _, ⟨-, rfl⟩, _, ⟨-, rfl⟩, rfl⟩ :=
      exact'
    rfl

structure Asks (range : Range) (piece : Piece) : Prop where
  nonempty : 1 ≤ range.length
  bounded : range.start.toNat + range.length.toNat < 2 ^ 64
  overlap : overlaps range piece = true

/-- Where the bytes are that a range asks for: the first position, and how many. -/
def wanted (piece : Piece) : Option Range → Nat × Nat
  | none => (piece.offset.toNat, piece.length.toNat)
  | some range =>
    let first := max piece.offset.toNat range.start.toNat
    (first,
      min (piece.offset.toNat + piece.length.toNat) (range.start.toNat + range.length.toNat) -
        first)

section Ranges

variable {piece : Piece} {range : Option Range}

/-- Both computations, one from the start of the file and one from the start of the piece, give
the wanted bytes, and no operation overflows. -/
theorem ranges_of_asks (nonempty : 1 ≤ piece.length)
    (bounded : piece.offset.toNat + piece.length.toNat < 2 ^ 64)
    (asks : ∀ asked ∈ range, Asks asked piece) :
    (∃ target, diskRange piece.offset piece.length range = some target ∧
      (target.1.toNat, target.2.toNat) = wanted piece range) ∧
    ∃ target, cacheRange piece range = some target ∧
      (piece.offset.toNat + target.1.toNat, target.2.toNat) = wanted piece range := by
  cases range with
  | none => exact ⟨⟨_, rfl, rfl⟩, _, rfl, rfl⟩
  | some range =>
    obtain ⟨some, ends, overlap⟩ := asks range rfl
    simp only [overlaps, decide_eq_true_eq] at overlap
    obtain ⟨pieceLast, pieceEnd, pieceTotal⟩ := lastPosition_of_lt nonempty bounded
    obtain ⟨rangeLast, rangeEnd, rangeTotal⟩ := lastPosition_of_lt some ends
    have first : (max piece.offset range.start).toNat =
      max piece.offset.toNat range.start.toNat := toNat_max ..
    have last : (min pieceLast rangeLast).toNat = min pieceLast.toNat rangeLast.toNat :=
      toNat_min ..
    have one : (1 : UInt64).toNat = 1 := toNat_one
    rw [le_iff_toNat_le, one] at nonempty some
    have ordered : max piece.offset.toNat range.start.toNat ≤
      min pieceLast.toNat rangeLast.toNat := by omega
    obtain ⟨count, counted⟩ := Nat.exists_eq_add_of_le ordered
    constructor
    · obtain ⟨rest, taken, left⟩ : ∃ rest, checkedSub (min pieceLast rangeLast)
          (max piece.offset range.start) = .some rest ∧ rest.toNat = count :=
        checkedSub_of_add (by omega)
      obtain ⟨length, added, total⟩ : ∃ length, checkedAdd rest 1 = .some length ∧
          length.toNat = count + 1 := checkedAdd_of_lt (by omega) (by omega)
      refine ⟨(max piece.offset range.start, length), ?_, ?_⟩
      · simp only [diskRange, pieceEnd, rangeEnd, taken, added, bind_eq_bind, bind_some, pure_def]
      · rw [first, total, wanted]
        simp only [Prod.mk.injEq, true_and]
        omega
    · obtain ⟨start, shifted, skipped⟩ : ∃ start, checkedSub (max piece.offset range.start)
          piece.offset = .some start ∧
            start.toNat = max piece.offset.toNat range.start.toNat - piece.offset.toNat :=
        checkedSub_of_add (by omega)
      obtain ⟨rest, taken, left⟩ : ∃ rest, checkedSub (min pieceLast rangeLast) start =
          .some rest ∧ rest.toNat = count + piece.offset.toNat := checkedSub_of_add (by omega)
      obtain ⟨rest', taken', left'⟩ : ∃ rest', checkedSub rest piece.offset = .some rest' ∧
          rest'.toNat = count := checkedSub_of_add (by omega)
      obtain ⟨length, added, total⟩ : ∃ length, checkedAdd rest' 1 = .some length ∧
          length.toNat = count + 1 := checkedAdd_of_lt (by omega) (by omega)
      refine ⟨(start, length), ?_, ?_⟩
      · simp only [cacheRange, shifted, pieceEnd, rangeEnd, taken, taken', added,
          bind_eq_bind, bind_some, pure_def]
      · rw [total, skipped, wanted]
        simp only [Prod.mk.injEq]
        omega

theorem wanted_inside (nonempty : 1 ≤ piece.length) (asks : ∀ asked ∈ range, Asks asked piece) :
    piece.offset.toNat ≤ (wanted piece range).1 ∧ 0 < (wanted piece range).2 ∧
      (wanted piece range).1 + (wanted piece range).2 ≤
        piece.offset.toNat + piece.length.toNat := by
  rw [le_iff_toNat_le, toNat_one] at nonempty
  cases range with
  | none => exact ⟨Nat.le_refl _, nonempty, Nat.le_refl _⟩
  | some range =>
    obtain ⟨some, -, overlap⟩ := asks range rfl
    simp only [overlaps, decide_eq_true_eq] at overlap
    rw [le_iff_toNat_le, toNat_one] at some
    dsimp only [wanted]
    omega

end Ranges

/-- The cache returns what the disk reads for the same piece and range, up to a read that fails,
and neither computes an offset that overflows. -/
theorem cache_and_disk_serve_same_bytes {cache : Cache} {taskId pieceId : String} {piece : Piece}
    {range : Option Range} {file : List UInt8} (nonempty : 1 ≤ piece.length)
    (asks : ∀ asked ∈ range, Asks asked piece) (small : file.length < 2 ^ 64)
    (inside : piece.offset.toNat + piece.length.toNat ≤ file.length)
    (cached : cache.content taskId pieceId =
      some ((file.drop piece.offset.toNat).take piece.length.toNat))
    (bufferSize : UInt64) {answers : Nat → ClientResult Nat}
    (positive : ∀ call count, answers call = .ok count → 0 < count) :
    let target := calculatePieceRange piece.offset piece.length range
    diskRange piece.offset piece.length range = some target ∧
      ∃ bytes, cache.readPieceBytes taskId pieceId piece range = some (.ok bytes) ∧
        bytes = (file.drop target.1.toNat).take target.2.toNat ∧
        let read := OpenReader.chunks ⟨file, .new target.1 target.2 bufferSize, answers⟩
        Yields answers bytes read ∧
          ((∀ call error, answers call ≠ .error error) →
            ∃ parts : List (List UInt8), read = parts.map .ok ∧ parts.flatten = bytes) := by
  intro target
  have bounded : piece.offset.toNat + piece.length.toNat < 2 ^ 64 := by omega
  obtain ⟨⟨onDisk, exactly, same⟩, ⟨start, length⟩, inCache, wantedBytes⟩ :=
    ranges_of_asks nonempty bounded asks
  obtain rfl : onDisk = target := eq_of_diskRange exactly
  obtain ⟨after, some, before⟩ := wanted_inside nonempty asks
  rw [← wantedBytes] at same after some before
  obtain ⟨sameStart, sameLength⟩ := Prod.mk.inj same
  dsimp only at after some before sameStart sameLength
  obtain ⟨finish, added, total⟩ : ∃ finish, checkedAdd start length = .some finish ∧
      finish.toNat = start.toNat + length.toNat := checkedAdd_of_lt rfl (by omega)
  obtain ⟨task, resident, stored⟩ := bind_eq_some_iff.mp cached
  rw [← LruCache.get_fst] at resident
  have full : ((file.drop piece.offset.toNat).take piece.length.toNat).length =
      piece.length.toNat := by
    rw [List.length_take, List.length_drop]
    omega
  have slice : (((file.drop piece.offset.toNat).take piece.length.toNat).drop start.toNat).take
      length.toNat = (file.drop target.1.toNat).take target.2.toNat := by
    rw [List.drop_take, List.take_take, List.drop_drop, sameStart, sameLength]
    congr 1
    omega
  have yields := yields_new bufferSize small positive
    (show target.1.toNat + target.2.toNat ≤ file.length by omega)
  rw [← slice] at yields
  refine ⟨exactly, _, ?_, slice, yields, yields.whole⟩
  rw [Cache.readPieceBytes, resident]
  simp only [stored, inCache, added, bind_eq_bind, bind_some, full]
  rw [if_neg (by omega)]
  rfl

def cachedPiece : Piece := ⟨1, 2, 4, "", none, none⟩

def pieceCache : Cache where
  size := 4
  capacity := 8
  tasks := ⟨8, [("task", ⟨6, AList.singleton "piece" [3, 4, 5, 6]⟩)]⟩

/-- The second half of a piece, by a range that ends after it; the disk reads byte by byte. -/
theorem cache_and_disk_serve_same_bytes_half :
    diskRange 2 4 (some ⟨4, 100⟩) = some (4, 2) ∧
      pieceCache.readPieceBytes "task" "piece" cachedPiece (some ⟨4, 100⟩) = some (.ok [5, 6]) ∧
      ∃ parts : List (List UInt8),
        OpenReader.chunks ⟨[1, 2, 3, 4, 5, 6], .new 4 2 16, fun _ => .ok 1⟩ = parts.map .ok ∧
          parts.flatten = [5, 6] := by
  have cached : pieceCache.content "task" "piece" =
      some ((([1, 2, 3, 4, 5, 6] : List UInt8).drop cachedPiece.offset.toNat).take
        cachedPiece.length.toNat) := rfl
  have asks : ∀ asked ∈ some (⟨4, 100⟩ : Range), Asks asked cachedPiece := by
    rintro _ ⟨⟩
    exact ⟨by decide, by decide, by decide⟩
  have positive : ∀ call count, (fun _ => .ok 1 : Nat → ClientResult Nat) call = .ok count →
      0 < count := by simp
  obtain ⟨onDisk, bytes, read, rfl, -, whole⟩ := cache_and_disk_serve_same_bytes (by decide) asks
    (by decide) (by decide) cached 16 positive
  exact ⟨onDisk, read, whole (by simp)⟩

end DragonflyClient.Storage
