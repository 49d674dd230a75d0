import DragonflyClient.Library.Chunking
import DragonflyClient.Storage.Download

/-!
The pieces of a download: `Piece::calculate_interested` (`resource/piece.rs`) and the part of
a piece that a range asks for, `calculate_piece_range` (`content.rs`).

The loop of the source does not end for a piece length of zero, so the model gives it a
bound; `none` is a loop that has not ended.
-/

namespace DragonflyClient.Resource

open Storage Library List UInt64 Nat

structure Range where
  start : UInt64
  length : UInt64
  deriving DecidableEq, Repr

def wholePiece (pieceLength number offset : UInt64) : Piece :=
  { number := number.toUInt32, offset, length := pieceLength, digest := "", parentId := none
    finishedAt := none }

def cutLast (pieceLength contentLength offset : UInt64) (pieces : List Piece) :
    ClientResult (List Piece) :=
  match pieces.getLast? with
  | none => .error .invalidParameter
  | some piece =>
    .ok (pieces.dropLast ++ [{ piece with length := pieceLength + contentLength - offset }])

/-- Both loops of `calculate_interested`: `stops` is the second check of the loop with a
range, `pushes` its condition for the push. -/
def interestedLoop (pieceLength contentLength : UInt64) (stops pushes : UInt64 → Bool) :
    Nat → UInt64 → UInt64 → List Piece → Option (ClientResult (List Piece))
  | 0, _, _, _ => none
  | fuel + 1, number, offset, pieces =>
    if offset ≥ contentLength then some (cutLast pieceLength contentLength offset pieces)
    else if stops offset then some (.ok pieces)
    else
      interestedLoop pieceLength contentLength stops pushes fuel (number + 1)
        ((number + 1) * pieceLength)
        (if pushes offset then pieces ++ [wholePiece pieceLength number offset] else pieces)

def calculateInterested (pieceLength contentLength : UInt64) (range : Option Range) :
    Option (ClientResult (List Piece)) :=
  if contentLength = 0 then some (.ok [])
  else
    match range with
    | some range =>
      if range.length = 0 then some (.error .invalidParameter)
      else
        interestedLoop pieceLength contentLength (fun offset => offset ≥ range.start + range.length)
          (fun offset => offset + pieceLength > range.start) (contentLength.toNat + 1) 0 0 []
    | none =>
      interestedLoop pieceLength contentLength (fun _ => false) (fun _ => true)
        (contentLength.toNat + 1) 0 0 []

def calculatePieceRange (offset length : UInt64) (range : Option Range) : UInt64 × UInt64 :=
  match range with
  | some range =>
    let targetOffset := max offset range.start
    (targetOffset,
      min (offset + length - 1) (range.start + range.length - 1) - targetOffset + 1)
  | none => (offset, length)

def pieceOf (pieceLength contentLength : UInt64) (number : Nat) : Piece :=
  { number := UInt32.ofNat number
    offset := ofNat (number * pieceLength.toNat)
    length := ofNat (chunkLength contentLength.toNat pieceLength.toNat number)
    digest := "", parentId := none, finishedAt := none }

section Loop

variable {pieceLength contentLength : UInt64} {count : Nat}

/-- The sizes of a download none of whose sums and products overflow. -/
structure Sized (pieceLength contentLength : UInt64) (count : Nat) : Prop where
  positive : 0 < pieceLength.toNat
  bounded : pieceLength.toNat + contentLength.toNat < 2 ^ 64
  covers : Covers contentLength.toNat pieceLength.toNat count

namespace Sized

section

variable (sized : Sized pieceLength contentLength count)
include sized

theorem offset_lt {number} (within : number ≤ count) : number * pieceLength.toNat < 2 ^ 64 := by
  have bounded := sized.bounded
  cases number with
  | zero => simp
  | succ number =>
    have starts := sized.covers.starts number within
    rw [succ_mul]
    omega

theorem toNat_offset {number} (within : number ≤ count) :
    (ofNat (number * pieceLength.toNat)).toNat = number * pieceLength.toNat :=
  toNat_ofNat_of_lt' (sized.offset_lt within)

theorem offset_ge_iff {number} (within : number ≤ count) :
    ofNat (number * pieceLength.toNat) ≥ contentLength ↔ number = count := by
  rw [ge_iff_le, le_iff_toNat_le, sized.toNat_offset within]
  constructor
  · intro ended
    by_contra different
    have starts := sized.covers.starts number (by omega)
    omega
  · intro same
    rw [same]
    exact sized.covers.reaches

theorem wholePiece_eq {number} (inner : number + 1 < count) :
    wholePiece pieceLength (UInt64.ofNat number) (UInt64.ofNat (number * pieceLength.toNat)) =
      pieceOf pieceLength contentLength number := by
  have starts := sized.covers.starts (number + 1) inner
  rw [succ_mul] at starts
  have length : chunkLength contentLength.toNat pieceLength.toNat number = pieceLength.toNat := by
    unfold chunkLength
    omega
  simp only [wholePiece, pieceOf, length, UInt64.ofNat_toNat, UInt64.toUInt32_ofNat']

end

theorem last_length (sized : Sized pieceLength contentLength (count + 1)) :
    pieceLength + contentLength - UInt64.ofNat ((count + 1) * pieceLength.toNat) =
      UInt64.ofNat (chunkLength contentLength.toNat pieceLength.toNat count) := by
  have starts := sized.covers.starts count (by omega)
  have reaches := sized.covers.reaches
  have total : pieceLength.toNat + contentLength.toNat =
      chunkLength contentLength.toNat pieceLength.toNat count +
        (count + 1) * pieceLength.toNat := by
    unfold chunkLength
    rw [succ_mul] at reaches ⊢
    omega
  have same := congrArg UInt64.ofNat total
  rw [UInt64.ofNat_add, UInt64.ofNat_toNat, UInt64.ofNat_toNat, UInt64.ofNat_add] at same
  rw [same, UInt64.add_sub_cancel]

end Sized

def pushed (pieceLength : UInt64) (pushes : UInt64 → Bool) (number : Nat) : List Piece :=
  ((range number).filter fun piece => pushes (ofNat (piece * pieceLength.toNat))).map
    fun piece => wholePiece pieceLength (ofNat piece)
      (ofNat (piece * pieceLength.toNat))

def interesting (pieceLength contentLength : UInt64) (stops pushes : UInt64 → Bool)
    (count : Nat) : List Piece :=
  ((range count).filter fun piece =>
    pushes (ofNat (piece * pieceLength.toNat)) &&
      !stops (ofNat (piece * pieceLength.toNat))).map (pieceOf pieceLength contentLength)

theorem pushed_eq (sized : Sized pieceLength contentLength count) (pushes : UInt64 → Bool) {number}
    (inner : number < count) :
    pushed pieceLength pushes number =
      ((range number).filter fun piece =>
        pushes (ofNat (piece * pieceLength.toNat))).map
          (pieceOf pieceLength contentLength) := by
  apply map_congr_left
  intro piece listed
  have earlier := mem_range.mp (mem_filter.mp listed).1
  exact sized.wholePiece_eq (by omega)

theorem cutLast_pushed (sized : Sized pieceLength contentLength (count + 1)) {pushes}
    (last : pushes (ofNat (count * pieceLength.toNat)) = true) :
    cutLast pieceLength contentLength (ofNat ((count + 1) * pieceLength.toNat))
        (pushed pieceLength pushes (count + 1)) =
      .ok (((range (count + 1)).filter fun piece =>
        pushes (ofNat (piece * pieceLength.toNat))).map
          (pieceOf pieceLength contentLength)) := by
  have split : pushed pieceLength pushes (count + 1) = pushed pieceLength pushes count ++
      [wholePiece pieceLength (ofNat count) (ofNat (count * pieceLength.toNat))] := by
    simp only [pushed, range_succ, filter_append, filter_cons, last, if_true,
      filter_nil, map_append, map_cons, map_nil]
  rw [cutLast, split, getLast?_concat, dropLast_concat,
    pushed_eq sized pushes (lt_succ_self count), sized.last_length]
  simp only [range_succ, filter_append, filter_cons, last, if_true,
    filter_nil, map_append, map_cons, map_nil, pieceOf, wholePiece,
    toUInt32_ofNat']

/-- Once it has stopped, the loop would not have gone on. -/
def Monotone (pieceLength : UInt64) (stops : UInt64 → Bool) (count : Nat) : Prop :=
  ∀ first second, first ≤ second → second ≤ count →
    stops (ofNat (first * pieceLength.toNat)) = true →
      stops (ofNat (second * pieceLength.toNat)) = true

theorem pushed_succ (pieceLength : UInt64) (pushes : UInt64 → Bool) (number : Nat) :
    pushed pieceLength pushes (number + 1) =
      if pushes (ofNat (number * pieceLength.toNat)) then
        pushed pieceLength pushes number ++ [wholePiece pieceLength (ofNat number)
          (ofNat (number * pieceLength.toNat))]
      else pushed pieceLength pushes number := by
  simp only [pushed, range_succ, filter_append, filter_cons, filter_nil, map_append]
  split <;> simp only [map_cons, map_nil, append_nil]

/-- A loop that stops has pushed all there is: the rounds behind would have stopped too. -/
theorem interesting_of_stopped {stops pushes} (monotone : Monotone pieceLength stops count) {number}
    (within : number ≤ count)
    (going : ∀ piece < number, stops (ofNat (piece * pieceLength.toNat)) = false)
    (stopped : stops (ofNat (number * pieceLength.toNat)) = true) :
    interesting pieceLength contentLength stops pushes (count + 1) =
      ((range number).filter fun piece =>
        pushes (ofNat (piece * pieceLength.toNat))).map
          (pieceOf pieceLength contentLength) := by
  have split := range'_append_1 (s := 0) (m := number) (n := count + 1 - number)
  rw [Nat.zero_add, Nat.add_sub_cancel' (by omega), ← range_eq_range', ← range_eq_range'] at split
  have behind : (range' number (count + 1 - number)).filter (fun piece =>
      pushes (ofNat (piece * pieceLength.toNat)) &&
        !stops (ofNat (piece * pieceLength.toNat))) = [] := by
    rw [filter_eq_nil_iff]
    intro piece listed
    have later := mem_range'_1.mp listed
    rw [monotone number piece later.1 (by omega) stopped, Bool.not_true, Bool.and_false]
    exact Bool.false_ne_true
  rw [interesting, ← split, filter_append, behind, append_nil]
  congr 1
  apply filter_congr
  intro piece listed
  rw [going piece (mem_range.mp listed), Bool.not_false, Bool.and_true]

section

variable (sized : Sized pieceLength contentLength (count + 1))
include sized

/-- From each of its rounds on, the loop returns the pieces it is to push and no others. -/
theorem interestedLoop_eq {stops pushes} (monotone : Monotone pieceLength stops count)
    (last : pushes (UInt64.ofNat (count * pieceLength.toNat)) = true) {fuel number}
    (within : number ≤ count + 1) (enough : count + 1 - number < fuel)
    (going : ∀ piece < number, stops (UInt64.ofNat (piece * pieceLength.toNat)) = false) :
    interestedLoop pieceLength contentLength stops pushes fuel (UInt64.ofNat number)
        (UInt64.ofNat (number * pieceLength.toNat)) (pushed pieceLength pushes number) =
      some (.ok (interesting pieceLength contentLength stops pushes (count + 1))) := by
  induction fuel generalizing number with
  | zero => omega
  | succ fuel ih =>
    rw [interestedLoop]
    by_cases ended : number = count + 1
    · rw [if_pos ((sized.offset_ge_iff within).mpr ended)]
      subst ended
      rw [cutLast_pushed sized last, interesting]
      congr 3
      apply filter_congr
      intro piece listed
      rw [going piece (mem_range.mp listed), Bool.not_false, Bool.and_true]
    · rw [if_neg (fun reached => ended ((sized.offset_ge_iff within).mp reached))]
      split
      next stopped =>
        rw [pushed_eq sized pushes (by omega),
          interesting_of_stopped monotone (by omega) going stopped]
      next continues =>
        have next : UInt64.ofNat number + 1 = UInt64.ofNat (number + 1) := by
          rw [ofNat_add]
          rfl
        have offset : UInt64.ofNat (number + 1) * pieceLength =
            UInt64.ofNat ((number + 1) * pieceLength.toNat) := by
          rw [UInt64.ofNat_mul, UInt64.ofNat_toNat]
        rw [next, offset, ← pushed_succ]
        apply ih
        · omega
        · omega
        · intro piece earlier
          by_cases here : piece = number
          · rw [here]
            exact Bool.eq_false_iff.mpr continues
          · exact going piece (by omega)

theorem interestedLoop_start
    (stops pushes : UInt64 → Bool) (monotone : Monotone pieceLength stops count)
    (last : pushes (ofNat (count * pieceLength.toNat)) = true) :
    interestedLoop pieceLength contentLength stops pushes (contentLength.toNat + 1) 0 0 [] =
      some (.ok (interesting pieceLength contentLength stops pushes (count + 1))) := by
  have enough := sized.covers.count_le sized.positive
  have started := interestedLoop_eq sized monotone last (Nat.zero_le (count + 1))
    (Nat.lt_succ_of_le enough) (fun _ earlier => absurd earlier (Nat.not_lt_zero _))
  rw [Nat.zero_mul] at started
  exact started

theorem Sized.content_ne_zero : contentLength ≠ 0 := by
  have starts := sized.covers.starts 0 (by omega)
  rintro rfl
  simp at starts

theorem calculateInterested_none :
    calculateInterested pieceLength contentLength none =
      some (.ok ((range (count + 1)).map (pieceOf pieceLength contentLength))) := by
  rw [calculateInterested, if_neg sized.content_ne_zero]
  refine (interestedLoop_start sized (fun _ => false) (fun _ => true)
    (fun _ _ _ _ stopped => stopped) rfl).trans ?_
  simp only [interesting, Bool.not_false, Bool.and_true, filter_true]

end

def overlaps (range : Range) (piece : Piece) : Bool :=
  piece.offset.toNat < range.start.toNat + range.length.toNat ∧
    range.start.toNat < piece.offset.toNat + piece.length.toNat

namespace Sized

theorem toNat_length (sized : Sized pieceLength contentLength count) (number : Nat) :
    (pieceOf pieceLength contentLength number).length.toNat =
      chunkLength contentLength.toNat pieceLength.toNat number := by
  have bounded := sized.bounded
  have small : chunkLength contentLength.toNat pieceLength.toNat number < 2 ^ 64 := by
    unfold chunkLength
    omega
  exact toNat_ofNat_of_lt' small

theorem overlaps_iff (sized : Sized pieceLength contentLength count) {range number}
    (inside : number < count) :
    overlaps range (pieceOf pieceLength contentLength number) = true ↔
      number * pieceLength.toNat < range.start.toNat + range.length.toNat ∧
        range.start.toNat < number * pieceLength.toNat +
          chunkLength contentLength.toNat pieceLength.toNat number := by
  have offset : (pieceOf pieceLength contentLength number).offset.toNat =
      number * pieceLength.toNat := sized.toNat_offset (le_of_lt inside)
  simp only [overlaps, decide_eq_true_eq, sized.toNat_length, offset]

end Sized

theorem calculateInterested_some (sized : Sized pieceLength contentLength (count + 1)) {range}
    (asked : 0 < range.length.toNat) (inside : range.start < contentLength)
    (ends : range.start.toNat + range.length.toNat < 2 ^ 64) :
    calculateInterested pieceLength contentLength (some range) =
      some (.ok (((List.range (count + 1)).map (pieceOf pieceLength contentLength)).filter
        (overlaps range))) := by
  have bounded := sized.bounded
  rw [lt_iff_toNat_lt] at inside
  have ending : (range.start + range.length).toNat = range.start.toNat + range.length.toNat := by
    rw [UInt64.toNat_add, mod_eq_of_lt ends]
  have stops {number : Nat} (within : number ≤ count + 1) :
      UInt64.ofNat (number * pieceLength.toNat) ≥ range.start + range.length ↔
        range.start.toNat + range.length.toNat ≤ number * pieceLength.toNat := by
    rw [ge_iff_le, le_iff_toNat_le, ending, sized.toNat_offset within]
  have pushes {number : Nat} (within : number < count + 1) :
      UInt64.ofNat (number * pieceLength.toNat) + pieceLength > range.start ↔
        range.start.toNat < number * pieceLength.toNat + pieceLength.toNat := by
    have starts := sized.covers.starts number within
    rw [gt_iff_lt, UInt64.lt_iff_toNat_lt, UInt64.toNat_add,
      sized.toNat_offset (le_of_lt within), mod_eq_of_lt (by omega)]
  have nonempty : range.length ≠ 0 := by
    rintro zero
    rw [zero] at asked
    exact lt_irrefl 0 asked
  rw [calculateInterested, if_neg sized.content_ne_zero]
  simp only [nonempty, if_false]
  rw [interestedLoop_start sized]
  · rw [interesting, filter_map]
    congr 3
    apply filter_congr
    intro number listed
    have within := mem_range.mp listed
    rw [Bool.eq_iff_iff, Function.comp_apply, sized.overlaps_iff within]
    simp only [Bool.and_eq_true, decide_eq_true_eq, pushes within, Bool.not_eq_true',
      decide_eq_false_iff_not, stops (le_of_lt within), not_le]
    unfold chunkLength
    omega
  · intro first second order within
    have grows := mul_le_mul_right pieceLength.toNat order
    simp only [decide_eq_true_eq, stops (le_succ_of_le (le_trans order within)),
      stops (le_succ_of_le within)]
    omega
  · have reaches := sized.covers.reaches
    rw [succ_mul] at reaches
    simp only [decide_eq_true_eq, pushes (lt_succ_self count)]
    omega

end Loop

def span (offset length : UInt64) : List Nat := range' offset.toNat length.toNat

theorem toNat_end {offset length : UInt64} (nonempty : 0 < length.toNat)
    (bounded : offset.toNat + length.toNat < 2 ^ 64) :
    (offset + length - 1).toNat = offset.toNat + length.toNat - 1 := by
  have total : (offset + length).toNat = offset.toNat + length.toNat := by
    rw [UInt64.toNat_add, mod_eq_of_lt bounded]
  rw [UInt64.toNat_sub_of_le _ _ (by rw [UInt64.le_iff_toNat_le, total, UInt64.toNat_one]; omega),
    total, UInt64.toNat_one]

theorem span_calculatePieceRange {piece range} (nonempty : 0 < piece.length.toNat)
    (asked : 0 < range.length.toNat) (bounded : piece.offset.toNat + piece.length.toNat < 2 ^ 64)
    (ends : range.start.toNat + range.length.toNat < 2 ^ 64)
    (overlap : overlaps range piece = true) :
    span (calculatePieceRange piece.offset piece.length (some range)).1
        (calculatePieceRange piece.offset piece.length (some range)).2 =
      range' (max piece.offset.toNat range.start.toNat)
        (min (piece.offset.toNat + piece.length.toNat) (range.start.toNat + range.length.toNat) -
          max piece.offset.toNat range.start.toNat) := by
  simp only [overlaps, decide_eq_true_eq] at overlap
  have last : (min (piece.offset + piece.length - 1) (range.start + range.length - 1)).toNat =
      min (piece.offset.toNat + piece.length.toNat - 1)
        (range.start.toNat + range.length.toNat - 1) := by
    rw [UInt64.toNat_min, toNat_end nonempty bounded, toNat_end asked ends]
  have ordered : max piece.offset range.start ≤
      min (piece.offset + piece.length - 1) (range.start + range.length - 1) := by
    rw [UInt64.le_iff_toNat_le, last, UInt64.toNat_max]
    omega
  simp only [span, calculatePieceRange]
  rw [UInt64.toNat_add, UInt64.toNat_sub_of_le _ _ ordered, last, UInt64.toNat_max,
    UInt64.toNat_one]
  congr 1
  omega

namespace Sized

variable {pieceLength contentLength : UInt64} {count : Nat}

theorem of_bounded (cut : 1 ≤ pieceLength) (content : 1 ≤ contentLength)
    (bounded : pieceLength.toNat + contentLength.toNat < 2 ^ 64) :
    ∃ count, Sized pieceLength contentLength (count + 1) := by
  have covers := Covers.of_div contentLength.toNat cut
  obtain ⟨count, same⟩ := exists_eq_succ_of_ne_zero
    (pos_iff_ne_zero.mp (covers.positive content))
  rw [same] at covers
  exact ⟨count, cut, bounded, covers⟩

theorem length_pos (sized : Sized pieceLength contentLength count) {number}
    (inside : number < count) : 0 < (pieceOf pieceLength contentLength number).length.toNat := by
  rw [sized.toNat_length]
  exact sized.covers.chunkLength_pos sized.positive inside

theorem end_le (sized : Sized pieceLength contentLength count) {number} (inside : number < count) :
    (pieceOf pieceLength contentLength number).offset.toNat +
      (pieceOf pieceLength contentLength number).length.toNat ≤ contentLength.toNat := by
  have starts := sized.covers.starts number inside
  rw [sized.toNat_length, pieceOf, sized.toNat_offset (le_of_lt inside)]
  unfold chunkLength
  omega

section

variable (sized : Sized pieceLength contentLength (count + 1))
include sized

/-- With at most `2 ^ 32` pieces the cast of the number loses nothing. -/
theorem numbers (few : contentLength.toNat ≤ 2 ^ 32 * pieceLength.toNat) :
    ((range (count + 1)).map (pieceOf pieceLength contentLength)).map (·.number.toNat) =
      range (count + 1) := by
  have starts := sized.covers.starts count (Nat.lt_succ_self count)
  have small : count < 2 ^ 32 := Nat.lt_of_mul_lt_mul_right (Nat.lt_of_lt_of_le starts few)
  rw [map_map]
  refine (map_congr_left ?_).trans (map_id _)
  intro number listed
  have inside := mem_range.mp listed
  have fits : number < 2 ^ 32 := by omega
  exact UInt32.toNat_ofNat_of_lt' fits

theorem flatMap_span :
    ((range (count + 1)).map (pieceOf pieceLength contentLength)).flatMap
        (fun piece => span piece.offset piece.length) = range contentLength.toNat := by
  have reaches := sized.covers.reaches
  have window := flatMap_window contentLength.toNat pieceLength.toNat 0 contentLength.toNat
    (count + 1)
  rw [Nat.min_eq_right reaches, Nat.min_self, Nat.sub_zero, ← range_eq_range'] at window
  rw [flatMap_map, ← window]
  apply flatMap_congr
  intro number listed
  have inside := mem_range.mp listed
  rw [span, sized.toNat_length, pieceOf, sized.toNat_offset (Nat.le_of_lt inside)]
  unfold chunkLength
  congr 1
  · omega
  · omega

theorem flatMap_parts {range} (asked : 0 < range.length.toNat)
    (ends : range.start.toNat + range.length.toNat < 2 ^ 64) :
    (((List.range (count + 1)).map (pieceOf pieceLength contentLength)).filter
        (overlaps range)).flatMap (fun piece =>
          span (calculatePieceRange piece.offset piece.length (some range)).1
            (calculatePieceRange piece.offset piece.length (some range)).2) =
      List.range' range.start.toNat
        (min (range.start.toNat + range.length.toNat) contentLength.toNat - range.start.toNat) := by
  have reaches := sized.covers.reaches
  have bounded := sized.bounded
  have window := flatMap_window contentLength.toNat pieceLength.toNat range.start.toNat
    (range.start.toNat + range.length.toNat) (count + 1)
  rw [min_eq_right reaches, min_comm] at window
  rw [← window, filter_map, flatMap_map]
  apply flatMap_filter_eq
  · intro number listed overlap
    have inside := mem_range.mp listed
    have ending := sized.end_le inside
    rw [span_calculatePieceRange (sized.length_pos inside) asked (by omega) ends overlap,
      sized.toNat_length, pieceOf, sized.toNat_offset (le_of_lt inside)]
  · intro number listed apart
    have inside := mem_range.mp listed
    rw [Function.comp_apply, Bool.eq_false_iff, Ne, sized.overlaps_iff inside] at apart
    have nothing : min (number * pieceLength.toNat +
        chunkLength contentLength.toNat pieceLength.toNat number)
          (range.start.toNat + range.length.toNat) -
        max (number * pieceLength.toNat) range.start.toNat = 0 := by omega
    rw [nothing, range'_zero]

end

end Sized

section Returned

variable {pieceLength contentLength : UInt64}

/-- The loop does not end without a piece length: it stays at the offset zero. -/
theorem interestedLoop_zero (content : contentLength ≠ 0) (fuel : Nat) (number : UInt64)
    (pieces : List Piece) :
    interestedLoop 0 contentLength (fun _ => false) (fun _ => true) fuel number 0 pieces =
      none := by
  induction fuel generalizing number pieces with
  | zero => rfl
  | succ fuel ih =>
    have going : ¬ (0 : UInt64) ≥ contentLength := by
      intro ended
      exact content (UInt64.le_antisymm ended (UInt64.zero_le))
    rw [interestedLoop, if_neg going]
    simpa using ih (number + 1) _

theorem sized_of_interested {pieces} (content : contentLength ≠ 0)
    (bounded : pieceLength.toNat + contentLength.toNat < 2 ^ 64)
    (interested : calculateInterested pieceLength contentLength none = some (.ok pieces)) :
    ∃ count, Sized pieceLength contentLength (count + 1) ∧
      pieces = (range (count + 1)).map (pieceOf pieceLength contentLength) := by
  have cut : pieceLength ≠ 0 := by
    rintro rfl
    rw [calculateInterested, if_neg content] at interested
    simp only [interestedLoop_zero content, reduceCtorEq] at interested
  have positive {length : UInt64} (nonzero : length ≠ 0) : 1 ≤ length := by
    exact pos_of_ne_zero fun zero => nonzero (UInt64.toNat_inj.mp zero)
  obtain ⟨count, sized⟩ := Sized.of_bounded (positive cut) (positive content) bounded
  rw [calculateInterested_none sized, Option.some.injEq, Except.ok.injEq] at interested
  exact ⟨count, sized, interested.symm⟩

theorem end_le_of_interested {pieces piece}
    (bounded : pieceLength.toNat + contentLength.toNat < 2 ^ 64)
    (interested : calculateInterested pieceLength contentLength none = some (.ok pieces))
    (listed : piece ∈ pieces) :
    piece.offset.toNat + piece.length.toNat ≤ contentLength.toNat := by
  by_cases content : contentLength = 0
  · rw [calculateInterested, if_pos content, Option.some.injEq, Except.ok.injEq] at interested
    rw [← interested] at listed
    cases listed
  · obtain ⟨count, sized, rfl⟩ := sized_of_interested content bounded interested
    obtain ⟨number, among, rfl⟩ := mem_map.mp listed
    exact sized.end_le (mem_range.mp among)

end Returned

/-- The pieces of a content follow each other without a gap, and the parts that a range asks
for of the pieces it overlaps are the range, up to the end of the content. -/
theorem range_assembly_exact (pieceLength contentLength : UInt64) (range : Range)
    (cut : 1 ≤ pieceLength) (content : 1 ≤ contentLength) (asked : 1 ≤ range.length)
    (inside : range.start < contentLength) (few : contentLength.toNat ≤ 2 ^ 32 * pieceLength.toNat)
    (bounded : pieceLength.toNat + contentLength.toNat < 2 ^ 64)
    (ends : range.start.toNat + range.length.toNat < 2 ^ 64) :
    ∃ whole parts, calculateInterested pieceLength contentLength none = some (.ok whole) ∧
      calculateInterested pieceLength contentLength (some range) = some (.ok parts) ∧
      whole.map (·.number.toNat) = List.range whole.length ∧
      (∀ piece ∈ whole, 0 < piece.length) ∧
      whole.flatMap (fun piece => span piece.offset piece.length) = List.range contentLength.toNat ∧
      parts = whole.filter (overlaps range) ∧
      parts.flatMap (fun piece =>
          span (calculatePieceRange piece.offset piece.length (some range)).1
            (calculatePieceRange piece.offset piece.length (some range)).2) =
        List.range' range.start.toNat
          (min (range.start.toNat + range.length.toNat) contentLength.toNat -
            range.start.toNat) := by
  obtain ⟨count, sized⟩ := Sized.of_bounded cut content bounded
  rw [le_iff_toNat_le, toNat_one] at asked
  refine ⟨_, _, calculateInterested_none sized, calculateInterested_some sized asked inside ends,
    ?_, ?_, sized.flatMap_span, rfl, sized.flatMap_parts asked ends⟩
  · rw [sized.numbers few, length_map, length_range]
  · intro piece listed
    obtain ⟨number, among, rfl⟩ := mem_map.mp listed
    exact lt_iff_toNat_lt.mpr (sized.length_pos (mem_range.mp among))

theorem range_assembly_exact_of_ten :
    ∃ whole parts, calculateInterested 4 10 none = some (.ok whole) ∧
      calculateInterested 4 10 (some ⟨3, 5⟩) = some (.ok parts) ∧
      parts = whole.filter (overlaps ⟨3, 5⟩) ∧
      parts.flatMap (fun piece =>
          span (calculatePieceRange piece.offset piece.length (some ⟨3, 5⟩)).1
            (calculatePieceRange piece.offset piece.length (some ⟨3, 5⟩)).2) =
        [3, 4, 5, 6, 7] := by
  obtain ⟨whole, parts, all, some, -, -, -, among, joined⟩ :=
    range_assembly_exact 4 10 ⟨3, 5⟩ (by decide) (by decide) (by decide) (by decide) (by decide)
      (by decide) (by decide)
  exact ⟨whole, parts, all, some, among, joined⟩

end DragonflyClient.Resource
