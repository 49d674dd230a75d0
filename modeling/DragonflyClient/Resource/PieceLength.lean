import DragonflyClient.Library.Binary64
import DragonflyClient.Resource.TaskDownload

/-!
The automatic piece length: `Piece::calculate_piece_length` (`resource/piece.rs`).

The quotient by the maximum piece count is cut to a whole number before it is rounded up to a power
of two, so a content that is a little too long for a power of two gets one piece too many.
-/

namespace DragonflyClient.Resource

open Storage Library List UInt64

def maxPieceLength : UInt64 := 64 * 1024 * 1024

def maxPieceCount : UInt64 := 500

inductive PieceLengthStrategy where
  | optimizeByFileLength (contentLength : UInt64)
  | fixedPieceLength (pieceLength : UInt64)

/-- `as u64` of a number that is not negative. -/
def asU64 (value : ℚ) : UInt64 := ofNat (min ⌊value⌋₊ (2 ^ 64 - 1))

def nextPowerOfTwo (value : UInt64) : UInt64 := ofNat (2 ^ Nat.clog 2 value.toNat)

def calculatePieceLength : PieceLengthStrategy → UInt64
  | .optimizeByFileLength contentLength =>
    let pieceLength :=
      asU64 (binary64 (binary64 contentLength.toNat / binary64 maxPieceCount.toNat))
    let actualPieceLength := nextPowerOfTwo pieceLength
    match decide (actualPieceLength > minPieceLength),
      decide (actualPieceLength < maxPieceLength) with
    | true, true => actualPieceLength
    | _, false => maxPieceLength
    | false, _ => minPieceLength
  | .fixedPieceLength pieceLength => pieceLength

theorem log_lt_of_lt {value : ℚ} (bits : Nat) (positive : 0 < value) (small : value < 2 ^ bits) :
    Int.log 2 value < bits := by
  refine (Int.lt_zpow_iff_log_lt (by norm_num) positive).mp ?_
  exact_mod_cast small

theorem binary64_natCast {number : Nat} (positive : 0 < number) (small : number < 2 ^ 53) :
    binary64 number = number := by
  have fits : Int.log 2 (((number : ℤ) : ℚ)) ≤ 52 :=
    Int.le_of_lt_add_one (log_lt_of_lt 53 (by exact_mod_cast positive) (by exact_mod_cast small))
  exact binary64_intCast fits

/-- Up to 53 bits the rounded quotient is cut to the whole quotient: 499 / 500 is farther from one
than half of the spacing, which is 2 ^ -8 at most. -/
theorem floor_quotient {length : Nat} (positive : 0 < length) (small : length < 2 ^ 53) :
    ⌊binary64 (binary64 length / binary64 (500 : Nat))⌋₊ = length / 500 := by
  rw [binary64_natCast positive small, binary64_natCast (by norm_num) (by norm_num)]
  have least : (0 : ℚ) < length := by exact_mod_cast positive
  have most : (length : ℚ) < 2 ^ 53 := by exact_mod_cast small
  obtain ⟨quotient, rest, few, rfl⟩ :
      ∃ quotient rest, rest < 500 ∧ 500 * quotient + rest = length :=
    ⟨length / 500, length % 500, Nat.mod_lt _ (by norm_num), Nat.div_add_mod length 500⟩
  have most' : (rest : ℚ) ≤ 499 := by exact_mod_cast Nat.le_of_lt_succ few
  have same : (((500 * quotient + rest : Nat) : ℚ) / (500 : Nat)) = quotient + rest / 500 := by
    push_cast
    ring
  rw [same]
  push_cast at least most
  have log : Int.log 2 ((quotient : ℚ) + rest / 500) < (45 : Nat) :=
    log_lt_of_lt 45 (by linarith) (by linarith)
  have near : spacing ((quotient : ℚ) + rest / 500) ≤ 2 ^ (-8 : ℤ) :=
    zpow_le_zpow_right₀ (by norm_num) (by omega)
  have whole : ⌊binary64 ((quotient : ℚ) + rest / 500)⌋ = (quotient : ℤ) :=
    floor_binary64 (by push_cast; linarith) (by push_cast; linarith) (by omega)
  rw [← Int.floor_toNat, whole, Int.toNat_natCast]
  omega

section Length

variable {contentLength : UInt64} (positive : 1 ≤ contentLength.toNat)
  (small : contentLength.toNat < 2 ^ 53)
include positive small

theorem toNat_calculatePieceLength :
    (calculatePieceLength (.optimizeByFileLength contentLength)).toNat =
      2 ^ min (max (Nat.clog 2 (contentLength.toNat / 500)) 22) 26 := by
  have quotient : (asU64 (binary64 (binary64 contentLength.toNat /
      binary64 maxPieceCount.toNat))).toNat = contentLength.toNat / 500 := by
    have count : maxPieceCount.toNat = 500 := rfl
    rw [asU64, count, floor_quotient positive small, toNat_ofNat_of_lt']
    · omega
    · simp only [size]
      omega
  have bounded : Nat.clog 2 (contentLength.toNat / 500) ≤ 45 := Nat.clog_le_of_le_pow (by omega)
  have actual : (nextPowerOfTwo (asU64 (binary64 (binary64 contentLength.toNat /
      binary64 maxPieceCount.toNat)))).toNat = 2 ^ Nat.clog 2 (contentLength.toNat / 500) := by
    have room : 2 ^ Nat.clog 2 (contentLength.toNat / 500) < 2 ^ 64 :=
      Nat.pow_lt_pow_right Nat.one_lt_two (by omega)
    rw [nextPowerOfTwo, quotient]
    exact toNat_ofNat_of_lt' room
  simp only [calculatePieceLength]
  generalize nextPowerOfTwo _ = power at actual
  generalize Nat.clog 2 (contentLength.toNat / 500) = exponent at actual
  have low : minPieceLength < power ↔ 22 < exponent := by
    rw [lt_iff_toNat_lt, actual]
    exact Nat.pow_lt_pow_iff_right (n := 22) Nat.one_lt_two
  have high : power < maxPieceLength ↔ exponent < 26 := by
    rw [lt_iff_toNat_lt, actual]
    exact Nat.pow_lt_pow_iff_right (m := 26) Nat.one_lt_two
  simp only [gt_iff_lt, low, high]
  split
  next above below =>
    simp only [decide_eq_true_eq] at above below
    rw [actual]
    congr 1
    omega
  next above =>
    simp only [decide_eq_false_iff_not, Nat.not_lt] at above
    rw [Nat.min_eq_right (by omega)]
    rfl
  next below _ =>
    simp only [decide_eq_false_iff_not, Nat.not_lt] at below
    rw [Nat.max_eq_right below]
    rfl

end Length

section Count

variable {pieceLength contentLength : UInt64} {count : Nat}

theorem length_cutLast {offset pieces result}
    (cut : cutLast pieceLength contentLength offset pieces = .ok result) :
    result.length = pieces.length := by
  unfold cutLast at cut
  split at cut
  next => cases cut
  next piece last =>
    cases cut
    have some : pieces ≠ [] := by
      rintro rfl
      cases last
    simp [Nat.sub_add_cancel (length_pos_of_ne_nil some)]

theorem length_interestedLoop (sized : Sized pieceLength contentLength count)
    {stops pushes fuel number pieces result} (within : number ≤ count)
    (ended : interestedLoop pieceLength contentLength stops pushes fuel (UInt64.ofNat number)
      (UInt64.ofNat (number * pieceLength.toNat)) pieces = some (.ok result)) :
    result.length + number ≤ pieces.length + count := by
  induction fuel generalizing number pieces with
  | zero => cases ended
  | succ fuel ih =>
    rw [interestedLoop] at ended
    split at ended
    next =>
      have same := length_cutLast (Option.some.inj ended)
      omega
    next going =>
      have inner : number ≠ count := fun last => going ((sized.offset_ge_iff within).mpr last)
      split at ended
      next =>
        cases ended
        omega
      next =>
        have next : UInt64.ofNat number + 1 = UInt64.ofNat (number + 1) := by
          rw [ofNat_add]
          rfl
        have offset : UInt64.ofNat (number + 1) * pieceLength =
            UInt64.ofNat ((number + 1) * pieceLength.toNat) := by
          rw [UInt64.ofNat_mul, UInt64.ofNat_toNat]
        rw [next, offset] at ended
        have rest := ih (by omega) ended
        split at rest
        · rw [length_append, length_singleton] at rest
          omega
        · omega

theorem length_calculateInterested (sized : Sized pieceLength contentLength count) {range pieces}
    (interested : calculateInterested pieceLength contentLength range = some (.ok pieces)) :
    pieces.length ≤ count := by
  have zero : ofNat (0 * pieceLength.toNat) = 0 := by
    rw [Nat.zero_mul]
    rfl
  have started {stops pushes : UInt64 → Bool} {fuel : Nat}
      (ended : interestedLoop pieceLength contentLength stops pushes fuel (ofNat 0) 0 [] =
        some (.ok pieces)) : pieces.length ≤ count := by
    rw [← zero] at ended
    simpa using length_interestedLoop sized (Nat.zero_le _) ended
  unfold calculateInterested at interested
  split at interested
  next =>
    cases interested
    exact Nat.zero_le _
  next =>
    split at interested
    next range =>
      split at interested
      next => cases interested
      next => exact started interested
    next => exact started interested

theorem pieces_le_iff (sized : Sized pieceLength contentLength (count + 1)) (bound : Nat) :
    (∀ range pieces, calculateInterested pieceLength contentLength range = some (.ok pieces) →
      pieces.length ≤ bound) ↔ contentLength.toNat ≤ bound * pieceLength.toNat := by
  constructor
  · intro bounded
    have all := bounded none _ (calculateInterested_none sized)
    rw [length_map, length_range] at all
    exact sized.covers.reaches.trans (Nat.mul_le_mul_right _ all)
  · intro reaches range pieces interested
    refine (length_calculateInterested sized interested).trans (Nat.le_of_not_lt fun more => ?_)
    exact absurd reaches (Nat.not_le_of_lt (sized.covers.starts bound more))

end Count

theorem sized_calculatePieceLength {contentLength} (positive : 1 ≤ contentLength.toNat)
    (small : contentLength.toNat < 2 ^ 53) :
    ∃ count, Sized (calculatePieceLength (.optimizeByFileLength contentLength)) contentLength
      (count + 1) := by
  have length := toNat_calculatePieceLength positive small
  have most : 2 ^ min (max (Nat.clog 2 (contentLength.toNat / 500)) 22) 26 ≤ 2 ^ 26 :=
    Nat.pow_le_pow_right (by norm_num) (Nat.min_le_right _ _)
  refine Sized.of_bounded ?_ ?_ (by omega)
  · rw [le_iff_toNat_le, length]
    exact Nat.one_le_two_pow
  · exact positive

/-- The automatic piece length is a power of two between the bounds.  Below the largest it keeps
the number of pieces within `MAX_PIECE_COUNT` unless the whole quotient is itself a power of two
that is used as it is, and there is a rest. -/
theorem piece_count_bounded_iff (contentLength : UInt64) (positive : 1 ≤ contentLength.toNat)
    (small : contentLength.toNat < 2 ^ 53) :
    (let pieceLength := calculatePieceLength (.optimizeByFileLength contentLength)
    (∃ exponent, pieceLength.toNat = 2 ^ exponent) ∧ minPieceLength ≤ pieceLength ∧
      pieceLength ≤ maxPieceLength ∧
      (∃ pieces, calculateInterested pieceLength contentLength none = some (.ok pieces)) ∧
      ((pieceLength < maxPieceLength → ∀ range pieces,
          calculateInterested pieceLength contentLength range = some (.ok pieces) →
          pieces.length ≤ maxPieceCount.toNat) ↔
        (contentLength.toNat / 500 ∈ [2 ^ 22, 2 ^ 23, 2 ^ 24, 2 ^ 25] →
          contentLength.toNat % 500 = 0))) := by
  intro pieceLength
  obtain ⟨count, sized⟩ := sized_calculatePieceLength positive small
  have length : pieceLength.toNat = _ := toNat_calculatePieceLength positive small
  have least := Nat.le_pow_clog Nat.one_lt_two (contentLength.toNat / 500)
  have powers (exponent : Nat) : contentLength.toNat / 500 = 2 ^ exponent →
      Nat.clog 2 (contentLength.toNat / 500) = exponent := by
    intro same
    rw [same, Nat.clog_pow 2 exponent Nat.one_lt_two]
  generalize Nat.clog 2 (contentLength.toNat / 500) = exponent at length least powers
  have low : 2 ^ 22 ≤ 2 ^ min (max exponent 22) 26 := Nat.pow_le_pow_right (by norm_num) (by omega)
  have high : 2 ^ min (max exponent 22) 26 ≤ 2 ^ 26 :=
    Nat.pow_le_pow_right (by norm_num) (Nat.min_le_right _ _)
  refine ⟨⟨_, length⟩, le_iff_toNat_le.mpr (length ▸ low),
    le_iff_toNat_le.mpr (length ▸ high), ⟨_, calculateInterested_none sized⟩, ?_⟩
  have below : pieceLength < maxPieceLength ↔ exponent < 26 := by
    rw [lt_iff_toNat_lt, length]
    refine (Nat.pow_lt_pow_iff_right (m := 26) Nat.one_lt_two).trans ?_
    omega
  rw [pieces_le_iff sized, below, length]
  have parts := Nat.div_add_mod contentLength.toNat 500
  have count : maxPieceCount.toNat = 500 := rfl
  rw [count]
  constructor
  · intro bounded listed
    obtain ⟨power, between, same⟩ :
        ∃ power, (22 ≤ power ∧ power < 26) ∧ contentLength.toNat / 500 = 2 ^ power := by
      simp only [mem_cons, not_mem_nil, or_false] at listed
      rcases listed with same | same | same | same
      · exact ⟨22, by omega, same⟩
      · exact ⟨23, by omega, same⟩
      · exact ⟨24, by omega, same⟩
      · exact ⟨25, by omega, same⟩
    obtain rfl := powers power same
    have fits := bounded between.2
    rw [Nat.max_eq_left between.1, Nat.min_eq_left between.2.le] at fits
    omega
  · intro whole inner
    have used : min (max exponent 22) 26 = max exponent 22 := by omega
    have reaches : contentLength.toNat / 500 ≤ 2 ^ max exponent 22 :=
      least.trans (Nat.pow_le_pow_right (by norm_num) (Nat.le_max_left _ _))
    rw [used]
    by_cases same : contentLength.toNat / 500 = 2 ^ max exponent 22
    · have rest : contentLength.toNat % 500 = 0 := by
        apply whole
        rw [same]
        have few : max exponent 22 = 22 ∨ max exponent 22 = 23 ∨ max exponent 22 = 24 ∨
            max exponent 22 = 25 := by omega
        rcases few with power | power | power | power <;> simp [power]
      omega
    · omega

namespace Small

/-- One byte more than 500 pieces of eight mebibytes. -/
def overlong : UInt64 := 4194304001

theorem toNat_overlong : overlong.toNat = 500 * 2 ^ 23 + 1 := rfl

theorem calculatePieceLength_overlong :
    calculatePieceLength (.optimizeByFileLength overlong) = 8388608 := by
  apply UInt64.toNat_inj.mp
  rw [toNat_calculatePieceLength (by decide) (by decide), toNat_overlong]
  rfl

end Small

/-- Three gigabytes are cut into 358 pieces of the second smallest length. -/
theorem piece_count_bounded_iff_gigabytes :
    let pieceLength := calculatePieceLength (.optimizeByFileLength 3000000000)
    pieceLength = 2 * minPieceLength ∧
      ∃ pieces, calculateInterested pieceLength 3000000000 none = some (.ok pieces) ∧
        pieces.length ≤ maxPieceCount.toNat := by
  intro pieceLength
  have positive : 1 ≤ (3000000000 : UInt64).toNat := by decide
  have small : (3000000000 : UInt64).toNat < 2 ^ 53 := by decide
  obtain ⟨-, -, -, ⟨pieces, interested⟩, bounded⟩ :=
    piece_count_bounded_iff 3000000000 positive small
  have length : pieceLength.toNat = 2 ^ min (max (Nat.clog 2 (3000000000 / 500)) 22) 26 :=
    toNat_calculatePieceLength positive small
  have doubled : pieceLength = 2 * minPieceLength := by
    rw [← UInt64.toNat_inj, length]
    decide
  have below : pieceLength < maxPieceLength := by
    rw [doubled]
    decide
  exact ⟨doubled, pieces, interested, bounded.mpr (by decide) below none pieces interested⟩

/-- 501 pieces, though larger ones were to be had. -/
theorem piece_count_exceeded :
    let pieceLength := calculatePieceLength (.optimizeByFileLength Small.overlong)
    pieceLength < maxPieceLength ∧
      ∃ pieces, calculateInterested pieceLength Small.overlong none = some (.ok pieces) ∧
        pieces.length = maxPieceCount.toNat + 1 := by
  intro pieceLength
  have length : pieceLength = 8388608 := Small.calculatePieceLength_overlong
  rw [length]
  have sized : Sized 8388608 Small.overlong (500 + 1) := by
    refine ⟨by decide, by decide, by decide, fun chunk inside => ?_⟩
    have size : (8388608 : UInt64).toNat = 2 ^ 23 := rfl
    rw [Small.toNat_overlong, size]
    omega
  exact ⟨by decide, _, calculateInterested_none sized, by simp; rfl⟩

end DragonflyClient.Resource
