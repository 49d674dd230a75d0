import Mathlib.Data.Int.Log
import Mathlib.Data.Rat.Floor

/-!
Rounding to the binary64 format, on rational numbers of its normal range: a significand of 53
bits, to the nearest, ties to the even one.
-/

namespace DragonflyClient.Library

def roundHalfEven (value : ℚ) : ℤ :=
  if value - ⌊value⌋ < 1 / 2 ∨ (value - ⌊value⌋ = 1 / 2 ∧ ⌊value⌋ % 2 = 0) then ⌊value⌋
  else ⌊value⌋ + 1

/-- The distance of the numbers around a value that have a significand of 53 bits. -/
def spacing (value : ℚ) : ℚ := 2 ^ (Int.log 2 value - 52)

def binary64 (value : ℚ) : ℚ := roundHalfEven (value / spacing value) * spacing value

variable {value : ℚ}

theorem spacing_pos (value : ℚ) : 0 < spacing value := zpow_pos (by norm_num) _

@[simp]
theorem roundHalfEven_intCast (number : ℤ) : roundHalfEven number = number := by
  simp [roundHalfEven]

theorem floor_le_roundHalfEven (value : ℚ) : ⌊value⌋ ≤ roundHalfEven value := by
  unfold roundHalfEven
  split <;> omega

theorem roundHalfEven_le (value : ℚ) : (roundHalfEven value : ℚ) ≤ value + 1 / 2 := by
  have below := Int.floor_le value
  unfold roundHalfEven
  split
  next => linarith
  next far =>
    push Not at far
    push_cast
    linarith [far.1]

/-- Below 2 ^ 53 whole numbers are multiples of the spacing. -/
theorem intCast_div_spacing (fits : Int.log 2 value ≤ 52) (number : ℤ) :
    ∃ multiple : ℤ, number / spacing value = multiple := by
  obtain ⟨shift, same⟩ := Int.eq_ofNat_of_zero_le (sub_nonneg.mpr fits)
  refine ⟨number * 2 ^ shift, ?_⟩
  rw [spacing, ← neg_sub, same, zpow_neg, div_inv_eq_mul, zpow_natCast]
  push_cast
  rfl

theorem binary64_intCast {number : ℤ} (fits : Int.log 2 (number : ℚ) ≤ 52) :
    binary64 number = number := by
  obtain ⟨multiple, same⟩ := intCast_div_spacing fits number
  rw [binary64, same, roundHalfEven_intCast, ← same, div_mul_cancel₀ _ (spacing_pos _).ne']

/-- Rounding does not reach a whole number that is farther than half of the spacing. -/
theorem floor_binary64 {number : ℤ} (below : number ≤ value)
    (above : value + spacing value / 2 < number + 1) (fits : Int.log 2 value ≤ 52) :
    ⌊binary64 value⌋ = number := by
  have positive := spacing_pos value
  obtain ⟨multiple, whole⟩ := intCast_div_spacing fits number
  rw [Int.floor_eq_iff, binary64]
  constructor
  · rw [← div_le_iff₀ positive, whole, Int.cast_le]
    refine le_trans (Int.le_floor.mpr ?_) (floor_le_roundHalfEven _)
    rw [← whole]
    exact div_le_div_of_nonneg_right below positive.le
  · calc roundHalfEven (value / spacing value) * spacing value
        ≤ (value / spacing value + 1 / 2) * spacing value :=
          mul_le_mul_of_nonneg_right (roundHalfEven_le _) positive.le
      _ = value + spacing value / 2 := by
          rw [add_mul, div_mul_cancel₀ _ positive.ne']
          ring
      _ < number + 1 := above

end DragonflyClient.Library
