import Mathlib.Data.Int.Log
import Mathlib.Data.Rat.Floor
import Mathlib.Tactic.Linarith
import Mathlib.Tactic.NormNum
import Mathlib.Tactic.Ring

/-!
Machine numbers against exact arithmetic. While nothing wraps around, words compute in
the integers, and a shift to the right loses less than one. A double loses a 2^53rd
part of its size with every operation.
-/

namespace AirMonitor.Numbers

/-! Words that do not wrap around. -/

def Fits (value : Int) : Prop := -2147483648 ≤ value ∧ value < 2147483648

theorem fits_bmod (value : Int) (fits : Fits value) : value.bmod (2 ^ 32) = value :=
  Int.bmod_eq_of_le (by simpa using fits.1) (by simpa using fits.2)

section Words
variable (left right : Int32) (one two : Int)

theorem add_exact (first : left.toInt = one) (second : right.toInt = two)
    (fits : Fits (one + two)) : (left + right).toInt = one + two := by
  rw [Int32.toInt_add, first, second, fits_bmod _ fits]

theorem sub_exact (first : left.toInt = one) (second : right.toInt = two)
    (fits : Fits (one - two)) : (left - right).toInt = one - two := by
  rw [Int32.toInt_sub, first, second, fits_bmod _ fits]

theorem mul_exact (first : left.toInt = one) (second : right.toInt = two)
    (fits : Fits (one * two)) : (left * right).toInt = one * two := by
  rw [Int32.toInt_mul, first, second, fits_bmod _ fits]

theorem shift_exact (count : Int32) (places : Nat) (scale : Int) (first : left.toInt = one)
    (amount : (count.toBitVec.smod 32).toNat = places) (power : 2 ^ places = scale) :
    (left >>> count).toInt = one / scale := by
  have word : (left >>> count).toInt =
      (left.toBitVec.sshiftRight (count.toBitVec.smod 32).toNat).toInt := rfl
  rw [word, BitVec.toInt_sshiftRight, Int.shiftRight_eq_div_pow, amount, ← first, ← power]
  norm_cast

theorem shift_left_exact (count : Int32) (places : Nat) (scale : Int) (first : left.toInt = one)
    (amount : (count.toBitVec.smod 32).toNat = places) (power : 2 ^ places = scale)
    (small : places < 31) (fits : Fits (one * scale)) : (left <<< count).toInt = one * scale := by
  have word : (left <<< count).toInt =
      (left.toBitVec <<< (count.toBitVec.smod 32).toNat).toInt := rfl
  have factor : (BitVec.twoPow 32 places).toInt = scale := by
    rw [BitVec.toInt_twoPow, if_neg (by omega), if_neg (by omega), power]
  have held : left.toBitVec.toInt = one := first
  rw [word, BitVec.shiftLeft_eq_mul_twoPow, BitVec.toInt_mul, amount, factor, held,
    fits_bmod _ fits]

end Words

theorem unsigned_exact (value : UInt16) : value.toUInt32.toInt32.toInt = value.toNat := by
  have small := value.toNat_lt
  have whole : value.toUInt32.toInt32.toBitVec.toNat = value.toNat := UInt16.toNat_toUInt32 value
  have same : value.toUInt32.toInt32.toInt = value.toUInt32.toInt32.toBitVec.toInt := rfl
  rw [same, BitVec.toInt_eq_toNat_of_lt (by omega), whole]

/-! Sizes. -/

theorem product_size (left right one two : ℚ) (first : |left| ≤ one) (second : |right| ≤ two) :
    |left * right| ≤ one * two := by
  rw [abs_mul]
  exact mul_le_mul first second (abs_nonneg _) (le_trans (abs_nonneg _) first)

theorem quotient_size (value scale limit : ℚ) (low : 0 ≤ value) (high : value ≤ limit * scale)
    (positive : 0 < scale) : |value / scale| ≤ limit := by
  rw [abs_div, abs_of_nonneg low, abs_of_pos positive, div_le_iff₀ positive]
  exact high

/-! Closeness. -/

/-- The two are at most `error` apart. -/
def Near (error left right : ℚ) : Prop := |left - right| ≤ error

section Closeness
variable (error other : ℚ) (left right : ℚ)

theorem near_weaken (weaker : error ≤ other) (near : Near error left right) :
    Near other left right := le_trans near weaker

theorem near_symm (near : Near error left right) : Near error right left := by
  rwa [Near, abs_sub_comm]

theorem near_trans (middle : ℚ) (front : Near error left middle) (back : Near other middle right) :
    Near (error + other) left right :=
  le_trans (abs_sub_le left middle right) (add_le_add front back)

theorem near_add (left' right' : ℚ) (one : Near error left right) (two : Near other left' right') :
    Near (error + other) (left + left') (right + right') := by
  rw [Near, add_sub_add_comm]
  exact le_trans (abs_add_le _ _) (add_le_add one two)

theorem near_sub (left' right' : ℚ) (one : Near error left right) (two : Near other left' right') :
    Near (error + other) (left - left') (right - right') := by
  rw [Near, sub_sub_sub_comm]
  exact le_trans (abs_sub _ _) (add_le_add one two)

theorem near_shift (shift : ℚ) (near : Near error left right) :
    Near error (left - shift) (right - shift) := by
  rwa [Near, sub_sub_sub_cancel_right]

theorem near_scale (factor : ℚ) (near : Near error left right) :
    Near (error * |factor|) (left * factor) (right * factor) := by
  rw [Near, ← sub_mul, abs_mul]
  exact mul_le_mul_of_nonneg_right near (abs_nonneg factor)

/-- Squares move by the error times the sum of the two. -/
theorem near_square (near : Near error left right) :
    Near (error * (2 * |left| + error)) (left ^ 2) (right ^ 2) := by
  have positive : 0 ≤ error := le_trans (abs_nonneg _) near
  have sum : |left + right| ≤ 2 * |left| + error := by
    have split : left + right = 2 * left - (left - right) := by ring
    rw [split]
    refine le_trans (abs_sub _ _) (add_le_add ?_ near)
    rw [abs_mul, abs_two]
  rw [Near, sq_sub_sq, abs_mul, mul_comm]
  exact mul_le_mul near sum (abs_nonneg _) positive

/-- A shift to the right against the quotient. -/
theorem near_quotient (value : Int) (size : Nat) :
    Near 1 ((value / (size : Int) : Int) : ℚ) ((value : ℚ) / size) := by
  have whole : ((value / (size : Int) : Int) : ℚ) = ⌊(value : ℚ) / size⌋ := by
    rw [Rat.floor_intCast_div_natCast]
  have below := Int.floor_le ((value : ℚ) / size)
  have above := Int.lt_floor_add_one ((value : ℚ) / size)
  rw [Near, whole, abs_le]
  constructor <;> linarith

/-- A product cut down by a shift, against the exact product. -/
theorem near_reduced (value factor : Int) (size : Nat) (exact : ℚ)
    (near : Near error (value : ℚ) exact) :
    Near (1 + error * |(factor : ℚ) / size|) ((value * factor / (size : Int) : Int) : ℚ)
      (exact * ((factor : ℚ) / size)) := by
  have quotient := near_quotient (value * factor) size
  have scaled := near_scale _ _ _ ((factor : ℚ) / size) near
  rw [Int.cast_mul, mul_div_assoc] at quotient
  exact near_trans _ _ _ _ _ quotient scaled

end Closeness

/-! Doubles. -/

/-- Conversion to an integer drops the fraction. -/
def truncated (value : ℚ) : Int := if value < 0 then ⌈value⌉ else ⌊value⌋

theorem truncated_near (value : ℚ) : Near 1 (truncated value) value := by
  rw [Near, abs_le, truncated]
  by_cases negative : value < 0
  · have below := Int.le_ceil value
    have above := Int.ceil_lt_add_one value
    rw [if_pos negative]
    constructor <;> linarith
  · have below := Int.floor_le value
    have above := Int.lt_floor_add_one value
    rw [if_neg negative]
    constructor <;> linarith

/-- The nearest integer, the even one of two. -/
def nearest (value : ℚ) : Int :=
  if value - ⌊value⌋ < 1 / 2 ∨ value - ⌊value⌋ = 1 / 2 ∧ ⌊value⌋ % 2 = 0 then ⌊value⌋
  else ⌊value⌋ + 1

/-- The step between doubles of that size: 53 bits. -/
def spacing (value : ℚ) : ℚ := 2 ^ (Int.log 2 |value| - 52)

/-- The double of a value well inside the range of the exponent. -/
def double (value : ℚ) : ℚ := nearest (value / spacing value) * spacing value

theorem nearest_close (value : ℚ) : |(nearest value : ℚ) - value| ≤ 1 / 2 := by
  have below := Int.floor_le value
  have above := Int.lt_floor_add_one value
  rw [abs_le]
  by_cases down : value - ⌊value⌋ < 1 / 2 ∨ value - ⌊value⌋ = 1 / 2 ∧ ⌊value⌋ % 2 = 0
  · have half : value - ⌊value⌋ ≤ 1 / 2 := by
      cases down with
      | inl less => exact le_of_lt less
      | inr tie => exact le_of_eq tie.1
    rw [nearest, if_pos down]
    constructor <;> linarith
  · have half : 1 / 2 ≤ value - ⌊value⌋ := le_of_not_gt fun less => down (.inl less)
    rw [nearest, if_neg down]
    push_cast
    constructor <;> linarith

theorem spacing_positive (value : ℚ) : 0 < spacing value := zpow_pos two_pos _

theorem spacing_small (value : ℚ) (nonzero : value ≠ 0) :
    spacing value ≤ |value| / 4503599627370496 := by
  have leading : ((2 : Nat) : ℚ) ^ Int.log 2 |value| ≤ |value| :=
    Int.zpow_log_le_self one_lt_two (abs_pos.mpr nonzero)
  have scale : (2 : ℚ) ^ (52 : Int) = 4503599627370496 := by norm_num
  rw [spacing, zpow_sub₀ two_ne_zero, scale]
  exact div_le_div_of_nonneg_right (by exact_mod_cast leading) (by norm_num)

theorem double_close (value : ℚ) : |double value - value| ≤ |value| / 9007199254740992 := by
  by_cases zero : value = 0
  · simp [zero, double, nearest]
  · have positive := spacing_positive value
    have split : double value - value =
        (nearest (value / spacing value) - value / spacing value) * spacing value := by
      rw [sub_mul, div_mul_cancel₀ _ (ne_of_gt positive), double]
    rw [split, abs_mul, abs_of_pos positive]
    calc
      _ ≤ 1 / 2 * spacing value :=
        mul_le_mul_of_nonneg_right (nearest_close _) (le_of_lt positive)
      _ ≤ 1 / 2 * (|value| / 4503599627370496) :=
        mul_le_mul_of_nonneg_left (spacing_small value zero) (by norm_num)
      _ = |value| / 9007199254740992 := by ring

/-- An operation of doubles near the operation of exact values. -/
theorem near_double (error size value exact : ℚ) (near : Near error value exact)
    (small : |exact| ≤ size) :
    Near (error + (size + error) / 9007199254740992) (double value) exact := by
  have bounded : |value| ≤ size + error := by
    have split : value = exact + (value - exact) := by ring
    rw [split]
    exact le_trans (abs_add_le _ _) (add_le_add small near)
  have rounded : Near ((size + error) / 9007199254740992) (double value) value :=
    le_trans (double_close value) (div_le_div_of_nonneg_right bounded (by norm_num))
  rw [add_comm]
  exact near_trans _ _ _ _ _ rounded near

end AirMonitor.Numbers