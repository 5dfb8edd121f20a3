import AirMonitor.Numbers
import AirMonitor.Publication

/-!
`bmp280_compensate_temperature_int32` against `bmp280_compensate_temperature_double`:
what the integers lose in their shifts stays below two hundredths of a degree.
-/

namespace AirMonitor.Precision
open Bmp280 Numbers

section Paths
variable (calib : CalibParam) (raw : Int32)

def firstDouble : ℚ :=
  double (double (double ((raw.toInt : ℚ) / 16384) - double ((calib.digT1.toNat : ℚ) / 1024)) *
    (calib.digT2.toInt : ℚ))

def secondDouble : ℚ :=
  let offset := double (double ((raw.toInt : ℚ) / 131072) -
    double ((calib.digT1.toNat : ℚ) / 8192))
  double (double (offset * offset) * (calib.digT3.toInt : ℚ))

def fineDouble : ℚ := double (firstDouble calib raw + secondDouble calib raw)

/-- Temperature in degrees, and the structure with its new `t_fine`. -/
def bmp280CompensateTemperatureDouble : ℚ × CalibParam :=
  (double (fineDouble calib raw / 5120),
    { calib with tFine := Int32.ofInt (truncated (fineDouble calib raw)) })

/-- The distance from the reference point, in 1/8 and in 1/16 of a raw unit. -/
def coarse : Int := raw.toInt / 8 - 2 * (calib.digT1.toNat : Int)

def fine : Int := raw.toInt / 16 - (calib.digT1.toNat : Int)

/-- No product of the integer path wraps around. -/
structure NoWrap : Prop where
  first : Fits (coarse calib raw * calib.digT2.toInt)
  square : Fits (fine calib raw * fine calib raw)
  second : Fits (fine calib raw * fine calib raw / 4096 * calib.digT3.toInt)

/-- What the data registers can hold. -/
def TwentyBits : Prop := 0 ≤ raw.toInt ∧ raw.toInt < 1048576

instance : Decidable (TwentyBits raw) := inferInstanceAs (Decidable (_ ∧ _))

theorem coarse_exact (bits : TwentyBits raw) :
    ((raw >>> 3) - (calib.digT1.toUInt32.toInt32 <<< 1)).toInt = coarse calib raw := by
  have small := calib.digT1.toNat_lt
  have shifted : (raw >>> 3).toInt = raw.toInt / 8 := shift_exact raw _ 3 3 8 rfl rfl rfl
  have doubled := shift_left_exact _ _ 1 1 2 (unsigned_exact calib.digT1) rfl rfl
    (by norm_num) (by rw [Fits]; omega)
  have low := bits.1
  have high := bits.2
  have apart := sub_exact _ _ _ _ shifted doubled (by rw [Fits]; omega)
  rw [apart, coarse, mul_comm]

theorem fine_exact (bits : TwentyBits raw) :
    ((raw >>> 4) - calib.digT1.toUInt32.toInt32).toInt = fine calib raw := by
  have small := calib.digT1.toNat_lt
  have shifted : (raw >>> 4).toInt = raw.toInt / 16 := shift_exact raw _ 4 4 16 rfl rfl rfl
  have low := bits.1
  have high := bits.2
  exact sub_exact _ _ _ _ shifted (unsigned_exact calib.digT1) (by rw [Fits]; omega)

/-- `t_fine` in the integers. -/
def fineValue : Int :=
  coarse calib raw * calib.digT2.toInt / 2048 +
    fine calib raw * fine calib raw / 4096 * calib.digT3.toInt / 16384

theorem fine_value_bounds (exact : NoWrap calib raw) :
    -1179648 ≤ fineValue calib raw ∧ fineValue calib raw ≤ 1179648 := by
  have first := exact.first
  have second := exact.second
  rw [Fits] at first second
  rw [fineValue]
  generalize coarse calib raw * calib.digT2.toInt = x1 at *
  generalize fine calib raw * fine calib raw / 4096 * calib.digT3.toInt = x2 at *
  omega

theorem fine_temperature_exact (bits : TwentyBits raw) (exact : NoWrap calib raw) :
    (fineTemperature calib raw).toInt = fineValue calib raw := by
  have bounds := fine_value_bounds calib raw exact
  have apart := coarse_exact calib raw bits
  have near := fine_exact calib raw bits
  have second := Int16.toInt_toInt32 calib.digT2
  have third := Int16.toInt_toInt32 calib.digT3
  have square := mul_exact _ _ _ _ near near exact.square
  have scaled := mul_exact _ _ _ _ (shift_exact _ _ 12 12 4096 square rfl rfl) third exact.second
  exact add_exact _ _ _ _
    (shift_exact _ _ 11 11 2048 (mul_exact _ _ _ _ apart second exact.first) rfl rfl)
    (shift_exact _ _ 14 14 16384 scaled rfl rfl)
    (by unfold fineValue at bounds; rw [Fits]; omega)

/-! The distance of the two paths from the exact value. -/

def firstTerm : ℚ :=
  ((raw.toInt : ℚ) / 16384 - (calib.digT1.toNat : ℚ) / 1024) * (calib.digT2.toInt : ℚ)

def secondTerm : ℚ :=
  ((raw.toInt : ℚ) / 131072 - (calib.digT1.toNat : ℚ) / 8192) ^ 2 * (calib.digT3.toInt : ℚ)

theorem word_size (value : Int16) : |(value.toInt : ℚ)| ≤ 32768 := by
  have low : (-32768 : Int) ≤ value.toInt := value.le_toInt
  have high : value.toInt ≤ (32767 : Int) := Int.lt_add_one_iff.mp value.toInt_lt
  have lower : (-32768 : ℚ) ≤ value.toInt := by exact_mod_cast low
  have upper : (value.toInt : ℚ) ≤ 32767 := by exact_mod_cast high
  rw [abs_le]
  constructor <;> linarith

theorem raw_size (bits : TwentyBits raw) : 0 ≤ (raw.toInt : ℚ) ∧ (raw.toInt : ℚ) ≤ 1048576 := by
  constructor
  · exact_mod_cast bits.1
  · exact_mod_cast le_of_lt bits.2

theorem reference_size (calib : CalibParam) :
    0 ≤ (calib.digT1.toNat : ℚ) ∧ (calib.digT1.toNat : ℚ) ≤ 65536 := by
  constructor
  · exact Nat.cast_nonneg _
  · exact_mod_cast le_of_lt calib.digT1.toNat_lt

theorem coarse_near : Near 1 (coarse calib raw) ((raw.toInt : ℚ) / 8 - 2 * calib.digT1.toNat) := by
  have shifted := near_quotient raw.toInt 8
  have apart := near_shift _ _ _ (2 * (calib.digT1.toNat : ℚ)) shifted
  exact_mod_cast apart

theorem fine_near : Near 1 (fine calib raw) ((raw.toInt : ℚ) / 16 - calib.digT1.toNat) := by
  have shifted := near_quotient raw.toInt 16
  have apart := near_shift _ _ _ (calib.digT1.toNat : ℚ) shifted
  exact_mod_cast apart

theorem factor_size (value : Int16) (size : Nat) (positive : 0 < size) :
    |(value.toInt : ℚ) / size| ≤ 32768 / size := by
  have scale : (0 : ℚ) < size := by exact_mod_cast positive
  rw [abs_div, abs_of_pos scale]
  exact div_le_div_of_nonneg_right (word_size value) (le_of_lt scale)

theorem first_near :
    Near 17 ((coarse calib raw * calib.digT2.toInt / 2048 : Int) : ℚ) (firstTerm calib raw) := by
  have reduced := near_reduced _ _ calib.digT2.toInt 2048 _ (coarse_near calib raw)
  have factor := factor_size calib.digT2 2048 (by norm_num)
  have term : firstTerm calib raw =
      ((raw.toInt : ℚ) / 8 - 2 * calib.digT1.toNat) * ((calib.digT2.toInt : ℚ) / 2048) := by
    rw [firstTerm]
    ring
  push_cast at factor reduced
  rw [term]
  exact near_weaken _ _ _ _ (by linarith) reduced

theorem fine_size (exact : NoWrap calib raw) : |(fine calib raw : ℚ)| ≤ 46341 := by
  have square : fine calib raw * fine calib raw ≤ 46341 * 46341 :=
    le_trans (le_of_lt exact.square.2) (by norm_num)
  have bounded : |fine calib raw| ≤ 46341 := abs_le_of_sq_le_sq (by linarith) (by norm_num)
  exact_mod_cast bounded

theorem second_near (exact : NoWrap calib raw) :
    Near 49 ((fine calib raw * fine calib raw / 4096 * calib.digT3.toInt / 16384 : Int) : ℚ)
      (secondTerm calib raw) := by
  have square : Near 92683 ((fine calib raw : ℚ) ^ 2)
      (((raw.toInt : ℚ) / 16 - calib.digT1.toNat) ^ 2) :=
    near_weaken _ _ _ _ (by linarith [fine_size calib raw exact])
      (near_square _ _ _ (fine_near calib raw))
  have shifted : Near 1 ((fine calib raw * fine calib raw / 4096 : Int) : ℚ)
      ((fine calib raw : ℚ) ^ 2 / 4096) := by
    rw [sq]
    exact_mod_cast near_quotient (fine calib raw * fine calib raw) 4096
  have reduced : Near (1 + 92683 / 4096) ((fine calib raw * fine calib raw / 4096 : Int) : ℚ)
      (((raw.toInt : ℚ) / 16 - calib.digT1.toNat) ^ 2 / 4096) := by
    have spread := near_scale _ _ _ (1 / 4096) square
    rw [abs_of_pos (by norm_num : (0 : ℚ) < 1 / 4096), mul_one_div, mul_one_div, mul_one_div]
      at spread
    exact near_trans _ _ _ _ _ shifted spread
  have scaled := near_reduced _ _ calib.digT3.toInt 16384 _ reduced
  have factor := factor_size calib.digT3 16384 (by norm_num)
  have term : secondTerm calib raw =
      ((raw.toInt : ℚ) / 16 - calib.digT1.toNat) ^ 2 / 4096 * ((calib.digT3.toInt : ℚ) / 16384) := by
    rw [secondTerm]
    ring
  push_cast at factor scaled
  rw [term]
  exact near_weaken _ _ _ _ (by linarith) scaled

theorem fine_value_near (exact : NoWrap calib raw) :
    Near 66 (fineValue calib raw : ℚ) (firstTerm calib raw + secondTerm calib raw) := by
  have sum := near_add _ _ _ _ _ _ (first_near calib raw) (second_near calib raw exact)
  rw [fineValue, Int.cast_add]
  exact near_weaken _ _ _ _ (by norm_num) sum

theorem offset_near (high low : ℚ) (one : |high| ≤ 64) (two : |low| ≤ 64) :
    Near (1 / 10000000000000) (double (double high - double low)) (high - low) := by
  have first := near_double 0 64 high high (by simp [Near]) one
  have second := near_double 0 64 low low (by simp [Near]) two
  have apart := near_sub _ _ _ _ _ _ first second
  have size : |high - low| ≤ 128 := by linarith [abs_sub high low]
  exact near_weaken _ _ _ _ (by norm_num) (near_double _ 128 _ _ apart size)

section Spans
variable (bits : TwentyBits raw)
include bits

theorem first_size : |firstTerm calib raw| ≤ 64 * 32768 := by
  have words := raw_size raw bits
  have reference := reference_size calib
  have span : |(raw.toInt : ℚ) / 16384 - (calib.digT1.toNat : ℚ) / 1024| ≤ 64 := by
    rw [abs_le]
    constructor <;> linarith
  exact product_size _ _ _ _ span (word_size calib.digT2)

theorem span_size : |(raw.toInt : ℚ) / 131072 - (calib.digT1.toNat : ℚ) / 8192| ≤ 8 := by
  have words := raw_size raw bits
  have reference := reference_size calib
  rw [abs_le]
  constructor <;> linarith

theorem square_size :
    |((raw.toInt : ℚ) / 131072 - (calib.digT1.toNat : ℚ) / 8192) ^ 2| ≤ 8 * 8 := by
  have span := span_size calib raw bits
  rw [sq]
  exact product_size _ _ _ _ span span

theorem second_size : |secondTerm calib raw| ≤ 8 * 8 * 32768 :=
  product_size _ _ _ _ (square_size calib raw bits) (word_size calib.digT3)

theorem first_double_near :
    Near (1 / 100000000) (firstDouble calib raw) (firstTerm calib raw) := by
  have words := raw_size raw bits
  have reference := reference_size calib
  have high := quotient_size _ 16384 64 words.1 (by linarith) (by norm_num)
  have low := quotient_size _ 1024 64 reference.1 (by linarith) (by norm_num)
  have scaled := near_scale _ _ _ (calib.digT2.toInt : ℚ) (offset_near _ _ high low)
  have weak := near_weaken _ (32768 / 10000000000000) _ _
    (by linarith [word_size calib.digT2]) scaled
  exact near_weaken _ _ _ _ (by norm_num)
    (near_double _ _ _ _ weak (first_size calib raw bits))

theorem second_double_near :
    Near (1 / 1000000) (secondDouble calib raw) (secondTerm calib raw) := by
  have words := raw_size raw bits
  have reference := reference_size calib
  have high := quotient_size _ 131072 64 words.1 (by linarith) (by norm_num)
  have low := quotient_size _ 8192 64 reference.1 (by linarith) (by norm_num)
  have square := near_symm _ _ _ (near_square _ _ _ (near_symm _ _ _ (offset_near _ _ high low)))
  have weak := near_weaken _ (1 / 500000000000) _ _
    (by linarith [span_size calib raw bits]) square
  have rounded := near_double _ _ _ _ weak (square_size calib raw bits)
  have scaled := near_scale _ _ _ (calib.digT3.toInt : ℚ) rounded
  have bounded := near_weaken _ (32768 / 100000000000) _ _
    (by linarith [word_size calib.digT3]) scaled
  rw [secondDouble]
  simp only [← sq]
  exact near_weaken _ _ _ _ (by norm_num)
    (near_double _ _ _ _ bounded (second_size calib raw bits))

theorem fine_double_near :
    Near (1 / 100000) (fineDouble calib raw) (firstTerm calib raw + secondTerm calib raw) := by
  have sum := near_add _ _ _ _ _ _ (first_double_near calib raw bits)
    (second_double_near calib raw bits)
  have size := le_trans (abs_add_le _ _)
    (add_le_add (first_size calib raw bits) (second_size calib raw bits))
  exact near_weaken _ _ _ _ (by norm_num) (near_double _ _ _ _ sum size)

end Spans

/-! Both paths. -/

theorem temperature_exact (bits : TwentyBits raw) (exact : NoWrap calib raw) :
    (bmp280CompensateTemperatureInt32 calib raw).1.toInt =
      (fineValue calib raw * 5 + 128) / 256 := by
  have bounds := fine_value_bounds calib raw exact
  have fineT := fine_temperature_exact calib raw bits exact
  have scaled := mul_exact _ 5 _ 5 fineT rfl (by rw [Fits]; omega)
  have raised := add_exact _ 128 _ 128 scaled rfl (by rw [Fits]; omega)
  exact shift_exact _ _ 8 8 256 raised rfl rfl

theorem temperature_near (bits : TwentyBits raw) (exact : NoWrap calib raw) :
    Near (1 / 200) (((bmp280CompensateTemperatureInt32 calib raw).1.toInt : ℚ) / 100)
      ((fineValue calib raw : ℚ) / 5120) := by
  rw [temperature_exact calib raw bits exact]
  generalize fineValue calib raw = value
  have below : (value * 5 + 128) / 256 * 256 ≤ value * 5 + 128 := by omega
  have above : value * 5 + 128 < (value * 5 + 128) / 256 * 256 + 256 := by omega
  generalize (value * 5 + 128) / 256 = result at below above
  have lower : (result : ℚ) * 256 ≤ value * 5 + 128 := by exact_mod_cast below
  have upper : (value : ℚ) * 5 + 128 < result * 256 + 256 := by exact_mod_cast above
  rw [Near, abs_le]
  constructor <;> linarith

theorem temperature_double_near (bits : TwentyBits raw) :
    Near (1 / 1000) (bmp280CompensateTemperatureDouble calib raw).1
      ((firstTerm calib raw + secondTerm calib raw) / 5120) := by
  have size := le_trans (abs_add_le _ _)
    (add_le_add (first_size calib raw bits) (second_size calib raw bits))
  have scaled := near_scale _ _ _ (1 / 5120) (fine_double_near calib raw bits)
  rw [mul_one_div, mul_one_div] at scaled
  have small : |(firstTerm calib raw + secondTerm calib raw) / 5120| ≤ 100000 := by
    rw [abs_div, div_le_iff₀ (by norm_num), abs_of_pos (by norm_num : (0 : ℚ) < 5120)]
    linarith
  refine near_weaken _ _ _ _ ?_ (near_double _ _ _ _ scaled small)
  rw [abs_of_pos (by norm_num)]
  norm_num

theorem conversion_exact (bits : TwentyBits raw) :
    (bmp280CompensateTemperatureDouble calib raw).2.tFine.toInt =
      truncated (fineDouble calib raw) := by
  have size := le_trans (abs_add_le _ _)
    (add_le_add (first_size calib raw bits) (second_size calib raw bits))
  have near := abs_le.mp (near_trans _ _ _ _ _ (truncated_near (fineDouble calib raw))
    (fine_double_near calib raw bits))
  have sum := abs_le.mp size
  have lower : (-2147483648 : ℚ) ≤ truncated (fineDouble calib raw) := by linarith
  have upper : (truncated (fineDouble calib raw) : ℚ) < 2147483648 := by linarith
  exact Int32.toInt_ofInt.trans
    (fits_bmod _ ⟨by exact_mod_cast lower, by exact_mod_cast upper⟩)

/-- While no product wraps around, the temperature of the integers is within 0.02
degrees of that of the doubles, and the `t_fine` the pressure starts from within 68. -/
theorem temperatures_agree (bits : TwentyBits raw) (exact : NoWrap calib raw) :
    |((bmp280CompensateTemperatureInt32 calib raw).1.toInt : ℚ) / 100 -
      (bmp280CompensateTemperatureDouble calib raw).1| ≤ 1 / 50 ∧
    |(bmp280CompensateTemperatureInt32 calib raw).2.tFine.toInt -
      (bmp280CompensateTemperatureDouble calib raw).2.tFine.toInt| ≤ 68 := by
  have fineNear := fine_value_near calib raw exact
  constructor
  · have scaled := near_scale _ _ _ (1 / 5120) fineNear
    rw [mul_one_div, mul_one_div, abs_of_pos (by norm_num)] at scaled
    have integers := near_trans _ _ _ _ _ (temperature_near calib raw bits exact) scaled
    have doubles := near_symm _ _ _ (temperature_double_near calib raw bits)
    exact near_weaken _ _ _ _ (by norm_num) (near_trans _ _ _ _ _ integers doubles)
  · have integers : (bmp280CompensateTemperatureInt32 calib raw).2.tFine.toInt =
        fineValue calib raw := fine_temperature_exact calib raw bits exact
    have doubles := near_trans _ _ _ _ _ (truncated_near (fineDouble calib raw))
      (fine_double_near calib raw bits)
    have apart := near_trans _ _ _ _ _ fineNear (near_symm _ _ _ doubles)
    have bounded : |(fineValue calib raw : ℚ) - truncated (fineDouble calib raw)| ≤ 68 :=
      near_weaken _ _ _ _ (by norm_num) apart
    rw [integers, conversion_exact calib raw bits]
    exact_mod_cast bounded

end Paths

/-- The products of the reference device fit for every reading. -/
theorem reference_no_wrap (raw : Int32) (bits : TwentyBits raw) :
    NoWrap Publication.referenceCalib raw := by
  have low := bits.1
  have high := bits.2
  have coarseIs : coarse Publication.referenceCalib raw = raw.toInt / 8 - 2 * 27504 := rfl
  have fineIs : fine Publication.referenceCalib raw = raw.toInt / 16 - 27504 := rfl
  have second : Publication.referenceCalib.digT2.toInt = 26435 := rfl
  have third : Publication.referenceCalib.digT3.toInt = -1000 := rfl
  have size : |raw.toInt / 16 - 27504| ≤ 38032 := by
    rw [abs_le]
    omega
  have square := sq_le_sq' (abs_le.mp size).1 (abs_le.mp size).2
  have positive := sq_nonneg (raw.toInt / 16 - 27504)
  rw [sq] at square positive
  constructor
  · rw [coarseIs, second, Fits]
    omega
  · rw [fineIs, Fits]
    constructor <;> linarith
  · rw [fineIs, third, Fits]
    generalize (raw.toInt / 16 - 27504) * (raw.toInt / 16 - 27504) = product at square positive
    omega

theorem temperatures_agree_reference :
    |((bmp280CompensateTemperatureInt32 Publication.referenceCalib 519888).1.toInt : ℚ) / 100 -
      (bmp280CompensateTemperatureDouble Publication.referenceCalib 519888).1| ≤ 1 / 50 ∧
    |(bmp280CompensateTemperatureInt32 Publication.referenceCalib 519888).2.tFine.toInt -
      (bmp280CompensateTemperatureDouble Publication.referenceCalib 519888).2.tFine.toInt| ≤ 68 := by
  have bits : TwentyBits 519888 := by decide
  exact temperatures_agree Publication.referenceCalib 519888 bits (reference_no_wrap _ bits)

end AirMonitor.Precision
