import Mathlib.Algebra.Order.Floor.Semiring
import Mathlib.Data.Nat.Log
import Mathlib.Data.Rat.Floor
import Mathlib.Tactic.Linarith
import Mathlib.Tactic.Positivity
import Mathlib.Tactic.Ring

/-!
What `%d` and `%f` print, as bytes, and what a row of decimal digits is worth.
Doubles are exact rationals; `%f` rounds to six decimals, ties to even.
-/

namespace AirMonitor.Printf

/-- The bytes of a string literal in the basic character set. -/
def ascii (text : String) : List UInt8 := text.toList.map fun c => UInt8.ofNat c.toNat

def digit (value : Nat) : UInt8 := UInt8.ofNat (48 + value)

def isDigit (byte : UInt8) : Bool := 48 ≤ byte.toNat && byte.toNat ≤ 57

def decimalValue (bytes : List UInt8) : Nat :=
  bytes.foldl (fun value byte => 10 * value + (byte.toNat - 48)) 0

/-- The last `width` digits. -/
def padded : Nat → Nat → List UInt8
  | 0, _ => []
  | width + 1, value => padded width (value / 10) ++ [digit (value % 10)]

def decimal (value : Nat) : List UInt8 := padded (Nat.log 10 value + 1) value

def minus : UInt8 := 45

/-- `%d` -/
def formatD (value : Int) : List UInt8 :=
  (if value < 0 then [minus] else []) ++ decimal value.natAbs

def roundEven (value : ℚ) : Nat :=
  let floor := ⌊value⌋₊
  if value - floor < 1 / 2 then floor
  else if 1 / 2 < value - floor then floor + 1
  -- exactly between two: the even one
  else if floor % 2 = 0 then floor else floor + 1

/-- Millionths of the magnitude. -/
def millionths (value : ℚ) : Nat := roundEven (|value| * 1000000)

/-- `%f` -/
def formatF (value : ℚ) : List UInt8 :=
  (if value < 0 then [minus] else []) ++ decimal (millionths value / 1000000) ++
    46 :: padded 6 (millionths value % 1000000)

/-- An argument and the conversion that takes it. -/
inductive Arg where
  | double (value : ℚ)
  | int (value : Int)
  | string (bytes : List UInt8)

def Arg.conversion : Arg → UInt8
  | .double _ => 102
  | .int _ => 100
  | .string _ => 115

def Arg.text : Arg → List UInt8
  | .double value => formatF value
  | .int value => formatD value
  | .string bytes => bytes

/-- The text of a `printf` call with plain `%f`, `%d` and `%s`; `none` where
conversions and arguments disagree. -/
def format : List UInt8 → List Arg → Option (List UInt8)
  | [], _ => some []
  | [byte], _ => if byte = 37 then none else some [byte]
  | byte :: kind :: rest, args =>
      if byte = 37 then
        match args with
        | [] => none
        | arg :: others =>
            if kind = arg.conversion then (format rest others).map (arg.text ++ ·) else none
      else (format (kind :: rest) args).map (byte :: ·)

theorem digit_toNat (value : Nat) (small : value < 10) : (digit value).toNat = 48 + value := by
  rw [digit, UInt8.toNat_ofNat', Nat.mod_eq_of_lt (by omega)]

theorem padded_length (width value : Nat) : (padded width value).length = width := by
  induction width generalizing value with
  | zero => rfl
  | succ width ih => rw [padded, List.length_append, ih, List.length_singleton]

theorem padded_digits (width value : Nat) : ∀ byte ∈ padded width value, isDigit byte = true := by
  induction width generalizing value with
  | zero => simp [padded]
  | succ width ih =>
      intro byte member
      rw [padded, List.mem_append, List.mem_singleton] at member
      rcases member with front | rfl
      · exact ih (value / 10) byte front
      · have small := Nat.mod_lt value (show 0 < 10 by decide)
        simp only [isDigit, digit_toNat _ small, Bool.and_eq_true, decide_eq_true_eq]
        omega

theorem padded_value (width value : Nat) :
    decimalValue (padded width value) = value % 10 ^ width := by
  induction width generalizing value with
  | zero => rw [padded, Nat.pow_zero, Nat.mod_one]; rfl
  | succ width ih =>
      have small := Nat.mod_lt value (show 0 < 10 by decide)
      have front := ih (value / 10)
      rw [decimalValue] at front ⊢
      rw [padded, List.foldl_append, front, List.foldl_cons, List.foldl_nil,
        digit_toNat _ small, Nat.add_sub_cancel_left, Nat.pow_succ, Nat.mul_comm (10 ^ width),
        Nat.mod_mul, Nat.add_comm]

theorem decimal_value (value : Nat) : decimalValue (decimal value) = value := by
  rw [decimal, padded_value]
  exact Nat.mod_eq_of_lt (Nat.lt_pow_succ_log_self (by decide) value)

theorem decimal_digits (value : Nat) : ∀ byte ∈ decimal value, isDigit byte = true :=
  padded_digits _ value

theorem decimal_length (value : Nat) : (decimal value).length = Nat.log 10 value + 1 :=
  padded_length _ value

theorem decimal_ne_nil (value : Nat) : decimal value ≠ [] := by
  rw [← List.length_pos_iff, decimal_length]
  omega

theorem decimal_length_le (value width : Nat) (positive : 0 < width) (small : value < 10 ^ width) :
    (decimal value).length ≤ width := by
  rw [decimal_length]
  by_cases zero : value = 0
  · rw [zero, Nat.log_zero_right]
    omega
  · exact Nat.log_lt_of_lt_pow zero small

theorem padded_head (width value : Nat) :
    (padded (width + 1) value).head? = some (digit (value / 10 ^ width % 10)) := by
  induction width generalizing value with
  | zero => simp [padded]
  | succ width ih =>
      rw [padded, List.head?_append, ih (value / 10), Nat.div_div_eq_div_mul, Nat.pow_succ',
        Option.some_or]

/-- Only a single digit can be a zero in front. -/
theorem decimal_head (value : Nat) (long : 1 < (decimal value).length) :
    (decimal value).head? ≠ some 48 := by
  rw [decimal_length] at long
  have large : value ≠ 0 := by
    rintro rfl
    rw [Nat.log_zero_right] at long
    omega
  have low := Nat.pow_log_le_self 10 large
  have high := Nat.lt_pow_succ_log_self (show 1 < 10 by decide) value
  rw [Nat.pow_succ] at high
  have first : value / 10 ^ Nat.log 10 value < 10 := Nat.div_lt_of_lt_mul high
  have positive : 0 < value / 10 ^ Nat.log 10 value := Nat.div_pos low (by positivity)
  rw [decimal, padded_head, Nat.mod_eq_of_lt first]
  intro zero
  have same := congrArg UInt8.toNat (Option.some.inj zero)
  rw [digit_toNat _ first] at same
  simp at same
  omega

theorem round_even_near (value : ℚ) (nonneg : 0 ≤ value) : |(roundEven value : ℚ) - value| ≤ 1 / 2 := by
  have low := Nat.floor_le nonneg
  have high := Nat.lt_floor_add_one value
  rw [abs_le, roundEven]
  split_ifs with below above even <;> push_cast <;> constructor <;> linarith

/-- What a `%f` output is worth. -/
def printedF (value : ℚ) : ℚ :=
  (if value < 0 then -1 else 1) * ((millionths value : ℚ) / 1000000)

theorem printed_near (value : ℚ) : |printedF value - value| ≤ 1 / 2000000 := by
  have near := abs_le.mp (round_even_near (|value| * 1000000) (by positivity))
  rw [printedF, millionths, abs_le]
  by_cases negative : value < 0
  · rw [abs_of_neg negative] at near ⊢
    rw [if_pos negative]
    constructor <;> linarith
  · rw [abs_of_nonneg (not_lt.mp negative)] at near ⊢
    rw [if_neg negative]
    constructor <;> linarith

example : formatF (-4685 / 100) = ascii "-46.850000" := by decide +kernel

theorem sign_bytes (negative : Prop) [Decidable negative] :
    ∀ byte ∈ (if negative then [minus] else []), byte = minus := by
  intro byte member
  split_ifs at member <;> simp at member
  exact member

/-- `%f` and `%d` write digits, a sign and a point, and no terminator among them. -/
theorem format_f_solid (value : ℚ) : (0 : UInt8) ∉ formatF value := by
  intro member
  rw [formatF, List.mem_append, List.mem_append, List.mem_cons] at member
  rcases member with (sign | whole) | point | fraction
  · exact absurd (sign_bytes _ 0 sign) (by decide)
  · exact absurd (decimal_digits _ 0 whole) (by decide)
  · exact absurd point (by decide)
  · exact absurd (padded_digits _ _ 0 fraction) (by decide)

theorem format_d_solid (value : Int) : (0 : UInt8) ∉ formatD value := by
  intro member
  rw [formatD, List.mem_append] at member
  rcases member with sign | digits
  · exact absurd (sign_bytes _ 0 sign) (by decide)
  · exact absurd (decimal_digits _ 0 digits) (by decide)

theorem format_d_nat (value : Nat) : formatD value = decimal value := by
  rw [formatD, if_neg (by omega), List.nil_append, Int.natAbs_natCast]

theorem format_f_length (value : ℚ) (width : Nat) (positive : 0 < width)
    (small : |value| ≤ 10 ^ width - 1) : (formatF value).length ≤ width + 8 := by
  have near := (abs_le.mp (round_even_near (|value| * 1000000) (by positivity))).2
  have bound : (millionths value : ℚ) < (10 ^ width * 1000000 : Nat) := by
    rw [millionths]
    push_cast
    linarith
  have whole : millionths value / 1000000 < 10 ^ width :=
    Nat.div_lt_of_lt_mul (by rw [Nat.mul_comm]; exact_mod_cast bound)
  have digits := decimal_length_le _ width positive whole
  have sign : (if value < 0 then [minus] else []).length ≤ 1 := by split_ifs <;> simp
  rw [formatF, List.length_append, List.length_append, List.length_cons, padded_length]
  omega

theorem format_d_length (value : Int) (width : Nat) (positive : 0 < width) (nonneg : 0 ≤ value)
    (small : value < 10 ^ width) : (formatD value).length ≤ width := by
  rw [formatD, if_neg (not_lt.mpr nonneg), List.nil_append]
  exact decimal_length_le _ width positive (by zify; rwa [abs_of_nonneg nonneg])

end AirMonitor.Printf
