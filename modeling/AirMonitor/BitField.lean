import Mathlib.Data.BitVec

/-!
Fields of a machine word, given as C macros give them: a mask and the position
of its lowest bit. A write through one field leaves those that lie apart as they are.
-/

namespace AirMonitor.BitField

variable {w : Nat}

structure Field (w : Nat) where
  mask : BitVec w
  pos : Nat
  -- no bit of the mask is shifted out
  above : ∀ i, i < pos → mask.getLsbD i = false

def Field.get (field : Field w) (word : BitVec w) : BitVec w := (word &&& field.mask) >>> field.pos

def Field.set (field : Field w) (word value : BitVec w) : BitVec w :=
  (word &&& ~~~field.mask) ||| ((value <<< field.pos) &&& field.mask)

/-- What is left of a value in the field. -/
def Field.clip (field : Field w) (value : BitVec w) : BitVec w := value &&& (field.mask >>> field.pos)

def Apart (one other : Field w) : Prop := one.mask &&& other.mask = 0

theorem word_ext (left right : BitVec w)
    (bits : ∀ i, i < w → left.getLsbD i = right.getLsbD i) : left = right :=
  BitVec.eq_of_getLsbD_eq bits

variable (field : Field w)

theorem get_bit (word : BitVec w) (i : Nat) :
    (field.get word).getLsbD i =
      (word.getLsbD (field.pos + i) && field.mask.getLsbD (field.pos + i)) := by
  rw [Field.get, BitVec.getLsbD_ushiftRight, BitVec.getLsbD_and]

theorem clip_bit (value : BitVec w) (i : Nat) :
    (field.clip value).getLsbD i = (value.getLsbD i && field.mask.getLsbD (field.pos + i)) := by
  rw [Field.clip, BitVec.getLsbD_and, BitVec.getLsbD_ushiftRight]

theorem set_bit (word value : BitVec w) (i : Nat) (inside : i < w) :
    (field.set word value).getLsbD i =
      if field.mask.getLsbD i then value.getLsbD (i - field.pos) else word.getLsbD i := by
  simp only [Field.set, BitVec.getLsbD_or, BitVec.getLsbD_and, BitVec.getLsbD_not,
    BitVec.getLsbD_shiftLeft]
  cases held : field.mask.getLsbD i with
  | false => simp [inside]
  | true =>
      have reached : ¬ i < field.pos := by
        intro low
        rw [field.above i low] at held
        exact Bool.noConfusion held
      simp [inside, reached]

theorem get_set (word value : BitVec w) : field.get (field.set word value) = field.clip value := by
  apply word_ext
  intro i _
  rw [get_bit, clip_bit]
  by_cases inside : field.pos + i < w
  · rw [set_bit field word value _ inside, Nat.add_sub_cancel_left]
    cases field.mask.getLsbD (field.pos + i) <;> simp
  · rw [BitVec.getLsbD_of_ge field.mask _ (by omega), Bool.and_false, Bool.and_false]

theorem apart_bit (one other : Field w) (apart : Apart one other) (i : Nat)
    (held : other.mask.getLsbD i = true) : one.mask.getLsbD i = false := by
  have bit : (one.mask &&& other.mask).getLsbD i = false := by
    rw [apart]
    exact BitVec.getLsbD_zero
  rwa [BitVec.getLsbD_and, held, Bool.and_true] at bit

theorem get_set_apart (one other : Field w) (apart : Apart one other) (word value : BitVec w) :
    other.get (one.set word value) = other.get word := by
  apply word_ext
  intro i _
  rw [get_bit, get_bit]
  cases held : other.mask.getLsbD (other.pos + i) with
  | false => rw [Bool.and_false, Bool.and_false]
  | true =>
      have inside : other.pos + i < w := by
        by_contra outside
        rw [BitVec.getLsbD_of_ge other.mask _ (by omega)] at held
        exact Bool.noConfusion held
      rw [set_bit one word value _ inside, apart_bit one other apart _ held]
      rfl

/-- A field of adjacent bits, in numbers. -/
theorem get_number (length : Nat) (small : length ≤ w)
    (whole : field.mask >>> field.pos = BitVec.ofNat w (2 ^ length - 1)) (word : BitVec w) :
    (field.get word).toNat = word.toNat / 2 ^ field.pos % 2 ^ length := by
  have bound : 2 ^ length - 1 < 2 ^ w := by
    have grows := Nat.pow_le_pow_right (by decide : 0 < 2) small
    have positive := Nat.two_pow_pos length
    omega
  rw [Field.get, BitVec.ushiftRight_and_distrib, whole, BitVec.toNat_and, BitVec.toNat_ofNat,
    Nat.mod_eq_of_lt bound, Nat.and_two_pow_sub_one_eq_mod, BitVec.toNat_ushiftRight,
    Nat.shiftRight_eq_div_pow]

end AirMonitor.BitField
