import Mathlib.Data.List.Basic

/-! Byte buffers and the 16-bit words that two bytes make. -/

namespace AirMonitor.Bytes

def byteAt (bytes : List UInt8) (index : Nat) : UInt8 := bytes.getD index 0

/-- `high << 8 | low` -/
def wordOf (high low : UInt8) : UInt16 := (high.toUInt16 <<< 8) ||| low.toUInt16

theorem word_bytes (value : UInt16) :
    wordOf (value >>> 8).toUInt8 value.toUInt8 = value := by
  apply UInt16.toNat_inj.mp
  have bound := value.toNat_lt
  have low : value.toNat % 256 < 2 ^ 8 := Nat.mod_lt _ (by omega)
  have high : value.toNat / 256 % 256 = value.toNat / 256 := Nat.mod_eq_of_lt (by omega)
  have eight : UInt16.toNat 8 % 16 = 8 := rfl
  simp only [wordOf, UInt16.toNat_or, UInt16.toNat_shiftLeft, UInt8.toNat_toUInt16,
    UInt16.toNat_toUInt8, UInt16.toNat_shiftRight]
  rw [eight, Nat.shiftRight_eq_div_pow, high, Nat.shiftLeft_eq, Nat.mod_eq_of_lt (by omega),
    ← Nat.shiftLeft_eq, ← Nat.shiftLeft_add_eq_or_of_lt low, Nat.shiftLeft_eq]
  omega

theorem byte_zeros (size index : Nat) : byteAt (List.replicate size 0) index = 0 := by
  by_cases inside : index < size <;> simp [byteAt, inside]

end AirMonitor.Bytes
