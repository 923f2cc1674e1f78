import Mathlib.Data.List.Basic

/-!
# Octets and sixteen-bit words

Words are sent high octet first in both protocols.
-/

namespace KnxDemo.Bytes

abbrev Byte := BitVec 8

/-- `(high << 8) | low` as an unsigned sixteen-bit value. -/
def word (high low : Byte) : BitVec 16 := high.setWidth 16 <<< 8 ||| low.setWidth 16

def highByte (value : BitVec 16) : Byte := (value >>> 8).setWidth 8

def lowByte (value : BitVec 16) : Byte := value.setWidth 8

theorem toNat_word (high low : Byte) : (word high low).toNat = high.toNat * 256 + low.toNat := by
  have disjoint : (high.setWidth 16 <<< 8 : BitVec 16) &&& low.setWidth 16 = 0#16 := by
    apply BitVec.eq_of_getElem_eq
    intro index inside
    by_cases lower : index < 8
    · simp [lower]
    · simp [BitVec.getElem_setWidth, BitVec.getLsbD_of_ge low index (by omega)]
  rw [word, ← BitVec.add_eq_or_of_and_eq_zero _ _ disjoint]
  have highBound := high.isLt
  have lowBound := low.isLt
  simp only [BitVec.toNat_add, BitVec.toNat_shiftLeft, BitVec.toNat_setWidth, Nat.shiftLeft_eq]
  omega

theorem toNat_highByte (value : BitVec 16) : (highByte value).toNat = value.toNat / 256 := by
  have bound := value.isLt
  simp only [highByte, BitVec.toNat_setWidth, BitVec.toNat_ushiftRight, Nat.shiftRight_eq_div_pow]
  omega

theorem toNat_lowByte (value : BitVec 16) : (lowByte value).toNat = value.toNat % 256 := by
  simp [lowByte]

@[simp] theorem word_highByte_lowByte (value : BitVec 16) :
    word (highByte value) (lowByte value) = value := by
  apply BitVec.eq_of_toNat_eq
  rw [toNat_word, toNat_highByte, toNat_lowByte]
  omega

theorem highByte_word (high low : Byte) : highByte (word high low) = high := by
  apply BitVec.eq_of_toNat_eq
  have bound := low.isLt
  rw [toNat_highByte, toNat_word]
  omega

theorem lowByte_word (high low : Byte) : lowByte (word high low) = low := by
  apply BitVec.eq_of_toNat_eq
  have bound := low.isLt
  rw [toNat_lowByte, toNat_word]
  omega

/-- Conversion of an `int` to `size_t`. -/
def sizeT (value : Int) : Nat := (BitVec.ofInt 64 value).toNat

theorem sizeT_natCast {value : Nat} (small : value < 18446744073709551616) :
    sizeT value = value := by
  rw [sizeT, BitVec.toNat_ofInt]
  omega

/-- The two expressions a length or a service number is stored with. -/
theorem ofNat_high_octet (value : Nat) :
    BitVec.ofNat 8 (value >>> 8 &&& 0xFF) = highByte (BitVec.ofNat 16 value) := by
  have mask := Nat.and_two_pow_sub_one_eq_mod (value >>> 8) 8
  rw [Nat.shiftRight_eq_div_pow] at mask ⊢
  simp only [Nat.reducePow, Nat.reduceSub] at mask ⊢
  apply BitVec.eq_of_toNat_eq
  rw [toNat_highByte, BitVec.toNat_ofNat, BitVec.toNat_ofNat]
  omega

theorem ofNat_low_octet (value : Nat) :
    BitVec.ofNat 8 (value &&& 0xFF) = lowByte (BitVec.ofNat 16 value) := by
  have mask := Nat.and_two_pow_sub_one_eq_mod value 8
  simp only [Nat.reducePow, Nat.reduceSub] at mask
  apply BitVec.eq_of_toNat_eq
  rw [toNat_lowByte, BitVec.toNat_ofNat, BitVec.toNat_ofNat]
  omega

end KnxDemo.Bytes
