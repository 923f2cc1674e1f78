import KnxDemo.Checksum.Polynomial
import KnxDemo.Com.Decoding

/-!
# The checksum one bit at a time

The reference is the register with generator `x^16 + x^12 + x^5 + 1` that starts
with sixteen ones and takes the message bit by bit, the most significant bit of
each octet first; what it holds in the end is the remainder of a division by
that polynomial. The loop over the buffer and the five lines for each octet
compute what it computes.
-/

namespace KnxDemo.ComBitwiseChecksum

open KnxDemo.Bytes KnxDemo.ComChecksum KnxDemo.ComPack KnxDemo.ComDecoding KnxDemo.Checksum
open KnxDemo.Interaction.Loader

/-- The checksum of a message, bit by bit. -/
def bitwiseCrc (octets : List Byte) : BitVec 16 := feed generator 0xFFFF#16 (bitsOf octets)

/-- One shift, with the generator added when a one is shifted out. -/
def shiftConditionalXor (crc : BitVec 16) : BitVec 16 :=
  if crc.msb then crc <<< 1 ^^^ generator else crc <<< 1

theorem shift_conditional_xor_eq_advance : shiftConditionalXor = advance generator := by
  funext crc
  unfold shiftConditionalXor advance
  cases crc.msb with
  | true => rw [if_pos rfl, if_pos rfl]
  | false => rw [if_neg Bool.false_ne_true, if_neg Bool.false_ne_true, BitVec.xor_zero]

theorem placed_octetBits (octet : Byte) :
    placed 16 (octetBits octet) = octet.setWidth 16 <<< 8 := by
  apply BitVec.eq_of_getMsbD_eq
  intro index inside
  rw [getMsbD_placed _ _ inside]
  by_cases upper : index < 8
  · have place : (octetBits octet)[index]? = some (octet.getMsbD index) := by
      simp [octetBits, upper]
    rw [List.getD_eq_getElem?_getD, place, Option.getD_some]
    simp only [BitVec.getMsbD, BitVec.getLsbD_shiftLeft, BitVec.getLsbD_setWidth]
    simp [upper, inside, show ¬ 15 - index < 8 by omega, show 15 - index - 8 = 7 - index by omega,
      show 15 - index < 16 by omega, show 7 - index < 16 by omega]
  · have beyond : (octetBits octet)[index]? = none := by
      simp [octetBits, upper]
    rw [List.getD_eq_getElem?_getD, beyond, Option.getD_none]
    simp only [BitVec.getMsbD, BitVec.getLsbD_shiftLeft]
    simp [show 15 - index < 8 by omega]

theorem get_crc_ccitt_eq_shifts (crc : BitVec 16) (octet : Byte) :
    getCrcCcitt crc octet = shiftConditionalXor^[8] (crc ^^^ octet.setWidth 16 <<< 8) := by
  have short : (octetBits octet).length ≤ 16 := by
    rw [length_octetBits]
    decide
  rw [get_crc_ccitt_eq_feed, feed_eq_iterate generator crc _ short, placed_octetBits,
    length_octetBits, shift_conditional_xor_eq_advance]

/-! ## The remainder -/

open Polynomial

theorem divisor_generator : divisor generator = X ^ 16 + X ^ 12 + X ^ 5 + 1 := by
  have lower : registerPolynomial generator =
      monomial 0 (1 : ZMod 2) + monomial 5 1 + monomial 12 1 := by
    simp [registerPolynomial, Finset.sum_range_succ, generator]
  rw [divisor, lower]
  simp only [monomial_one_right_eq_X_pow]
  ring

/-- The bit-by-bit checksum is the remainder of the message, with sixteen ones in front. -/
theorem bitwise_crc_remainder (octets : List Byte) :
    registerPolynomial (bitwiseCrc octets) =
      (registerPolynomial 0xFFFF#16 * X ^ (8 * octets.length) +
        messagePolynomial (bitsOf octets) * X ^ 16) %ₘ (X ^ 16 + X ^ 12 + X ^ 5 + 1) := by
  rw [bitwiseCrc, feed_eq_remainder (by decide), length_bitsOf, divisor_generator]

/-- On every buffer `Calc_CRC_CCITT` is the bit-by-bit checksum of the octets it is given, the
remainder of their division by the generator polynomial, and its step is eight shifts. -/
theorem checksum_bitwise (memory : Int → Byte) (pBuf : Int) (octets : List Byte)
    (short : octets.length < 65536) (held : octetsAt memory pBuf octets.length = octets) :
    eval memory (calcCrcCcitt pBuf octets.length) = bitwiseCrc octets ∧
      registerPolynomial (eval memory (calcCrcCcitt pBuf octets.length)) =
        (registerPolynomial 0xFFFF#16 * X ^ (8 * octets.length) +
          messagePolynomial (bitsOf octets) * X ^ 16) %ₘ (X ^ 16 + X ^ 12 + X ^ 5 + 1) ∧
      ∀ (crc : BitVec 16) (octet : Byte),
        getCrcCcitt crc octet = shiftConditionalXor^[8] (crc ^^^ octet.setWidth 16 <<< 8) := by
  have computed : eval memory (calcCrcCcitt pBuf octets.length) = bitwiseCrc octets := by
    rw [eval_calcCrcCcitt, toNat_ofInt_length _ short, held]
    exact foldl_get_crc_ccitt_eq_feed 0xFFFF#16 octets
  refine ⟨computed, ?_, get_crc_ccitt_eq_shifts⟩
  rw [computed, bitwise_crc_remainder]

def digits (address : Int) : Byte := BitVec.ofInt 8 (49 + address)

theorem checksum_bitwise_witness :
    eval digits (calcCrcCcitt 0 9) = bitwiseCrc [49, 50, 51, 52, 53, 54, 55, 56, 57] ∧
      registerPolynomial (eval digits (calcCrcCcitt 0 9)) =
        (registerPolynomial 0xFFFF#16 * X ^ (8 * 9) +
          messagePolynomial (bitsOf [49, 50, 51, 52, 53, 54, 55, 56, 57]) * X ^ 16) %ₘ
            (X ^ 16 + X ^ 12 + X ^ 5 + 1) ∧
      ∀ (crc : BitVec 16) (octet : Byte),
        getCrcCcitt crc octet = shiftConditionalXor^[8] (crc ^^^ octet.setWidth 16 <<< 8) :=
  checksum_bitwise digits 0 [49, 50, 51, 52, 53, 54, 55, 56, 57] (by decide) (by decide)

example : bitwiseCrc [49, 50, 51, 52, 53, 54, 55, 56, 57] = 0x29B1#16 := by decide +kernel

end KnxDemo.ComBitwiseChecksum
