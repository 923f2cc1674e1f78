import Mathlib.Algebra.Field.ZMod
import Mathlib.Algebra.CharP.Two
import Mathlib.Algebra.Polynomial.Div
import Mathlib.Tactic.Ring
import KnxDemo.Checksum.ShiftRegister

/-!
# The shift register divides polynomials

Over the field with two elements a register is a polynomial of degree below its
width, and a message a polynomial whose first bit is the leading coefficient. A
step multiplies the register by `X` and subtracts the divisor when the degree
reaches the width. What is left in the register in the end is the remainder of
the message, moved up by the width, and of what the register held at the start.
-/

namespace KnxDemo.Checksum

open Polynomial

variable {width : Nat}

def bitValue (bit : Bool) : ZMod 2 := if bit then 1 else 0

@[simp] theorem bit_value_false : bitValue false = 0 := rfl

@[simp] theorem bit_value_true : bitValue true = 1 := rfl

theorem bit_value_xor (left right : Bool) :
    bitValue (left ^^ right) = bitValue left + bitValue right := by
  revert left right
  decide

/-- The polynomial with the bits of the register as its coefficients. -/
noncomputable def registerPolynomial (register : BitVec width) : (ZMod 2)[X] :=
  ∑ place ∈ Finset.range width, monomial place (bitValue (register.getLsbD place))

/-- The polynomial of a message, the first bit at the highest power. -/
noncomputable def messagePolynomial : List Bool → (ZMod 2)[X]
  | [] => 0
  | bit :: bits => C (bitValue bit) * X ^ bits.length + messagePolynomial bits

/-- The generator with its leading term, which the register leaves out. -/
noncomputable def divisor (generator : BitVec width) : (ZMod 2)[X] :=
  X ^ width + registerPolynomial generator

theorem coeff_registerPolynomial (register : BitVec width) (place : Nat) :
    (registerPolynomial register).coeff place = bitValue (register.getLsbD place) := by
  rw [registerPolynomial, finsetSum_coeff]
  simp only [coeff_monomial, Finset.sum_ite_eq', Finset.mem_range]
  split_ifs with inside
  · rfl
  · rw [BitVec.getLsbD_of_ge register place (Nat.not_lt.mp inside)]
    rfl

theorem register_polynomial_xor (left right : BitVec width) :
    registerPolynomial (left ^^^ right) = registerPolynomial left + registerPolynomial right := by
  ext place
  rw [coeff_add, coeff_registerPolynomial, coeff_registerPolynomial, coeff_registerPolynomial,
    BitVec.getLsbD_xor, bit_value_xor]

theorem degree_registerPolynomial (register : BitVec width) :
    (registerPolynomial register).degree < width := by
  rw [degree_lt_iff_coeff_zero]
  intro place above
  rw [coeff_registerPolynomial, BitVec.getLsbD_of_ge register place above]
  rfl

theorem divisor_monic (generator : BitVec width) : (divisor generator).Monic :=
  monic_X_pow_add (degree_registerPolynomial generator)

theorem degree_divisor (generator : BitVec width) : (divisor generator).degree = width := by
  have lower : (registerPolynomial generator).degree < ((X : (ZMod 2)[X]) ^ width).degree := by
    rw [degree_X_pow]
    exact degree_registerPolynomial generator
  rw [divisor, degree_add_eq_left_of_degree_lt lower, degree_X_pow]

/-! ## One step -/

section Positive

variable (positive : 0 < width)

include positive in
theorem register_polynomial_topBit (bit : Bool) :
    X * registerPolynomial (topBit width bit) = C (bitValue bit) * X ^ width := by
  ext place
  rw [coeff_C_mul, coeff_X_pow]
  cases place with
  | zero => simp [positive.ne]
  | succ place =>
      rw [coeff_X_mul, coeff_registerPolynomial]
      by_cases top : place + 1 = width
      · cases bit <;> simp [topBit, top, show width - 1 = place by omega,
          show place < width by omega]
      · cases bit <;> simp [topBit, top, show ¬ width - 1 = place by omega]

include positive in
theorem register_polynomial_shift (register : BitVec width) :
    registerPolynomial (register <<< 1) =
      X * registerPolynomial register + C (bitValue register.msb) * X ^ width := by
  ext place
  rw [coeff_registerPolynomial, coeff_add, coeff_C_mul, coeff_X_pow, BitVec.getLsbD_shiftLeft,
    BitVec.msb_eq_getLsbD_last]
  cases place with
  | zero => simp [positive.ne]
  | succ place =>
      rw [coeff_X_mul, coeff_registerPolynomial, Nat.add_sub_cancel]
      by_cases top : place + 1 = width
      · have last : width - 1 = place := by omega
        cases moved : register.getLsbD place with
        | false => simp [last, moved]
        | true => simp [top, last, moved, CharTwo.add_self_eq_zero]
      · by_cases inside : place < width
        · simp [top, show place + 1 < width by omega]
        · simp [top, BitVec.getLsbD_of_ge register place (Nat.not_lt.mp inside)]

include positive in
/-- A step multiplies by `X` and takes the divisor off when a one was moved out. -/
theorem register_polynomial_advance (generator register : BitVec width) :
    registerPolynomial (advance generator register) =
      X * registerPolynomial register + C (bitValue register.msb) * divisor generator := by
  rw [advance, register_polynomial_xor, register_polynomial_shift positive, divisor, mul_add,
    ← add_assoc]
  congr 1
  cases register.msb with
  | false => simp [registerPolynomial]
  | true => simp

/-! ## Division -/

include positive in
theorem divisor_dvd_feed (generator register : BitVec width) (bits : List Bool) :
    divisor generator ∣
      registerPolynomial register * X ^ bits.length + messagePolynomial bits * X ^ width -
        registerPolynomial (feed generator register bits) := by
  induction bits generalizing register with
  | nil => simp [messagePolynomial]
  | cons bit bits ih =>
      have later := ih (shiftIn generator register bit)
      have stepped : registerPolynomial (shiftIn generator register bit) =
          X * registerPolynomial register + C (bitValue bit) * X ^ width +
            C (bitValue (register ^^^ topBit width bit).msb) * divisor generator := by
        rw [shiftIn, register_polynomial_advance positive, register_polynomial_xor, mul_add,
          register_polynomial_topBit positive]
      have multiple : divisor generator ∣ C (bitValue (register ^^^ topBit width bit).msb) *
          divisor generator * X ^ bits.length :=
        (Dvd.intro_left _ rfl).mul_right _
      rw [stepped] at later
      have both := dvd_sub later multiple
      rw [feed_cons, List.length_cons, messagePolynomial]
      convert both using 1
      ring

include positive in
/-- The register ends as the remainder of the message. -/
theorem feed_eq_remainder (generator register : BitVec width) (bits : List Bool) :
    registerPolynomial (feed generator register bits) =
      (registerPolynomial register * X ^ bits.length + messagePolynomial bits * X ^ width) %ₘ
        divisor generator := by
  have monic := divisor_monic generator
  have small : (registerPolynomial (feed generator register bits)).degree <
      (divisor generator).degree := by
    rw [degree_divisor]
    exact degree_registerPolynomial _
  rw [modByMonic_eq_of_dvd_sub monic (divisor_dvd_feed positive generator register bits)]
  exact ((modByMonic_eq_self_iff monic).mpr small).symm

end Positive

end KnxDemo.Checksum
