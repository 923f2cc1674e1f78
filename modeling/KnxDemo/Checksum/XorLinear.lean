import Mathlib.Data.List.Basic

/-!
# Exclusive-or linear maps between registers

A map that respects exclusive or is determined by its values on the single-bit
registers, so two such maps are compared by finitely many evaluations.
-/

namespace KnxDemo.Checksum

variable {source target : Nat}

def XorLinear (map : BitVec source → BitVec target) : Prop :=
  ∀ left right, map (left ^^^ right) = map left ^^^ map right

theorem XorLinear.map_zero {map : BitVec source → BitVec target} (linear : XorLinear map) :
    map 0#(source) = 0#(target) := by
  have doubled := linear 0#(source) 0#(source)
  rwa [BitVec.xor_self, BitVec.xor_self] at doubled

theorem low_bits_split (value : BitVec source) (count : Nat)
    (low : ∀ index, count + 1 ≤ index → value.getLsbD index = false) :
    ∃ rest : BitVec source, (∀ index, count ≤ index → rest.getLsbD index = false) ∧
      (value = rest ∨ value = rest ^^^ BitVec.twoPow source count) := by
  cases set : value.getLsbD count with
  | false =>
      refine ⟨value, fun index above => ?_, .inl rfl⟩
      by_cases here : index = count
      · rw [here, set]
      · exact low index (by omega)
  | true =>
      refine ⟨value ^^^ BitVec.twoPow source count, fun index above => ?_, .inr ?_⟩
      · have bound := BitVec.lt_of_getLsbD set
        by_cases here : index = count
        · simp [here, set, bound]
        · simp [low index (by omega), BitVec.getLsbD_twoPow, Ne.symm here]
      · rw [BitVec.xor_assoc, BitVec.xor_self, BitVec.xor_zero]

theorem XorLinear.eq_of_low_bits {map other : BitVec source → BitVec target}
    (linear : XorLinear map) (otherLinear : XorLinear other)
    (basis : ∀ index, index < source →
      map (BitVec.twoPow source index) = other (BitVec.twoPow source index))
    (count : Nat) (bounded : count ≤ source) (value : BitVec source)
    (low : ∀ index, count ≤ index → value.getLsbD index = false) :
    map value = other value := by
  induction count generalizing value with
  | zero =>
      have zero : value = 0#(source) := by
        apply BitVec.eq_of_getLsbD_eq
        intro index _
        simp [low index (Nat.zero_le _)]
      rw [zero, linear.map_zero, otherLinear.map_zero]
  | succ count ih =>
      obtain ⟨rest, restLow, rfl | rfl⟩ := low_bits_split value count low
      · exact ih (by omega) value restLow
      · rw [linear, otherLinear, ih (by omega) rest restLow, basis count (by omega)]

theorem XorLinear.eq_of_basis {map other : BitVec source → BitVec target}
    (linear : XorLinear map) (otherLinear : XorLinear other)
    (basis : ∀ index, index < source →
      map (BitVec.twoPow source index) = other (BitVec.twoPow source index))
    (value : BitVec source) : map value = other value :=
  linear.eq_of_low_bits otherLinear basis source (Nat.le_refl _) value
    fun index outside => BitVec.getLsbD_of_ge value index outside

end KnxDemo.Checksum
