import Mathlib.Data.List.Basic
import Mathlib.Logic.Function.Iterate

/-!
# Bit-serial shift registers

Division by a generator polynomial, one message bit at a time: the bit is added
to the top of the register, the register moves up one place, and the generator
is added when a one was moved out. The register is linear in its contents and
in the message. When the generator has a constant term a step without input is
injective, so no error confined to a window as wide as the register can bring
the register back to where an undisturbed message leaves it.
-/

namespace KnxDemo.Checksum

variable {width : Nat}

def topBit (width : Nat) (bit : Bool) : BitVec width :=
  if bit then BitVec.twoPow width (width - 1) else 0#(width)

/-- One step of the register without input. -/
def advance (generator register : BitVec width) : BitVec width :=
  (register <<< 1) ^^^ (if register.msb then generator else 0#(width))

def shiftIn (generator register : BitVec width) (bit : Bool) : BitVec width :=
  advance generator (register ^^^ topBit width bit)

def feed (generator register : BitVec width) (bits : List Bool) : BitVec width :=
  bits.foldl (shiftIn generator) register

@[simp] theorem feed_nil (generator register : BitVec width) :
    feed generator register [] = register := rfl

@[simp] theorem feed_cons (generator register : BitVec width) (bit : Bool) (bits : List Bool) :
    feed generator register (bit :: bits) =
      feed generator (shiftIn generator register bit) bits := rfl

theorem feed_append (generator register : BitVec width) (front back : List Bool) :
    feed generator register (front ++ back) =
      feed generator (feed generator register front) back :=
  List.foldl_append

theorem topBit_xor (left right : Bool) :
    topBit width (left ^^ right) = topBit width left ^^^ topBit width right := by
  cases left <;> cases right <;> simp [topBit]

@[simp] theorem advance_zero (generator : BitVec width) :
    advance generator 0#(width) = 0#(width) := by
  simp [advance]

theorem advance_xor (generator left right : BitVec width) :
    advance generator (left ^^^ right) = advance generator left ^^^ advance generator right := by
  have shifted : (left ^^^ right) <<< 1 = left <<< 1 ^^^ right <<< 1 :=
    BitVec.shiftLeft_xor_distrib left right 1
  simp only [advance, BitVec.msb_xor, shifted]
  cases left.msb <;> cases right.msb <;> simp <;> grind

theorem shiftIn_xor (generator left right : BitVec width) (bit other : Bool) :
    shiftIn generator (left ^^^ right) (bit ^^ other) =
      shiftIn generator left bit ^^^ shiftIn generator right other := by
  rw [shiftIn, topBit_xor, shiftIn, shiftIn, ← advance_xor]
  congr 1
  ac_rfl

/-- Superposition: the register of a disturbed message is the register of the
message plus the register of the disturbance. -/
theorem feed_xor (generator left right : BitVec width) (bits errors : List Bool)
    (same : bits.length = errors.length) :
    feed generator (left ^^^ right) (List.zipWith (· ^^ ·) bits errors) =
      feed generator left bits ^^^ feed generator right errors := by
  induction bits generalizing left right errors with
  | nil =>
      have empty : errors = [] := List.length_eq_zero_iff.mp same.symm
      simp [empty]
  | cons bit bits ih =>
      cases errors with
      | nil => simp at same
      | cons error errors =>
          simp only [List.zipWith_cons_cons, feed_cons, shiftIn_xor]
          exact ih _ _ _ (by simpa using same)

section ConstantTerm

variable {generator : BitVec width} (constantTerm : generator.getLsbD 0 = true)

include constantTerm in
theorem advance_eq_zero {register : BitVec width} (zero : advance generator register = 0#(width)) :
    register = 0#(width) := by
  have lowest := congrArg (fun value => value.getLsbD 0) zero
  have positive : 0 < width := BitVec.lt_of_getLsbD constantTerm
  cases top : register.msb with
  | true => simp [advance, top, constantTerm] at lowest
  | false =>
      apply BitVec.eq_of_getElem_eq
      intro index inside
      by_cases last : index + 1 = width
      · have topPlace : register.msb = register[index] := by
          rw [BitVec.msb_eq_getLsbD_last, show width - 1 = index by omega,
            BitVec.getLsbD_eq_getElem inside]
        simp [← topPlace, top]
      · have above := congrArg (fun value => value.getLsbD (index + 1)) zero
        simpa [advance, top, show index + 1 < width by omega] using above

include constantTerm in
theorem iterate_advance_eq_zero (count : Nat) {register : BitVec width}
    (zero : (advance generator)^[count] register = 0#(width)) : register = 0#(width) := by
  induction count generalizing register with
  | zero => exact zero
  | succ count ih => exact advance_eq_zero constantTerm (ih zero)

end ConstantTerm

theorem getMsbD_topBit (bit : Bool) (index : Nat) (inside : index < width) :
    (topBit width bit).getMsbD index = (decide (index = 0) && bit) := by
  have place : width - 1 - index = width - 1 ↔ index = 0 := by omega
  have lower : width - 1 - index < width := by omega
  cases bit <;> simp [topBit, BitVec.getMsbD, inside, place, lower]

/-- The bits of a short message, laid out from the top place downwards. -/
def placed (width : Nat) : List Bool → BitVec width
  | [] => 0#(width)
  | bit :: bits => topBit width bit ^^^ placed width bits >>> 1

theorem getMsbD_placed (bits : List Bool) (index : Nat) (inside : index < width) :
    (placed width bits).getMsbD index = bits.getD index false := by
  induction bits generalizing index with
  | nil => simp [placed]
  | cons bit bits ih =>
      cases index with
      | zero => simp [placed, getMsbD_topBit _ _ inside]
      | succ index =>
          have before := ih index (by omega)
          simp [placed, getMsbD_topBit _ _ inside, before, inside]

/-- As long as the message is no wider than the register, feeding it is adding
it to the register and then advancing. -/
theorem feed_eq_iterate (generator register : BitVec width) (bits : List Bool)
    (short : bits.length ≤ width) :
    feed generator register bits =
      (advance generator)^[bits.length] (register ^^^ placed width bits) := by
  induction bits generalizing register with
  | nil => simp [placed]
  | cons bit bits ih =>
      have tailShort : bits.length + 1 ≤ width := by simpa using short
      have lowClear : (placed width bits).getLsbD 0 = false := by
        have last := getMsbD_placed bits (width - 1) (by omega : width - 1 < width)
        rw [BitVec.getMsbD, Nat.sub_self] at last
        simpa [show width - 1 < width by omega, show 0 < width by omega,
          List.getElem?_eq_none (show bits.length ≤ width - 1 by omega)] using last
      have restored : advance generator (placed width bits >>> 1) = placed width bits := by
        apply BitVec.eq_of_getLsbD_eq
        intro index inside
        have topClear : (placed width bits >>> 1).msb = false := by
          simp [BitVec.msb_ushiftRight]
        cases index with
        | zero => simp [advance, topClear, lowClear]
        | succ index => simp [advance, topClear, inside, Nat.add_comm 1 index]
      rw [feed_cons, ih _ (by omega), List.length_cons, Function.iterate_succ_apply]
      congr 1
      rw [placed, shiftIn, ← BitVec.xor_assoc, advance_xor _ (register ^^^ _), restored]

theorem feed_zeros (generator register : BitVec width) (bits : List Bool)
    (zeros : ∀ bit ∈ bits, bit = false) :
    feed generator register bits = (advance generator)^[bits.length] register := by
  induction bits generalizing register with
  | nil => rfl
  | cons bit bits ih =>
      have first : bit = false := zeros bit (by simp)
      rw [feed_cons, ih _ fun later member => zeros later (by simp [member]), first,
        List.length_cons, Function.iterate_succ_apply]
      simp [shiftIn, topBit]

theorem iterate_advance_zero (generator : BitVec width) (count : Nat) :
    (advance generator)^[count] 0#(width) = 0#(width) :=
  Function.iterate_fixed (advance_zero generator) count

theorem take_clear {errors : List Bool} {start : Nat}
    (later : ∀ index, errors[index]? = some true → start ≤ index) :
    ∀ bit ∈ errors.take start, bit = false := by
  intro bit member
  obtain ⟨index, inside, rfl⟩ := List.mem_iff_getElem.mp member
  have bound : index < start ∧ index < errors.length := by
    simpa [Nat.lt_min] using inside
  rw [List.getElem_take, Bool.eq_false_iff]
  intro set
  have here : errors[index]? = some true := by
    rw [List.getElem?_eq_getElem bound.2, set]
  exact absurd (later index here) (Nat.not_le.mpr bound.1)

theorem drop_clear {errors : List Bool} {stop : Nat}
    (earlier : ∀ index, errors[index]? = some true → index < stop) :
    ∀ bit ∈ errors.drop stop, bit = false := by
  intro bit member
  obtain ⟨index, inside, rfl⟩ := List.mem_iff_getElem.mp member
  rw [List.getElem_drop, Bool.eq_false_iff]
  intro set
  have here : errors[stop + index]? = some true := by
    rw [← set, ← List.getElem?_eq_getElem]
  exact absurd (earlier _ here) (by omega)

theorem clear_of_feed_eq_zero {generator : BitVec width}
    (constantTerm : generator.getLsbD 0 = true) {burst : List Bool}
    (short : burst.length ≤ width) (zero : feed generator 0#(width) burst = 0#(width)) :
    ∀ bit ∈ burst, bit = false := by
  rw [feed_eq_iterate _ _ _ short] at zero
  have nothing := iterate_advance_eq_zero constantTerm _ zero
  rw [BitVec.zero_xor] at nothing
  intro bit member
  obtain ⟨index, inside, rfl⟩ := List.mem_iff_getElem.mp member
  have place := getMsbD_placed burst index (Nat.lt_of_lt_of_le inside short)
  rw [nothing] at place
  simpa [inside] using place.symm

/-- A burst no longer than the register leaves a trace in it, whatever number of
undisturbed bits comes before and after the burst. -/
theorem feed_burst_ne_zero {generator : BitVec width}
    (constantTerm : generator.getLsbD 0 = true) (errors : List Bool) (start : Nat)
    (window : ∀ index, errors[index]? = some true → start ≤ index ∧ index < start + width)
    (disturbed : true ∈ errors) :
    feed generator 0#(width) errors ≠ 0#(width) := by
  intro undetected
  let before := errors.take start
  let burst := (errors.drop start).take width
  let after := (errors.drop start).drop width
  have split : errors = before ++ (burst ++ after) := by
    rw [List.take_append_drop, List.take_append_drop]
  have beforeClear : ∀ bit ∈ before, bit = false := take_clear fun index set => (window index set).1
  have afterClear : ∀ bit ∈ after, bit = false := by
    simp only [after, List.drop_drop]
    exact drop_clear fun index set => (window index set).2
  have burstShort : burst.length ≤ width := by
    simp only [burst, List.length_take]
    exact Nat.min_le_left _ _
  rw [split, feed_append, feed_zeros _ _ before beforeClear, iterate_advance_zero, feed_append,
    feed_zeros _ _ after afterClear] at undetected
  have burstZero := iterate_advance_eq_zero constantTerm _ undetected
  have burstClear := clear_of_feed_eq_zero constantTerm burstShort burstZero
  rw [split] at disturbed
  simp only [List.mem_append] at disturbed
  rcases disturbed with member | member | member
  · exact Bool.noConfusion (beforeClear _ member)
  · exact Bool.noConfusion (burstClear _ member)
  · exact Bool.noConfusion (afterClear _ member)

end KnxDemo.Checksum
