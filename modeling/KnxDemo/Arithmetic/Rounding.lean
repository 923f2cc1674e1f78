import Mathlib.Algebra.Order.Floor.Ring
import Mathlib.Algebra.Order.Field.Power
import Mathlib.Data.Int.Log
import Mathlib.Tactic.Linarith
import Mathlib.Tactic.Positivity
import Mathlib.Tactic.Ring

/-!
# Rounding to binary numbers

A number is rounded to the nearest multiple of its last place, and to the even one of two. The
last place leaves as many binary digits as a format has, and is never below the least one. What
overflows a format is left to its users.
-/

namespace KnxDemo.Arithmetic

variable {K : Type} [Field K] [LinearOrder K] [IsStrictOrderedRing K]

/-! ## Relative errors -/

/-- The number is wrong by no more than a part of the exact one. -/
def Near (part number exact : K) : Prop := |number - exact| ≤ part * |exact|

namespace Near

variable {part other number exact factor : K}

theorem mul_right (near : Near part number exact) (factor : K) :
    Near part (number * factor) (exact * factor) := by
  rw [Near, ← sub_mul, abs_mul, abs_mul, ← mul_assoc]
  exact mul_le_mul_of_nonneg_right near (abs_nonneg factor)

theorem mono (near : Near part number exact) (larger : part ≤ other) :
    Near other number exact :=
  le_trans near (mul_le_mul_of_nonneg_right larger (abs_nonneg exact))

theorem abs_le (near : Near part number exact) : |number| ≤ (1 + part) * |exact| := by
  have triangle := abs_sub_abs_le_abs_sub number exact
  rw [Near] at near
  linarith

theorem le_abs (near : Near part number exact) : (1 - part) * |exact| ≤ |number| := by
  have triangle := abs_sub_abs_le_abs_sub exact number
  rw [abs_sub_comm] at triangle
  rw [Near] at near
  linarith

theorem trans {last : K} (second : Near other last number) (first : Near part number exact)
    (nonneg : 0 ≤ other) : Near (part + other + part * other) last exact := by
  have triangle := abs_sub_le last number exact
  have scaled := mul_le_mul_of_nonneg_left first.abs_le nonneg
  rw [Near] at *
  linarith

end Near

/-! ## Integers -/

variable [FloorRing K]

/-- The nearest integer, and of two the even one. -/
def roundEven (value : K) : Int :=
  if Int.fract value < 1 / 2 ∨ Int.fract value = 1 / 2 ∧ Even ⌊value⌋ then ⌊value⌋
  else ⌊value⌋ + 1

theorem round_even_error (value : K) : |(roundEven value : K) - value| ≤ 1 / 2 := by
  have split := Int.floor_add_fract value
  have nonneg := Int.fract_nonneg value
  have less := Int.fract_lt_one value
  rw [abs_le, roundEven]
  split_ifs with down
  · have half : Int.fract value ≤ 1 / 2 := down.elim le_of_lt fun tie => tie.1.le
    constructor <;> linarith
  · have half : 1 / 2 ≤ Int.fract value := not_lt.mp (not_or.mp down).1
    push_cast
    constructor <;> linarith

theorem round_even_zero : roundEven (0 : K) = 0 := by
  rw [roundEven, Int.fract_zero, if_pos (.inl one_half_pos), Int.floor_zero]

/-! ## Formats -/

/-- The number of binary digits, and the exponent of the least positive number. -/
structure BinaryFormat where
  precision : Nat
  least : Int

def binary32 : BinaryFormat := ⟨24, -149⟩

def binary64 : BinaryFormat := ⟨53, -1074⟩

namespace BinaryFormat

variable (format : BinaryFormat)

/-- The exponent of the last place of a number. -/
def place (value : K) : Int := max (Int.log 2 |value| + 1 - format.precision) format.least

def round (value : K) : K :=
  roundEven (value / 2 ^ format.place value) * 2 ^ format.place value

theorem round_zero : format.round (0 : K) = 0 := by
  rw [round, zero_div, round_even_zero, Int.cast_zero, zero_mul]

theorem round_error (value : K) :
    |format.round value - value| ≤ 2 ^ format.place value / 2 := by
  have unit : (0 : K) < 2 ^ format.place value := by positivity
  have near := round_even_error (value / 2 ^ format.place value)
  have whole : format.round value - value =
      (roundEven (value / 2 ^ format.place value) - value / 2 ^ format.place value) *
        2 ^ format.place value := by
    rw [round, sub_mul, div_mul_cancel₀ _ unit.ne']
  rw [whole, abs_mul, abs_of_pos unit]
  calc _ ≤ 1 / 2 * 2 ^ format.place value := mul_le_mul_of_nonneg_right near unit.le
    _ = _ := by ring

theorem unit_le {value : K} (nonzero : value ≠ 0)
    (ample : format.least ≤ Int.log 2 |value| + 1 - format.precision) :
    (2 : K) ^ format.place value ≤ 2 * |value| / 2 ^ format.precision := by
  have below := Int.zpow_log_le_self Nat.one_lt_two (abs_pos.mpr nonzero)
  rw [place, max_eq_left ample, zpow_sub₀ two_ne_zero, zpow_add_one₀ two_ne_zero, zpow_natCast]
  apply div_le_div_of_nonneg_right _ (by positivity)
  rw [Nat.cast_ofNat] at below
  linarith

theorem round_close_of_ample {value : K} (nonzero : value ≠ 0)
    (ample : format.least ≤ Int.log 2 |value| + 1 - format.precision) :
    |format.round value - value| ≤ |value| / 2 ^ format.precision := by
  have error := format.round_error value
  have unit := format.unit_le nonzero ample
  rw [mul_div_assoc] at unit
  linarith

theorem round_close (value : K) :
    |format.round value - value| ≤ |value| / 2 ^ format.precision + 2 ^ format.least / 2 := by
  have least : (0 : K) < 2 ^ format.least := by positivity
  have share : 0 ≤ |value| / 2 ^ format.precision := by positivity
  by_cases zero : value = 0
  · rw [zero, round_zero, sub_zero, abs_zero, zero_div, zero_add]
    linarith
  · by_cases ample : format.least ≤ Int.log 2 |value| + 1 - format.precision
    · have close := format.round_close_of_ample zero ample
      linarith
    · have error := format.round_error value
      rw [place, max_eq_right (le_of_lt (not_le.mp ample))] at error
      linarith

theorem near_round {value : K}
    (large : (2 : K) ^ (format.least + format.precision) ≤ |value|) :
    Near (1 / 2 ^ format.precision) (format.round value) value := by
  have positive : (0 : K) < 2 ^ (format.least + (format.precision : Int)) := by positivity
  have nonzero := lt_of_lt_of_le positive large
  have log := (Int.zpow_le_iff_le_log Nat.one_lt_two nonzero).mp (by rwa [Nat.cast_ofNat])
  have close := format.round_close_of_ample (abs_pos.mp nonzero) (by omega)
  rwa [Near, one_div, inv_mul_eq_div]

end BinaryFormat

end KnxDemo.Arithmetic
