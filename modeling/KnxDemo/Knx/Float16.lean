import KnxDemo.Knx.Datapoint
import Mathlib.Tactic.IntervalCases
import Mathlib.Tactic.Linarith
import Mathlib.Tactic.Ring

/-!
# Sixteen-bit floats

The encoder halves its target until it fits the mantissa and truncates it. The
correction it makes for negative mantissas takes one off, so a negative number
is read back one step low, and the least mantissa reads back as minus one. Both
scalings, by a hundred and by a hundredth, are right to a float's precision.
-/

namespace KnxDemo.Float16Coding

open KnxDemo.Arithmetic KnxDemo.Bytes KnxDemo.KnxProto KnxDemo.KnxGenerate KnxDemo.KnxParse
open KnxDemo.KnxDatapoint KnxDemo.Interaction KnxDemo.Interaction.Loader

/-! ## Scaling -/

/-- The range the loop scales its target to. -/
def Fits (target : ℚ) : Prop := -2048 ≤ target ∧ target ≤ 2047

theorem fits_iff (target : ℚ) : Fits target ↔ ¬ (target < -2048 ∨ target > 2047) := by
  rw [Fits, not_or, not_lt, gt_iff_lt, not_lt]

/-- The loop ends after the least number of halvings that make the target fit. -/
theorem halve_spec (target : ℚ) (e : Nat) :
    ∃ count, halve target e = (target / 2 ^ count, e + count) ∧ Fits (target / 2 ^ count) ∧
      ∀ fewer < count, ¬ Fits (target / 2 ^ fewer) := by
  induction target, e using halve.induct with
  | case1 target e outside ih =>
      obtain ⟨count, halved, fits, least⟩ := ih
      have shift : ∀ times, target / 2 / 2 ^ times = target / 2 ^ (times + 1) := by
        intro times
        rw [pow_succ', div_div]
      refine ⟨count + 1, ?_, ?_, ?_⟩
      · rw [halve, if_pos outside, halved, shift, Nat.add_assoc, Nat.add_comm 1 count]
      · rwa [← shift]
      · intro fewer below
        cases fewer with
        | zero =>
            rw [pow_zero, div_one, fits_iff]
            exact not_not.mpr outside
        | succ fewer =>
            rw [← shift]
            exact least fewer (by omega)
  | case2 target e inside =>
      refine ⟨0, ?_, ?_, fun fewer below => absurd below (Nat.not_lt_zero _)⟩
      · rw [halve, if_neg inside, pow_zero, div_one, Nat.add_zero]
      · rwa [pow_zero, div_one, fits_iff]

theorem cut_off_bounds (target : ℚ) :
    -67108864 ≤ cutOff target ∧ cutOff target ≤ 67076096 := by
  unfold cutOff
  split_ifs with above below
  · norm_num
  · norm_num
  · exact ⟨not_lt.mp below, not_lt.mp above⟩

theorem cut_off_fits (target : ℚ) {count : Nat} (many : 15 ≤ count) :
    Fits (cutOff target / 2 ^ count) := by
  obtain ⟨lower, upper⟩ := cut_off_bounds target
  have scale : (2 : ℚ) ^ 15 ≤ 2 ^ count := pow_le_pow_right₀ (by norm_num) many
  have positive : (0 : ℚ) < 2 ^ count := by positivity
  norm_num at scale
  constructor
  · rw [le_div_iff₀ positive]
    linarith
  · rw [div_le_iff₀ positive]
    linarith

def exponentOf (target : ℚ) : Nat := (halve (cutOff target) 0).2

def scaled (target : ℚ) : ℚ := (halve (cutOff target) 0).1

theorem scaled_eq (target : ℚ) : scaled target = cutOff target / 2 ^ exponentOf target := by
  obtain ⟨count, halved, -, -⟩ := halve_spec (cutOff target) 0
  rw [scaled, exponentOf, halved, Nat.zero_add]

theorem scaled_fits (target : ℚ) : Fits (scaled target) := by
  obtain ⟨count, halved, fits, -⟩ := halve_spec (cutOff target) 0
  rwa [scaled, halved]

theorem exponent_least (target : ℚ) :
    ∀ fewer < exponentOf target, ¬ Fits (cutOff target / 2 ^ fewer) := by
  obtain ⟨count, halved, -, least⟩ := halve_spec (cutOff target) 0
  rw [exponentOf, halved, Nat.zero_add]
  exact least

theorem exponent_le (target : ℚ) : exponentOf target ≤ 15 := by
  by_contra large
  exact exponent_least target 15 (by omega) (cut_off_fits target (Nat.le_refl _))

/-! ## Mantissas -/

theorem truncate_bounds {target : ℚ} (fits : Fits target) :
    -2048 ≤ truncate target ∧ truncate target ≤ 2047 := by
  obtain ⟨lower, upper⟩ := fits
  unfold truncate
  split_ifs with sign
  · constructor
    · exact le_trans (by norm_num) (Int.floor_nonneg.mpr sign)
    · have below : (⌊target⌋ : ℚ) ≤ 2047 := le_trans (Int.floor_le target) upper
      exact_mod_cast below
  · constructor
    · have above : (-2048 : ℚ) ≤ ⌈target⌉ := le_trans lower (Int.le_ceil target)
      exact_mod_cast above
    · apply le_trans (Int.ceil_le.mpr (show target ≤ ((0 : Int) : ℚ) by push_cast; linarith))
      norm_num

/-- The correction for negative mantissas. -/
def corrected (m : Int) : Int := if m < 0 then m - 1 else m

def readMantissa (m : Int) : Int := if m = -2048 then -1 else corrected m

/-- What the two octets of a float are read as. -/
structure Float16Code where
  mantissa : Int
  exponent : Nat
  deriving DecidableEq

def Float16Code.InRange (code : Float16Code) : Prop :=
  -2048 ≤ code.mantissa ∧ code.mantissa ≤ 2047 ∧ code.exponent ≤ 15

def Float16Code.value (code : Float16Code) : ℚ := scaledFloat code.mantissa code.exponent

/-- The code that is read back from the encoding of a target. -/
def float16Of (target : ℚ) : Float16Code where
  mantissa := readMantissa (truncate (scaled target))
  exponent := exponentOf target

theorem slt_zero_iff (m : BitVec 16) : m.slt 0 = decide (m.toInt < 0) := by
  rw [BitVec.slt_eq_decide]
  rfl

theorem corrected_word {m : Int} (lower : -2048 ≤ m) (upper : m ≤ 2047) :
    (if (BitVec.ofInt 16 m).slt 0 then ~~~(~~~(BitVec.ofInt 16 m) + 1) else BitVec.ofInt 16 m) =
      BitVec.ofInt 16 (corrected m) := by
  have value : (BitVec.ofInt 16 m).toInt = m := by
    rw [BitVec.toInt_ofInt]
    apply Int.bmod_eq_of_le <;> omega
  rw [slt_zero_iff, value, corrected]
  by_cases negative : m < 0
  · have complement : ∀ word : BitVec 16, ~~~(~~~word + 1) = word - 1 := by
      intro word
      bv_omega
    rw [if_pos (by simpa using negative), if_pos negative, complement]
    apply BitVec.eq_of_toInt_eq
    rw [BitVec.toInt_sub, value, BitVec.toInt_ofInt]
    rfl
  · rw [if_neg (by simpa using negative), if_neg negative]

/-! ## Octets -/

theorem float16_octet : ∀ (negative : Bool) (e : Fin 16) (high : Fin 8),
    let octet := BitVec.ofNat 8 (bit negative <<< 7 ||| (e.val &&& 15) <<< 3 ||| high.val)
    (octet &&& 128 ≠ 0 ↔ negative) ∧ (octet >>> 3 &&& 15).toNat = e ∧
      octet &&& 7 = BitVec.ofNat 8 high := by
  decide +kernel

theorem high_mantissa_bits (m : BitVec 16) :
    (m.sshiftRight 8 &&& 7).toNat = m.toNat / 256 % 8 := by
  have arithmetic : m.sshiftRight 8 &&& 7#16 = m >>> 8 &&& 7#16 := by
    apply BitVec.eq_of_getElem_eq
    intro index inside
    rw [BitVec.getElem_and, BitVec.getElem_and, BitVec.getElem_sshiftRight,
      BitVec.getElem_ushiftRight]
    interval_cases index <;> simp
  have mask := Nat.and_two_pow_sub_one_eq_mod (m.toNat >>> 8) 3
  simp only [Nat.reducePow, Nat.reduceSub] at mask
  change (m.sshiftRight 8 &&& 7#16).toNat = _
  rw [arithmetic, BitVec.toNat_and, BitVec.toNat_ushiftRight, BitVec.toNat_ofNat, mask,
    Nat.shiftRight_eq_div_pow]

theorem low_mantissa_bits (m : BitVec 16) : (m &&& 255).setWidth 8 = lowByte m := by
  apply BitVec.eq_of_getElem_eq
  intro index inside
  rw [lowByte, BitVec.getElem_setWidth, BitVec.getElem_setWidth, BitVec.getLsbD_and]
  interval_cases index <;> simp

def float16Octets (target : ℚ) : List Byte :=
  let m := BitVec.ofInt 16 (corrected (truncate (scaled target)))
  [BitVec.ofNat 8 (bit (m.slt 0) <<< 7 ||| (exponentOf target &&& 15) <<< 3 |||
    (m.sshiftRight 8 &&& 7).toNat), (m &&& 255).setWidth 8]

theorem generate_float16_eq (buffer : Buffer Byte) (apdu : Nat) (value : ℚ) :
    knxDptGenerateFloat16 buffer apdu value =
      (clearLowSix buffer apdu).storeBlock (apdu + 1) (float16Octets (timesHundred value)) := by
  obtain ⟨lower, upper⟩ := truncate_bounds (scaled_fits (timesHundred value))
  have word := corrected_word lower upper
  unfold knxDptGenerateFloat16
  rw [scaled] at word
  simp only [word]
  rfl

theorem read_mantissa {m : Int} (lower : -2048 ≤ m) (upper : m ≤ 2047) :
    let stored := BitVec.ofInt 16 (corrected m)
    let joined := word (BitVec.ofNat 8 (stored.toNat / 256 % 8)) (lowByte stored)
    (if stored.slt 0 then joined - 2048 else joined).toInt = readMantissa m := by
  intro stored joined
  have range : -2049 ≤ corrected m ∧ corrected m ≤ 2047 := by
    unfold corrected
    split_ifs <;> omega
  have value : stored.toInt = corrected m := by
    rw [BitVec.toInt_ofInt]
    apply Int.bmod_eq_of_le <;> omega
  have joinedValue : joined.toNat = stored.toNat % 2048 := by
    rw [toNat_word, toNat_lowByte, BitVec.toNat_ofNat]
    omega
  rw [slt_zero_iff, value]
  rw [BitVec.toInt_eq_toNat_cond] at value
  have small := stored.isLt
  by_cases negative : corrected m < 0
  · have difference : (joined - 2048).toInt = (joined.toNat : Int) - 2048 := by
      rw [BitVec.toInt_eq_toNat_cond, BitVec.toNat_sub,
        show (2048 : BitVec 16).toNat = 2048 from rfl]
      split_ifs <;> omega
    rw [if_pos (by simpa using negative), difference, joinedValue]
    unfold readMantissa corrected at *
    split_ifs at * <;> omega
  · have same : joined.toInt = (joined.toNat : Int) := by
      rw [BitVec.toInt_eq_toNat_cond, if_pos (by omega)]
    rw [if_neg (by simpa using negative), same, joinedValue]
    unfold readMantissa corrected at *
    split_ifs at * <;> omega

theorem parse_float16 {memory : Nat → Byte} {apdu : Nat} {target : ℚ}
    (held : Buffer.Holds memory (apdu + 1) (float16Octets target)) :
    eval memory (knxDptFloat16Parse apdu 3) = some (float16Of target).value := by
  obtain ⟨first, second, -⟩ := held
  obtain ⟨lower, upper⟩ := truncate_bounds (scaled_fits target)
  have mantissa := read_mantissa lower upper
  have octet := float16_octet ((BitVec.ofInt 16 (corrected (truncate (scaled target)))).slt 0)
    ⟨exponentOf target, Nat.lt_succ_of_le (exponent_le target)⟩
    ⟨(BitVec.ofInt 16 (corrected (truncate (scaled target)))).toNat / 256 % 8,
      Nat.mod_lt _ (by omega)⟩
  simp only at octet mantissa
  rw [high_mantissa_bits] at first
  rw [low_mantissa_bits] at second
  rw [← first] at octet
  obtain ⟨sign, exponent, high⟩ := octet
  rw [← high, ← second] at mantissa
  simp only [← sign] at mantissa
  simp only [knxDptFloat16Parse, eval_ite, eval_bind, eval_load, eval_pure]
  rw [if_neg (by omega), exponent]
  exact congrArg some (congrArg (scaledFloat · _) mantissa)

/-! ## Accuracy -/

/-- The number a code stands for, in hundredths. -/
def hundredths (code : Float16Code) : ℚ := code.mantissa * 2 ^ code.exponent

/-- How a code relates to the target that was encoded. The step of the last mantissa
place is two to the exponent. -/
structure Float16Reading (target : ℚ) (code : Float16Code) : Prop where
  exponent : code.exponent ≤ 15
  /-- Above exponent zero the step is less than a 1023rd of the target. -/
  fine : code.exponent ≠ 0 → 2047 * 2 ^ code.exponent < 2 * |cutOff target|
  /-- Rounded down by less than a step. -/
  nonnegative : 0 ≤ target →
    hundredths code ≤ cutOff target ∧ cutOff target < hundredths code + 2 ^ code.exponent
  vanishing : -1 < target → target < 0 → hundredths code = 0
  /-- One step below the rounding toward zero, so low even where no rounding is needed. -/
  negative : target ≤ -1 → cutOff target ≠ -2048 * 2 ^ code.exponent →
    hundredths code < cutOff target ∧ cutOff target ≤ hundredths code + 2 ^ code.exponent
  /-- The least mantissa is read back as minus one step. -/
  least : cutOff target = -2048 * 2 ^ code.exponent → hundredths code = -2 ^ code.exponent

section Accuracy

variable (target : ℚ)

theorem cut_off_eq : cutOff target = scaled target * 2 ^ exponentOf target := by
  rw [scaled_eq, div_mul_cancel₀]
  positivity

theorem cut_off_sign : 0 ≤ cutOff target ↔ 0 ≤ target := by
  unfold cutOff
  split_ifs with above below
  · exact iff_of_true (by norm_num) (by linarith)
  · exact iff_of_false (by norm_num) (by linarith)
  · rfl

theorem cut_off_fine (positive : exponentOf target ≠ 0) :
    2047 * 2 ^ exponentOf target < 2 * |cutOff target| := by
  obtain ⟨before, exponent⟩ := Nat.exists_eq_succ_of_ne_zero positive
  have outside := exponent_least target before (by omega)
  rw [fits_iff, not_not] at outside
  have scale : (0 : ℚ) < 2 ^ before := by positivity
  rw [exponent, pow_succ]
  rcases outside with below | above
  · rw [div_lt_iff₀ scale] at below
    have magnitude := neg_le_abs (cutOff target)
    linarith
  · rw [gt_iff_lt, lt_div_iff₀ scale] at above
    have magnitude := le_abs_self (cutOff target)
    linarith

theorem scaled_le_neg_one (below : target ≤ -1) : scaled target ≤ -1 := by
  have negative : cutOff target ≤ -1 := by
    unfold cutOff
    split_ifs <;> linarith
  by_cases unscaled : exponentOf target = 0
  · rwa [scaled_eq, unscaled, pow_zero, div_one]
  · have fine := cut_off_fine target unscaled
    have scale : (0 : ℚ) < 2 ^ exponentOf target := by positivity
    rw [abs_of_neg (by linarith)] at fine
    rw [scaled_eq, div_le_iff₀ scale]
    linarith

theorem hundredths_of_nonneg (sign : 0 ≤ target) :
    hundredths (float16Of target) ≤ cutOff target ∧
      cutOff target < hundredths (float16Of target) + 2 ^ exponentOf target := by
  have scale : (0 : ℚ) < 2 ^ exponentOf target := by positivity
  have scaledSign : 0 ≤ scaled target := by
    rw [scaled_eq]
    exact div_nonneg ((cut_off_sign target).mpr sign) scale.le
  have mantissa : (float16Of target).mantissa = ⌊scaled target⌋ := by
    have floor := Int.floor_nonneg.mpr scaledSign
    simp only [float16Of, readMantissa, truncate, if_pos scaledSign, corrected]
    rw [if_neg (by omega), if_neg (by omega)]
  have lower := Int.floor_le (scaled target)
  have upper := Int.lt_floor_add_one (scaled target)
  rw [hundredths, mantissa, cut_off_eq]
  constructor
  · exact mul_le_mul_of_nonneg_right lower scale.le
  · calc scaled target * 2 ^ exponentOf target
        < (⌊scaled target⌋ + 1) * 2 ^ exponentOf target := mul_lt_mul_of_pos_right upper scale
      _ = _ := by
        rw [add_mul, one_mul]
        rfl

theorem hundredths_of_vanishing (above : -1 < target) (negative : target < 0) :
    hundredths (float16Of target) = 0 := by
  have whole : cutOff target = target := by
    unfold cutOff
    rw [if_neg (by linarith), if_neg (by linarith)]
  have unscaled : exponentOf target = 0 := by
    by_contra positive
    have fine := cut_off_fine target positive
    have scale : (1 : ℚ) ≤ 2 ^ exponentOf target := one_le_pow₀ (by norm_num)
    rw [whole, abs_of_neg negative] at fine
    linarith
  have same : scaled target = target := by
    rw [scaled_eq, unscaled, pow_zero, div_one, whole]
  have mantissa : (float16Of target).mantissa = 0 := by
    have ceil : ⌈target⌉ = 0 := by
      rw [Int.ceil_eq_zero_iff]
      exact ⟨by linarith, negative.le⟩
    simp only [float16Of, truncate, same, if_neg (not_le.mpr negative), ceil]
    rfl
  rw [hundredths, mantissa, Int.cast_zero, zero_mul]

theorem mantissa_of_negative (below : target ≤ -1) :
    (float16Of target).mantissa = readMantissa ⌈scaled target⌉ ∧ ⌈scaled target⌉ < 0 := by
  have scaledBelow := scaled_le_neg_one target below
  constructor
  · simp only [float16Of, truncate, if_neg (show ¬ 0 ≤ scaled target by linarith)]
  · have ceil : ⌈scaled target⌉ ≤ -1 := Int.ceil_le.mpr (by push_cast; exact scaledBelow)
    omega

theorem hundredths_of_negative (below : target ≤ -1)
    (inner : cutOff target ≠ -2048 * 2 ^ exponentOf target) :
    hundredths (float16Of target) < cutOff target ∧
      cutOff target ≤ hundredths (float16Of target) + 2 ^ exponentOf target := by
  have scale : (0 : ℚ) < 2 ^ exponentOf target := by positivity
  obtain ⟨read, ceilSign⟩ := mantissa_of_negative target below
  have lower := Int.le_ceil (scaled target)
  have upper := Int.ceil_lt_add_one (scaled target)
  have notLeast : ⌈scaled target⌉ ≠ -2048 := by
    intro least
    apply inner
    rw [least] at lower
    have fits := (scaled_fits target).1
    rw [cut_off_eq, le_antisymm (by exact_mod_cast lower) fits]
  have mantissa : (float16Of target).mantissa = ⌈scaled target⌉ - 1 := by
    rw [read, readMantissa, corrected, if_neg notLeast, if_pos ceilSign]
  rw [hundredths, mantissa, cut_off_eq]
  push_cast
  constructor
  · exact mul_lt_mul_of_pos_right (by linarith) scale
  · calc scaled target * 2 ^ exponentOf target
        ≤ ⌈scaled target⌉ * 2 ^ exponentOf target := mul_le_mul_of_nonneg_right lower scale.le
      _ = _ := by
        rw [float16Of]
        ring

theorem hundredths_of_least (least : cutOff target = -2048 * 2 ^ exponentOf target) :
    hundredths (float16Of target) = -2 ^ exponentOf target := by
  have scale : (0 : ℚ) < 2 ^ exponentOf target := by positivity
  have bottom : scaled target = -2048 := by
    rw [scaled_eq, least, mul_div_cancel_right₀ _ scale.ne']
  have mantissa : (float16Of target).mantissa = -1 := by
    simp only [float16Of, bottom]
    norm_num [truncate, readMantissa]
  rw [hundredths, mantissa]
  simp [float16Of]

theorem float16_reading : Float16Reading target (float16Of target) where
  exponent := exponent_le target
  fine := cut_off_fine target
  nonnegative := hundredths_of_nonneg target
  vanishing := hundredths_of_vanishing target
  negative := hundredths_of_negative target
  least := hundredths_of_least target

end Accuracy

/-! ## The two scalings -/

theorem times_hundred_error (value : ℚ) :
    |timesHundred value - value * 100| ≤ |value * 100| / 2 ^ 24 + 1 / 2 ^ 150 := by
  have close := binary32.round_close (value * 100)
  have least : (2 : ℚ) ^ binary32.least / 2 = 1 / 2 ^ 150 := by
    norm_num [binary32]
  rwa [least] at close

theorem near_rounded (format : BinaryFormat) (fine : format.least + format.precision ≤ -10)
    {part next number exact : ℚ} (near : Near part number exact) (large : 1 / 100 ≤ |exact|)
    (half : part ≤ 1 / 2)
    (sum : part + 1 / 2 ^ format.precision + part * (1 / 2 ^ format.precision) ≤ next) :
    Near next (format.round number) exact := by
  have positive : (0 : ℚ) ≤ 1 / 2 ^ format.precision := by positivity
  have number_large : 1 / 1000 ≤ |number| := by
    have kept := near.le_abs
    have share := mul_le_mul_of_nonneg_right half (abs_nonneg exact)
    linarith
  have rounding : Near (1 / 2 ^ format.precision) (format.round number) number := by
    apply format.near_round
    calc (2 : ℚ) ^ (format.least + (format.precision : Int))
        ≤ 2 ^ (-10 : Int) := zpow_le_zpow_right₀ (by norm_num) fine
      _ ≤ 1 / 1000 := by norm_num
      _ ≤ |number| := number_large
  exact (rounding.trans near positive).mono sum

theorem value_near (code : Float16Code) :
    Near (1 / 2 ^ 23) code.value (hundredths code / 100) := by
  have fine64 : binary64.least + binary64.precision ≤ -10 := by decide
  have fine32 : binary32.least + binary32.precision ≤ -10 := by decide
  by_cases zero : code.mantissa = 0
  · simp [Near, Float16Code.value, scaledFloat, hundredths, zero, BinaryFormat.round_zero]
  have mantissa : 1 ≤ |(code.mantissa : ℚ)| := by
    rw [← Int.cast_abs]
    exact_mod_cast Int.one_le_abs zero
  have scale : (1 : ℚ) ≤ |2 ^ code.exponent| := by
    rw [abs_of_pos (by positivity)]
    exact one_le_pow₀ (by norm_num)
  have product : 1 / 100 ≤ |1 / 100 * (code.mantissa : ℚ)| := by
    rw [abs_mul, abs_of_pos (by norm_num)]
    linarith
  have whole : 1 / 100 ≤ |1 / 100 * (code.mantissa : ℚ) * 2 ^ code.exponent| := by
    rw [abs_mul]
    exact le_trans product (le_mul_of_one_le_right (abs_nonneg _) scale)
  have exact : hundredths code / 100 = 1 / 100 * (code.mantissa : ℚ) * 2 ^ code.exponent := by
    rw [hundredths]
    ring
  have hundredth : Near (0 : ℚ) (1 / 100) (1 / 100) := by norm_num [Near]
  have factor : Near (1 / 2 ^ 52) (binary64.round (1 / 100 : ℚ)) (1 / 100) :=
    near_rounded binary64 fine64 hundredth (by norm_num) (by norm_num) (by norm_num [binary64])
  have small : Near (1 / 2 ^ 51) (binary64.round (binary64.round (1 / 100 : ℚ) * code.mantissa))
      (1 / 100 * code.mantissa) :=
    near_rounded binary64 fine64 (factor.mul_right _) product (by norm_num)
      (by norm_num [binary64])
  rw [Float16Code.value, scaledFloat, exact]
  apply near_rounded binary32 fine32 _ whole (show (1 / 2 ^ 50 : ℚ) ≤ 1 / 2 by norm_num)
    (by norm_num [binary32])
  exact near_rounded binary64 fine64 (small.mul_right _) whole (by norm_num)
    (by norm_num [binary64])

end KnxDemo.Float16Coding
