import KnxDemo.Knx.Float16
import KnxDemo.Knx.ParserBounds
import KnxDemo.Knx.RoundTrip

/-!
# Data points through application data and frames

A value is spread over the six low bits of the first octet and the octets after
it. The two top bits of the first octet belong to the APCI and are looked at by
no data point.
-/

namespace KnxDemo.DatapointCoding

open KnxDemo.Arithmetic
open KnxDemo.Bytes KnxDemo.KnxProto KnxDemo.KnxGenerate KnxDemo.KnxLayout KnxDemo.KnxParse
open KnxDemo.KnxParsing KnxDemo.KnxFields KnxDemo.KnxFrameFields KnxDemo.KnxRoundTrip
open KnxDemo.KnxParserBounds KnxDemo.KnxDatapoint KnxDemo.Float16Coding
open KnxDemo.Interaction KnxDemo.Interaction.Loader

/-! ## Octets -/

def lowSix : (type : KnxDpt) → type.Value → Byte
  | .bool, value => BitVec.ofNat 8 (bit value &&& 1)
  | .cvalue, value =>
      BitVec.ofNat 8 ((bit value.control &&& 1) <<< 1 ||| (bit value.value &&& 1))
  | .cstep, value => BitVec.ofNat 8 ((bit value.control &&& 1) <<< 3) ||| (value.step &&& 7)
  | _, _ => 0

def following : (type : KnxDpt) → type.Value → List Byte
  | .bool, _ | .cvalue, _ | .cstep, _ | .other, _ => []
  | .char, value | .unsigned8, value | .signed8, value => Vector.toList (n := 1) value
  | .unsigned16, value | .signed16, value => Vector.toList (n := 2) value
  | .float16, value => float16Octets (timesHundred value)
  | .timeOfDay, value =>
      [BitVec.ofNat 8 ((value.day &&& 7) >>> 5) ||| value.hour % 24, value.minute % 60,
        value.second % 60]
  | .date, value => [value.day % 32, value.month % 13, value.year % 100]
  | .unsigned32, value | .signed32, value | .float32, value => Vector.toList (n := 4) value

/-- The value that is read back: fields are reduced to their range, the day of the week is lost,
and a float is what its code is computed to. -/
def readBack : (type : KnxDpt) → type.Value → type.Value
  | .bool, value => value
  | .cvalue, value => value
  | .cstep, value => { control := value.control, step := value.step &&& 7 }
  | .char, value | .unsigned8, value | .signed8, value => value
  | .unsigned16, value | .signed16, value => value
  | .float16, value => (float16Of (timesHundred value)).value
  | .timeOfDay, value =>
      { day := 0, hour := value.hour % 24, minute := value.minute % 60,
        second := value.second % 60 }
  | .date, value =>
      { day := value.day % 32, month := value.month % 13, year := value.year % 100 }
  | .unsigned32, value | .signed32, value | .float32, value => value
  | .other, value => value

def apduOf (first : Byte) (type : KnxDpt) (value : type.Value) : List Byte :=
  (first &&& ~~~63#8 ||| lowSix type value) :: following type value

theorem or_into_clear_eq (buffer : Buffer Byte) (apdu : Nat) (octet : Byte) :
    orInto (clearLowSix buffer apdu) apdu octet =
      buffer.storeBlock apdu [buffer.memory apdu &&& ~~~63#8 ||| octet] := by
  have cleared : clearLowSix buffer apdu =
      buffer.storeBlock apdu [buffer.memory apdu &&& ~~~63#8] := rfl
  rw [orInto, cleared, Buffer.memory_storeBlock_first, Buffer.store_storeBlock_first]

theorem to_apdu_eq (buffer : Buffer Byte) (apdu : Nat) {type : KnxDpt} (known : type ≠ .other)
    (value : type.Value) :
    knxDptToApdu buffer apdu type value =
      buffer.storeBlock apdu (apduOf (buffer.memory apdu) type value) := by
  have cleared : ∀ octets : List Byte, (clearLowSix buffer apdu).storeBlock (apdu + 1) octets =
      buffer.storeBlock apdu ((buffer.memory apdu &&& ~~~63#8 ||| 0) :: octets) := by
    intro octets
    rw [show (0 : Byte) = 0#8 from rfl, BitVec.or_zero]
    rfl
  cases type with
  | bool => exact or_into_clear_eq buffer apdu _
  | cvalue => exact or_into_clear_eq buffer apdu _
  | cstep => exact or_into_clear_eq buffer apdu _
  | float16 => exact (generate_float16_eq buffer apdu value).trans (cleared _)
  | timeOfDay => exact cleared (following .timeOfDay value)
  | date => exact cleared (following .date value)
  | other => exact absurd rfl known
  | _ => exact cleared _

theorem length_apduOf (first : Byte) {type : KnxDpt} (known : type ≠ .other)
    (value : type.Value) : (apduOf first type value).length = knxDptSize type := by
  have asIs : ∀ (octet : Byte) (size : Nat) (octets : Vector Byte size),
      (octet :: octets.toList).length = size + 1 := by
    intro octet size octets
    rw [List.length_cons, Vector.length_toList]
  cases type with
  | char | unsigned8 | signed8 => exact asIs _ 1 value
  | unsigned16 | signed16 => exact asIs _ 2 value
  | unsigned32 | signed32 | float32 => exact asIs _ 4 value
  | other => exact absurd rfl known
  | _ => rfl

/-! ## Reading back -/

theorem bool_octet : ∀ (value : Bool),
    decide (BitVec.ofNat 8 (bit value &&& 1) &&& 1 ≠ 0) = value := by
  decide

theorem bool_small : ∀ (value : Bool),
    BitVec.ofNat 8 (bit value &&& 1) &&& 63 = BitVec.ofNat 8 (bit value &&& 1) := by
  decide

theorem cvalue_octet : ∀ (control value : Bool),
    let octet := BitVec.ofNat 8 ((bit control &&& 1) <<< 1 ||| (bit value &&& 1))
    decide (octet >>> 1 &&& 1 ≠ 0) = control ∧ decide (octet &&& 1 ≠ 0) = value := by
  decide

theorem cvalue_small : ∀ (control value : Bool),
    let octet := BitVec.ofNat 8 ((bit control &&& 1) <<< 1 ||| (bit value &&& 1))
    octet &&& 63 = octet := by
  decide

theorem cstep_octet : ∀ (control : Bool) (step : Byte),
    let octet := BitVec.ofNat 8 ((bit control &&& 1) <<< 3) ||| (step &&& 7)
    decide (octet >>> 3 &&& 1 ≠ 0) = control ∧ octet &&& 7 = step &&& 7 := by
  decide +kernel

theorem cstep_small : ∀ (control : Bool) (step : Byte),
    let octet := BitVec.ofNat 8 ((bit control &&& 1) <<< 3) ||| (step &&& 7)
    octet &&& 63 = octet := by
  decide +kernel

theorem time_octet : ∀ hour : Byte,
    let octet := hour % 24
    (octet >>> 5 &&& 7).toNat = 0 ∧ (octet &&& 31) % 24 = octet := by
  decide +kernel

theorem sixty_octet : ∀ minute : Byte,
    ((minute % 60) &&& 63) % 60 = minute % 60 := by
  decide +kernel

theorem date_octet : ∀ octet : Byte,
    ((octet % 32) &&& 31) % 32 = octet % 32 ∧
      ((octet % 13) &&& 15) % 13 = octet % 13 ∧
      ((octet % 100) &&& 127) % 100 = octet % 100 := by
  decide +kernel

theorem masked_low_six {first low mask : Byte} (agree : first &&& 63 = low)
    (within : 63 &&& mask = mask) : first &&& mask = low &&& mask := by
  rw [← agree, BitVec.and_assoc, within]

theorem shifted_low_six {first low : Byte} (shift : Nat) {mask : Byte}
    (agree : first &&& 63 = low) (within : (63 : Byte) >>> shift &&& mask = mask) :
    first >>> shift &&& mask = low >>> shift &&& mask := by
  rw [← agree, BitVec.ushiftRight_and_distrib, BitVec.and_assoc, within]

theorem day_is_lost (day : Nat) : BitVec.ofNat 8 ((day &&& 7) >>> 5) = 0#8 := by
  have small : day &&& 7 ≤ 7 := Nat.and_le_right
  rw [Nat.shiftRight_eq_div_pow, Nat.div_eq_of_lt (by omega)]

theorem first_octet_parts (first : Byte) {type : KnxDpt} (value : type.Value) :
    (first &&& ~~~63#8 ||| lowSix type value) &&& 63 = lowSix type value ∧
      (first &&& ~~~63#8 ||| lowSix type value) &&& 192 = first &&& 192 := by
  have low : ∀ octet, octet &&& 63 = octet →
      (first &&& ~~~63#8 ||| octet) &&& 63 = octet ∧
        (first &&& ~~~63#8 ||| octet) &&& 192 = first &&& 192 := by
    intro octet small
    have high : octet &&& 192 = 0#8 := by
      rw [← small, BitVec.and_assoc]
      exact BitVec.and_zero
    constructor
    · rw [BitVec.and_or_distrib_right, BitVec.and_assoc, small]
      exact (congrArg (· ||| octet) BitVec.and_zero).trans BitVec.zero_or
    · rw [BitVec.and_or_distrib_right, BitVec.and_assoc, high, BitVec.or_zero]
      rfl
  apply low
  cases type with
  | bool => exact bool_small value
  | cvalue => exact cvalue_small value.control value.value
  | cstep => exact cstep_small value.control value.step
  | _ => exact BitVec.zero_and

section Reading

variable {memory : Nat → Byte} {apdu : Nat}

theorem read_bool {value : Bool} (low : memory apdu &&& 63 = lowSix .bool value) :
    eval memory (knxDptBoolParse apdu 1) = some value := by
  simp only [knxDptBoolParse, eval_ite, eval_bind, eval_load, eval_pure]
  rw [if_neg (by decide), masked_low_six low (by decide)]
  exact congrArg some (bool_octet value)

theorem read_cvalue {value : KnxCvalue} (low : memory apdu &&& 63 = lowSix .cvalue value) :
    eval memory (knxDptCvalueParse apdu 1) = some value := by
  obtain ⟨control, state⟩ := cvalue_octet value.control value.value
  simp only [knxDptCvalueParse, eval_ite, eval_bind, eval_load, eval_pure]
  rw [if_neg (by decide), masked_low_six low (by decide), shifted_low_six 1 low (by decide)]
  exact congrArg some (congrArg₂ KnxCvalue.mk control state)

theorem read_cstep {value : KnxCstep} (low : memory apdu &&& 63 = lowSix .cstep value) :
    eval memory (knxDptCstepParse apdu 1) = some (readBack .cstep value) := by
  obtain ⟨control, step⟩ := cstep_octet value.control value.step
  simp only [knxDptCstepParse, eval_ite, eval_bind, eval_load, eval_pure]
  rw [if_neg (by decide), masked_low_six low (by decide), shifted_low_six 3 low (by decide)]
  exact congrArg some (congrArg₂ KnxCstep.mk control step)

theorem read_as_is {size : Nat} {value : Vector Byte size}
    (held : Buffer.Holds memory (apdu + 1) value.toList) :
    eval memory (knxDptAsIsParse size apdu (size + 1)) = some value := by
  simp only [knxDptAsIsParse, eval_ite, eval_bind, eval_copy, eval_pure]
  rw [if_neg (Nat.lt_irrefl _), vectorAt_held held]

theorem read_time_of_day {value : KnxTimeOfDay}
    (held : Buffer.Holds memory (apdu + 1) (following .timeOfDay value)) :
    eval memory (knxDptTimeOfDayParse apdu 4) = some (readBack .timeOfDay value) := by
  obtain ⟨first, second, third, -⟩ := held
  rw [day_is_lost, BitVec.zero_or] at first
  obtain ⟨day, hour⟩ := time_octet value.hour
  simp only [knxDptTimeOfDayParse, eval_ite, eval_bind, eval_load, eval_pure]
  rw [if_neg (by decide), first, second, third, day, hour, sixty_octet, sixty_octet]
  rfl

theorem read_date {value : KnxDate}
    (held : Buffer.Holds memory (apdu + 1) (following .date value)) :
    eval memory (knxDptDateParse apdu 4) = some (readBack .date value) := by
  obtain ⟨first, second, third, -⟩ := held
  simp only [knxDptDateParse, eval_ite, eval_bind, eval_load, eval_pure]
  rw [if_neg (by decide), first, second, third, (date_octet value.day).1,
    (date_octet value.month).2.1, (date_octet value.year).2.2]
  rfl

theorem from_apdu_of_held {type : KnxDpt} (known : type ≠ .other) {value : type.Value}
    (low : memory apdu &&& 63 = lowSix type value)
    (held : Buffer.Holds memory (apdu + 1) (following type value)) :
    eval memory (knxDptFromApdu apdu (knxDptSize type) type) = some (readBack type value) := by
  cases type with
  | bool => exact read_bool low
  | cvalue => exact read_cvalue low
  | cstep => exact read_cstep low
  | float16 => exact parse_float16 held
  | timeOfDay => exact read_time_of_day held
  | date => exact read_date held
  | char | unsigned8 | signed8 => exact read_as_is held
  | unsigned16 | signed16 => exact read_as_is held
  | unsigned32 | signed32 | float32 => exact read_as_is held
  | other => exact absurd rfl known

end Reading

theorem written_holds (buffer : Buffer Byte) (apdu : Nat) {type : KnxDpt} (known : type ≠ .other)
    (value : type.Value) :
    Buffer.Holds (knxDptToApdu buffer apdu type value).memory apdu
      (apduOf (buffer.memory apdu) type value) := by
  rw [to_apdu_eq buffer apdu known]
  exact Buffer.holds_storeBlock buffer apdu _

theorem read_written (buffer : Buffer Byte) (apdu : Nat) {type : KnxDpt} (known : type ≠ .other)
    (value : type.Value) :
    eval (knxDptToApdu buffer apdu type value).memory
        (knxDptFromApdu apdu (knxDptSize type) type) = some (readBack type value) := by
  obtain ⟨first, rest⟩ := written_holds buffer apdu known value
  apply from_apdu_of_held known _ rest
  rw [first]
  exact (first_octet_parts _ value).1

/-- Whatever the application data holds, its two APCI bits survive a value written to it,
nothing beyond the value's size is stored, and the value is read back from there. -/
theorem apdu_round_trip (buffer : Buffer Byte) (apdu : Nat) (type : KnxDpt)
    (known : type ≠ .other) (value : type.Value) :
    let written := knxDptToApdu buffer apdu type value
    eval written.memory (knxDptFromApdu apdu (knxDptSize type) type) =
        some (readBack type value) ∧
      written.memory apdu &&& 192 = buffer.memory apdu &&& 192 ∧
      ∀ address, address < apdu ∨ apdu + knxDptSize type ≤ address →
        written.memory address = buffer.memory address := by
  intro written
  have first := (written_holds buffer apdu known value).1
  refine ⟨read_written buffer apdu known value, ?_, fun address outside => ?_⟩
  · rw [first]
    exact (first_octet_parts _ value).2
  · have stored : written = buffer.storeBlock apdu (apduOf (buffer.memory apdu) type value) :=
      to_apdu_eq buffer apdu known value
    rw [stored]
    apply Buffer.memory_storeBlock_outside
    rwa [length_apduOf _ known]

theorem apdu_round_trip_cstep :
    eval (knxDptToApdu (Buffer.fresh fun _ => 255) 2 .cstep ⟨true, 11⟩).memory
      (knxDptFromApdu 2 1 .cstep) = some ⟨true, 3⟩ :=
  (apdu_round_trip (Buffer.fresh fun _ => 255) 2 .cstep (by decide) ⟨true, 11⟩).1

/-- A float that is written and read again is its code's number to a float's precision, and the
code is off from the product with a hundred, which has that precision too, by less than a step
when it is not negative; a negative one comes back low. -/
theorem float16_accuracy (buffer : Buffer Byte) (apdu : Nat) (value : ℚ) :
    ∃ (read : ℚ) (code : Float16Code), eval (knxDptToApdu buffer apdu .float16 value).memory
        (knxDptFromApdu apdu 3 .float16) = some read ∧
      Near (1 / 2 ^ 23) read (hundredths code / 100) ∧
      Float16Reading (timesHundred value) code ∧
      |timesHundred value - value * 100| ≤ |value * 100| / 2 ^ 24 + 1 / 2 ^ 150 := by
  have known : KnxDpt.float16 ≠ .other := by decide
  exact ⟨_, float16Of (timesHundred value), read_written buffer apdu known value, value_near _,
    float16_reading _, times_hundred_error value⟩

/-- Half of one below zero comes back as a hundredth less. -/
example : float16Of (timesHundred (-1 / 2)) = ⟨-51, 0⟩ := by decide +kernel

/-! ## Application data from elsewhere -/

/-- The lengths a type is read from. -/
def LengthAccepted (length : Nat) : KnxDpt → Prop
  | .bool | .cvalue | .cstep => length = 1
  | .char | .unsigned8 | .signed8 => 2 ≤ length
  | .unsigned16 | .signed16 => 3 ≤ length
  | .float16 => length = 3
  | .timeOfDay | .date => length = 4
  | .unsigned32 | .signed32 | .float32 => 5 ≤ length
  | .other => False

/-- The values a type can be read as. -/
def InRange : (type : KnxDpt) → type.Value → Prop
  | .cstep, value => value.step.toNat ≤ 7
  | .float16, value => ∃ code : Float16Code, code.InRange ∧ value = code.value
  | .timeOfDay, value =>
      value.day ≤ 7 ∧ value.hour.toNat < 24 ∧ value.minute.toNat < 60 ∧ value.second.toNat < 60
  | .date, value => value.day.toNat ≤ 31 ∧ value.month.toNat ≤ 12 ∧ value.year.toNat ≤ 99
  | _, _ => True

/-- A parser that accepts exactly under a condition, gives values in a range and looks at
nothing but the octets it was given. -/
structure ReadsSafely {Value : Type} (memory : Nat → Byte) (apdu length : Nat) (accepted : Prop)
    (range : Value → Prop) (parser : FrameLoader (Option Value)) : Prop where
  accepts : (eval memory parser).isSome ↔ accepted
  inRange : ∀ value, eval memory parser = some value → range value
  confined : Confined memory (Span apdu (apdu + length)) parser

section Safety

variable (memory : Nat → Byte) (apdu length : Nat)

theorem reads_safely {Value : Type} {rejected : Prop} [Decidable rejected] {accepted : Prop}
    {range : Value → Prop} {body : FrameLoader (Option Value)}
    (decided : ¬ rejected ↔ accepted)
    (read : ∃ value, eval memory body = some value ∧ range value)
    (confined : ¬ rejected → Confined memory (Span apdu (apdu + length)) body) :
    ReadsSafely memory apdu length accepted range (if rejected then pure none else body) where
  accepts := by
    obtain ⟨value, result, _⟩ := read
    rw [← decided, eval_ite]
    split_ifs with rejects
    · simp [rejects]
    · simp [rejects, result]
  inRange := by
    obtain ⟨value, result, inRange⟩ := read
    intro other parsed
    rw [eval_ite] at parsed
    split_ifs at parsed with rejects
    · simp at parsed
    · rw [result] at parsed
      exact Option.some.inj parsed ▸ inRange
  confined := .ite (fun _ => .pure _) confined

theorem masked_le (octet mask : Byte) : (octet &&& mask).toNat ≤ mask.toNat := by
  rw [BitVec.toNat_and]
  exact Nat.and_le_right

theorem mod_lt (octet bound : Byte) (positive : 0 < bound.toNat) :
    (octet % bound).toNat < bound.toNat := by
  rw [BitVec.toNat_umod]
  exact Nat.mod_lt _ positive

theorem mantissa_range (first second : Byte) :
    let m := if first &&& 128 ≠ 0 then word (first &&& 7) second - 2048
      else word (first &&& 7) second
    m.toInt ≤ 2047 ∧ -2048 ≤ m.toInt := by
  have high := masked_le first 7
  have low := second.isLt
  have bound : (word (first &&& 7) second).toNat ≤ 2047 := by
    rw [toNat_word]
    have limit : (7 : Byte).toNat = 7 := rfl
    omega
  intro m
  simp only [m]
  split_ifs
  · rw [BitVec.toInt_eq_toNat_cond, BitVec.toNat_sub,
      show (2048 : BitVec 16).toNat = 2048 from rfl]
    split_ifs <;> omega
  · rw [BitVec.toInt_eq_toNat_cond, if_pos (by omega)]
    omega

theorem as_is_safe (size : Nat) :
    ReadsSafely memory apdu length (size + 1 ≤ length) (fun _ => True)
      (knxDptAsIsParse size apdu length) := by
  apply reads_safely memory apdu length Nat.not_lt
  · exact ⟨vectorAt memory (apdu + 1) size, by simp, trivial⟩
  · intro long
    exact .bind (confined_copy (by omega) (by omega)) (.pure _)

theorem float16_safe :
    ReadsSafely memory apdu length (length = 3) (InRange .float16)
      (knxDptFloat16Parse apdu length) := by
  apply reads_safely memory apdu length not_not
  · obtain ⟨upper, lower⟩ := mantissa_range (memory (apdu + 1)) (memory (apdu + 2))
    exact ⟨_, rfl, ⟨_, _⟩, ⟨lower, upper, masked_le _ 15⟩, rfl⟩
  · intro sized
    exact .load_bind ⟨by omega, by omega⟩ (.load_bind ⟨by omega, by omega⟩ (.pure _))

theorem time_of_day_safe :
    ReadsSafely memory apdu length (length = 4) (InRange .timeOfDay)
      (knxDptTimeOfDayParse apdu length) := by
  apply reads_safely memory apdu length not_not
  · exact ⟨_, rfl, masked_le _ 7, mod_lt _ 24 (by decide), mod_lt _ 60 (by decide),
      mod_lt _ 60 (by decide)⟩
  · intro sized
    exact .load_bind ⟨by omega, by omega⟩ (.load_bind ⟨by omega, by omega⟩
      (.load_bind ⟨by omega, by omega⟩ (.pure _)))

theorem date_safe :
    ReadsSafely memory apdu length (length = 4) (InRange .date)
      (knxDptDateParse apdu length) := by
  apply reads_safely memory apdu length not_not
  · exact ⟨_, rfl, Nat.le_of_lt_succ (mod_lt _ 32 (by decide)),
      Nat.le_of_lt_succ (mod_lt _ 13 (by decide)), Nat.le_of_lt_succ (mod_lt _ 100 (by decide))⟩
  · intro sized
    exact .load_bind ⟨by omega, by omega⟩ (.load_bind ⟨by omega, by omega⟩
      (.load_bind ⟨by omega, by omega⟩ (.pure _)))

theorem one_octet_safe {Value : Type} {range : Value → Prop} (value : Byte → Value)
    (inRange : ∀ octet, range (value octet)) :
    ReadsSafely memory apdu length (length = 1) range
      (if length ≠ 1 then pure none
        else do
          let octet ← load apdu
          pure (some (value octet))) := by
  apply reads_safely memory apdu length not_not
  · exact ⟨_, rfl, inRange _⟩
  · intro sized
    exact .load_bind ⟨by omega, by omega⟩ (.pure _)

/-- Application data of any length and content: it is read exactly at the lengths of its
type, as a value in range, and no octet outside it is looked at. -/
theorem from_apdu_safe (type : KnxDpt) :
    ReadsSafely memory apdu length (LengthAccepted length type) (InRange type)
      (knxDptFromApdu apdu length type) := by
  cases type with
  | bool => exact one_octet_safe memory apdu length _ fun _ => trivial
  | cvalue => exact one_octet_safe memory apdu length _ fun _ => trivial
  | cstep => exact one_octet_safe memory apdu length _ fun octet => masked_le octet 7
  | char | unsigned8 | signed8 => exact as_is_safe memory apdu length 1
  | unsigned16 | signed16 => exact as_is_safe memory apdu length 2
  | float16 => exact float16_safe memory apdu length
  | timeOfDay => exact time_of_day_safe memory apdu length
  | date => exact date_safe memory apdu length
  | unsigned32 | signed32 | float32 => exact as_is_safe memory apdu length 4
  | other => exact ⟨⟨fun some => by simp [knxDptFromApdu] at some, False.elim⟩,
      fun _ read => by simp [knxDptFromApdu] at read, .pure _⟩

end Safety

end KnxDemo.DatapointCoding
