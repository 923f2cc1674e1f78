import KnxDemo.Arithmetic.Rounding
import KnxDemo.Knx.Generate
import KnxDemo.Knx.Parse
import Mathlib.Data.Rat.Floor

/-!
# Data points

`data.c` turns values into application data and back. Values that are copied as
they lie in memory are their octets. A sixteen-bit float is a finite `float`, as
the rational number it is, and every product is rounded as in `data.c`.
-/

namespace KnxDemo.KnxDatapoint

open KnxDemo.Arithmetic KnxDemo.Bytes KnxDemo.KnxProto KnxDemo.KnxGenerate KnxDemo.KnxParse
open KnxDemo.Interaction KnxDemo.Interaction.Loader

/-! ## Types -/

/-- `other` is any code no enumerator has. -/
inductive KnxDpt where
  | bool | cvalue | cstep | char | unsigned8 | signed8 | unsigned16 | signed16 | float16
  | timeOfDay | date | unsigned32 | signed32 | float32 | other
  deriving DecidableEq

structure KnxCvalue where
  control : Bool
  value : Bool

structure KnxCstep where
  control : Bool
  step : Byte

structure KnxTimeOfDay where
  day : Nat
  hour : Byte
  minute : Byte
  second : Byte

structure KnxDate where
  day : Byte
  month : Byte
  year : Byte

/-- What the untyped pointer leads to. -/
def KnxDpt.Value : KnxDpt → Type
  | .bool => Bool
  | .cvalue => KnxCvalue
  | .cstep => KnxCstep
  | .char | .unsigned8 | .signed8 => Vector Byte 1
  | .unsigned16 | .signed16 => Vector Byte 2
  | .float16 => ℚ
  | .timeOfDay => KnxTimeOfDay
  | .date => KnxDate
  | .unsigned32 | .signed32 | .float32 => Vector Byte 4
  | .other => Unit

def knxDptSize : KnxDpt → Nat
  | .bool | .cvalue | .cstep => 1
  | .char | .unsigned8 | .signed8 => 2
  | .unsigned16 | .signed16 | .float16 => 3
  | .timeOfDay | .date => 4
  | .unsigned32 | .signed32 | .float32 => 5
  | .other => 0

/-! ## Interpreting application data -/

def knxDptBoolParse (apdu length : Nat) : FrameLoader (Option Bool) :=
  if length ≠ 1 then pure none
  else do
    let octet ← load apdu
    pure (some (octet &&& 1 ≠ 0))

def knxDptCvalueParse (apdu length : Nat) : FrameLoader (Option KnxCvalue) :=
  if length ≠ 1 then pure none
  else do
    let octet ← load apdu
    pure (some { control := octet >>> 1 &&& 1 ≠ 0, value := octet &&& 1 ≠ 0 })

def knxDptCstepParse (apdu length : Nat) : FrameLoader (Option KnxCstep) :=
  if length ≠ 1 then pure none
  else do
    let octet ← load apdu
    pure (some { control := octet >>> 3 &&& 1 ≠ 0, step := octet &&& 7 })

/-- `0.01 * ((float) m) * exp2f(e)`, which is computed in `double`, as a `float`. -/
def scaledFloat (m : Int) (e : Nat) : ℚ :=
  binary32.round (binary64.round (binary64.round (binary64.round (1 / 100 : ℚ) * m) * 2 ^ e))

def knxDptFloat16Parse (apdu length : Nat) : FrameLoader (Option ℚ) :=
  if length ≠ 3 then pure none
  else do
    let first ← load (apdu + 1)
    let second ← load (apdu + 2)
    let m := word (first &&& 7) second
    let m := if first &&& 128 ≠ 0 then m - 2048 else m
    pure (some (scaledFloat m.toInt (first >>> 3 &&& 15).toNat))

def knxDptTimeOfDayParse (apdu length : Nat) : FrameLoader (Option KnxTimeOfDay) :=
  if length ≠ 4 then pure none
  else do
    let first ← load (apdu + 1)
    let second ← load (apdu + 2)
    let third ← load (apdu + 3)
    pure (some {
      day := (first >>> 5 &&& 7).toNat
      hour := (first &&& 31) % 24
      minute := (second &&& 63) % 60
      second := (third &&& 63) % 60 })

def knxDptDateParse (apdu length : Nat) : FrameLoader (Option KnxDate) :=
  if length ≠ 4 then pure none
  else do
    let first ← load (apdu + 1)
    let second ← load (apdu + 2)
    let third ← load (apdu + 3)
    pure (some {
      day := (first &&& 31) % 32
      month := (second &&& 15) % 13
      year := (third &&& 127) % 100 })

/-- Longer application data than the value needs is accepted. -/
def knxDptAsIsParse (size apdu length : Nat) : FrameLoader (Option (Vector Byte size)) :=
  if length < size + 1 then pure none
  else do
    let octets ← copy (apdu + 1) size
    pure (some octets)

def knxDptFromApdu (apdu length : Nat) : (type : KnxDpt) → FrameLoader (Option type.Value)
  | .bool => knxDptBoolParse apdu length
  | .cvalue => knxDptCvalueParse apdu length
  | .cstep => knxDptCstepParse apdu length
  | .char => knxDptAsIsParse 1 apdu length
  | .unsigned8 => knxDptAsIsParse 1 apdu length
  | .signed8 => knxDptAsIsParse 1 apdu length
  | .unsigned16 => knxDptAsIsParse 2 apdu length
  | .signed16 => knxDptAsIsParse 2 apdu length
  | .float16 => knxDptFloat16Parse apdu length
  | .timeOfDay => knxDptTimeOfDayParse apdu length
  | .date => knxDptDateParse apdu length
  | .unsigned32 => knxDptAsIsParse 4 apdu length
  | .signed32 => knxDptAsIsParse 4 apdu length
  | .float32 => knxDptAsIsParse 4 apdu length
  | .other => pure none

/-! ## Generating application data -/

/-- `apdu[0] &= ~63` -/
def clearLowSix (buffer : Buffer Byte) (apdu : Nat) : Buffer Byte :=
  buffer.store apdu (buffer.memory apdu &&& ~~~63#8)

/-- `apdu[0] |= octet` -/
def orInto (buffer : Buffer Byte) (apdu : Nat) (octet : Byte) : Buffer Byte :=
  buffer.store apdu (buffer.memory apdu ||| octet)

def knxDptGenerateBool (buffer : Buffer Byte) (apdu : Nat) (value : Bool) : Buffer Byte :=
  orInto (clearLowSix buffer apdu) apdu (BitVec.ofNat 8 (bit value &&& 1))

def knxDptGenerateCvalue (buffer : Buffer Byte) (apdu : Nat) (value : KnxCvalue) :
    Buffer Byte :=
  orInto (clearLowSix buffer apdu) apdu
    (BitVec.ofNat 8 ((bit value.control &&& 1) <<< 1 ||| (bit value.value &&& 1)))

def knxDptGenerateCstep (buffer : Buffer Byte) (apdu : Nat) (value : KnxCstep) : Buffer Byte :=
  orInto (clearLowSix buffer apdu) apdu
    (BitVec.ofNat 8 ((bit value.control &&& 1) <<< 3) ||| (value.step &&& 7))

/-- The day is masked to three bits before it is shifted right by five. -/
def knxDptGenerateTimeOfDay (buffer : Buffer Byte) (apdu : Nat) (value : KnxTimeOfDay) :
    Buffer Byte :=
  let buffer := clearLowSix buffer apdu
  let buffer := buffer.store (apdu + 1)
    (BitVec.ofNat 8 ((value.day &&& 7) >>> 5) ||| value.hour % 24)
  let buffer := buffer.store (apdu + 2) (value.minute % 60)
  buffer.store (apdu + 3) (value.second % 60)

def knxDptGenerateDate (buffer : Buffer Byte) (apdu : Nat) (value : KnxDate) : Buffer Byte :=
  let buffer := clearLowSix buffer apdu
  let buffer := buffer.store (apdu + 1) (value.day % 32)
  let buffer := buffer.store (apdu + 2) (value.month % 13)
  buffer.store (apdu + 3) (value.year % 100)

/-- `*value * 100`, a `float`. -/
def timesHundred (value : ℚ) : ℚ := binary32.round (value * 100)

/-- The two bounds the product is cut off at, also where it is too large for a `float`. -/
def cutOff (target : ℚ) : ℚ :=
  if target > 67076096 then 67076096 else if target < -67108864 then -67108864 else target

theorem floor_abs_half_lt {target : ℚ} (outside : target < -2048 ∨ target > 2047) :
    ⌊|target / 2|⌋₊ < ⌊|target|⌋₊ := by
  have large : 2 ≤ |target| := by
    rcases outside with below | above
    · exact le_trans (by linarith) (neg_le_abs target)
    · exact le_trans (by linarith) (le_abs_self target)
  have half : |target / 2| = |target| / 2 := by
    rw [abs_div, abs_two]
  rw [half]
  apply lt_of_lt_of_le _ (Nat.floor_le_floor (show |target| / 2 + 1 ≤ |target| by linarith))
  rw [Nat.floor_add_one (by positivity)]
  exact Nat.lt_succ_self _

/-- The loop that halves the target until it fits the mantissa, which is exact in a `float`. -/
def halve (target : ℚ) (e : Nat) : ℚ × Nat :=
  if target < -2048 ∨ target > 2047 then halve (target / 2) (e + 1) else (target, e)
termination_by ⌊|target|⌋₊
decreasing_by exact floor_abs_half_lt ‹_›

def truncate (target : ℚ) : Int := if 0 ≤ target then ⌊target⌋ else ⌈target⌉

def knxDptGenerateFloat16 (buffer : Buffer Byte) (apdu : Nat) (value : ℚ) : Buffer Byte :=
  let buffer := clearLowSix buffer apdu
  let (target, e) := halve (cutOff (timesHundred value)) 0
  let m := BitVec.ofInt 16 (truncate target)
  let m := if m.slt 0 then ~~~(~~~m + 1) else m
  let buffer := buffer.store (apdu + 1)
    (BitVec.ofNat 8 (bit (m.slt 0) <<< 7 ||| (e &&& 15) <<< 3 |||
      (m.sshiftRight 8 &&& 7).toNat))
  buffer.store (apdu + 2) ((m &&& 255).setWidth 8)

def knxDptGenerateAsIs (size : Nat) (buffer : Buffer Byte) (apdu : Nat)
    (source : Vector Byte size) : Buffer Byte :=
  (clearLowSix buffer apdu).storeBlock (apdu + 1) source.toList

def knxDptToApdu (buffer : Buffer Byte) (apdu : Nat) :
    (type : KnxDpt) → type.Value → Buffer Byte
  | .bool, source => knxDptGenerateBool buffer apdu source
  | .cvalue, source => knxDptGenerateCvalue buffer apdu source
  | .cstep, source => knxDptGenerateCstep buffer apdu source
  | .char, source => knxDptGenerateAsIs 1 buffer apdu source
  | .unsigned8, source => knxDptGenerateAsIs 1 buffer apdu source
  | .signed8, source => knxDptGenerateAsIs 1 buffer apdu source
  | .unsigned16, source => knxDptGenerateAsIs 2 buffer apdu source
  | .signed16, source => knxDptGenerateAsIs 2 buffer apdu source
  | .float16, source => knxDptGenerateFloat16 buffer apdu source
  | .timeOfDay, source => knxDptGenerateTimeOfDay buffer apdu source
  | .date, source => knxDptGenerateDate buffer apdu source
  | .unsigned32, source => knxDptGenerateAsIs 4 buffer apdu source
  | .signed32, source => knxDptGenerateAsIs 4 buffer apdu source
  | .float32, source => knxDptGenerateAsIs 4 buffer apdu source
  | .other, _ => buffer

end KnxDemo.KnxDatapoint
