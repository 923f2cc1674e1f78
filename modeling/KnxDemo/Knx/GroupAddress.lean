import KnxDemo.Bytes

/-!
# Addresses

`GroupAddress` keeps the two octets of a group address and prints them in
hexadecimal; the macro of `address.h` makes the number a frame is generated
from. It masks the main group to four bits where `GroupAddress::of` takes five.
-/

namespace KnxDemo.GroupAddresses

open KnxDemo.Bytes

/-! ## The macro -/

def knxGroupAddr (main sub group : Nat) : BitVec 16 :=
  BitVec.ofNat 16 ((main &&& 15) <<< 11 ||| (sub &&& 7) <<< 8 ||| (group &&& 255))

/-! ## Objects -/

/-- `address` is not initialised where the raw data has another length than two. -/
structure GroupAddress where
  address : Option (Byte × Byte)
  deriving DecidableEq

def GroupAddress.ofRaw : List Byte → GroupAddress
  | [high, low] => ⟨some (high, low)⟩
  | _ => ⟨none⟩

def GroupAddress.of (main middle sub : Byte) : Option GroupAddress :=
  if ¬ (main ≤ 31) then none
  else if ¬ (middle ≤ 7) then none
  else if main = 0 ∧ middle = 0 ∧ sub = 0 then none
  else some (.ofRaw [(main &&& 0x1F) <<< 3 ||| (middle &&& 0x07), sub])

def hexDigit (value : Nat) : Char :=
  Char.ofNat (if value < 10 then '0'.toNat + value else 'a'.toNat + (value - 10))

/-- `sprintf("%.2x ", octet)` -/
def hexOctet (octet : Byte) : List Char :=
  [hexDigit (octet.toNat / 16), hexDigit (octet.toNat % 16), ' ']

def hexmem (octets : List Byte) : List Char := octets.flatMap hexOctet

def GroupAddress.getAddress (groupAddress : GroupAddress) : Option (List Char) :=
  groupAddress.address.map fun (high, low) => hexmem [high, low]

/-! ## Text -/

theorem hex_digit_injective : ∀ left right : Fin 16,
    hexDigit left = hexDigit right → left = right := by
  decide

theorem hex_octet_injective {left right : Byte} (same : hexOctet left = hexOctet right) :
    left = right := by
  obtain ⟨high, low, -⟩ : hexDigit (left.toNat / 16) = hexDigit (right.toNat / 16) ∧
      hexDigit (left.toNat % 16) = hexDigit (right.toNat % 16) ∧ True := by
    simpa [hexOctet] using same
  have leftBound := left.isLt
  have rightBound := right.isLt
  have highs := hex_digit_injective ⟨_, show left.toNat / 16 < 16 by omega⟩
    ⟨_, show right.toNat / 16 < 16 by omega⟩ high
  have lows := hex_digit_injective ⟨_, show left.toNat % 16 < 16 by omega⟩
    ⟨_, show right.toNat % 16 < 16 by omega⟩ low
  rw [Fin.mk.injEq] at highs lows
  apply BitVec.eq_of_toNat_eq
  omega

/-- Every octet takes three characters, so a dump of memory can be read back. -/
theorem hexmem_injective {left right : List Byte} (same : hexmem left = hexmem right) :
    left = right := by
  induction left generalizing right with
  | nil =>
      cases right with
      | nil => rfl
      | cons octet rest => exact absurd same nofun
  | cons octet rest ih =>
      cases right with
      | nil => exact absurd same nofun
      | cons other others =>
          rw [hexmem, List.flatMap_cons, hexmem, List.flatMap_cons] at same
          obtain ⟨first, tail⟩ := List.append_inj same rfl
          rw [hex_octet_injective first, ih tail]

/-! ## Levels -/

/-- The triples that name a group. -/
def ValidGroup (main middle sub : Byte) : Prop :=
  main.toNat ≤ 31 ∧ middle.toNat ≤ 7 ∧ ¬ (main = 0 ∧ middle = 0 ∧ sub = 0)

theorem of_eq_some_iff (main middle sub : Byte) (groupAddress : GroupAddress) :
    GroupAddress.of main middle sub = some groupAddress ↔ ValidGroup main middle sub ∧
      groupAddress = ⟨some ((main &&& 0x1F) <<< 3 ||| (middle &&& 0x07), sub)⟩ := by
  rw [GroupAddress.of, ValidGroup]
  by_cases mainBound : main ≤ 31
  · rw [if_neg (not_not.mpr mainBound)]
    by_cases middleBound : middle ≤ 7
    · rw [if_neg (not_not.mpr middleBound)]
      by_cases zero : main = 0 ∧ middle = 0 ∧ sub = 0
      · rw [if_pos zero]
        exact iff_of_false nofun fun both => both.1.2.2 zero
      · rw [if_neg zero, Option.some.injEq]
        constructor
        · exact fun same => ⟨⟨mainBound, middleBound, zero⟩, same.symm⟩
        · exact fun both => both.2.symm
    · rw [if_pos middleBound]
      exact iff_of_false nofun fun both => middleBound both.1.2.1
  · rw [if_pos mainBound]
    exact iff_of_false nofun fun both => mainBound both.1.1

theorem packed_octet : ∀ (main : Fin 32) (middle : Fin 8),
    ((BitVec.ofNat 8 main &&& 0x1F) <<< 3 ||| (BitVec.ofNat 8 middle &&& 0x07) : Byte).toNat =
      main * 8 + middle := by
  decide +kernel

theorem toNat_packed (main middle : Byte) (mainBound : main.toNat ≤ 31)
    (middleBound : middle.toNat ≤ 7) :
    ((main &&& 0x1F) <<< 3 ||| (middle &&& 0x07)).toNat = main.toNat * 8 + middle.toNat := by
  have packed := packed_octet ⟨main.toNat, by omega⟩ ⟨middle.toNat, by omega⟩
  simpa only [BitVec.ofNat_toNat, BitVec.setWidth_eq] using packed

theorem valid_of_some {main middle sub : Byte} {groupAddress : GroupAddress}
    (created : GroupAddress.of main middle sub = some groupAddress) :
    ∃ high, groupAddress = ⟨some (high, sub)⟩ ∧ high.toNat = main.toNat * 8 + middle.toNat ∧
      ValidGroup main middle sub := by
  obtain ⟨valid, rfl⟩ := (of_eq_some_iff _ _ _ _).mp created
  exact ⟨_, rfl, toNat_packed main middle valid.1 valid.2.1, valid⟩

theorem text_injective {left right : GroupAddress} (same : left.getAddress = right.getAddress) :
    left = right := by
  obtain ⟨left⟩ := left
  obtain ⟨right⟩ := right
  cases left with
  | none =>
      cases right with
      | none => rfl
      | some _ => exact absurd same nofun
  | some first =>
      cases right with
      | none => exact absurd same nofun
      | some second =>
          have octets := hexmem_injective (Option.some.inj same)
          simp only [List.cons.injEq, and_true] at octets
          rw [Prod.ext octets.1 octets.2]

theorem toNat_knxGroupAddr (main sub group : Nat) :
    (knxGroupAddr main sub group).toNat = main % 16 * 2048 + sub % 8 * 256 + group % 256 := by
  have mainMask := Nat.and_two_pow_sub_one_eq_mod main 4
  have subMask := Nat.and_two_pow_sub_one_eq_mod sub 3
  have groupMask := Nat.and_two_pow_sub_one_eq_mod group 8
  simp only [Nat.reducePow, Nat.reduceSub] at mainMask subMask groupMask
  have low : (main % 16) <<< 11 ||| (sub % 8) <<< 8 = (main % 16 * 8 + sub % 8) <<< 8 := by
    rw [← Nat.shiftLeft_add_eq_or_of_lt (by rw [Nat.shiftLeft_eq]; omega)]
    simp only [Nat.shiftLeft_eq]
    omega
  rw [knxGroupAddr, mainMask, subMask, groupMask, low,
    ← Nat.shiftLeft_add_eq_or_of_lt (by omega), BitVec.toNat_ofNat]
  simp only [Nat.shiftLeft_eq]
  omega

/-- The triples that are accepted name each address but 0/0/0 once, addresses that print
alike come from one triple, and an address is the number the macro makes of its triple
exactly where the main group has four bits. -/
theorem group_addresses_name_once :
    (∀ high low : Byte, ¬ (high = 0 ∧ low = 0) →
      ∃ main middle, GroupAddress.of main middle low = some ⟨some (high, low)⟩) ∧
    (∀ (main middle sub main' middle' sub' : Byte) (first second : GroupAddress),
      GroupAddress.of main middle sub = some first →
      GroupAddress.of main' middle' sub' = some second →
      first.getAddress = second.getAddress → main = main' ∧ middle = middle' ∧ sub = sub') ∧
    ∀ main middle sub high low : Byte,
      GroupAddress.of main middle sub = some ⟨some (high, low)⟩ →
        ¬ (high = 0 ∧ low = 0) ∧
          (word high low = knxGroupAddr main.toNat middle.toNat sub.toNat ↔ main.toNat < 16) := by
  refine ⟨fun high low nonzero => ?_, ?_, ?_⟩
  · have bound := high.isLt
    have mainValue : (BitVec.ofNat 8 (high.toNat / 8)).toNat = high.toNat / 8 := by
      rw [BitVec.toNat_ofNat]
      omega
    have middleValue : (BitVec.ofNat 8 (high.toNat % 8)).toNat = high.toNat % 8 := by
      rw [BitVec.toNat_ofNat]
      omega
    have packed := toNat_packed (BitVec.ofNat 8 (high.toNat / 8))
      (BitVec.ofNat 8 (high.toNat % 8)) (by omega) (by omega)
    refine ⟨BitVec.ofNat 8 (high.toNat / 8), BitVec.ofNat 8 (high.toNat % 8), ?_⟩
    rw [of_eq_some_iff]
    refine ⟨⟨by omega, by omega, fun zero => nonzero ⟨?_, zero.2.2⟩⟩, ?_⟩
    · have mainZero := congrArg BitVec.toNat zero.1
      have middleZero := congrArg BitVec.toNat zero.2.1
      apply BitVec.eq_of_toNat_eq
      rw [mainValue] at mainZero
      rw [middleValue] at middleZero
      change high.toNat = 0
      change high.toNat / 8 = 0 at mainZero
      change high.toNat % 8 = 0 at middleZero
      omega
    · rw [BitVec.eq_of_toNat_eq (packed.trans (by omega) : _ = high.toNat)]
  · intro main middle sub main' middle' sub' first second created created' text
    obtain ⟨high, rfl, value, valid⟩ := valid_of_some created
    obtain ⟨high', rfl, value', valid'⟩ := valid_of_some created'
    have octets := congrArg GroupAddress.address (text_injective text)
    simp only [Option.some.injEq, Prod.mk.injEq] at octets
    have middleBound := valid.2.1
    have middleBound' := valid'.2.1
    rw [octets.1] at value
    exact ⟨BitVec.eq_of_toNat_eq (by omega), BitVec.eq_of_toNat_eq (by omega), octets.2⟩
  · intro main middle sub high low created
    obtain ⟨octet, same, value, valid⟩ := valid_of_some created
    simp only [GroupAddress.mk.injEq, Option.some.injEq, Prod.mk.injEq] at same
    obtain ⟨rfl, rfl⟩ := same
    have middleBound := valid.2.1
    have mainBound := valid.1
    have subBound := low.isLt
    constructor
    · rintro ⟨highZero, lowZero⟩
      have zero : high.toNat = 0 := congrArg BitVec.toNat highZero
      exact valid.2.2 ⟨BitVec.eq_of_toNat_eq (by change main.toNat = 0; omega),
        BitVec.eq_of_toNat_eq (by change middle.toNat = 0; omega), lowZero⟩
    · rw [← BitVec.toNat_inj, toNat_word, toNat_knxGroupAddr, value]
      omega

end KnxDemo.GroupAddresses
