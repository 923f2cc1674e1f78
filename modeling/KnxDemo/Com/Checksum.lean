import KnxDemo.Bytes
import KnxDemo.Checksum.ShiftRegister
import KnxDemo.Checksum.XorLinear

/-!
# The frame checksum

`Get_CRC_CCITT` folds one octet into the register with five shift-and-xor lines.
Every line is promoted to `int` and truncated back to sixteen bits when it is
assigned. Together the lines are eight steps of the bit-serial register with
generator `x^16 + x^12 + x^5 + 1`, most significant bit first.
-/

namespace KnxDemo.ComChecksum

open KnxDemo.Bytes KnxDemo.Checksum

/-- Integer promotion of an `unsigned short`. -/
def promote (value : BitVec 16) : BitVec 32 := value.setWidth 32

/-- `u_crc_val = ((unsigned char)(u_crc_val >> 8)) | (u_crc_val << 8)` -/
def swapOctets (crc : BitVec 16) : BitVec 16 :=
  (((promote crc >>> 8).setWidth 8).setWidth 32 ||| promote crc <<< 8).setWidth 16

/-- `u_crc_val ^= btVal` -/
def mixOctet (crc : BitVec 16) (btVal : Byte) : BitVec 16 :=
  (promote crc ^^^ btVal.setWidth 32).setWidth 16

/-- `u_crc_val ^= ((unsigned char)(u_crc_val & 0xFF)) >> 4` -/
def foldNibble (crc : BitVec 16) : BitVec 16 :=
  (promote crc ^^^ ((promote crc &&& 0xFF#32).setWidth 8).setWidth 32 >>> 4).setWidth 16

/-- `u_crc_val ^= u_crc_val << 12` -/
def spreadHigh (crc : BitVec 16) : BitVec 16 :=
  (promote crc ^^^ promote crc <<< 12).setWidth 16

/-- `u_crc_val ^= (u_crc_val & 0xFF) << 5` -/
def spreadLow (crc : BitVec 16) : BitVec 16 :=
  (promote crc ^^^ (promote crc &&& 0xFF#32) <<< 5).setWidth 16

def getCrcCcitt (uCrcVal : BitVec 16) (btVal : Byte) : BitVec 16 :=
  spreadLow (spreadHigh (foldNibble (mixOctet (swapOctets uCrcVal) btVal)))

def crcOf (octets : List Byte) : BitVec 16 := octets.foldl getCrcCcitt 0xFFFF#16

def generator : BitVec 16 := 0x1021#16

/-- The bits of an octet in transmission order. -/
def octetBits (octet : Byte) : List Bool := (List.range 8).map octet.getMsbD

def bitsOf (octets : List Byte) : List Bool := octets.flatMap octetBits

theorem promote_xor (left right : BitVec 16) :
    promote (left ^^^ right) = promote left ^^^ promote right :=
  BitVec.setWidth_xor

theorem mask_xor (left right mask : BitVec 32) :
    (left ^^^ right) &&& mask = (left &&& mask) ^^^ (right &&& mask) := by
  apply BitVec.eq_of_getElem_eq
  intro index inside
  simp [Bool.and_xor_distrib_right]

theorem swap_octets_linear : XorLinear swapOctets := by
  intro left right
  apply BitVec.eq_of_getElem_eq
  intro index inside
  by_cases lower : index < 8 <;> simp [swapOctets, promote, lower]

theorem mix_octet_xor (left right : BitVec 16) (octet other : Byte) :
    mixOctet (left ^^^ right) (octet ^^^ other) =
      mixOctet left octet ^^^ mixOctet right other := by
  simp only [mixOctet, promote_xor, BitVec.setWidth_xor]
  ac_rfl

theorem fold_nibble_linear : XorLinear foldNibble := by
  intro left right
  simp only [foldNibble, promote_xor, mask_xor, BitVec.setWidth_xor,
    BitVec.ushiftRight_xor_distrib]
  ac_rfl

theorem spread_high_linear : XorLinear spreadHigh := by
  intro left right
  simp only [spreadHigh, promote_xor, BitVec.setWidth_xor, BitVec.shiftLeft_xor_distrib]
  ac_rfl

theorem spread_low_linear : XorLinear spreadLow := by
  intro left right
  simp only [spreadLow, promote_xor, mask_xor, BitVec.setWidth_xor,
    BitVec.shiftLeft_xor_distrib]
  ac_rfl

theorem get_crc_ccitt_xor (left right : BitVec 16) (octet other : Byte) :
    getCrcCcitt (left ^^^ right) (octet ^^^ other) =
      getCrcCcitt left octet ^^^ getCrcCcitt right other := by
  simp only [getCrcCcitt]
  rw [swap_octets_linear, mix_octet_xor, fold_nibble_linear, spread_high_linear,
    spread_low_linear]

theorem octet_bits_xor (octet other : Byte) :
    octetBits (octet ^^^ other) =
      List.zipWith (· ^^ ·) (octetBits octet) (octetBits other) := by
  simp [octetBits, List.range_succ]

@[simp] theorem length_octetBits (octet : Byte) : (octetBits octet).length = 8 := by
  simp [octetBits]

theorem octet_bits_set {octet : Byte} (nonzero : octet ≠ 0) : true ∈ octetBits octet := by
  revert octet
  decide

theorem length_bitsOf (octets : List Byte) : (bitsOf octets).length = 8 * octets.length := by
  induction octets with
  | nil => rfl
  | cons octet octets ih =>
      simp only [bitsOf, List.flatMap_cons, List.length_append, length_octetBits,
        List.length_cons] at ih ⊢
      omega

theorem bits_of_xor (octets errors : List Byte) (same : octets.length = errors.length) :
    bitsOf (List.zipWith (· ^^^ ·) octets errors) =
      List.zipWith (· ^^ ·) (bitsOf octets) (bitsOf errors) := by
  induction octets generalizing errors with
  | nil => rfl
  | cons octet octets ih =>
      cases errors with
      | nil => simp at same
      | cons error errors =>
          have rest := ih errors (by simpa using same)
          simp only [bitsOf, List.zipWith_cons_cons, List.flatMap_cons] at rest ⊢
          rw [rest, octet_bits_xor, List.zipWith_append (by simp)]

theorem step_register_linear : XorLinear fun crc => getCrcCcitt crc 0#8 :=
  fun left right => get_crc_ccitt_xor left right 0#8 0#8

theorem step_octet_linear : XorLinear (getCrcCcitt 0#16) :=
  fun left right => get_crc_ccitt_xor 0#16 0#16 left right

theorem feed_register_linear :
    XorLinear fun crc : BitVec 16 => feed generator crc (octetBits 0#8) :=
  fun left right => feed_xor generator left right (octetBits 0#8) (octetBits 0#8) rfl

theorem feed_octet_linear :
    XorLinear fun octet : Byte => feed generator 0#16 (octetBits octet) := by
  intro left right
  simp only [octet_bits_xor]
  exact feed_xor generator 0#16 0#16 _ _ (by simp [octetBits])

/-- The byte-wise step is eight bit-serial steps: both are linear in the register
and in the octet, so the twenty-four single-bit inputs decide. -/
theorem get_crc_ccitt_eq_feed (crc : BitVec 16) (octet : Byte) :
    getCrcCcitt crc octet = feed generator crc (octetBits octet) := by
  have stepSplit : getCrcCcitt crc octet = getCrcCcitt crc 0#8 ^^^ getCrcCcitt 0#16 octet := by
    rw [← get_crc_ccitt_xor, BitVec.xor_zero, BitVec.zero_xor]
  have feedSplit : feed generator crc (octetBits octet) =
      feed generator crc (octetBits 0#8) ^^^ feed generator 0#16 (octetBits octet) := by
    rw [← feed_xor _ _ _ _ _ (by simp [octetBits]), ← octet_bits_xor, BitVec.xor_zero,
      BitVec.zero_xor]
  have registerPart : getCrcCcitt crc 0#8 = feed generator crc (octetBits 0#8) :=
    step_register_linear.eq_of_basis feed_register_linear (by decide) crc
  have octetPart : getCrcCcitt 0#16 octet = feed generator 0#16 (octetBits octet) :=
    step_octet_linear.eq_of_basis feed_octet_linear (by decide) octet
  rw [stepSplit, feedSplit, registerPart, octetPart]

theorem foldl_get_crc_ccitt_eq_feed (crc : BitVec 16) (octets : List Byte) :
    octets.foldl getCrcCcitt crc = feed generator crc (bitsOf octets) := by
  induction octets generalizing crc with
  | nil => rfl
  | cons octet octets ih =>
      rw [List.foldl_cons, ih, get_crc_ccitt_eq_feed]
      simp only [bitsOf, List.flatMap_cons, feed_append]

theorem feed_own_octets (crc : BitVec 16) :
    feed generator crc (octetBits (highByte crc) ++ octetBits (lowByte crc)) = 0#16 := by
  have linear : XorLinear fun crc : BitVec 16 =>
      feed generator crc (octetBits (highByte crc) ++ octetBits (lowByte crc)) := by
    intro left right
    have high : highByte (left ^^^ right) = highByte left ^^^ highByte right := by
      simp only [highByte, BitVec.ushiftRight_xor_distrib, BitVec.setWidth_xor]
    have low : lowByte (left ^^^ right) = lowByte left ^^^ lowByte right := by
      simp only [lowByte, BitVec.setWidth_xor]
    simp only [high, low, octet_bits_xor]
    rw [← List.zipWith_append (by simp [octetBits])]
    exact feed_xor generator left right _ _ (by simp [octetBits])
  have constant : XorLinear fun _ : BitVec 16 => 0#16 := fun _ _ => BitVec.xor_self.symm
  exact linear.eq_of_basis constant (by decide) crc

theorem feed_checked_message (octets : List Byte) (high low : Byte)
    (checked : crcOf octets = word high low) :
    feed generator 0xFFFF#16 (bitsOf (octets ++ [high, low])) = 0#16 := by
  have own := feed_own_octets (word high low)
  rw [highByte_word, lowByte_word] at own
  have body : feed generator 0xFFFF#16 (bitsOf octets) = word high low := by
    rw [← foldl_get_crc_ccitt_eq_feed]
    exact checked
  have split : bitsOf (octets ++ [high, low]) =
      bitsOf octets ++ (octetBits high ++ octetBits low) := by
    simp [bitsOf]
  rw [split, feed_append, body, own]

end KnxDemo.ComChecksum
