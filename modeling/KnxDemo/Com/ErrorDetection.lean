import KnxDemo.Com.RoundTrip

/-!
# What the packet checksum detects

An accepted packet clears the bit-serial register. The register of a disturbed
packet is the register of the packet plus that of the disturbance, and a
disturbance no longer than the register never clears it.
-/

namespace KnxDemo.ComErrorDetection

open KnxDemo.Bytes KnxDemo.Checksum KnxDemo.ComDefine KnxDemo.ComChecksum KnxDemo.ComDrive
open KnxDemo.ComPack KnxDemo.ComFunc KnxDemo.ComDecoding KnxDemo.ComEncoding KnxDemo.ComRoundTrip
open KnxDemo.Interaction KnxDemo.Interaction.Loader

theorem feed_accepted_packet {memory : Int → Byte} {octets : List Byte}
    (received : Received memory octets) (long : 7 ≤ octets.length)
    (short : octets.length < 65536) (declared : packLength memory = octets.length)
    (accepted : (eval memory (analysisPack octets.length)).ret = errOk) :
    feed generator 0xFFFF#16 (bitsOf octets) = 0#16 := by
  rw [eval_analysisPack] at accepted
  split_ifs at accepted with rejected matched
  · simp [errFail, errOk] at accepted
  · have covered : ((packLength memory : Nat) : Int) - 2 = (octets.length - 2 : Nat) := by omega
    have last : ((packLength memory : Nat) : Int) - 1 = (octets.length - 1 : Nat) := by omega
    rw [covered, last, toNat_ofInt_length _ (by omega),
      received.octetsAt_zero _ (by omega), received.memory_eq _ (by omega),
      received.memory_eq _ (by omega)] at matched
    have split : octets.take (octets.length - 2) ++
        [octets[octets.length - 2], octets[octets.length - 1]] = octets := by
      have tail : octets.drop (octets.length - 2) =
          [octets[octets.length - 2], octets[octets.length - 1]] := by
        rw [List.drop_eq_getElem_cons (by omega), List.drop_eq_getElem_cons (by omega),
          List.drop_eq_nil_of_le (by omega)]
        simp only [show octets.length - 2 + 1 = octets.length - 1 by omega]
      rw [← tail, List.take_append_drop]
    have cleared := feed_checked_message _ _ _ matched
    rw [split] at cleared
    exact cleared
  · simp [errFail, errOk] at accepted

theorem feed_packet (serviceFrame : ServiceFrame) :
    feed generator 0xFFFF#16 (bitsOf (packet serviceFrame)) = 0#16 :=
  feed_checked_message _ _ _ (word_highByte_lowByte _).symm

theorem feed_disturbed_packet (serviceFrame : ServiceFrame) (errors : List Byte) (start : Nat)
    (same : errors.length = (packet serviceFrame).length)
    (window : ∀ index, (bitsOf errors)[index]? = some true →
      start ≤ index ∧ index < start + 16)
    (disturbed : ∃ octet ∈ errors, octet ≠ 0) :
    feed generator 0xFFFF#16
      (bitsOf (List.zipWith (· ^^^ ·) (packet serviceFrame) errors)) ≠ 0#16 := by
  rcases disturbed with ⟨octet, member, nonzero⟩
  have bit : true ∈ bitsOf errors :=
    List.mem_flatMap.mpr ⟨octet, member, octet_bits_set nonzero⟩
  have superposed := feed_xor generator 0xFFFF#16 0#16 (bitsOf (packet serviceFrame))
    (bitsOf errors) (by rw [length_bitsOf, length_bitsOf, same])
  rw [← bits_of_xor _ _ same.symm, feed_packet, BitVec.xor_zero, BitVec.zero_xor] at superposed
  rw [superposed]
  exact feed_burst_ne_zero (by decide) _ start window bit

theorem packLength_disturbed {memory : Int → Byte} {serviceFrame : ServiceFrame}
    {errors : List Byte} (sized : 7 ≤ serviceFrame.size.toNat)
    (same : errors.length = (packet serviceFrame).length)
    (high : errors[1]? = some 0#8) (low : errors[2]? = some 0#8)
    (received : Received memory (List.zipWith (· ^^^ ·) (packet serviceFrame) errors)) :
    packLength memory = (packet serviceFrame).length := by
  have length := length_packet serviceFrame sized
  obtain ⟨_, highClear⟩ := List.getElem?_eq_some_iff.mp high
  obtain ⟨_, lowClear⟩ := List.getElem?_eq_some_iff.mp low
  have second := received.memory_eq 1 (by rw [List.length_zipWith]; omega)
  have third := received.memory_eq 2 (by rw [List.length_zipWith]; omega)
  rw [List.getElem_zipWith, highClear, BitVec.xor_zero] at second
  rw [List.getElem_zipWith, lowClear, BitVec.xor_zero] at third
  have declared : word (memory 1) (memory 2) = declaredLength serviceFrame := by
    rw [← word_highByte_lowByte (declaredLength serviceFrame)]
    exact congrArg₂ word second third
  rw [packLength, declared, toNat_declaredLength, length]

/-- A packet that `SendPacketIn` wrote, disturbed within a window of sixteen
consecutive bits that leaves the two length octets alone, is never accepted. -/
theorem burst_never_accepted (serviceFrame : ServiceFrame) (sized : 7 ≤ serviceFrame.size.toNat)
    (comPort len ret : Int) (octets errors : List Byte)
    (sent : Completes (sendPacketIn comPort (some serviceFrame)) [⟨.write comPort octets, len⟩]
      ret)
    (same : errors.length = octets.length) (start : Nat)
    (window : ∀ index, (bitsOf errors)[index]? = some true →
      start ≤ index ∧ index < start + 16)
    (disturbed : ∃ octet ∈ errors, octet ≠ 0)
    (high : errors[1]? = some 0#8) (low : errors[2]? = some 0#8)
    (memory : Int → Byte)
    (received : Received memory (List.zipWith (· ^^^ ·) octets errors)) :
    (eval memory (analysisPack octets.length)).ret ≠ errOk := by
  obtain ⟨_, traced, _⟩ :=
    (completes_sendPacketIn comPort (packet_of_eq serviceFrame sized) _ ret).mp sent
  simp only [List.cons.injEq, Event.mk.injEq, PortRequest.write.injEq] at traced
  have written : octets = packet serviceFrame := traced.1.1.2
  subst written
  have bound := serviceFrame.size.isLt
  have length := length_packet serviceFrame sized
  have total : (List.zipWith (· ^^^ ·) (packet serviceFrame) errors).length =
      (packet serviceFrame).length := by
    rw [List.length_zipWith, same, Nat.min_self]
  have declared := packLength_disturbed sized same high low received
  intro accepted
  rw [← total] at accepted
  exact feed_disturbed_packet serviceFrame errors start same window disturbed
    (feed_accepted_packet received (by omega) (by omega) (by omega) accepted)

/-- A single flipped bit in the last checksum octet of a status query. -/
theorem burst_never_accepted_witness :
    (eval (receivedMemory 100
        (List.zipWith (· ^^^ ·) (packet lightQuery) [0, 0, 0, 0, 0, 0, 0, 0, 0, 0, 0, 0, 1])
        fun _ => 0)
      (analysisPack (packet lightQuery).length)).ret ≠ errOk :=
  burst_never_accepted lightQuery (by decide) 3 13 0 (packet lightQuery)
    [0, 0, 0, 0, 0, 0, 0, 0, 0, 0, 0, 0, 1]
    ((completes_sendPacketIn 3 (packet_of_eq lightQuery (by decide)) _ 0).mpr ⟨13, rfl, by decide⟩)
    (by decide) 90
    (by
      intro index set
      obtain ⟨inside, _⟩ := List.getElem?_eq_some_iff.mp set
      rw [length_bitsOf] at inside
      have every : ∀ index < 104,
          (bitsOf [0, 0, 0, 0, 0, 0, 0, 0, 0, 0, 0, 0, 1])[index]? = some true →
            90 ≤ index ∧ index < 90 + 16 := by decide
      exact every index inside set)
    ⟨1, by decide, by decide⟩ rfl rfl _
    (received_receivedMemory 100 _ _ (by decide))

end KnxDemo.ComErrorDetection
