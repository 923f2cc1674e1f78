import KnxDemo.Com.Decoding

/-!
# The packet SendPacketIn builds

For a frame size of at least seven the encoder's stores, running index and
reserved gap come to one fixed layout: a four-octet envelope, the seven-octet
frame head, the payload, and the checksum of all of it.
-/

namespace KnxDemo.ComEncoding

open KnxDemo.Bytes KnxDemo.ComDefine KnxDemo.ComChecksum KnxDemo.ComDrive KnxDemo.ComPack
open KnxDemo.ComDecoding
open KnxDemo.Interaction KnxDemo.Interaction.Loader

def declaredLength (serviceFrame : ServiceFrame) : BitVec 16 :=
  BitVec.ofNat 16 (serviceFrame.size.toNat + packFrameLeft)

def packetHead (serviceFrame : ServiceFrame) : List Byte :=
  [packStartFlag, highByte (declaredLength serviceFrame), lowByte (declaredLength serviceFrame),
    serviceIdSend, serviceFrame.size, 0, 0, serviceFrame.controlType, serviceFrame.property,
    serviceFrame.channel, serviceFrame.controlStatus]

/-- Everything the checksum covers. -/
def packetBody (serviceFrame : ServiceFrame) : List Byte :=
  packetHead serviceFrame ++ serviceFrame.payload

def packet (serviceFrame : ServiceFrame) : List Byte :=
  packetBody serviceFrame ++
    [highByte (crcOf (packetBody serviceFrame)), lowByte (crcOf (packetBody serviceFrame))]

theorem toNat_declaredLength (serviceFrame : ServiceFrame) :
    (declaredLength serviceFrame).toNat = serviceFrame.size.toNat + 6 := by
  have bound := serviceFrame.size.isLt
  simp only [declaredLength, BitVec.toNat_ofNat, packFrameLeft]
  omega

@[simp] theorem length_packetHead (serviceFrame : ServiceFrame) :
    (packetHead serviceFrame).length = 11 := rfl

theorem length_data (serviceFrame : ServiceFrame) : serviceFrame.data.toList.length = 255 :=
  Vector.length_toList

theorem length_payload (serviceFrame : ServiceFrame) :
    serviceFrame.payload.length = serviceFrame.size.toNat - 7 := by
  have bound := serviceFrame.size.isLt
  simp only [ServiceFrame.payload, List.length_take, length_data, serviceFrameHead]
  omega

theorem length_packetBody (serviceFrame : ServiceFrame) (sized : 7 ≤ serviceFrame.size.toNat) :
    (packetBody serviceFrame).length = serviceFrame.size.toNat + 4 := by
  rw [packetBody, List.length_append, length_packetHead, length_payload]
  omega

theorem length_packet (serviceFrame : ServiceFrame) (sized : 7 ≤ serviceFrame.size.toNat) :
    (packet serviceFrame).length = serviceFrame.size.toNat + 6 := by
  rw [packet, List.length_append, length_packetBody serviceFrame sized]
  rfl

/-- What `memcpy` copies out of the frame when its count did not wrap. -/
theorem copied_eq_payload (serviceFrame : ServiceFrame) (sized : 7 ≤ serviceFrame.size.toNat) :
    ((List.range (sizeT (serviceFrame.size.toNat - serviceFrameHead))).map
      fun index => serviceFrame.data[index]?.getD 0) = serviceFrame.payload := by
  have bound := serviceFrame.size.isLt
  have count : sizeT (serviceFrame.size.toNat - serviceFrameHead) =
      serviceFrame.size.toNat - 7 := by
    have head : ((serviceFrame.size.toNat : Int) - serviceFrameHead) =
        ((serviceFrame.size.toNat - 7 : Nat) : Int) := by
      rw [serviceFrameHead]
      omega
    rw [head, sizeT_natCast (by omega)]
  rw [count]
  apply List.ext_getElem
  · simp [length_payload]
  · intro index inside _
    have within : index < maxServiceFrame := by
      simp only [List.length_map, List.length_range] at inside
      simp only [maxServiceFrame]
      omega
    simp [ServiceFrame.payload, Vector.getElem?_eq_getElem within]

/-- The packet buffer just before the checksum is computed. -/
def bodyBuffer (serviceFrame : ServiceFrame) : Buffer Byte :=
  (((((((((Buffer.fresh fun _ => (0 : Byte)).store 0 packStartFlag).store 1
    (highByte (declaredLength serviceFrame))).store 2
    (lowByte (declaredLength serviceFrame))).store 3 serviceIdSend).store 4
    serviceFrame.size).store 7 serviceFrame.controlType).store 8 serviceFrame.property).store 9
    serviceFrame.channel).store 10 serviceFrame.controlStatus |>.storeBlock 11
    serviceFrame.payload

theorem holds_bodyBuffer (serviceFrame : ServiceFrame) :
    Buffer.Holds (bodyBuffer serviceFrame).memory 0 (packetBody serviceFrame) := by
  rw [packetBody, Buffer.holds_append]
  constructor
  · simp [packetHead, bodyBuffer, Buffer.memory_storeBlock_outside, Buffer.memory_store]
  · exact Buffer.holds_storeBlock _ 11 _

theorem declared_octets (serviceFrame : ServiceFrame) :
    BitVec.ofNat 8 ((serviceFrame.size.toNat + packFrameLeft) >>> 8) =
        highByte (declaredLength serviceFrame) ∧
      BitVec.ofNat 8 ((serviceFrame.size.toNat + packFrameLeft) &&& 0xFF) =
        lowByte (declaredLength serviceFrame) := by
  have bound := serviceFrame.size.isLt
  have mask := Nat.and_two_pow_sub_one_eq_mod (serviceFrame.size.toNat + packFrameLeft) 8
  constructor
  · apply BitVec.eq_of_toNat_eq
    rw [toNat_highByte, toNat_declaredLength]
    simp only [BitVec.toNat_ofNat, Nat.shiftRight_eq_div_pow, packFrameLeft]
    omega
  · apply BitVec.eq_of_toNat_eq
    rw [toNat_lowByte, toNat_declaredLength, show (0xFF : Nat) = 2 ^ 8 - 1 by rfl, mask]
    simp only [BitVec.toNat_ofNat, packFrameLeft]
    omega

theorem service_frame_to_array_eq (serviceFrame : ServiceFrame)
    (sized : 7 ≤ serviceFrame.size.toNat) (rawPack : Buffer Byte) (pack : Nat) :
    serviceFrame2Array serviceFrame rawPack pack =
      ((((((rawPack.store pack serviceFrame.size).store (pack + 3)
        serviceFrame.controlType).store (pack + 4) serviceFrame.property).store (pack + 5)
        serviceFrame.channel).store (pack + 6) serviceFrame.controlStatus).storeBlock (pack + 7)
        serviceFrame.payload, (serviceFrame.size.toNat : Int)) := by
  have index : (7 : Int) + (serviceFrame.size.toNat - serviceFrameHead) =
      serviceFrame.size.toNat := by
    simp only [serviceFrameHead]
    omega
  simp only [serviceFrame2Array, copied_eq_payload serviceFrame sized, index]

theorem crc_of_bodyBuffer (serviceFrame : ServiceFrame) (sized : 7 ≤ serviceFrame.size.toNat) :
    eval (fun address => (bodyBuffer serviceFrame).memory address.toNat)
      (calcCrcCcitt 0 (4 + serviceFrame.size.toNat : Int).toNat) =
        crcOf (packetBody serviceFrame) := by
  have bound := serviceFrame.size.isLt
  have received : Received (fun address => (bodyBuffer serviceFrame).memory address.toNat)
      (packetBody serviceFrame) := by
    simpa [Received] using holds_bodyBuffer serviceFrame
  have length := length_packetBody serviceFrame sized
  rw [eval_calcCrcCcitt, toNat_ofInt_length _ (by omega),
    show (4 + serviceFrame.size.toNat : Int).toNat = serviceFrame.size.toNat + 4 by omega,
    received.octetsAt_zero _ (Nat.le_of_eq length.symm),
    List.take_of_length_le (Nat.le_of_eq length)]

/-- The two expressions `SendPacketIn` stores the checksum with. -/
theorem stored_checksum_octets (crc : BitVec 16) :
    (crc >>> 8).setWidth 8 = highByte crc ∧ (crc &&& 0xFF#16).setWidth 8 = lowByte crc := by
  have mask := Nat.and_two_pow_sub_one_eq_mod crc.toNat 8
  constructor
  · rfl
  · apply BitVec.eq_of_toNat_eq
    rw [toNat_lowByte, BitVec.toNat_setWidth, BitVec.toNat_and,
      show (0xFF#16).toNat = 2 ^ 8 - 1 by rfl, mask]
    omega

theorem packet_of_eq (serviceFrame : ServiceFrame) (sized : 7 ≤ serviceFrame.size.toNat) :
    packetOf serviceFrame = some (packet serviceFrame) := by
  have octets := declared_octets serviceFrame
  have crc := crc_of_bodyBuffer serviceFrame sized
  have stored := stored_checksum_octets (crcOf (packetBody serviceFrame))
  have length := length_packetBody serviceFrame sized
  have index : (4 + serviceFrame.size.toNat : Int).toNat = (packetBody serviceFrame).length := by
    omega
  have nonnegative : ¬ (serviceFrame.size.toNat : Int) < errOk := by
    simp only [errOk]
    omega
  simp only [packetOf, service_frame_to_array_eq serviceFrame sized, octets.1, octets.2,
    nonnegative, if_false]
  rw [← bodyBuffer, crc, index, stored.1, stored.2]
  have held : Buffer.Holds
      (((bodyBuffer serviceFrame).store (packetBody serviceFrame).length
        (highByte (crcOf (packetBody serviceFrame)))).store
        ((packetBody serviceFrame).length + 1)
        (lowByte (crcOf (packetBody serviceFrame)))).memory 0 (packet serviceFrame) := by
    rw [packet, Buffer.holds_append]
    constructor
    · refine (holds_bodyBuffer serviceFrame).congr fun index inside => ?_
      simp only [Buffer.memory_store]
      rw [if_neg (by omega), if_neg (by omega)]
    · simp [Buffer.memory_store]
  have contents := (Buffer.holds_iff_contents _ _ _).mp held
  have total : (packet serviceFrame).length = (packetBody serviceFrame).length + 2 := by
    simp [packet]
  rw [total] at contents
  rw [contents]

theorem sendPacketIn_eq (comPort : Int) {serviceFrame : ServiceFrame} {octets : List Byte}
    (built : packetOf serviceFrame = some octets) :
    sendPacketIn comPort (some serviceFrame) =
      ask (I := PortInterface) (.write comPort octets) >>= fun (len : Int) =>
        pure (if len = octets.length then errOk else errIosend) := by
  simp only [sendPacketIn, built, comSend]
  congr 1
  funext len
  by_cases sent : len = octets.length
  · rw [if_neg (not_not.mpr sent), if_pos sent]
  · rw [if_pos sent, if_neg sent]

theorem completes_sendPacketIn (comPort : Int) {serviceFrame : ServiceFrame} {octets : List Byte}
    (built : packetOf serviceFrame = some octets) (trace : PortTrace) (ret : Int) :
    Completes (sendPacketIn comPort (some serviceFrame)) trace ret ↔
      ∃ len : Int, trace = [⟨.write comPort octets, len⟩] ∧
        ret = if len = octets.length then errOk else errIosend := by
  rw [sendPacketIn_eq comPort built, completes_ask_bind]
  simp only [completes_pure]
  constructor
  · intro sending
    obtain ⟨len, tail, first, rfl, returned⟩ := sending
    exact ⟨len, first, returned.symm⟩
  · intro sending
    obtain ⟨len, only, returned⟩ := sending
    exact ⟨len, [], only, rfl, returned.symm⟩

theorem sendPacketIn_bind {Result : Type} (comPort : Int) (serviceFrame : ServiceFrame)
    (sized : 7 ≤ serviceFrame.size.toNat) (rest : Int → Session Result) :
    sendPacketIn comPort (some serviceFrame) >>= rest =
      ask (I := PortInterface) (.write comPort (packet serviceFrame)) >>= fun (len : Int) =>
        rest (if len = (packet serviceFrame).length then errOk else errIosend) := by
  rw [sendPacketIn_eq comPort (packet_of_eq serviceFrame sized), bind_assoc]
  simp only [pure_bind]

theorem completes_sendPacketIn_bind {Result : Type} (comPort : Int) (serviceFrame : ServiceFrame)
    (sized : 7 ≤ serviceFrame.size.toNat) (rest : Int → Session Result) (trace : PortTrace)
    (result : Result) :
    Completes (sendPacketIn comPort (some serviceFrame) >>= rest) trace result ↔
      ∃ (len : Int) (tail : PortTrace),
        trace = ⟨.write comPort (packet serviceFrame), len⟩ :: tail ∧
          Completes (rest (if len = (packet serviceFrame).length then errOk else errIosend))
            tail result := by
  rw [sendPacketIn_bind comPort serviceFrame sized]
  exact completes_ask_bind (I := PortInterface) (.write comPort (packet serviceFrame)) _ trace
    result

end KnxDemo.ComEncoding
