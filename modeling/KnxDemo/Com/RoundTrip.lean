import KnxDemo.Com.Encoding
import KnxDemo.Com.Func

/-!
# Decoding what SendPacketIn sent

The decoder takes the packet of a frame back to the frame's payload, whatever
follows the packet in memory, and the packet determines everything of the frame
that travels.
-/

namespace KnxDemo.ComRoundTrip

open KnxDemo.Bytes KnxDemo.ComDefine KnxDemo.ComChecksum KnxDemo.ComDrive KnxDemo.ComPack
open KnxDemo.ComFunc KnxDemo.ComDecoding KnxDemo.ComEncoding
open KnxDemo.Interaction KnxDemo.Interaction.Loader

theorem packet_head_received {memory : Int → Byte} {serviceFrame : ServiceFrame}
    (received : Received memory (packet serviceFrame)) :
    memory 0 = packStartFlag ∧ memory 3 = serviceIdSend ∧ memory 4 = serviceFrame.size ∧
      packLength memory = serviceFrame.size.toNat + 6 := by
  unfold packet packetBody at received
  have head : Received memory (packetHead serviceFrame) := received.front.front
  simp only [Received, packetHead, Buffer.holds_cons, Buffer.holds_nil] at head
  rcases head with ⟨start, high, low, service, size, _⟩
  refine ⟨start, service, size, ?_⟩
  have declared : word (memory 1) (memory 2) = declaredLength serviceFrame := by
    rw [← word_highByte_lowByte (declaredLength serviceFrame), ← high, ← low]
    rfl
  rw [packLength, declared, toNat_declaredLength]

theorem octetsAt_packetBody {memory : Int → Byte} {serviceFrame : ServiceFrame}
    (sized : 7 ≤ serviceFrame.size.toNat) (received : Received memory (packet serviceFrame)) :
    octetsAt memory 0 (serviceFrame.size.toNat + 4) = packetBody serviceFrame := by
  have length := length_packetBody serviceFrame sized
  have body : Received memory (packetBody serviceFrame) := by
    unfold packet at received
    exact received.front
  rw [body.octetsAt_zero _ (Nat.le_of_eq length.symm), List.take_of_length_le (Nat.le_of_eq length)]

theorem octetsAt_payload {memory : Int → Byte} {serviceFrame : ServiceFrame}
    (sized : 7 ≤ serviceFrame.size.toNat) (received : Received memory (packet serviceFrame)) :
    octetsAt memory 11 (serviceFrame.size.toNat - 7) = serviceFrame.payload := by
  have length := length_packetBody serviceFrame sized
  have body : Received memory (packetBody serviceFrame) := by
    unfold packet at received
    exact received.front
  have payload := length_payload serviceFrame
  have taken := body.octetsAt_eq 11 (serviceFrame.size.toNat - 7) (by omega)
  have behind : (packetBody serviceFrame).drop 11 = serviceFrame.payload := by
    rw [packetBody, List.drop_left' (length_packetHead serviceFrame)]
  rw [behind, List.take_of_length_le (Nat.le_of_eq payload)] at taken
  exact taken

theorem checksum_received {memory : Int → Byte} {serviceFrame : ServiceFrame}
    (sized : 7 ≤ serviceFrame.size.toNat) (received : Received memory (packet serviceFrame)) :
    word (memory (serviceFrame.size.toNat + 4 : Nat))
      (memory (serviceFrame.size.toNat + 5 : Nat)) = crcOf (packetBody serviceFrame) := by
  have length := length_packetBody serviceFrame sized
  unfold packet at received
  have stored := ((Buffer.holds_append _ _ _ _).mp received).2
  simp only [Buffer.holds_cons, Buffer.holds_nil, length, and_true, Nat.zero_add] at stored
  rcases stored with ⟨high, low⟩
  rw [← word_highByte_lowByte (crcOf (packetBody serviceFrame)), ← high, ← low]

/-- The decoder accepts the packet and stores the payload, no matter how many
octets beyond the packet it is told to have received. -/
theorem eval_analysisPack_packet {memory : Int → Byte} {serviceFrame : ServiceFrame}
    (sized : 7 ≤ serviceFrame.size.toNat) (received : Received memory (packet serviceFrame))
    (dataLen : Int) (enough : 7 ≤ dataLen) :
    eval memory (analysisPack dataLen) = ⟨errOk, some serviceFrame.payload⟩ := by
  obtain ⟨start, service, size, declared⟩ := packet_head_received received
  have accepted : ¬ (dataLen < 7 ∨ memory 0 ≠ packStartFlag ∨
      ¬ (memory 3 = serviceIdRecv ∨ memory 3 = serviceIdSend) ∨ (memory 4).toNat < 7) := by
    rw [start, service, size]
    simp
    omega
  have covered : ((packLength memory : Nat) : Int) - 2 = (serviceFrame.size.toNat + 4 : Nat) := by
    omega
  have last : ((packLength memory : Nat) : Int) - 1 = (serviceFrame.size.toNat + 5 : Nat) := by
    omega
  have bound := serviceFrame.size.isLt
  rw [eval_analysisPack, if_neg accepted, covered, last, toNat_ofInt_length _ (by omega),
    octetsAt_packetBody sized received, size, octetsAt_payload sized received]
  rw [checksum_received sized received, if_pos rfl]

structure SameOnWire (left right : ServiceFrame) : Prop where
  size : left.size = right.size
  controlType : left.controlType = right.controlType
  property : left.property = right.property
  channel : left.channel = right.channel
  controlStatus : left.controlStatus = right.controlStatus
  payload : left.payload = right.payload

theorem same_on_wire_of_packet_eq {left right : ServiceFrame} (same : packet left = packet right)
    (leftSized : 7 ≤ left.size.toNat) (rightSized : 7 ≤ right.size.toNat) :
    SameOnWire left right := by
  have lengths := congrArg List.length same
  rw [length_packet left leftSized, length_packet right rightSized] at lengths
  have bodies : (packetBody left).length = (packetBody right).length := by
    rw [length_packetBody left leftSized, length_packetBody right rightSized]
    omega
  have body : packetBody left = packetBody right := (List.append_inj same bodies).1
  have parts := List.append_inj body rfl
  have head := parts.1
  simp only [packetHead, List.cons.injEq, true_and, and_true] at head
  rcases head with ⟨_, _, size, controlType, property, channel, controlStatus⟩
  exact ⟨size, controlType, property, channel, controlStatus, parts.2⟩

/-- `SendPacketIn` writes one packet of size plus six octets; the decoder takes it
back to the payload whatever trails it; and a frame whose packet is written as the
same octets is the same frame on the wire. -/
theorem serial_round_trip (serviceFrame : ServiceFrame) (sized : 7 ≤ serviceFrame.size.toNat) :
    ∃ octets : List Byte, octets.length = serviceFrame.size.toNat + 6 ∧
      (∀ comPort trace ret, Completes (sendPacketIn comPort (some serviceFrame)) trace ret ↔
        ∃ len : Int, trace = [⟨.write comPort octets, len⟩] ∧
          ret = if len = octets.length then errOk else errIosend) ∧
      (∀ memory trailing, Received memory (octets ++ trailing) →
        eval memory (analysisPack (octets ++ trailing).length) =
            ⟨errOk, some serviceFrame.payload⟩ ∧
          serviceFrame.payload.length = serviceFrame.size.toNat - 7) ∧
      ∀ other comPort len ret, 7 ≤ other.size.toNat →
        Completes (sendPacketIn comPort (some other)) [⟨.write comPort octets, len⟩] ret →
          SameOnWire serviceFrame other := by
  have length := length_packet serviceFrame sized
  refine ⟨packet serviceFrame, length, ?_, ?_, ?_⟩
  · intro comPort trace ret
    exact completes_sendPacketIn comPort (packet_of_eq serviceFrame sized) trace ret
  · intro memory trailing received
    have enough : (7 : Int) ≤ (packet serviceFrame ++ trailing).length := by
      rw [List.length_append, length]
      omega
    exact ⟨eval_analysisPack_packet sized received.front _ enough, length_payload serviceFrame⟩
  · intro other comPort len ret otherSized ran
    obtain ⟨_, traced, _⟩ :=
      (completes_sendPacketIn comPort (packet_of_eq other otherSized) _ ret).mp ran
    simp only [List.cons.injEq, Event.mk.injEq, PortRequest.write.injEq] at traced
    exact same_on_wire_of_packet_eq traced.1.1.2 sized otherSized

theorem serial_round_trip_witness :
    ∃ octets : List Byte, octets.length = (lightCommand 1).size.toNat + 6 ∧
      (∀ comPort trace ret, Completes (sendPacketIn comPort (some (lightCommand 1))) trace ret ↔
        ∃ len : Int, trace = [⟨.write comPort octets, len⟩] ∧
          ret = if len = octets.length then errOk else errIosend) ∧
      (∀ memory trailing, Received memory (octets ++ trailing) →
        eval memory (analysisPack (octets ++ trailing).length) =
            ⟨errOk, some (lightCommand 1).payload⟩ ∧
          (lightCommand 1).payload.length = (lightCommand 1).size.toNat - 7) ∧
      ∀ other comPort len ret, 7 ≤ other.size.toNat →
        Completes (sendPacketIn comPort (some other)) [⟨.write comPort octets, len⟩] ret →
          SameOnWire (lightCommand 1) other :=
  serial_round_trip (lightCommand 1) (by decide)

end KnxDemo.ComRoundTrip
