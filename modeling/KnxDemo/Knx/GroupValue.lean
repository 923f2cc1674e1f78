import KnxDemo.Knx.DatapointCoding

/-!
# Values through frames

A value is written to application data, sent as the payload of a tunnelling
request or a routing indication, and read from the payload of the parsed frame.
The generator replaces the two bits of the payload that no data point uses.
-/

namespace KnxDemo.GroupValue

open KnxDemo.Bytes KnxDemo.KnxProto KnxDemo.KnxGenerate KnxDemo.KnxLayout
open KnxDemo.KnxPacketLayout KnxDemo.KnxFrameLength KnxDemo.KnxParse
open KnxDemo.KnxFields KnxDemo.KnxFrameFields KnxDemo.KnxRoundTrip
open KnxDemo.KnxDatapoint KnxDemo.DatapointCoding
open KnxDemo.Interaction KnxDemo.Interaction.Loader

def sentFrame : KnxMessage → Option (KnxCemi (List Byte))
  | .tunnelRequest req => some req.data
  | .routingIndication ind => some ind.data
  | _ => none

def receivedFrame (packet : KnxPacket) : KnxCemi Nat :=
  if packet.service = knxTunnelRequest then packet.payload.tunnelReq.data
  else packet.payload.routingInd.data

theorem parse_held {message : KnxMessage} (encodable : Encodable message)
    {initial memory : Nat → Byte} (held : Buffer.Holds memory 0 (packetOctets initial message))
    (output : KnxPacket) :
    ∃ packet, eval memory (knxParse 0 (knxSize message) output) =
        ((knxSize message : Int), packet) ∧
      packet.service = message.service ∧ Carries memory packet.payload message := by
  rw [packetOctets, Buffer.holds_append, length_headerOctets] at held
  obtain ⟨header, payload⟩ := held
  obtain ⟨result, parsed, carries⟩ := parse_payload encodable payload
    { output with service := message.service } rfl (knxSize message)
  refine ⟨{ output with service := message.service, payload := result }, ?_, rfl, carries⟩
  rw [parse_of_header (payload_size_le encodable.generatable) encodable.service_lt header, parsed]

section Frame

variable {message : KnxMessage} {frame : KnxCemi (List Byte)}
  (sent : sentFrame message = some frame) (encodable : EncodableCemi frame)

include sent encodable

theorem frame_encodable : Encodable message := by
  cases message with
  | tunnelRequest req =>
      cases sent
      exact encodable
  | routingIndication ind =>
      cases sent
      exact encodable
  | _ => exact absurd sent nofun

omit encodable in
theorem frame_of_carried {memory : Nat → Byte} {packet : KnxPacket}
    (service : packet.service = message.service) (carries : Carries memory packet.payload message) :
    SameCemi memory (receivedFrame packet) frame := by
  cases message with
  | tunnelRequest req =>
      cases sent
      have tunnel : packet.service = knxTunnelRequest := service
      rw [receivedFrame, if_pos tunnel]
      exact carries.2.2
  | routingIndication ind =>
      cases sent
      have routing : packet.service = knxRoutingIndication := service
      rw [receivedFrame, routing, if_neg (by decide)]
      exact carries
  | _ => exact absurd sent nofun

theorem frame_received {initial memory : Nat → Byte}
    (agree : ∀ index, index < knxSize message →
      memory index = (knxGenerate (Buffer.fresh initial) message).1.memory index)
    (output : KnxPacket) :
    ∃ packet, eval memory (knxParse 0 (knxSize message) output) =
        ((knxSize message : Int), packet) ∧
      packet.service = message.service ∧ SameCemi memory (receivedFrame packet) frame := by
  have whole := frame_encodable sent encodable
  have size := payload_octets_le_size whole initial
  have held : Buffer.Holds memory 0 (packetOctets initial message) := by
    apply (Buffer.holds_storeBlock (Buffer.fresh initial) 0 _).congr
    intro index inside
    rw [packetOctets, List.length_append, length_headerOctets] at inside
    rw [agree index (by rw [knxSize, knxHeaderSize]; omega), generate_eq whole.generatable]
    rfl
  obtain ⟨packet, parsed, service, carries⟩ := parse_held whole held output
  exact ⟨packet, parsed, service, frame_of_carried sent service carries⟩

end Frame

theorem with_apci_low_six (apci : Nat) (octet : Byte) :
    withApci apci octet &&& 63 = octet &&& 63 := by
  have apart : ∀ low : Fin 4, BitVec.ofNat 8 (low.val <<< 6) &&& 63#8 = 0#8 := by decide
  have bits := apart ⟨apci &&& 3, Nat.lt_succ_of_le Nat.and_le_right⟩
  change (octet &&& 63#8 ||| BitVec.ofNat 8 ((apci &&& 3) <<< 6)) &&& 63#8 = octet &&& 63#8
  rw [BitVec.and_or_distrib_right, bits, BitVec.or_zero, BitVec.and_assoc, BitVec.and_self]

/-- A value written to any application data and sent in any frame that can carry it
arrives: the receiver finds the length of its type, the destination and the APCI of the
sender, and reads the value that would be read back at once. -/
theorem value_survives_frame (scratch : Buffer Byte) (apdu : Nat) (type : KnxDpt)
    (known : type ≠ .other) (value : type.Value) (message : KnxMessage)
    (frame : KnxCemi (List Byte)) (sent : sentFrame message = some frame)
    (encodable : EncodableCemi frame) (data : isData frame.ldata.tpdu.tpci)
    (payload : frame.ldata.tpdu.payload = some (Buffer.contents
      (knxDptToApdu scratch apdu type value).memory apdu (knxDptSize type)))
    (length : frame.ldata.tpdu.length = knxDptSize type)
    (initial memory : Nat → Byte)
    (agree : ∀ index, index < knxSize message →
      memory index = (knxGenerate (Buffer.fresh initial) message).1.memory index)
    (output : KnxPacket) :
    ∃ packet source, eval memory (knxParse 0 (knxSize message) output) =
        ((knxSize message : Int), packet) ∧
      (receivedFrame packet).ldata.destination = frame.ldata.destination ∧
      (receivedFrame packet).ldata.tpdu.apci = frame.ldata.tpdu.apci ∧
      (receivedFrame packet).ldata.tpdu.length = knxDptSize type ∧
      (receivedFrame packet).ldata.tpdu.payload = some source ∧
      eval memory (knxDptFromApdu source (receivedFrame packet).ldata.tpdu.length type) =
        some (readBack type value) := by
  obtain ⟨packet, parsed, -, same⟩ := frame_received sent encodable agree output
  obtain ⟨source, octet, rest, pointer, behind, held⟩ := same.ldata.tpdu.payload data
  have written : Buffer.contents (knxDptToApdu scratch apdu type value).memory apdu
      (knxDptSize type) = apduOf (scratch.memory apdu) type value := by
    rw [← length_apduOf (scratch.memory apdu) known value]
    exact (Buffer.holds_iff_contents _ _ _).mp (written_holds scratch apdu known value)
  rw [octetsBehind, payload, length, written, Option.getD_some,
    ← length_apduOf (scratch.memory apdu) known value, List.take_length] at behind
  obtain ⟨first, following⟩ := List.cons.inj behind
  rw [← following] at held
  have size := (same.ldata.tpdu.length data).trans length
  refine ⟨packet, source, parsed, same.ldata.destination, same.ldata.tpdu.apci data, size, pointer,
    ?_⟩
  rw [size]
  apply from_apdu_of_held known _ held.2
  rw [held.1, with_apci_low_six, ← first]
  exact (first_octet_parts _ value).1

theorem value_survives_frame_open_light :
    ∃ packet source,
      eval (knxGenerate (Buffer.fresh fun _ => 255) (.tunnelRequest openLightRequest)).1.memory
        (knxParse 0 22 {}) = (22, packet) ∧
      (receivedFrame packet).ldata.destination = 0x0a04 ∧
      (receivedFrame packet).ldata.tpdu.apci = 2 ∧
      (receivedFrame packet).ldata.tpdu.length = 1 ∧
      (receivedFrame packet).ldata.tpdu.payload = some source ∧
      eval (knxGenerate (Buffer.fresh fun _ => 255) (.tunnelRequest openLightRequest)).1.memory
        (knxDptFromApdu source (receivedFrame packet).ldata.tpdu.length .bool) = some true :=
  value_survives_frame (Buffer.fresh fun _ => 0) 0 .bool (by decide) true _ openLightRequest.data
    rfl open_light_request_encodable rfl rfl rfl _ _ (fun _ _ => rfl) {}

end KnxDemo.GroupValue
