import KnxDemo.Knx.Layout

/-!
# Generated packets

A packet is the header and the payload of its message in one block, stored at
the start of the buffer.
-/

namespace KnxDemo.KnxPacketLayout

open KnxDemo.Bytes KnxDemo.KnxProto KnxDemo.KnxGenerate KnxDemo.KnxLayout KnxDemo.Interaction

structure ValidCemi (frame : KnxCemi (List Byte)) : Prop where
  service : isLdata frame.service
  addInfo : ValidAddInfo frame
  payload : ValidPayload frame.ldata.tpdu
  fits : TpduFits frame.ldata.tpdu

/-- A message `knx_generate` has a generator for, with an encodable frame if it
carries one. -/
def Generatable : KnxMessage → Prop
  | .tunnelRequest req => ValidCemi req.data
  | .routingIndication ind => ValidCemi ind.data
  | .other _ => False
  | _ => True

/-- The payload octets; `memory` is what the buffer held before. -/
def payloadOctets (memory : Nat → Byte) : KnxMessage → List Byte
  | .searchRequest req => hostInfoOctets req.controlHost
  | .connectionRequest req => connectionRequestOctets req
  | .connectionResponse res => connectionResponseOctets res
  | .connectionStateRequest req => channelRequestOctets req
  | .connectionStateResponse res => channelResponseOctets res
  | .disconnectRequest req => channelRequestOctets req
  | .disconnectResponse res => channelResponseOctets res
  | .tunnelRequest req => tunnelRequestOctets (memory (stalePosition 10 req.data)) req
  | .tunnelResponse res => tunnelResponseOctets res
  | .routingIndication ind => cemiOctets (memory (stalePosition 6 ind.data)) ind.data
  | .descriptionRequest req => hostInfoOctets req.controlHost
  | .other _ => []

def packetOctets (memory : Nat → Byte) (message : KnxMessage) : List Byte :=
  headerOctets message.service (knxPayloadSize message) ++ payloadOctets memory message

@[simp] theorem length_headerOctets (srv length : Nat) :
    (headerOctets srv length).length = 6 := rfl

theorem cemi_size_le {frame : KnxCemi (List Byte)} (valid : ValidCemi frame) :
    knxCemiSize frame ≤ 521 := by
  have bound := frame.addInfoLength.isLt
  have fits := valid.fits.2
  rw [knxCemiSize, if_pos valid.service]
  simp only [knxCemiHeaderSize, knxLdataSize]
  omega

theorem payload_size_le {message : KnxMessage} (generatable : Generatable message) :
    knxPayloadSize message ≤ 65529 := by
  cases message with
  | tunnelRequest req =>
      have size := cemi_size_le generatable
      simp only [knxPayloadSize, knxTunnelRequestSize]
      omega
  | routingIndication ind =>
      have size := cemi_size_le generatable
      simp only [knxPayloadSize, knxRoutingIndicationSize]
      omega
  | connectionResponse res =>
      simp only [knxPayloadSize, knxConnectionResponseSize]
      split_ifs <;> decide
  | other service => exact generatable.elim
  | _ =>
      simp only [knxPayloadSize]
      decide

theorem payload_generate_eq {message : KnxMessage} (generatable : Generatable message)
    (buffer : Buffer Byte) :
    payloadGenerate buffer message =
      (buffer.storeBlock knxHeaderSize (payloadOctets buffer.memory message), true) := by
  cases message with
  | searchRequest req => exact congrArg (·, true) (host_info_generate_eq buffer _ _)
  | connectionRequest req => exact congrArg (·, true) (connection_request_generate_eq buffer _ _)
  | connectionResponse res => exact congrArg (·, true) (connection_response_generate_eq buffer _ _)
  | connectionStateRequest req =>
      exact congrArg (·, true) (channel_request_generate_eq buffer _ _)
  | connectionStateResponse res =>
      exact congrArg (·, true) (channel_response_generate_eq buffer _ _)
  | disconnectRequest req => exact congrArg (·, true) (channel_request_generate_eq buffer _ _)
  | disconnectResponse res => exact congrArg (·, true) (channel_response_generate_eq buffer _ _)
  | tunnelRequest req =>
      exact congrArg (·, true) (tunnel_request_generate_eq buffer _ req generatable.service
        generatable.addInfo generatable.fits)
  | tunnelResponse res => exact congrArg (·, true) (tunnel_response_generate_eq buffer _ _)
  | routingIndication ind =>
      have stored := cemi_generate_eq buffer knxHeaderSize ind.data generatable.service
        generatable.addInfo generatable.fits
      simp only [payloadGenerate, knxRoutingIndicationGenerate, stored]
      rfl
  | descriptionRequest req => exact congrArg (·, true) (host_info_generate_eq buffer _ _)
  | other service => exact generatable.elim

theorem payload_octets_after_header (buffer : Buffer Byte) (octets : List Byte)
    (header : octets.length = knxHeaderSize) (message : KnxMessage) :
    payloadOctets (buffer.storeBlock 0 octets).memory message =
      payloadOctets buffer.memory message := by
  have untouched : ∀ position, 6 ≤ position →
      (buffer.storeBlock 0 octets).memory position = buffer.memory position := by
    intro position later
    apply Buffer.memory_storeBlock_outside
    simp only [header, knxHeaderSize]
    omega
  cases message with
  | tunnelRequest req =>
      simp only [payloadOctets]
      rw [untouched _ (by simp only [stalePosition]; omega)]
  | routingIndication ind =>
      simp only [payloadOctets]
      rw [untouched _ (by simp only [stalePosition]; omega)]
  | _ => rfl

theorem generate_eq {message : KnxMessage} (generatable : Generatable message)
    (buffer : Buffer Byte) :
    knxGenerate buffer message =
      (buffer.storeBlock 0 (packetOctets buffer.memory message), true) := by
  have header := header_generate_eq buffer message.service _ (payload_size_le generatable)
  simp only [knxGenerate, header, not_true_eq_false, if_false]
  rw [payload_generate_eq generatable, payload_octets_after_header _ _ rfl, packetOctets,
    Buffer.storeBlock_append]
  rfl

theorem length_octets_of_held {message : KnxMessage} (generatable : Generatable message)
    {memory initial : Nat → Byte} (held : Buffer.Holds memory 0 (packetOctets initial message)) :
    (word (memory 4) (memory 5)).toNat = knxSize message := by
  have bound := payload_size_le generatable
  obtain ⟨_, _, _, _, high, low, _⟩ := held
  have declared : word (memory 4) (memory 5) =
      BitVec.ofNat 16 (knxPayloadSize message + knxHeaderSize) :=
    (congrArg₂ word high low).trans (word_highByte_lowByte _)
  rw [declared, BitVec.toNat_ofNat, knxSize, knxHeaderSize]
  omega

end KnxDemo.KnxPacketLayout
