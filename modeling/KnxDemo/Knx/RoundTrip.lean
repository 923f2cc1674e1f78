import KnxDemo.Knx.FrameFields
import KnxDemo.Knx.FrameLength

/-!
# Decoding undoes encoding

For the ten services with both a generator and a parser. The declared length may
exceed the octets written by one, which no parser looks at.
-/

namespace KnxDemo.KnxRoundTrip

open KnxDemo.Bytes KnxDemo.KnxProto KnxDemo.KnxGenerate KnxDemo.KnxLayout
open KnxDemo.KnxPacketLayout KnxDemo.KnxFrameLength KnxDemo.KnxParse KnxDemo.KnxParsing
open KnxDemo.KnxFields KnxDemo.KnxFrameFields
open KnxDemo.Interaction KnxDemo.Interaction.Loader

def Encodable : KnxMessage → Prop
  | .connectionRequest req =>
      req.type = knxConnectionRequestTunnel ∧ req.layer = knxConnectionLayerTunnel ∧
        HostEncodable req.controlHost ∧ HostEncodable req.tunnelHost
  | .connectionResponse res => res.status = 0 → HostEncodable res.host
  | .connectionStateRequest req => HostEncodable req.host
  | .connectionStateResponse _ => True
  | .disconnectRequest req => HostEncodable req.host
  | .disconnectResponse _ => True
  | .tunnelRequest req => EncodableCemi req.data
  | .tunnelResponse _ => True
  | .routingIndication ind => EncodableCemi ind.data
  | .descriptionRequest req => HostEncodable req.controlHost
  | .searchRequest _ => False
  | .other _ => False

/-- A parsed payload is the payload of a message. A connection response carries its
host and its extended octets only when its status is zero. -/
def Carries (memory : Nat → Byte) (payload : KnxPayload) : KnxMessage → Prop
  | .connectionRequest req => payload.connReq = req
  | .connectionResponse res =>
      payload.connRes.channel = res.channel ∧ payload.connRes.status = res.status ∧
        (res.status = 0 → payload.connRes.host = res.host ∧ payload.connRes.extended = res.extended)
  | .connectionStateRequest req => payload.connStateReq = req
  | .connectionStateResponse res => payload.connStateRes = res
  | .disconnectRequest req => payload.dcReq = req
  | .disconnectResponse res => payload.dcRes = res
  | .tunnelRequest req =>
      payload.tunnelReq.channel = req.channel ∧ payload.tunnelReq.seqNumber = req.seqNumber ∧
        SameCemi memory payload.tunnelReq.data req.data
  | .tunnelResponse res => payload.tunnelRes = res
  | .routingIndication ind => SameCemi memory payload.routingInd.data ind.data
  | .descriptionRequest req => payload.descriptionReq = req
  | .searchRequest _ => False
  | .other _ => False

theorem Encodable.generatable {message : KnxMessage} (encodable : Encodable message) :
    Generatable message := by
  cases message with
  | tunnelRequest req => exact EncodableCemi.valid encodable
  | routingIndication ind => exact EncodableCemi.valid encodable
  | other service => exact encodable.elim
  | _ => trivial

theorem Encodable.service_lt {message : KnxMessage} (encodable : Encodable message) :
    message.service < 65536 := by
  cases message with
  | other service => exact encodable.elim
  | _ =>
      simp only [KnxMessage.service]
      decide

/-- The case of the parser's switch the service of a message falls into. -/
def parsedService : KnxMessage → ParsedService
  | .connectionRequest _ => .connectionRequest
  | .connectionResponse _ => .connectionResponse
  | .connectionStateRequest _ => .connectionStateRequest
  | .connectionStateResponse _ => .connectionStateResponse
  | .disconnectRequest _ => .disconnectRequest
  | .disconnectResponse _ => .disconnectResponse
  | .tunnelRequest _ => .tunnelRequest
  | .tunnelResponse _ => .tunnelResponse
  | .routingIndication _ => .routingIndication
  | .descriptionRequest _ => .descriptionRequest
  | .searchRequest _ => .unknown
  | .other service => .ofCode service

theorem ofCode_service (message : KnxMessage) :
    ParsedService.ofCode message.service = parsedService message := by
  cases message with
  | _ => rfl

theorem payload_octets_le_size {message : KnxMessage} (encodable : Encodable message)
    (memory : Nat → Byte) : (payloadOctets memory message).length ≤ knxPayloadSize message := by
  have frame : CarriesFrame message →
      (payloadOctets memory message).length ≤ knxPayloadSize message := by
    intro carries
    have excess := packet_size_excess carries memory
    rw [packetOctets, List.length_append, length_headerOctets, knxSize, knxHeaderSize] at excess
    omega
  cases message with
  | tunnelRequest req => exact frame (.tunnel req (EncodableCemi.valid encodable))
  | routingIndication ind => exact frame (.routing ind (EncodableCemi.valid encodable))
  | connectionResponse res =>
      simp only [payloadOctets, knxPayloadSize, connectionResponseOctets, knxConnectionResponseSize]
      split_ifs <;> simp [knxHostInfoSize]
  | connectionRequest req => simp [payloadOctets, connectionRequestOctets, knxPayloadSize,
      knxConnectionRequestSize, knxHostInfoSize]
  | connectionStateRequest req => simp [payloadOctets, channelRequestOctets, knxPayloadSize,
      knxConnectionStateRequestSize, knxHostInfoSize]
  | disconnectRequest req => simp [payloadOctets, channelRequestOctets, knxPayloadSize,
      knxDisconnectRequestSize, knxHostInfoSize]
  | descriptionRequest req => simp [payloadOctets, knxPayloadSize, knxDescriptionRequestSize,
      knxHostInfoSize]
  | searchRequest req => exact encodable.elim
  | other service => exact encodable.elim
  | _ => exact Nat.le_refl _

section Payload

variable {memory : Nat → Byte}

theorem eval_member_success {Output : Type} {parser : Output → FrameLoader (Bool × Output)}
    {output : KnxPacket} {select : KnxPayload → Output} {value : Output}
    (parsed : eval memory (parser (select output.payload)) = (true, value))
    (assign : KnxPayload → Output → KnxPayload) (unpackResult : Int) :
    eval memory (member parser output select assign unpackResult) =
      (unpackResult, { output with payload := assign output.payload value }) := by
  rw [eval_member, parsed]
  rfl

theorem parse_payload {message : KnxMessage} (encodable : Encodable message)
    {initial : Nat → Byte}
    (held : Buffer.Holds memory knxHeaderSize (payloadOctets initial message))
    (output : KnxPacket) (service : output.service = message.service) (unpackResult : Int) :
    ∃ payload, eval memory (payloadParse knxHeaderSize (knxPayloadSize message) unpackResult
        output) = (unpackResult, { output with payload }) ∧ Carries memory payload message := by
  have long := payload_octets_le_size encodable initial
  unfold payloadParse
  rw [show ParsedService.ofCode output.service = parsedService message by
    rw [service, ofCode_service]]
  cases message with
  | connectionRequest req =>
      rcases encodable with ⟨type, layer, control, tunnel⟩
      have parsed := parse_connection_request held type layer control tunnel output.payload.connReq
      exact ⟨_, eval_member_success parsed _ _, rfl⟩
  | connectionResponse res =>
      have parsed := parse_connection_response held encodable output.payload.connRes
      refine ⟨_, eval_member_success parsed _ _, ?_⟩
      dsimp only [Carries]
      split_ifs with success
      · exact ⟨rfl, rfl, fun _ => ⟨rfl, rfl⟩⟩
      · exact ⟨rfl, rfl, fun status => absurd status success⟩
  | connectionStateRequest req =>
      have parsed := parse_channel_request held encodable output.payload.connStateReq
      exact ⟨_, eval_member_success parsed _ _, rfl⟩
  | connectionStateResponse res =>
      have parsed := parse_channel_response held output.payload.connStateRes
      exact ⟨_, eval_member_success parsed _ _, rfl⟩
  | disconnectRequest req =>
      have parsed := parse_channel_request held encodable output.payload.dcReq
      exact ⟨_, eval_member_success parsed _ _, rfl⟩
  | disconnectResponse res =>
      have parsed := parse_channel_response held output.payload.dcRes
      exact ⟨_, eval_member_success parsed _ _, rfl⟩
  | tunnelRequest req =>
      obtain ⟨value, parsed, same⟩ :=
        parse_tunnel_request encodable held _ long output.payload.tunnelReq
      exact ⟨_, eval_member_success parsed _ _, same⟩
  | tunnelResponse res =>
      have parsed := parse_tunnel_response held output.payload.tunnelRes
      exact ⟨_, eval_member_success parsed _ _, rfl⟩
  | routingIndication ind =>
      obtain ⟨value, parsed, same⟩ :=
        parse_cemi encodable held _ long output.payload.routingInd.data
      have routing : eval memory (knxRoutingIndicationParse knxHeaderSize
          (knxPayloadSize (.routingIndication ind)) output.payload.routingInd) =
            (true, { data := value }) := by
        simp only [knxRoutingIndicationParse, eval_bind, eval_pure]
        rw [parsed]
      exact ⟨_, eval_member_success routing _ _, same⟩
  | descriptionRequest req =>
      have parsed := parse_description_request held encodable output.payload.descriptionReq
      exact ⟨_, eval_member_success parsed _ _, rfl⟩
  | searchRequest req => exact encodable.elim
  | other code => exact encodable.elim

end Payload

/-! ## Packets -/

/-- Generating an encodable message succeeds whatever the buffer held, and parsing as
many octets as its size returns that size, its service and its payload. -/
theorem decode_undoes_encode (initial : Nat → Byte) (message : KnxMessage)
    (encodable : Encodable message) :
    (knxGenerate (Buffer.fresh initial) message).2 = true ∧
      ∀ memory : Nat → Byte,
        (∀ index, index < knxSize message →
          memory index = (knxGenerate (Buffer.fresh initial) message).1.memory index) →
        ∀ output : KnxPacket, ∃ packet,
          eval memory (knxParse 0 (knxSize message) output) =
            ((knxSize message : Int), packet) ∧
          packet.service = message.service ∧ Carries memory packet.payload message := by
  have generated := generate_eq encodable.generatable (Buffer.fresh initial)
  refine ⟨congrArg Prod.snd generated, fun memory agree output => ?_⟩
  have size : (packetOctets initial message).length ≤ knxSize message := by
    have payload := payload_octets_le_size encodable initial
    rw [packetOctets, List.length_append, length_headerOctets, knxSize, knxHeaderSize]
    omega
  have held : Buffer.Holds memory 0 (packetOctets initial message) := by
    apply (Buffer.holds_storeBlock (Buffer.fresh initial) 0 _).congr
    intro index inside
    rw [agree index (by omega), generated]
    rfl
  rw [packetOctets, Buffer.holds_append, length_headerOctets] at held
  obtain ⟨headerHeld, payloadHeld⟩ := held
  obtain ⟨payload, parsed, carries⟩ := parse_payload encodable payloadHeld
    { output with service := message.service } rfl (knxSize message)
  refine ⟨{ output with service := message.service, payload }, ?_, rfl, carries⟩
  rw [parse_of_header (payload_size_le encodable.generatable) encodable.service_lt headerHeld,
    parsed]

theorem open_light_request_encodable : Encodable (.tunnelRequest openLightRequest) where
  service := rfl
  addInfo := fun carries => absurd carries (by decide)
  ldata := {
    priority := by decide
    addressType := by decide
    hops := by decide
    tpdu := {
      tpci := by decide
      seqNumber := by decide
      control := fun control => absurd control (by decide)
      apci := fun _ => by decide
      length := fun _ => by decide
      payload := fun _ => by decide } }

theorem decode_undoes_encode_open_light :
    (knxGenerate (Buffer.fresh fun _ => 255) (.tunnelRequest openLightRequest)).2 = true ∧
      ∃ packet,
        eval (knxGenerate (Buffer.fresh fun _ => 255) (.tunnelRequest openLightRequest)).1.memory
          (knxParse 0 22 {}) = (22, packet) ∧
        packet.service = knxTunnelRequest ∧
        Carries (knxGenerate (Buffer.fresh fun _ => 255)
          (.tunnelRequest openLightRequest)).1.memory packet.payload
            (.tunnelRequest openLightRequest) := by
  have roundTrip := decode_undoes_encode (fun _ => 255) _ open_light_request_encodable
  exact ⟨roundTrip.1, roundTrip.2 _ (fun _ _ => rfl) {}⟩

end KnxDemo.KnxRoundTrip
